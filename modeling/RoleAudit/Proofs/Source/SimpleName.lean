import Mathlib.Data.List.TakeWhile
import RoleAudit.Proofs.Text.Tidy
import RoleAudit.Proofs.Text.Trimming
import RoleAudit.Source.Skeleton

/-!
# What is left of a name

A name that may be qualified is cut down to what follows its last dot, without the white space around
it. What is left is the last identifier, if it is all that can be seen there.

* `isWord_spec`: an identifier has no white space and no dot in it.
* `simpleName_of_isWord`: an identifier is left as it is.
* `simpleName_eq_iff`: what may stand between the last dot and the last identifier.
-/

namespace RoleAudit.Source

open RoleAudit.Text

/-! ## Identifiers -/

/-- The characters that count as white space. -/
def blanks : List Char :=
  (List.range' 0x09 5 ++ List.range' 0x1C 5 ++ [0x85, 0xA0, 0x1680] ++ List.range' 0x2000 11 ++
    [0x2028, 0x2029, 0x202F, 0x205F, 0x3000]).map Char.ofNat

lemma mem_blanks {c : Char} (h : isBlank c = true) : c ∈ blanks := by
  have hnumber : c.toNat ∈ List.range' 0x09 5 ++ List.range' 0x1C 5 ++ [0x85, 0xA0, 0x1680] ++
      List.range' 0x2000 11 ++ [0x2028, 0x2029, 0x202F, 0x205F, 0x3000] := by
    unfold isBlank at h
    simp only [Bool.or_eq_true, Bool.and_eq_true, decide_eq_true_eq, beq_iff_eq] at h
    simp only [List.mem_append, List.mem_range'_1, List.mem_cons, List.not_mem_nil, or_false]
    omega
  exact List.mem_map.2 ⟨c.toNat, hnumber, Char.ofNat_toNat c⟩

/-- White space is no part of a name. -/
lemma not_isBlank_of_isNameRest {c : Char} (h : isNameRest c = true) : isBlank c = false := by
  have hall : (blanks.all fun b => !isNameRest b) = true := by decide +kernel
  have hnone : ∀ b ∈ blanks, isNameRest b = false := by simpa using hall
  by_contra hblank
  rw [hnone c (mem_blanks (by simpa using hblank))] at h
  cases h

/-- A name has characters, and none of them is white space or a dot. -/
lemma isWord_spec {name : String} (h : isWord name = true) :
    name.toList ≠ [] ∧ (∀ c ∈ name.toList, isBlank c = false) ∧ '.' ∉ name.toList := by
  unfold isWord at h
  rcases hcs : name.toList with _ | ⟨c, cs⟩ <;> rw [hcs] at h
  · cases h
  · rw [Bool.and_eq_true, List.all_eq_true] at h
    refine ⟨List.cons_ne_nil c cs, fun d hd => not_isBlank_of_isNameRest (h.2 d hd), fun hdot => ?_⟩
    have hno : isNameRest '.' = false := by decide
    rw [h.2 '.' hdot] at hno
    cases hno

/-! ## The last dot -/

lemma takeWhile_reverse_append {last : List Char} (h : '.' ∉ last) (before : List Char) :
    (last.reverse ++ before).takeWhile (· != '.') = last.reverse ++ before.takeWhile (· != '.') := by
  refine List.takeWhile_append_of_pos fun c hc => ?_
  rw [bne_iff_ne]
  rintro rfl
  exact h (List.mem_reverse.1 hc)

/-- What stands in front of a dot does not matter. -/
lemma afterLastDot_dot (front cs : List Char) :
    afterLastDot (front ++ '.' :: cs) = afterLastDot cs := by
  have htake : ∀ rs : List Char,
      (rs ++ '.' :: front.reverse).takeWhile (· != '.') = rs.takeWhile (· != '.') := by
    intro rs
    induction rs with
    | nil => rfl
    | cons r rs ih => rw [List.cons_append, List.takeWhile_cons, List.takeWhile_cons, ih]
  unfold afterLastDot
  rw [List.reverse_append, List.reverse_cons, List.append_assoc, List.singleton_append, htake]

/-- What has no dot stays behind the last one. -/
lemma afterLastDot_append_of_not_mem {last : List Char} (h : '.' ∉ last) (cs : List Char) :
    afterLastDot (cs ++ last) = afterLastDot cs ++ last := by
  unfold afterLastDot
  rw [List.reverse_append, takeWhile_reverse_append h, List.reverse_append, List.reverse_reverse]

lemma afterLastDot_of_not_mem {cs : List Char} (h : '.' ∉ cs) : afterLastDot cs = cs :=
  afterLastDot_append_of_not_mem h []

/-- The last visible character of a text is a dot. -/
def EndsInDot (s : String) : Prop := (trimEnd s.toList).getLast? = some '.'

instance (s : String) : Decidable (EndsInDot s) :=
  inferInstanceAs (Decidable ((trimEnd s.toList).getLast? = some '.'))

/-- Nothing visible follows the last dot of a text just if the text is blank, or a dot is the last
that is visible. -/
lemma forall_afterLastDot_iff (cs : List Char) :
    (∀ c ∈ afterLastDot cs, isBlank c = true) ↔
      (∀ c ∈ cs, isBlank c = true) ∨ (trimEnd cs).getLast? = some '.' := by
  have hreverse : ∀ rs : List Char, (∀ c ∈ rs.takeWhile (· != '.'), isBlank c = true) ↔
      (∀ c ∈ rs, isBlank c = true) ∨ (rs.dropWhile isBlank).head? = some '.' := by
    intro rs
    induction rs with
    | nil => simp
    | cons r rs ih =>
      by_cases hdot : r = '.'
      · subst hdot
        have hvisible : isBlank '.' = false := by decide
        simp [hvisible]
      · rw [List.takeWhile_cons_of_pos (by simpa using hdot), List.forall_mem_cons,
          List.forall_mem_cons]
        cases hblank : isBlank r with
        | true => rw [List.dropWhile_cons_of_pos hblank, ih]; simp
        | false => rw [List.dropWhile_cons_of_neg (by simp [hblank])]; simp [hdot]
  have h := hreverse cs.reverse
  unfold afterLastDot trimEnd
  simpa only [List.mem_reverse, List.getLast?_reverse] using h

/-- The last visible character of a text stands in its last part that is not blank. -/
lemma getLast?_trimEnd_append {front part gap : List Char} (hgap : ∀ c ∈ gap, isBlank c = true)
    (hpart : ∃ c ∈ part, isBlank c = false) :
    (trimEnd (front ++ part ++ gap)).getLast? = (trimEnd part).getLast? := by
  have hrest : part.reverse.dropWhile isBlank ≠ [] := by
    rw [Ne, List.dropWhile_eq_nil_iff]
    obtain ⟨c, hc, hvisible⟩ := hpart
    intro hall
    rw [hall c (List.mem_reverse.2 hc)] at hvisible
    cases hvisible
  have hreverse : (front ++ part ++ gap).reverse =
      gap.reverse ++ (part.reverse ++ front.reverse) := by
    simp
  unfold trimEnd
  rw [hreverse, List.dropWhile_append_of_pos (fun c hc => hgap c (List.mem_reverse.1 hc)),
    List.dropWhile_append, if_neg (by rwa [List.isEmpty_iff]), List.getLast?_reverse,
    List.getLast?_reverse, List.head?_append_of_ne_nil _ hrest]

/-! ## Trimming -/

/-- A text without white space, with some in front of it, is trimmed down to itself. -/
lemma trimChars_blank_append {gap cs : List Char} (hgap : ∀ c ∈ gap, isBlank c = true)
    (hcs : ∀ c ∈ cs, isBlank c = false) : trimChars (gap ++ cs) = cs := by
  have htrimmed : IsTrimmed cs :=
    ⟨fun c hc => hcs c (List.mem_of_mem_head? hc), fun c hc => hcs c (List.mem_of_getLast? hc)⟩
  have htrim := trimChars_eq_self htrimmed
  unfold trimChars at htrim ⊢
  rwa [List.dropWhile_append_of_pos hgap]

/-- Nothing is taken off the end of a text that ends visibly. -/
lemma trimEnd_append {cs : List Char} (hne : cs ≠ []) (hcs : ∀ c ∈ cs.getLast?, isBlank c = false)
    (front : List Char) : trimEnd (front ++ cs) = front ++ cs := by
  have hend : ∀ c ∈ (front ++ cs).reverse.head?, isBlank c = false := by
    rw [List.head?_reverse, List.getLast?_append_of_ne_nil _ hne]
    exact hcs
  rw [trimEnd, dropWhile_eq_self hend, List.reverse_reverse]

/-- Trimming takes nothing off behind a dot with a text that ends visibly. -/
lemma trimChars_append_dot {front last : List Char}
    (hlast : ∀ c ∈ last.getLast?, isBlank c = false) :
    ∃ front', trimChars (front ++ '.' :: last) = front' ++ '.' :: last := by
  have hdrop : ∃ front', (front ++ '.' :: last).dropWhile isBlank = front' ++ '.' :: last := by
    rw [List.dropWhile_append]
    split
    · exact ⟨[], rfl⟩
    · exact ⟨_, rfl⟩
  obtain ⟨front', hfront'⟩ := hdrop
  have hend : ∀ c ∈ ('.' :: last).getLast?, isBlank c = false := by
    rcases last with _ | ⟨d, last⟩
    · rintro c ⟨⟩
      decide
    · exact hlast
  exact ⟨front', by rw [trimChars, hfront', trimEnd_append (List.cons_ne_nil _ _) hend]⟩

/-- A name that other text is in front of is what is left when that is blank, and only then. -/
lemma trimChars_append_eq_iff {gap cs : List Char} (hne : cs ≠ [])
    (hcs : ∀ c ∈ cs, isBlank c = false) :
    trimChars (gap ++ cs) = cs ↔ ∀ c ∈ gap, isBlank c = true := by
  refine ⟨fun htrim => ?_, fun hgap => trimChars_blank_append hgap hcs⟩
  by_contra hsome
  have hrest : gap.dropWhile isBlank ≠ [] := fun hnil => hsome (List.dropWhile_eq_nil_iff.1 hnil)
  have hend : ∀ c ∈ cs.getLast?, isBlank c = false := fun c hc => hcs c (List.mem_of_getLast? hc)
  rw [trimChars, List.dropWhile_append, if_neg (by rwa [List.isEmpty_iff]),
    trimEnd_append hne hend, List.append_left_eq_self] at htrim
  exact hrest htrim

/-! ## Names -/

/-- An identifier is its own simple name. -/
lemma simpleName_of_isWord {name : String} (h : isWord name = true) : simpleName name = name := by
  obtain ⟨-, hvisible, hdot⟩ := isWord_spec h
  have htrim : trimChars ([] ++ name.toList) = name.toList :=
    trimChars_blank_append (fun _ hc => nomatch hc) hvisible
  rw [List.nil_append] at htrim
  unfold simpleName
  rw [htrim, afterLastDot_of_not_mem hdot, htrim, String.ofList_toList]

/-- **The name behind the last dot is found just if there is nothing visible in between, or a dot is
the last that is visible in between.** -/
theorem simpleName_eq_iff {front between name : String} (hname : isWord name = true) :
    simpleName (front ++ "." ++ between ++ name) = name ↔
      isBlankText between = true ∨ EndsInDot between := by
  obtain ⟨hne, hvisible, hdot⟩ := isWord_spec hname
  have htext : (front ++ "." ++ between ++ name).toList =
      front.toList ++ '.' :: (between.toList ++ name.toList) := by
    simp [String.toList_append]
  have hend : ∀ c ∈ (between.toList ++ name.toList).getLast?, isBlank c = false := by
    intro c hc
    rw [List.getLast?_append_of_ne_nil _ hne] at hc
    exact hvisible c (List.mem_of_getLast? hc)
  obtain ⟨front', hfront'⟩ : ∃ front', trimChars
      (front.toList ++ '.' :: (between.toList ++ name.toList)) =
        front' ++ '.' :: (between.toList ++ name.toList) := trimChars_append_dot hend
  unfold simpleName
  rw [htext, hfront', afterLastDot_dot, afterLastDot_append_of_not_mem hdot,
    ← String.toList_inj, String.toList_ofList, trimChars_append_eq_iff hne hvisible, forall_afterLastDot_iff]
  unfold isBlankText EndsInDot
  rw [List.all_eq_true]

/-- **A qualified name is cut down to its last part.** -/
theorem simpleName_qualified {front gap name : String} (hname : isWord name = true)
    (hgap : isBlankText gap = true) : simpleName (front ++ "." ++ gap ++ name) = name :=
  (simpleName_eq_iff hname).2 (.inl hgap)

end RoleAudit.Source
