import RoleAudit.Proofs.Text.Lines

/-!
# Texts that fold to themselves

A text is tidy if it has no line break and no white space at its ends. Folding makes every text
tidy, and it leaves the tidy ones as they are.

* `isTrimmed_trimChars`, `trimChars_eq_self`: the same for trimming.
* `isTidy_singleLine`: a folded text is tidy.
* `singleLine_eq_self_iff`: folding changes exactly the texts that are not.
* `singleLine_spec`: what folding does to the white space of a text, run by run.
-/

namespace RoleAudit.Text

/-! ## Trimming -/

/-- No white space stands at the ends. -/
structure IsTrimmed (cs : List Char) : Prop where
  first : ∀ c ∈ cs.head?, isBlank c = false
  last : ∀ c ∈ cs.getLast?, isBlank c = false

/-- Where the white space at the front was dropped, something visible is first. -/
lemma first_dropWhile (cs : List Char) :
    ∀ c ∈ (cs.dropWhile isBlank).head?, isBlank c = false := by
  intro c hc
  have hnot := List.head?_dropWhile_not isBlank cs
  rw [Option.mem_def.1 hc] at hnot
  exact hnot

/-- Nothing is dropped in front of something visible. -/
lemma dropWhile_eq_self {cs : List Char} (h : ∀ c ∈ cs.head?, isBlank c = false) :
    cs.dropWhile isBlank = cs := by
  rcases cs with _ | ⟨c, cs⟩
  · rfl
  · have hc : isBlank c = false := h c rfl
    exact List.dropWhile_cons_of_neg (by simp [hc])

/-- Dropping at the front keeps what stands last, if anything stays. -/
lemma getLast?_of_dropWhile {c : Char} {cs : List Char}
    (h : c ∈ (cs.dropWhile isBlank).getLast?) : c ∈ cs.getLast? := by
  obtain ⟨dropped, hdropped⟩ := List.dropWhile_suffix (l := cs) isBlank
  rw [← hdropped, List.getLast?_append, Option.mem_def.1 h]
  rfl

/-- **A trimmed list has no white space at its ends.** -/
lemma isTrimmed_trimChars (cs : List Char) : IsTrimmed (trimChars cs) where
  first := by
    intro c hc
    unfold trimChars trimEnd at hc
    rw [List.head?_reverse] at hc
    have hfirst := getLast?_of_dropWhile hc
    rw [List.getLast?_reverse] at hfirst
    exact first_dropWhile cs c hfirst
  last := by
    intro c hc
    unfold trimChars trimEnd at hc
    rw [List.getLast?_reverse] at hc
    exact first_dropWhile _ c hc

/-- **Trimming leaves such a list as it is.** -/
lemma trimChars_eq_self {cs : List Char} (h : IsTrimmed cs) : trimChars cs = cs := by
  have hlast : ∀ c ∈ cs.reverse.head?, isBlank c = false := by
    rw [List.head?_reverse]
    exact h.last
  rw [trimChars, dropWhile_eq_self h.first, trimEnd, dropWhile_eq_self hlast, List.reverse_reverse]

/-! ## Folding -/

/-- The text stands on one line, with no white space at its ends. -/
structure IsTidy (s : String) : Prop where
  oneLine : IsOneLine s.toList
  trimmed : IsTrimmed s.toList

/-- Where there is no line break, every run stays as it is. -/
lemma foldRuns_of_isOneLine {cs : List Char} (h : IsOneLine cs) : foldRuns cs = cs := by
  have hflatten : (runs cs).flatten = cs := List.flatten_splitBy isAlike cs
  have hstays : ∀ run ∈ runs cs, foldRun run = id run := by
    intro run hrun
    refine foldRun_of_not_any ?_
    rw [List.any_eq_true]
    rintro ⟨c, hc, hbreak⟩
    have hmem : c ∈ cs := hflatten ▸ List.mem_flatten_of_mem hrun hc
    rw [h c hmem] at hbreak
    cases hbreak
  calc foldRuns cs
      = (runs cs).flatMap id := List.flatMap_congr hstays
    _ = (runs cs).flatten := List.flatMap_id
    _ = cs := hflatten

/-- **A folded text is tidy.** -/
theorem isTidy_singleLine (s : String) : IsTidy (singleLine s) where
  oneLine := isOneLine_singleLine s
  trimmed := by
    rw [singleLine, String.toList_ofList]
    exact isTrimmed_trimChars _

/-- **Folding leaves exactly the tidy texts as they are.** -/
theorem singleLine_eq_self_iff (s : String) : singleLine s = s ↔ IsTidy s := by
  constructor
  · intro h
    exact h ▸ isTidy_singleLine s
  · intro h
    rw [singleLine_eq, foldRuns_of_isOneLine h.oneLine, trimChars_eq_self h.trimmed,
      String.ofList_toList]

/-- **What folding does to a text.** Each run of white space that has a line break in it becomes one
space, every other run stays as it is, and then the white space at the ends is dropped. So a folded
text has no line break and no white space at its ends, and the visible characters of the text, in
order; and folding it again changes nothing. -/
theorem singleLine_spec (s : String) :
    singleLine s = String.ofList (trimChars (foldRuns s.toList)) ∧
      IsTidy (singleLine s) ∧
      visible (singleLine s).toList = visible s.toList ∧
      singleLine (singleLine s) = singleLine s :=
  ⟨singleLine_eq s, isTidy_singleLine s, visible_singleLine s,
    (singleLine_eq_self_iff _).2 (isTidy_singleLine s)⟩

example : singleLine "\n  Opens an\r\n\t account,  or\u2028 closes it.\n" =
    "Opens an account,  or\u2028 closes it." := by decide

end RoleAudit.Text
