import Mathlib.Data.List.Induction
import Mathlib.Data.List.TakeWhile
import RoleAudit.Json.Reader
import RoleAudit.Proofs.Value.Writable

/-!
# Numbers in a JSON text

The only way to say a whole number in a JSON text is to write its digits, and too many of them are
refused. So the limit on digits is met only by a text with a long run of digits, and never again when
the value of a text is written out: the whole numbers in it have no more digits than were read.

* `Json.HasLongRun`: a text has a run of digits that is too long.
* `Json.Kept`: what can come of reading a part of a text.
* `Json.read_kept`: what can come of reading a text.
-/

namespace RoleAudit.Json

open Value

/-! ## Outcomes of reading -/

/-- There is a run of digits in the text that is too long, and this says how long. -/
def HasLongRun (text : List Char) (l : DigitLimit) : Prop :=
  ∃ digits, digits <:+: text ∧ (∀ c ∈ digits, c.isDigit = true) ∧ digitLimit < digits.length ∧
    l = .reading digits.length

/-- What can come of reading at the front of an end of the text: a fault of form, a run of digits that
is too long, or a result with this property and the end of the text behind it. -/
def Kept {α : Type} (text : List Char) (P : α → Prop) : Except Failure (α × Cursor) → Prop
  | .error (.malformed _) => True
  | .error (.number l) => HasLongRun text l
  | .ok (a, c) => P a ∧ c.rest <:+ text

section

variable {α β : Type} {text : List Char} {P : α → Prop} {Q : β → Prop}

lemma Kept.bind {x : Except Failure (α × Cursor)}
    {f : α × Cursor → Except Failure (β × Cursor)} (hx : Kept text P x)
    (hf : ∀ a c, P a → c.rest <:+ text → Kept text Q (f (a, c))) : Kept text Q (x >>= f) := by
  rcases x with (e | l) | ⟨a, c⟩
  · trivial
  · exact hx
  · exact hf a c hx.1 hx.2

lemma rest_advance {c : Cursor} (h : c.rest <:+ text) (n : Nat) : (c.advance n).rest <:+ text :=
  (List.drop_suffix n _).trans h

lemma rest_skipSpace {c : Cursor} (h : c.rest <:+ text) : c.skipSpace.rest <:+ text :=
  rest_advance h _

/-! ## Strings -/

lemma kept_unicodeEscape {c : Cursor} (h : c.rest <:+ text) :
    Kept text (fun _ => True) (unicodeEscape c) := by
  unfold unicodeEscape
  split
  · trivial
  dsimp only
  split
  · split
    · exact ⟨trivial, rest_advance h 4⟩
    split
    · trivial
    split
    · exact ⟨trivial, rest_advance (rest_advance h 4) 6⟩
    · exact ⟨trivial, rest_advance h 4⟩
  · exact ⟨trivial, rest_advance h 4⟩

lemma kept_stringFrom (start fuel : Nat) (c : Cursor) (read : List Char) (h : c.rest <:+ text) :
    Kept text (fun _ => True) (stringFrom start fuel c read) := by
  induction fuel generalizing c read with
  | zero => trivial
  | succ fuel ih =>
    unfold stringFrom
    split
    · trivial
    · exact ⟨trivial, rest_advance h 1⟩
    · trivial
    · exact (kept_unicodeEscape (rest_advance h 2)).bind fun a c _ hc => ih c (a :: read) hc
    · split
      · exact ih _ _ (rest_advance h 2)
      · trivial
    · split
      · trivial
      · exact ih _ _ (rest_advance h 1)

lemma kept_string {c : Cursor} (h : c.rest <:+ text) : Kept text (fun _ => True) (string c) :=
  kept_stringFrom _ _ _ _ h

end

/-! ## Numbers -/

lemma natOf_lt {digits : List Char} (h : ∀ c ∈ digits, c.isDigit = true) :
    natOf digits < 10 ^ digits.length := by
  unfold natOf
  induction digits using List.reverseRecOn with
  | nil => decide
  | append_singleton digits c ih =>
    rw [List.forall_mem_append, List.forall_mem_singleton] at h
    obtain ⟨hdigits, hc⟩ := h
    have hle : c.toNat - '0'.toNat ≤ 9 := by
      simp only [Char.isDigit, Bool.and_eq_true, decide_eq_true_eq] at hc
      have hnine : c.toNat ≤ '9'.toNat := hc.2
      exact Nat.sub_le_of_le_add hnine
    have hfold := ih hdigits
    rw [List.foldl_append, List.foldl_cons, List.foldl_nil, List.length_append,
      List.length_singleton, pow_succ]
    omega

/-- A number without its sign. -/
def unsigned (cs : List Char) : List Char :=
  match cs with
  | '-' :: rest => rest
  | cs => cs

/-- The digits in front of the point. -/
def wholeAt (cs : List Char) : List Char :=
  match cs with
  | '0' :: _ => ['0']
  | cs => digitsAt cs

lemma unsigned_eq_self {cs : List Char} (h : ∀ rest, cs = '-' :: rest → False) :
    unsigned cs = cs := by
  unfold unsigned
  split
  · exact (h _ rfl).elim
  · rfl

lemma unsigned_suffix (cs : List Char) : unsigned cs <:+ cs := by
  unfold unsigned
  split
  · exact List.suffix_cons _ _
  · exact List.suffix_refl _

lemma wholeAt_isFront (cs : List Char) : wholeAt cs <+: cs := by
  unfold wholeAt
  split
  · exact ⟨_, rfl⟩
  · exact List.takeWhile_prefix _

lemma isDigit_of_mem_wholeAt {cs : List Char} : ∀ c ∈ wholeAt cs, c.isDigit = true := by
  unfold wholeAt
  split
  · exact List.forall_mem_singleton.2 rfl
  · exact fun c hc => List.mem_takeWhile_imp hc

lemma map_whole_numeralAt (cs : List Char) :
    (numeralAt cs).map Numeral.whole =
      if (wholeAt (unsigned cs)).isEmpty = true then none else some (wholeAt (unsigned cs)) := by
  unfold numeralAt
  split
  next negative signed rest hsign =>
    have hrest : unsigned cs = rest := by
      split at hsign
      · cases hsign
        rfl
      · next hunsigned =>
        cases hsign
        exact unsigned_eq_self hunsigned
    rw [hrest]
    change Option.map Numeral.whole (if (wholeAt rest).isEmpty = true then none else _) = _
    split
    · rfl
    · dsimp only
      split <;> rfl

/-- The whole part of a number is a run of digits in the text. -/
lemma whole_of_numeralAt {cs : List Char} {n : Numeral} (h : numeralAt cs = some n) :
    n.whole <:+: cs ∧ n.whole ≠ [] ∧ ∀ c ∈ n.whole, c.isDigit = true := by
  have hmap := map_whole_numeralAt cs
  rw [h, Option.map_some] at hmap
  split at hmap
  · cases hmap
  · next hsome =>
    rw [Option.some.inj hmap]
    refine ⟨(wholeAt_isFront _).isInfix.trans (unsigned_suffix cs).isInfix, ?_,
      isDigit_of_mem_wholeAt⟩
    simpa using hsome

/-- A number has a value that can be written out, unless it has too many digits. -/
lemma value_cases {n : Numeral} (hne : n.whole ≠ []) (hdigits : ∀ c ∈ n.whole, c.isDigit = true) :
    (∃ v, n.value = .ok v ∧ v.IsWritable) ∨
      digitLimit < n.whole.length ∧ n.value = .error (.number (.reading n.whole.length)) := by
  unfold Numeral.value
  split
  · split
    · next hlimit => exact .inr ⟨hlimit, rfl⟩
    · next hlimit =>
      refine .inl ⟨_, rfl, isWritable_int (Nat.not_lt.1 hlimit) (List.length_pos_iff.2 hne) ?_⟩
      have hnat := natOf_lt hdigits
      split
      · rwa [Int.natAbs_neg]
      · exact hnat
  · exact .inl ⟨_, rfl, _, rfl⟩

/-! ## Values -/

section

variable {text : List Char}

lemma isWritable_words : ∀ w ∈ words, w.2.IsWritable := by
  intro w hw
  simp only [words, List.mem_cons, List.not_mem_nil, or_false] at hw
  rcases hw with rfl | rfl | rfl | rfl | rfl | rfl <;> exact ⟨_, rfl⟩

lemma kept_scalar {c : Cursor} (h : c.rest <:+ text) : Kept text IsWritable (scalar c) := by
  unfold scalar
  split
  · next word v hword =>
    exact ⟨isWritable_words _ (List.mem_of_find?_eq_some hword), rest_advance h _⟩
  split
  · next n hn =>
    obtain ⟨hrun, hne, hdigits⟩ := whole_of_numeralAt hn
    rcases value_cases hne hdigits with ⟨v, hv, hwritable⟩ | ⟨hlimit, hv⟩
    · rw [hv]
      exact ⟨hwritable, rest_advance h _⟩
    · rw [hv]
      exact ⟨_, hrun.trans h.isInfix, hdigits, hlimit, rfl⟩
  · trivial

/-! ### One step into a container -/

section

variable {fuel : Nat}
  (hvalue : ∀ c : Cursor, c.rest <:+ text → Kept text IsWritable (value fuel c))
  (hitems : ∀ (c : Cursor) (vs : List Value), c.rest <:+ text → (∀ v ∈ vs, v.IsWritable) →
    Kept text IsWritable (items fuel c vs))
  (hmembers : ∀ (c : Cursor) (es : List (Value × Value)), c.rest <:+ text → AreWritable es →
    Kept text IsWritable (members fuel c es))

include hitems hmembers in
lemma kept_value_succ {c : Cursor} (h : c.rest <:+ text) :
    Kept text IsWritable (value (fuel + 1) c) := by
  have hinside := rest_skipSpace (rest_advance h 1)
  unfold value
  dsimp only
  split
  · exact (kept_string (rest_advance h 1)).bind fun s c _ hc => ⟨⟨_, rfl⟩, hc⟩
  · split
    · exact ⟨isWritable_dict.2 (fun _ he => nomatch he), rest_advance hinside 1⟩
    · exact hmembers _ _ hinside fun _ he => nomatch he
  · split
    · exact ⟨isWritable_list.2 (fun _ hv => nomatch hv), rest_advance hinside 1⟩
    · exact hitems _ _ hinside fun _ hv => nomatch hv
  · exact kept_scalar h

include hvalue hitems in
lemma kept_items_succ {c : Cursor} {vs : List Value} (h : c.rest <:+ text)
    (hvs : ∀ v ∈ vs, v.IsWritable) : Kept text IsWritable (items (fuel + 1) c vs) := by
  unfold items
  refine (hvalue c h).bind fun v c hv hc => ?_
  have hread : ∀ u ∈ v :: vs, u.IsWritable := List.forall_mem_cons.2 ⟨hv, hvs⟩
  have hbehind := rest_skipSpace hc
  dsimp only
  split
  · have hordered : ∀ u ∈ (v :: vs).reverse, u.IsWritable :=
      fun u hu => hread u (List.mem_reverse.1 hu)
    exact ⟨isWritable_list.2 hordered, rest_advance hbehind 1⟩
  · exact hitems _ _ (rest_skipSpace (rest_advance hbehind 1)) hread
  · trivial

include hvalue hmembers in
lemma kept_members_succ {c : Cursor} {es : List (Value × Value)} (h : c.rest <:+ text)
    (hes : AreWritable es) : Kept text IsWritable (members (fuel + 1) c es) := by
  unfold members
  split
  · refine (kept_string (rest_advance h 1)).bind fun key c _ hc => ?_
    have hbehindKey := rest_skipSpace hc
    dsimp only
    split
    · refine (hvalue _ (rest_skipSpace (rest_advance hbehindKey 1))).bind fun v c hv hc => ?_
      have hread : AreWritable ((.text key, v) :: es) :=
        List.forall_mem_cons.2 ⟨⟨⟨_, rfl⟩, hv⟩, hes⟩
      have hbehind := rest_skipSpace hc
      dsimp only
      split
      · have hordered : AreWritable ((Value.text key, v) :: es).reverse :=
          fun e he => hread e (List.mem_reverse.1 he)
        exact ⟨isWritable_dict.2 (areWritable_ofEntries hordered), rest_advance hbehind 1⟩
      · exact hmembers _ _ (rest_skipSpace (rest_advance hbehind 1)) hread
      · trivial
    · trivial
  · trivial

end

/-- What can come of reading values, items and members, by induction on the bound of the depth. -/
lemma kept_all (fuel : Nat) :
    (∀ c : Cursor, c.rest <:+ text → Kept text IsWritable (value fuel c)) ∧
      (∀ (c : Cursor) (vs : List Value), c.rest <:+ text → (∀ v ∈ vs, v.IsWritable) →
        Kept text IsWritable (items fuel c vs)) ∧
      ∀ (c : Cursor) (es : List (Value × Value)), c.rest <:+ text → AreWritable es →
        Kept text IsWritable (members fuel c es) := by
  induction fuel with
  | zero => exact ⟨fun _ _ => trivial, fun _ _ _ _ => trivial, fun _ _ _ _ => trivial⟩
  | succ fuel ih =>
    obtain ⟨hvalue, hitems, hmembers⟩ := ih
    exact ⟨fun _ => kept_value_succ hitems hmembers, fun _ _ => kept_items_succ hvalue hitems,
      fun _ _ => kept_members_succ hvalue hmembers⟩

/-- **What can come of reading a text**: it is malformed, it has too long a run of digits, or it stands
for a value that can be written out. -/
theorem read_kept (text : List Char) :
    (∃ e, read text = .error (.malformed e)) ∨
      (∃ l, read text = .error (.number l) ∧ HasLongRun text l) ∨
        ∃ v, read text = .ok v ∧ v.IsWritable := by
  unfold read
  split
  · exact .inl ⟨_, rfl⟩
  · have hvalue := (kept_all (text.length + 1)).1 (Cursor.skipSpace ⟨0, text⟩)
      (rest_skipSpace (List.suffix_refl text))
    generalize value (text.length + 1) (Cursor.skipSpace ⟨0, text⟩) = x at hvalue ⊢
    rcases x with (e | l) | ⟨v, c⟩
    · exact .inl ⟨e, rfl⟩
    · exact .inr (.inl ⟨l, rfl, hvalue⟩)
    · by_cases hend : c.skipSpace.rest.isEmpty = true
      · exact .inr (.inr ⟨v, if_pos hend, hvalue.1⟩)
      · exact .inl ⟨_, if_neg hend⟩

end

end RoleAudit.Json
