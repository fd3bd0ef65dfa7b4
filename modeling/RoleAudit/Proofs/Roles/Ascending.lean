import Mathlib.Data.Finset.Sort
import Mathlib.Data.String.Basic
import RoleAudit.Tag

/-!
# Role sets are sets

The library keeps a role set as a list, and this file says which list: the names of a finite set in
ascending order. So a role set is determined by its members, whatever the order and the repetitions
in which they were written.

* `Roles.normalize_eq_sort`: normalizing a list of names gives the sorted set of its names.
* `Tag.contents_eq_sort`: the contents of a tag are its sorted set of literals (`Tag.literals`).
* `Roles.isInternal_sort`: which sets count as internal.
* `Tag.contents?_spec`: which texts the contents of a tag are, and when they are an internal set.
-/

namespace RoleAudit

/-! ## Normalizing -/

namespace Roles

/-- Inserting keeps a list strictly ascending. -/
lemma pairwise_insert (r : String) {names : List String} (h : names.Pairwise (· < ·)) :
    (insert r names).Pairwise (· < ·) := by
  induction names with
  | nil => exact List.pairwise_singleton _ _
  | cons s rest ih =>
    rw [List.pairwise_cons] at h
    unfold insert
    by_cases hlt : r < s
    · rw [if_pos hlt, List.pairwise_cons]
      refine ⟨?_, List.pairwise_cons.2 h⟩
      intro x hx
      rcases List.mem_cons.1 hx with rfl | hx
      · exact hlt
      · exact lt_trans hlt (h.1 x hx)
    · rw [if_neg hlt]
      by_cases heq : r = s
      · rw [if_pos heq]
        exact List.pairwise_cons.2 h
      · rw [if_neg heq, List.pairwise_cons]
        refine ⟨?_, ih h.2⟩
        intro x hx
        rcases mem_insert.1 hx with rfl | hx
        · exact lt_of_le_of_ne (not_lt.1 hlt) (Ne.symm heq)
        · exact h.1 x hx

/-- A normalized list is strictly ascending. -/
lemma pairwise_normalize (names : List String) : (normalize names).Pairwise (· < ·) := by
  induction names with
  | nil => exact List.Pairwise.nil
  | cons r rest ih => exact pairwise_insert r ih

/-- A strictly ascending list is the sorted set of its members. -/
lemma sort_toFinset_of_pairwise {names : List String} (h : names.Pairwise (· < ·)) :
    names.toFinset.sort = names := by
  rw [List.toFinset_sort _ (h.imp ne_of_lt)]
  exact h.imp le_of_lt

/-- **Normalizing gives the set of the names, in ascending order.** -/
theorem normalize_eq_sort (names : List String) : normalize names = names.toFinset.sort := by
  have hset : (normalize names).toFinset = names.toFinset := by
    ext x
    rw [List.mem_toFinset, List.mem_toFinset, mem_normalize]
  rw [← hset, sort_toFinset_of_pairwise (pairwise_normalize names)]

/-- A sorted set is a given strictly ascending list iff it is the set of its members. -/
lemma sort_eq_iff {names : List String} (h : names.Pairwise (· < ·)) (roles : Finset String) :
    roles.sort = names ↔ roles = names.toFinset := by
  constructor
  · intro hs
    rw [← hs, Finset.sort_toFinset]
  · rintro rfl
    exact sort_toFinset_of_pairwise h

lemma sort_eq_nil_iff (roles : Finset String) : roles.sort = [] ↔ roles = ∅ := by
  rw [sort_eq_iff List.Pairwise.nil, List.toFinset_nil]

/-- **The internal sets**: the system alone, or together with its web access. -/
theorem isInternal_sort (roles : Finset String) :
    isInternal roles.sort = true ↔ roles = {"system"} ∨ roles = {"system", "system-web"} := by
  have hone : (["system"] : List String).Pairwise (· < ·) := List.pairwise_singleton _ _
  have htwo : (["system", "system-web"] : List String).Pairwise (· < ·) := by decide
  unfold isInternal internalSets
  rw [List.contains_iff_mem, List.mem_cons, List.mem_singleton, sort_eq_iff hone,
    sort_eq_iff htwo]
  simp

end Roles

/-! ## The literals of a tag -/

/-- The string literals of a value: one, or those directly in an array. -/
def TagValue.literals : TagValue → Finset String
  | literal text => {text}
  | array elements => (elements.filterMap TagValue.literal?).toFinset
  | other _ => ∅

namespace TagValue

lemma literal?_eq_some_iff (v : TagValue) (text : String) :
    v.literal? = some text ↔ v = .literal text := by
  cases v with
  | literal s => simp [literal?]
  | array vs => simp [literal?]
  | other s => simp [literal?]

/-- The literals of an array are those that stand in it directly. -/
lemma mem_literals_array {vs : List TagValue} {text : String} :
    text ∈ (array vs).literals ↔ .literal text ∈ vs := by
  simp [literals, literal?_eq_some_iff]

end TagValue

/-- The string literals that a tag carries. -/
def Tag.literals (t : Tag) : Finset String :=
  match t.value with
  | none => ∅
  | some value => value.literals

/-- **The contents of a tag are its literals, in ascending order.** -/
theorem Tag.contents_eq_sort (t : Tag) : t.contents = t.literals.sort := by
  unfold Tag.contents Tag.literals
  rcases t.value with _ | value
  · exact (Finset.sort_empty _).symm
  · cases value with
    | literal text => exact (Finset.sort_singleton (· ≤ ·) text).symm
    | array elements => exact Roles.normalize_eq_sort _
    | other source => exact (Finset.sort_empty _).symm

/-! ## The texts that a tag quotes -/

/-- The text is a string literal of the tag: it is the value, or stands directly in the array that is
the value. -/
def Tag.Quotes (t : Tag) (text : String) : Prop :=
  t.value = some (.literal text) ∨
    ∃ elements, t.value = some (.array elements) ∧ .literal text ∈ elements

lemma Tag.mem_literals {t : Tag} {text : String} : text ∈ t.literals ↔ t.Quotes text := by
  unfold Tag.literals Tag.Quotes
  rcases t.value with _ | value
  · simp
  · cases value with
    | literal s => simp [TagValue.literals, eq_comm]
    | array elements => simp [TagValue.mem_literals_array]
    | other source => simp [TagValue.literals]

/-- The contents of a tag, or of no tag, are the set of the texts that are quoted. -/
lemma Tag.exists_contents?_eq_sort (t : Option Tag) :
    ∃ quoted : Finset String, contents? t = quoted.sort ∧
      ∀ text, text ∈ quoted ↔ ∃ tag ∈ t, tag.Quotes text := by
  rcases t with _ | tag
  · exact ⟨∅, (Finset.sort_empty _).symm, by simp⟩
  · exact ⟨tag.literals, tag.contents_eq_sort, by simp [mem_literals]⟩

/-- **The contents of a tag** strictly ascend by code points, so that no text is there twice, and
they are the texts that the tag quotes; what an array inside its array holds does not count. They
count as internal exactly if these texts are the system alone, or together with its web access. -/
theorem Tag.contents?_spec (t : Option Tag) :
    (contents? t).Pairwise (· < ·) ∧ (contents? t).Nodup ∧
      (∀ text, text ∈ contents? t ↔ ∃ tag ∈ t, tag.Quotes text) ∧
      (Roles.isInternal (contents? t) = true ↔
        {text | ∃ tag ∈ t, tag.Quotes text} = {"system"} ∨
          {text | ∃ tag ∈ t, tag.Quotes text} = {"system", "system-web"}) := by
  obtain ⟨quoted, hsort, hquoted⟩ := exists_contents?_eq_sort t
  have hset : {text | ∃ tag ∈ t, tag.Quotes text} = (quoted : Set String) := by
    ext text
    exact (hquoted text).symm
  rw [hsort, hset]
  refine ⟨(Finset.sortedLT_sort quoted).pairwise, Finset.sort_nodup _ _, ?_, ?_⟩
  · intro text
    rw [Finset.mem_sort, hquoted]
  · rw [Roles.isInternal_sort, ← Finset.coe_inj, ← Finset.coe_inj, Finset.coe_singleton,
      Finset.coe_pair]

end RoleAudit
