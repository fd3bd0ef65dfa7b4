import Mathlib.Data.List.TakeWhile
import RoleAudit.Proofs.Text.Folding

/-!
# What trimming leaves

Trimming takes white space off, so it leaves nothing exactly of a text that is all white space, and
what it leaves is as blank as the text was.

* `Text.isEmpty_trim`, `Text.isBlankText_trim`: when a trimmed text is empty, and when it is blank.
-/

namespace RoleAudit.Text

/-- A text is blank if no character of it is visible. -/
lemma isBlankText_iff {s : String} :
    isBlankText s = true ↔ ¬ ∃ c ∈ s.toList, isBlank c = false := by
  unfold isBlankText
  rw [List.all_eq_true]
  simp

/-- Trimming leaves a blank text blank, and no other. -/
@[simp] theorem isBlankText_trim (s : String) : isBlankText (trim s) = isBlankText s := by
  rw [Bool.eq_iff_iff, isBlankText_iff, isBlankText_iff, trim, String.toList_ofList]
  apply not_congr
  constructor
  · rintro ⟨c, hc, hvisible⟩
    exact ⟨c, (mem_trimChars hvisible _).1 hc, hvisible⟩
  · rintro ⟨c, hc, hvisible⟩
    exact ⟨c, (mem_trimChars hvisible _).2 hc, hvisible⟩

/-- Nothing is left of a list of blank characters. -/
lemma trimChars_of_all_isBlank {cs : List Char} (h : ∀ c ∈ cs, isBlank c = true) :
    trimChars cs = [] := by
  unfold trimChars
  rw [List.dropWhile_eq_nil_iff.2 h, trimEnd_nil]

/-- **Trimming leaves nothing exactly of a blank text.** -/
theorem isEmpty_trim (s : String) : (trim s).isEmpty = isBlankText s := by
  rw [Bool.eq_iff_iff]
  constructor
  · intro h
    have hempty : trim s = "" := String.isEmpty_iff.1 h
    rw [← isBlankText_trim, hempty]
    rfl
  · intro h
    have hall : ∀ c ∈ s.toList, isBlank c = true := List.all_eq_true.1 h
    rw [trim, trimChars_of_all_isBlank hall]
    rfl

end RoleAudit.Text
