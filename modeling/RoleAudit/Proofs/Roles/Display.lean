import Mathlib.Data.List.Basic
import Mathlib.Data.String.Basic
import RoleAudit.Roles
import RoleAudit.Proofs.Text.Folding

/-!
# What a rendered role set shows

`Roles.render` writes brackets around the folded names, with semicolons between them.

* `Roles.mem_render`: apart from brackets, semicolons and white space, a rendered set has the
  characters of its names.
* `Roles.render_eq_everyone_iff`: only the set of a single name can be shown as `[all]`.
-/

namespace RoleAudit.Roles

/-- The characters of a rendered set. -/
lemma toList_render (names : List String) :
    (render names).toList =
      '[' :: (separator.intercalate (names.map Text.singleLine)).toList ++ [']'] := by
  unfold render
  rw [String.toList_append, String.toList_append]
  rfl

/-- What stands in names with separators between them. -/
lemma mem_intercalate {c : Char} (hc : c ∉ separator.toList) (names : List String) :
    c ∈ (separator.intercalate names).toList ↔ ∃ name ∈ names, c ∈ name.toList := by
  induction names with
  | nil => simp
  | cons name rest ih =>
    rcases rest with _ | ⟨next, rest⟩
    · simp
    · rw [String.intercalate_cons_cons, String.toList_append, String.toList_append,
        List.mem_append, List.mem_append, or_iff_left hc, ih,
        List.exists_mem_cons_iff _ name (next :: rest)]

/-- **A rendered set has the characters of its names**, apart from its own marks and white
space. -/
theorem mem_render {c : Char} (hblank : Text.isBlank c = false) (hmark : c ∉ ['[', ';', ']'])
    (names : List String) : c ∈ (render names).toList ↔ ∃ name ∈ names, c ∈ name.toList := by
  have hopen : c ≠ '[' := by
    rintro rfl
    exact hmark (by decide)
  have hsep : c ∉ separator.toList := by
    intro h
    have h' : c ∈ [';', ' '] := h
    rcases List.mem_cons.1 h' with rfl | h'
    · exact hmark (by decide)
    · rw [List.mem_singleton.1 h'] at hblank
      exact absurd hblank (by decide)
  have hclose : c ∉ [']'] := by
    intro h
    rw [List.mem_singleton.1 h] at hmark
    exact hmark (by decide)
  rw [toList_render, List.mem_append, or_iff_left hclose, List.mem_cons, or_iff_right hopen,
    mem_intercalate hsep]
  simp only [List.mem_map, exists_exists_and_eq_and, Text.mem_singleLine hblank]

/-- Names with separators between them show `all` only if there is a single name. -/
lemma intercalate_eq_all_iff (names : List String) :
    separator.intercalate names = "all" ↔ names = ["all"] := by
  constructor
  · intro h
    rcases names with _ | ⟨name, _ | ⟨next, rest⟩⟩
    · exact absurd h (by decide)
    · rw [String.intercalate_singleton] at h
      rw [h]
    · -- two names have a semicolon between them
      have hsemi : ';' ∈ (separator.intercalate (name :: next :: rest)).toList := by
        rw [String.intercalate_cons_cons, String.toList_append, String.toList_append]
        exact List.mem_append_left _ (List.mem_append_right _ (by decide))
      rw [h] at hsemi
      exact absurd hsemi (by decide)
  · rintro rfl
    exact String.intercalate_singleton

/-- **Which sets are shown as `[all]`**: those of a single name that reads `all` on one line. -/
theorem render_eq_everyone_iff (names : List String) :
    render names = "[all]" ↔ ∃ name, names = [name] ∧ Text.singleLine name = "all" := by
  have hcancel : render names = "[all]" ↔
      separator.intercalate (names.map Text.singleLine) = "all" := by
    rw [← String.toList_inj, toList_render, ← String.toList_inj]
    constructor
    · intro h
      exact List.append_cancel_right (List.cons.inj h).2
    · intro h
      rw [h]
      rfl
  rw [hcancel, intercalate_eq_all_iff, List.map_eq_singleton_iff]

end RoleAudit.Roles
