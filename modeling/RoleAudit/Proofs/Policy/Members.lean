import RoleAudit.Proofs.Policy.Scopes

/-!
# The rows of members

A managed type without a description is examined member by member. What becomes of a member depends
on the member and on the tags of its type, but not on the other members. So the rows of such a type
are put together from the rows of its members, and of no other type do the members matter.

* `Declaration.memberRow?`: the row of a member, if it has one.
* `Declaration.rows_eq_filterMap`: the rows of an examined type are the rows of its members.
* `Declaration.rows_of_not_isExamined`: what other types have.
-/

namespace RoleAudit.Declaration

/-- The members of the type are looked at one by one. -/
def IsExamined (d : Declaration) : Prop :=
  d.kind ≠ .other ∧ ¬ Carries d.tags "Description" ∧ d.IsManaged

instance (d : Declaration) : Decidable d.IsExamined :=
  inferInstanceAs (Decidable (d.kind ≠ .other ∧ ¬ Carries d.tags "Description" ∧ d.IsManaged))

/-- The row of a member, if it is judged to have one. -/
def memberRow? (d : Declaration) (m : Member) : Option Row :=
  if m.kind = .method then (verdict d (ClassPolicy.ofTags d.tags) m).row? else none

/-- The members that have a row are those that are reported. -/
lemma memberRow?_eq (d : Declaration) (m : Member) :
    d.memberRow? m = if d.Reports m then some (d.rowOf (.method m)) else none := by
  unfold memberRow?
  by_cases hm : m.kind = .method
  · rw [if_pos hm]
    exact d.row?_verdict hm
  · have hr : ¬ d.Reports m := fun h => hm h.method
    rw [if_neg hm, if_neg hr]

/-- An examined type has the rows of the members that are reported, in order. -/
theorem rows_of_isExamined {d : Declaration} (h : d.IsExamined) :
    d.rows = (d.members.filter fun m => d.Reports m).map fun m => d.rowOf (.method m) := by
  obtain ⟨hkind, hdescribed, hmanaged⟩ := h
  rw [rows_eq_map_scopes]
  unfold scopes
  rw [if_neg hkind, if_neg hdescribed, if_pos hmanaged, List.map_map]
  rfl

/-- **The rows of an examined type are put together from the rows of its members.** -/
theorem rows_eq_filterMap {d : Declaration} (h : d.IsExamined) :
    d.rows = d.members.filterMap d.memberRow? := by
  rw [rows_of_isExamined h, ← List.filterMap_eq_map, List.filterMap_filter]
  apply List.filterMap_congr
  intro m _
  rw [memberRow?_eq]
  simp

/-- Of all other types only the described ones have a row, which stands for the whole type. -/
theorem rows_of_not_isExamined {d : Declaration} (h : ¬ d.IsExamined) :
    d.rows =
      if d.kind ≠ .other ∧ Carries d.tags "Description" then [d.rowOf .whole] else [] := by
  rw [rows_eq_map_scopes]
  unfold scopes
  by_cases hkind : d.kind = .other
  · simp [hkind]
  by_cases hdescribed : Carries d.tags "Description"
  · simp [hkind, hdescribed]
  · have hmanaged : ¬ d.IsManaged := fun hm => h ⟨hkind, hdescribed, hm⟩
    simp [hkind, hdescribed, hmanaged]

end RoleAudit.Declaration
