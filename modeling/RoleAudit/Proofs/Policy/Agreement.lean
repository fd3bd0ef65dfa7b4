import Mathlib.Data.List.Forall2
import RoleAudit.Proofs.Policy.Members

/-!
# What the rows of a declaration depend on

Of the tags of a scope only five things count: whether they open the scope to everybody, whether one
of them is a description, the literals of the last description and of the last list of roles, and
which marks of the scope are among them. Lists of tags that agree in this may be exchanged, and the
tags of a member that is no public method may be anything.

* `Agree`: lists of tags that say the same about a scope.
* `Member.Agrees`, `Declaration.Agrees`: members and declarations that differ in other tags only.
* `Declaration.Agrees.rows_eq`: declarations that agree have the same rows.
-/

namespace RoleAudit

/-- Two lists of tags say the same about a scope with these marks. -/
structure Agree (marks : List String) (tags tags' : List Tag) : Prop where
  roles : literalsOf tags "RolesAllowed" = literalsOf tags' "RolesAllowed"
  permitAll : Carries tags "PermitAll" ↔ Carries tags' "PermitAll"
  described : Carries tags "Description" ↔ Carries tags' "Description"
  texts : literalsOf tags "Description" = literalsOf tags' "Description"
  marked : ∀ name ∈ marks, (Carries tags name ↔ Carries tags' name)

namespace Agree

variable {marks : List String} {tags tags' : List Tag}

lemma refl (marks : List String) (tags : List Tag) : Agree marks tags tags :=
  ⟨rfl, Iff.rfl, Iff.rfl, rfl, fun _ _ => Iff.rfl⟩

lemma exists_marked (h : Agree marks tags tags') :
    (∃ name ∈ marks, Carries tags name) ↔ ∃ name ∈ marks, Carries tags' name := by
  constructor
  · rintro ⟨name, hname, hcarries⟩
    exact ⟨name, hname, (h.marked name hname).1 hcarries⟩
  · rintro ⟨name, hname, hcarries⟩
    exact ⟨name, hname, (h.marked name hname).2 hcarries⟩

/-- Tags that say the same about a method make the same policy. -/
lemma methodPolicy_eq (h : Agree lifecycleTags tags tags') :
    MethodPolicy.ofTags tags = MethodPolicy.ofTags tags' := by
  rw [MethodPolicy.ofTags_eq, MethodPolicy.ofTags_eq]
  simp only [h.roles, h.permitAll, h.texts, h.exists_marked]

/-- Tags that say the same about a type make it managed or not. -/
lemma isManaged_iff {d e : Declaration} (h : Agree stereotypes d.tags e.tags) :
    d.IsManaged ↔ e.IsManaged := by
  have hmarked := h.exists_marked
  simpa [stereotypes, Declaration.IsManaged] using hmarked

end Agree

/-- Members that agree in all but the tags and the place. The tags of public methods say the
same. -/
structure Member.Agrees (m n : Member) : Prop where
  kind : m.kind = n.kind
  name : m.name = n.name
  isPublic : m.isPublic = n.isPublic
  tags : m.kind = .method → m.isPublic = true → Agree lifecycleTags m.tags n.tags

/-- Declarations with the same name and tags that say the same, whose members agree one by one. -/
structure Declaration.Agrees (d e : Declaration) : Prop where
  kind : d.kind = e.kind
  name : d.name = e.name
  tags : Agree stereotypes d.tags e.tags
  members : List.Forall₂ Member.Agrees d.members e.members

lemma Member.Agrees.refl (m : Member) : m.Agrees m := ⟨rfl, rfl, rfl, fun _ _ => .refl _ _⟩

namespace Declaration.Agrees

variable {d e : Declaration} (h : d.Agrees e)

include h

lemma isExamined_iff : d.IsExamined ↔ e.IsExamined := by
  unfold IsExamined
  rw [h.kind, h.tags.described, h.tags.isManaged_iff]

/-- Declarations that agree have the same row for the whole type. -/
lemma rowOf_whole : d.rowOf .whole = e.rowOf .whole := by
  unfold rowOf
  rw [Row.mk.injEq]
  exact ⟨h.name, rfl, congrArg shown h.tags.texts,
    if_congr h.tags.permitAll rfl (congrArg shown h.tags.roles)⟩

/-- Members that agree are judged alike. -/
lemma verdict_eq {m n : Member} (hm : m.Agrees n) (hkind : m.kind = .method) :
    verdict d (ClassPolicy.ofTags d.tags) m = verdict e (ClassPolicy.ofTags e.tags) n := by
  have hroles : (ClassPolicy.ofTags d.tags).roles = (ClassPolicy.ofTags e.tags).roles := by
    simp only [ClassPolicy.ofTags_eq, h.tags.roles]
  have hopen : (ClassPolicy.ofTags d.tags).permitAll = (ClassPolicy.ofTags e.tags).permitAll := by
    simp only [ClassPolicy.ofTags_eq, h.tags.permitAll]
  unfold verdict effectiveRoles
  by_cases hpublic : m.isPublic = true
  · rw [← hm.isPublic, h.name, hm.name, (hm.tags hkind hpublic).methodPolicy_eq, hopen, hroles]
  · simp [← hm.isPublic, hpublic]

/-- Members that agree have the same row. -/
lemma memberRow?_eq {m n : Member} (hm : m.Agrees n) : d.memberRow? m = e.memberRow? n := by
  unfold memberRow?
  by_cases hkind : m.kind = .method
  · rw [if_pos hkind, if_pos (hm.kind ▸ hkind), h.verdict_eq hm hkind]
  · rw [if_neg hkind, if_neg (hm.kind ▸ hkind)]

/-- **Declarations that agree have the same rows.** -/
theorem rows_eq : d.rows = e.rows := by
  by_cases hexamined : d.IsExamined
  · have hrows : List.Forall₂ Eq (d.members.filterMap d.memberRow?)
        (e.members.filterMap e.memberRow?) := by
      apply List.rel_filterMap _ h.members
      intro m n hm
      rw [h.memberRow?_eq hm]
      rcases e.memberRow? n with _ | row
      · exact .none
      · exact .some rfl
    rw [rows_eq_filterMap hexamined, rows_eq_filterMap (h.isExamined_iff.1 hexamined)]
    exact List.forall₂_eq_eq_eq ▸ hrows
  · rw [rows_of_not_isExamined hexamined,
      rows_of_not_isExamined (mt h.isExamined_iff.2 hexamined), h.kind, h.rowOf_whole]
    simp only [h.tags.described]

end Declaration.Agrees

end RoleAudit
