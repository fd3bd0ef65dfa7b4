import RoleAudit.Proofs.Policy.Agreement

/-!
# Declarations that are read alike

The access policy does not look at all of a declaration. Of a tag it reads the name, and the string
literals if it is a description or a list of roles; of a member all but its line, and the same of a
declaration. Two declarations that agree in this are read alike, and have the same rows.

* `Tag.Alike`, `Member.Alike`, `Declaration.Alike`: agreement in what is read.
* `Declaration.Alike.rows_eq`: declarations that are read alike have the same rows.
-/

namespace RoleAudit

/-- The names of the tags whose literals are read. -/
def literalTags : List String := ["Description", "RolesAllowed"]

/-- Tags with the same name, and the same literals as far as they are read. -/
structure Tag.Alike (t u : Tag) : Prop where
  name : t.name = u.name
  literals : t.name ∈ literalTags → t.literals = u.literals

/-- Members that agree in all but the place, with tags that are read alike. -/
structure Member.Alike (m n : Member) : Prop where
  kind : m.kind = n.kind
  name : m.name = n.name
  modifiers : m.modifiers = n.modifiers
  tags : List.Forall₂ Tag.Alike m.tags n.tags

/-- Declarations that agree in all but the place, with tags and members that are read alike. -/
structure Declaration.Alike (d e : Declaration) : Prop where
  kind : d.kind = e.kind
  name : d.name = e.name
  tags : List.Forall₂ Tag.Alike d.tags e.tags
  members : List.Forall₂ Member.Alike d.members e.members

/-! ## What tags say -/

section

variable {tags tags' : List Tag} (h : List.Forall₂ Tag.Alike tags tags')

include h

lemma carries_congr (name : String) : Carries tags name ↔ Carries tags' name := by
  unfold Carries
  induction h with
  | nil => rfl
  | cons ht _ ih => rw [List.exists_mem_cons_iff, List.exists_mem_cons_iff, ht.name, ih]

/-- The last tags of a name are read alike, if there are any. -/
lemma lastNamed_congr (name : String) :
    Option.Rel (fun t u => Tag.Alike t u ∧ t.name = name) (lastNamed tags name)
      (lastNamed tags' name) := by
  have hfilter : List.Forall₂ (fun t u => Tag.Alike t u ∧ t.name = name)
      (tags.filter fun t => t.name = name) (tags'.filter fun t => t.name = name) := by
    induction h with
    | nil => exact .nil
    | @cons t u ts us ht _ ih =>
      rw [List.filter_cons, List.filter_cons, ← ht.name]
      split
      · next hname => exact .cons ⟨ht, of_decide_eq_true hname⟩ ih
      · exact ih
  unfold lastNamed
  rw [List.getLast?_eq_head?_reverse, List.getLast?_eq_head?_reverse]
  have hreverse := List.forall₂_reverse_iff.2 hfilter
  generalize (tags.filter _).reverse = ts, (tags'.filter _).reverse = us at hreverse
  cases hreverse with
  | nil => exact .none
  | cons ht _ => exact .some ht

lemma literalsOf_congr {name : String} (hname : name ∈ literalTags) :
    literalsOf tags name = literalsOf tags' name := by
  have hlast := lastNamed_congr h name
  unfold literalsOf
  generalize lastNamed tags name = t, lastNamed tags' name = u at hlast
  cases hlast with
  | some ht => exact ht.1.literals (ht.2 ▸ hname)
  | none => rfl

lemma descriptions_congr : literalsOf tags "Description" = literalsOf tags' "Description" :=
  literalsOf_congr h (by decide)

lemma roles_congr : literalsOf tags "RolesAllowed" = literalsOf tags' "RolesAllowed" :=
  literalsOf_congr h (by decide)

end

/-- Tags that are read alike, one by one, say the same about a scope. -/
lemma agree_of_alike {tags tags' : List Tag} (h : List.Forall₂ Tag.Alike tags tags')
    (marks : List String) : Agree marks tags tags' :=
  ⟨roles_congr h, carries_congr h _, carries_congr h _, descriptions_congr h,
    fun name _ => carries_congr h name⟩

lemma Member.Alike.agrees {m n : Member} (h : m.Alike n) : m.Agrees n where
  kind := h.kind
  name := h.name
  isPublic := congrArg (List.contains · "public") h.modifiers
  tags _ _ := agree_of_alike h.tags lifecycleTags

namespace Declaration.Alike

variable {d e : Declaration} (h : d.Alike e)

include h

lemma agrees : d.Agrees e where
  kind := h.kind
  name := h.name
  tags := agree_of_alike h.tags stereotypes
  members := h.members.imp fun _ _ hm => hm.agrees

/-- **Declarations that are read alike have the same rows.** -/
theorem rows_eq : d.rows = e.rows := h.agrees.rows_eq

end Declaration.Alike

end RoleAudit
