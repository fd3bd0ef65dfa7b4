import RoleAudit.Policy
import RoleAudit.Proofs.Roles.Ascending

/-!
# The access policy, said without scanning

`Declaration.rows` scans tags, keeps what it has seen, and tries one reason after another to leave a
method out. This file says the same by what the tags *are*: which names a scope carries
(`Carries`), which literals the last tag of a name has (`literalsOf`), and who may call what
(`Declaration.IsOpen`, `Declaration.rolesOf`).

A row is about a **scope**, the whole type or one method. `Declaration.scopes` lists the scopes that
are reported and `Declaration.rowOf` says what the report has about each of them.

* `Declaration.rows_eq_map_scopes`: the rows are the rows of the reported scopes, in order.
* `Declaration.rows_by_policy`: the same in full, as one formula over tags and members.
-/

namespace RoleAudit

/-! ## What a scope carries -/

/-- One of the tags has the name. -/
def Carries (tags : List Tag) (name : String) : Prop := ∃ t ∈ tags, t.name = name

instance (tags : List Tag) (name : String) : Decidable (Carries tags name) :=
  inferInstanceAs (Decidable (∃ t ∈ tags, t.name = name))

/-- The last of the tags that have the name. -/
def lastNamed (tags : List Tag) (name : String) : Option Tag :=
  (tags.filter fun t => t.name = name).getLast?

/-- The literals of the last tag of a name; none if there is no such tag. -/
def literalsOf (tags : List Tag) (name : String) : Finset String :=
  match lastNamed tags name with
  | none => ∅
  | some t => t.literals

lemma carries_nil (name : String) : ¬ Carries [] name := by
  rintro ⟨t, ht, -⟩
  cases ht

lemma carries_concat (tags : List Tag) (t : Tag) (name : String) :
    Carries (tags ++ [t]) name ↔ Carries tags name ∨ t.name = name := by
  unfold Carries
  constructor
  · rintro ⟨u, hu, hn⟩
    rcases List.mem_append.1 hu with hu | hu
    · exact Or.inl ⟨u, hu, hn⟩
    · rw [List.mem_singleton] at hu
      exact Or.inr (hu ▸ hn)
  · rintro (⟨u, hu, hn⟩ | hn)
    · exact ⟨u, List.mem_append_left _ hu, hn⟩
    · exact ⟨t, List.mem_append_right _ (List.mem_singleton_self t), hn⟩

lemma lastNamed_concat (tags : List Tag) (t : Tag) (name : String) :
    lastNamed (tags ++ [t]) name = if t.name = name then some t else lastNamed tags name := by
  unfold lastNamed
  rw [List.filter_append]
  by_cases h : t.name = name
  · rw [if_pos h, List.filter_cons_of_pos (by simpa using h), List.filter_nil,
      List.getLast?_concat]
  · rw [if_neg h, List.filter_cons_of_neg (by simpa using h), List.filter_nil, List.append_nil]

/-- One tag more adds its own name to those that a scope carries. -/
lemma carries_insert (before after : List Tag) (t : Tag) (name : String) :
    Carries (before ++ t :: after) name ↔ t.name = name ∨ Carries (before ++ after) name := by
  unfold Carries
  simp only [List.mem_append, List.mem_cons, or_left_comm, or_and_right, exists_or, exists_eq_left]

/-- One tag more is the last only of its own name. -/
lemma lastNamed_insert_of_ne (before after : List Tag) {t : Tag} {name : String}
    (h : t.name ≠ name) :
    lastNamed (before ++ t :: after) name = lastNamed (before ++ after) name := by
  unfold lastNamed
  rw [List.filter_append, List.filter_cons_of_neg (by simpa using h), ← List.filter_append]

/-- One tag more changes the literals only of its own name. -/
lemma literalsOf_insert_of_ne (before after : List Tag) {t : Tag} {name : String}
    (h : t.name ≠ name) :
    literalsOf (before ++ t :: after) name = literalsOf (before ++ after) name := by
  unfold literalsOf
  rw [lastNamed_insert_of_ne before after h]

/-- A scope carries a name iff it has a last tag of that name. -/
lemma isSome_lastNamed (tags : List Tag) (name : String) :
    (lastNamed tags name).isSome = true ↔ Carries tags name := by
  induction tags using List.reverseRecOn with
  | nil => simp [lastNamed, carries_nil]
  | append_singleton tags t ih =>
    rw [lastNamed_concat, carries_concat]
    by_cases h : t.name = name
    · simp [h]
    · simp [h, ih]

/-- The contents of the last tag of a name are its literals, in ascending order. -/
lemma contents?_lastNamed (tags : List Tag) (name : String) :
    Tag.contents? (lastNamed tags name) = (literalsOf tags name).sort := by
  unfold literalsOf
  rcases lastNamed tags name with _ | t
  · exact (Finset.sort_empty _).symm
  · exact t.contents_eq_sort

/-! ## The scan of a scope -/

namespace TagScan

/-- A mark is none of the three names that a scan looks for first. -/
def Apart (marks : List String) : Prop :=
  ∀ name ∈ marks, name ≠ "RolesAllowed" ∧ name ≠ "PermitAll" ∧ name ≠ "Description"

lemma apart_stereotypes : Apart stereotypes := by
  unfold Apart stereotypes
  decide

lemma apart_lifecycleTags : Apart lifecycleTags := by
  unfold Apart lifecycleTags
  decide

/-- The marks of a scope with one tag more. -/
lemma marked_concat (marks : List String) (tags : List Tag) (t : Tag) :
    (∃ name ∈ marks, Carries (tags ++ [t]) name) ↔
      (∃ name ∈ marks, Carries tags name) ∨ t.name ∈ marks := by
  simp only [carries_concat]
  constructor
  · rintro ⟨name, hm, hc | rfl⟩
    · exact Or.inl ⟨name, hm, hc⟩
    · exact Or.inr hm
  · rintro (⟨name, hm, hc⟩ | hm)
    · exact ⟨name, hm, Or.inl hc⟩
    · exact ⟨t.name, hm, Or.inr rfl⟩

/-- **What a scan has seen**: the last tag of two names, and whether the others occur. -/
theorem ofTags_eq {marks : List String} (h : Apart marks) (tags : List Tag) :
    ofTags marks tags =
      { roles := lastNamed tags "RolesAllowed"
        permitAll := decide (Carries tags "PermitAll")
        description := lastNamed tags "Description"
        marked := decide (∃ name ∈ marks, Carries tags name) } := by
  induction tags using List.reverseRecOn with
  | nil => simp [ofTags, lastNamed, carries_nil]
  | append_singleton tags t ih =>
    have hstep : ofTags marks (tags ++ [t]) = read marks (ofTags marks tags) t := by
      unfold ofTags
      rw [List.foldl_append, List.foldl_cons, List.foldl_nil]
    rw [hstep, ih]
    simp only [marked_concat]
    simp only [read, rolesAllowed, RoleAudit.permitAll, descriptionTag, beq_iff_eq,
      List.contains_iff_mem, lastNamed_concat, carries_concat]
    -- a name is looked for only where those before it did not match, so the marks must be apart
    by_cases hr : t.name = "RolesAllowed"
    · have hm : "RolesAllowed" ∉ marks := fun hm => (h _ hm).1 rfl
      simp [hr, hm]
    by_cases hp : t.name = "PermitAll"
    · have hm : "PermitAll" ∉ marks := fun hm => (h _ hm).2.1 rfl
      simp [hp, hm]
    by_cases hd : t.name = "Description"
    · have hm : "Description" ∉ marks := fun hm => (h _ hm).2.2 rfl
      simp [hd, hm]
    by_cases hm : t.name ∈ marks
    · simp [hr, hp, hd, hm]
    · simp [hr, hp, hd, hm]

end TagScan

/-- What the tags of a type say. -/
lemma ClassPolicy.ofTags_eq (tags : List Tag) :
    ClassPolicy.ofTags tags =
      { roles := (literalsOf tags "RolesAllowed").sort
        permitAll := decide (Carries tags "PermitAll")
        description := lastNamed tags "Description"
        managed := decide (∃ name ∈ stereotypes, Carries tags name) } := by
  simp only [ClassPolicy.ofTags, TagScan.ofTags_eq TagScan.apart_stereotypes, contents?_lastNamed]

/-- What the tags of a method say. -/
lemma MethodPolicy.ofTags_eq (tags : List Tag) :
    MethodPolicy.ofTags tags =
      { roles := (literalsOf tags "RolesAllowed").sort
        permitAll := decide (Carries tags "PermitAll")
        description := (literalsOf tags "Description").sort
        lifecycle := decide (∃ name ∈ lifecycleTags, Carries tags name) } := by
  simp only [MethodPolicy.ofTags, TagScan.ofTags_eq TagScan.apart_lifecycleTags,
    contents?_lastNamed]

/-! ## Scopes and their rows -/

/-- What a row can be about. -/
inductive Scope where
  /-- The whole type. -/
  | whole
  | method (m : Member)

/-- A set of texts as a report shows it. -/
def shown (texts : Finset String) : String := Roles.render texts.sort

namespace Declaration

/-- Everybody has access: `PermitAll` stands on the type or on the method. -/
def IsOpen (d : Declaration) : Scope → Prop
  | .whole => Carries d.tags "PermitAll"
  | .method m => Carries d.tags "PermitAll" ∨ Carries m.tags "PermitAll"

instance (d : Declaration) : DecidablePred d.IsOpen
  | .whole => inferInstanceAs (Decidable (Carries d.tags "PermitAll"))
  | .method m =>
    inferInstanceAs (Decidable (Carries d.tags "PermitAll" ∨ Carries m.tags "PermitAll"))

/-- The roles that govern a scope. The type's roles stand in for a method without roles. -/
def rolesOf (d : Declaration) : Scope → Finset String
  | .whole => literalsOf d.tags "RolesAllowed"
  | .method m =>
    if literalsOf m.tags "RolesAllowed" = ∅ then literalsOf d.tags "RolesAllowed"
    else literalsOf m.tags "RolesAllowed"

/-- The description texts of a scope. -/
def textsOf (d : Declaration) : Scope → Finset String
  | .whole => literalsOf d.tags "Description"
  | .method m => literalsOf m.tags "Description"

/-- The row of a scope. -/
def rowOf (d : Declaration) (s : Scope) : Row where
  className := d.name
  memberName := match s with
    | .whole => "*"
    | .method m => m.name
  description := shown (d.textsOf s)
  roles := if d.IsOpen s then "[all]" else shown (d.rolesOf s)

/-- A member of a managed type is reported. -/
structure Reports (d : Declaration) (m : Member) : Prop where
  method : m.kind = .method
  isPublic : "public" ∈ m.modifiers
  /-- No container calls it by itself. -/
  noHook : ¬ (Carries m.tags "PostConstruct" ∨ Carries m.tags "PreDestroy")
  described : literalsOf m.tags "Description" ≠ ∅
  /-- Not only the system may call it. -/
  access : d.IsOpen (.method m) ∨
    d.rolesOf (.method m) ≠ {"system"} ∧ d.rolesOf (.method m) ≠ {"system", "system-web"}

instance (d : Declaration) : DecidablePred d.Reports := fun m =>
  decidable_of_iff
    (m.kind = .method ∧ "public" ∈ m.modifiers ∧
      ¬ (Carries m.tags "PostConstruct" ∨ Carries m.tags "PreDestroy") ∧
      literalsOf m.tags "Description" ≠ ∅ ∧
      (d.IsOpen (.method m) ∨
        d.rolesOf (.method m) ≠ {"system"} ∧ d.rolesOf (.method m) ≠ {"system", "system-web"}))
    ⟨fun ⟨h₁, h₂, h₃, h₄, h₅⟩ => ⟨h₁, h₂, h₃, h₄, h₅⟩,
      fun ⟨h₁, h₂, h₃, h₄, h₅⟩ => ⟨h₁, h₂, h₃, h₄, h₅⟩⟩

/-- The type is managed by a container. -/
def IsManaged (d : Declaration) : Prop :=
  Carries d.tags "Stateless" ∨ Carries d.tags "Stateful" ∨ Carries d.tags "Local" ∨
    Carries d.tags "Remote"

instance (d : Declaration) : Decidable d.IsManaged :=
  inferInstanceAs (Decidable (Carries d.tags "Stateless" ∨ Carries d.tags "Stateful" ∨
    Carries d.tags "Local" ∨ Carries d.tags "Remote"))

/-- The scopes that are reported, in order. -/
def scopes (d : Declaration) : List Scope :=
  if d.kind = .other then []
  else if Carries d.tags "Description" then [.whole]
  else if d.IsManaged then (d.members.filter fun m => d.Reports m).map .method
  else []

/-! ## Rows are rows of scopes -/

/-- The row that is made for a whole type. -/
lemma classRow_eq (d : Declaration) : classRow d (ClassPolicy.ofTags d.tags) = d.rowOf .whole := by
  rw [ClassPolicy.ofTags_eq]
  simp only [classRow, contents?_lastNamed, decide_eq_true_eq]
  rfl

/-- The roles that count for a method are those that govern it. -/
lemma effectiveRoles_eq (d : Declaration) (m : Member) :
    effectiveRoles (ClassPolicy.ofTags d.tags) (MethodPolicy.ofTags m.tags) =
      (d.rolesOf (.method m)).sort := by
  rw [ClassPolicy.ofTags_eq, MethodPolicy.ofTags_eq]
  simp only [effectiveRoles, rolesOf, List.isEmpty_iff]
  by_cases h : literalsOf m.tags "RolesAllowed" = ∅
  · rw [if_pos h, h, Finset.sort_empty, if_pos rfl]
  · rw [if_neg h, if_neg (mt (Roles.sort_eq_nil_iff _).1 h)]

lemma lifecycle_iff (m : Member) :
    (MethodPolicy.ofTags m.tags).lifecycle = true ↔
      Carries m.tags "PostConstruct" ∨ Carries m.tags "PreDestroy" := by
  rw [MethodPolicy.ofTags_eq]
  simp [lifecycleTags]

lemma description_isEmpty_iff (m : Member) :
    (MethodPolicy.ofTags m.tags).description.isEmpty = true ↔
      literalsOf m.tags "Description" = ∅ := by
  rw [MethodPolicy.ofTags_eq, List.isEmpty_iff, Roles.sort_eq_nil_iff]

lemma permitAll_iff_isOpen (d : Declaration) (m : Member) :
    ((ClassPolicy.ofTags d.tags).permitAll || (MethodPolicy.ofTags m.tags).permitAll) = true ↔
      d.IsOpen (.method m) := by
  rw [ClassPolicy.ofTags_eq, MethodPolicy.ofTags_eq, Bool.or_eq_true, decide_eq_true_eq,
    decide_eq_true_eq]
  rfl

lemma render_description (m : Member) :
    Roles.render (MethodPolicy.ofTags m.tags).description =
      shown (literalsOf m.tags "Description") := by
  rw [MethodPolicy.ofTags_eq]
  rfl

/-- **What becomes of a method**, with the first reason there is to leave it out. -/
lemma verdict_eq (d : Declaration) (m : Member) :
    verdict d (ClassPolicy.ofTags d.tags) m =
      if "public" ∉ m.modifiers then .skipped .notPublic
      else if Carries m.tags "PostConstruct" ∨ Carries m.tags "PreDestroy" then
        .skipped .lifecycleHook
      else if literalsOf m.tags "Description" = ∅ then .skipped .undocumented
      else if d.IsOpen (.method m) then .reported (d.rowOf (.method m))
      else if d.rolesOf (.method m) = {"system"} ∨
          d.rolesOf (.method m) = {"system", "system-web"} then
        .skipped (.internalOnly (d.rolesOf (.method m)).sort)
      else .reported (d.rowOf (.method m)) := by
  have hpublic : (!m.isPublic) = true ↔ "public" ∉ m.modifiers := by simp [Member.isPublic]
  unfold verdict
  simp only [effectiveRoles_eq, render_description]
  refine if_congr hpublic rfl (if_congr (lifecycle_iff m) rfl
    (if_congr (description_isEmpty_iff m) rfl ?_))
  by_cases hopen : d.IsOpen (.method m)
  · rw [if_pos hopen, if_pos ((permitAll_iff_isOpen d m).2 hopen)]
    simp only [rowOf, if_pos hopen, everyone, textsOf]
  · rw [if_neg hopen, if_neg (mt (permitAll_iff_isOpen d m).1 hopen)]
    apply if_congr (Roles.isInternal_sort _) rfl
    simp only [rowOf, if_neg hopen, shown, textsOf]

/-- A method is reported with the row of its scope, or left out. -/
lemma row?_verdict (d : Declaration) {m : Member} (hm : m.kind = .method) :
    (verdict d (ClassPolicy.ofTags d.tags) m).row? =
      if d.Reports m then some (d.rowOf (.method m)) else none := by
  rw [verdict_eq]
  by_cases hr : d.Reports m
  · rw [if_pos hr, if_neg (not_not.2 hr.isPublic), if_neg hr.noHook, if_neg hr.described]
    by_cases hopen : d.IsOpen (.method m)
    · rw [if_pos hopen]
      rfl
    · have hroles := hr.access.resolve_left hopen
      rw [if_neg hopen, if_neg (not_or.2 hroles)]
      rfl
  · rw [if_neg hr]
    split_ifs with hpublic hhook hblank hopen hsystem
    · rfl
    · rfl
    · exact absurd ⟨hm, hpublic, hhook, hblank, Or.inl hopen⟩ hr
    · rfl
    · exact absurd ⟨hm, hpublic, hhook, hblank, Or.inr (not_or.1 hsystem)⟩ hr
    · rfl

/-- Remarks on tags are no rows. -/
lemma rows_tagRemarks (remarks : List Tag.Remark) :
    (remarks.map fun r => Finding.remark (.tag r)).filterMap Finding.row? = [] := by
  rw [List.filterMap_map]
  exact List.filterMap_eq_nil_iff.2 fun _ _ => rfl

/-- The rows among the findings about a member. -/
lemma rows_memberFindings (d : Declaration) (m : Member) :
    (memberFindings d (ClassPolicy.ofTags d.tags) m).filterMap Finding.row? =
      if d.Reports m then [d.rowOf (.method m)] else [] := by
  by_cases hm : m.kind = .method
  · have hv := d.row?_verdict hm
    unfold memberFindings
    rw [if_pos hm, List.filterMap_append, rows_tagRemarks, List.nil_append]
    cases hverdict : verdict d (ClassPolicy.ofTags d.tags) m with
    | reported row =>
      rw [hverdict] at hv
      split at hv
      · next hr => rw [if_pos hr, ← Option.some.inj hv]; rfl
      · cases hv
    | skipped reason =>
      rw [hverdict] at hv
      split at hv
      · cases hv
      · next hr => rw [if_neg hr]; rfl
  · have hr : ¬ d.Reports m := fun h => hm h.method
    unfold memberFindings
    rw [if_neg hm, if_neg hr, List.filterMap_nil]

/-- The rows among the findings about members. -/
lemma rows_flatMap_memberFindings (d : Declaration) (members : List Member) :
    (members.flatMap (memberFindings d (ClassPolicy.ofTags d.tags))).filterMap Finding.row? =
      ((members.filter fun m => d.Reports m).map Scope.method).map d.rowOf := by
  induction members with
  | nil => rfl
  | cons m members ih =>
    rw [List.flatMap_cons, List.filterMap_append, rows_memberFindings, ih]
    by_cases hr : d.Reports m
    · rw [if_pos hr, List.filter_cons_of_pos (by simpa using hr)]
      rfl
    · rw [if_neg hr, List.filter_cons_of_neg (by simpa using hr), List.nil_append]

/-- **The rows of a declaration are those of its reported scopes, in order.** -/
theorem rows_eq_map_scopes (d : Declaration) : d.rows = d.scopes.map d.rowOf := by
  have hmanaged : (ClassPolicy.ofTags d.tags).managed = true ↔ d.IsManaged := by
    rw [ClassPolicy.ofTags_eq]
    simp [stereotypes, IsManaged]
  have hdescription : (ClassPolicy.ofTags d.tags).description = lastNamed d.tags "Description" := by
    rw [ClassPolicy.ofTags_eq]
  unfold rows findings scopes
  by_cases hkind : d.kind = .other
  · rw [if_pos hkind, if_pos hkind]
    rfl
  rw [if_neg hkind, if_neg hkind]
  have hsome := isSome_lastNamed d.tags "Description"
  simp only [hdescription]
  cases hlast : lastNamed d.tags "Description" with
  | some t =>
    rw [hlast] at hsome
    simp only [List.filterMap_append, classRemarks, rows_tagRemarks, if_pos (hsome.1 rfl),
      classRow_eq]
    rfl
  | none =>
    rw [hlast] at hsome
    have hnot : ¬ Carries d.tags "Description" := fun h => Bool.noConfusion (hsome.2 h)
    rw [if_neg hnot]
    by_cases hm : d.IsManaged
    · rw [if_pos hm]
      simp only [if_pos (hmanaged.2 hm), List.filterMap_append, classRemarks, rows_tagRemarks,
        List.nil_append, rows_flatMap_memberFindings]
    · rw [if_neg hm]
      simp only [if_neg (mt hmanaged.1 hm), List.filterMap_append, classRemarks, rows_tagRemarks]
      rfl

/-- **The access policy.** Types that are neither classes nor interfaces have no row. A described
type has a single row for the whole type. Otherwise a managed type has a row for each member that
is reported, in the order of the members, and all other types have none. -/
theorem rows_by_policy (d : Declaration) :
    d.rows =
      if d.kind = .other then []
      else if Carries d.tags "Description" then
        [{ className := d.name
           memberName := "*"
           description := shown (literalsOf d.tags "Description")
           roles :=
            if Carries d.tags "PermitAll" then "[all]"
            else shown (literalsOf d.tags "RolesAllowed") }]
      else if Carries d.tags "Stateless" ∨ Carries d.tags "Stateful" ∨ Carries d.tags "Local" ∨
          Carries d.tags "Remote" then
        (d.members.filter fun m => d.Reports m).map fun m =>
          { className := d.name
            memberName := m.name
            description := shown (literalsOf m.tags "Description")
            roles :=
              if Carries d.tags "PermitAll" ∨ Carries m.tags "PermitAll" then "[all]"
              else if literalsOf m.tags "RolesAllowed" = ∅ then
                shown (literalsOf d.tags "RolesAllowed")
              else shown (literalsOf m.tags "RolesAllowed") }
      else [] := by
  have hmethod : ∀ m : Member,
      shown (d.rolesOf (.method m)) =
        if literalsOf m.tags "RolesAllowed" = ∅ then shown (literalsOf d.tags "RolesAllowed")
        else shown (literalsOf m.tags "RolesAllowed") := fun m => apply_ite shown _ _ _
  rw [rows_eq_map_scopes]
  unfold scopes
  by_cases hkind : d.kind = .other
  · rw [if_pos hkind, if_pos hkind]
    rfl
  rw [if_neg hkind, if_neg hkind]
  by_cases hdescribed : Carries d.tags "Description"
  · rw [if_pos hdescribed, if_pos hdescribed]
    rfl
  rw [if_neg hdescribed, if_neg hdescribed]
  by_cases hmanaged : d.IsManaged
  · rw [if_pos hmanaged, if_pos (show _ ∨ _ from hmanaged), List.map_map]
    apply List.map_congr_left
    intro m _
    rw [← hmethod]
    rfl
  · rw [if_neg hmanaged, if_neg (show ¬ (_ ∨ _) from hmanaged)]
    rfl

end Declaration

end RoleAudit
