import RoleAudit.Proofs.Policy.Members

/-!
# Giving everybody access

A `PermitAll` more, wherever it is put among the tags of a scope, only widens what is reported. What
had a row keeps it, in its place and with `[all]` for roles, and what gets a row was left out only
because of its roles.

* `Opened`: tags with a `PermitAll` more.
* `Declaration.Withholds`, `Declaration.withheld`: methods that are left out as internal.
* `Declaration.withholds_iff_verdict`: they are those whose verdict gives this reason.
* `Declaration.rows_opened`: the rows of a declaration before and after, for a `PermitAll` on the
  type and for one on a member.
-/

namespace RoleAudit

/-! ## Tags -/

/-- A tag that gives everybody access is put somewhere among others. -/
inductive Opened : List Tag → List Tag → Prop
  | intro (before after : List Tag) (t : Tag) (h : t.name = "PermitAll") :
    Opened (before ++ after) (before ++ t :: after)

namespace Opened

variable {tags tags' : List Tag} (h : Opened tags tags')

include h

lemma carries_permitAll : Carries tags' "PermitAll" := by
  obtain ⟨before, after, t, ht⟩ := h
  exact (carries_insert before after t _).2 (Or.inl ht)

/-- All other names are carried as before. -/
lemma carries_iff (name : String) (hname : name ≠ "PermitAll") :
    Carries tags' name ↔ Carries tags name := by
  obtain ⟨before, after, t, ht⟩ := h
  rw [carries_insert, or_iff_right]
  intro hsame
  exact hname (hsame ▸ ht)

/-- All other names have the literals that they had. -/
lemma literalsOf_eq (name : String) (hname : name ≠ "PermitAll") :
    literalsOf tags' name = literalsOf tags name := by
  obtain ⟨before, after, t, ht⟩ := h
  apply literalsOf_insert_of_ne
  rw [ht]
  exact hname.symm

end Opened

/-- The row, with access for everybody. -/
def Row.opened (r : Row) : Row := { r with roles := "[all]" }

namespace Declaration

/-! ## Methods that are left out as internal -/

/-- A public and documented method, which no container calls by itself, is left out because only the
system may call it. -/
structure Withholds (d : Declaration) (m : Member) : Prop where
  method : m.kind = .method
  isPublic : "public" ∈ m.modifiers
  noHook : ¬ (Carries m.tags "PostConstruct" ∨ Carries m.tags "PreDestroy")
  described : literalsOf m.tags "Description" ≠ ∅
  closed : ¬ d.IsOpen (.method m)
  internal : d.rolesOf (.method m) = {"system"} ∨ d.rolesOf (.method m) = {"system", "system-web"}

instance (d : Declaration) : DecidablePred d.Withholds := fun m =>
  decidable_of_iff
    (m.kind = .method ∧ "public" ∈ m.modifiers ∧
      ¬ (Carries m.tags "PostConstruct" ∨ Carries m.tags "PreDestroy") ∧
      literalsOf m.tags "Description" ≠ ∅ ∧ ¬ d.IsOpen (.method m) ∧
      (d.rolesOf (.method m) = {"system"} ∨ d.rolesOf (.method m) = {"system", "system-web"}))
    ⟨fun ⟨h₁, h₂, h₃, h₄, h₅, h₆⟩ => ⟨h₁, h₂, h₃, h₄, h₅, h₆⟩,
      fun ⟨h₁, h₂, h₃, h₄, h₅, h₆⟩ => ⟨h₁, h₂, h₃, h₄, h₅, h₆⟩⟩

/-- The methods of an examined type that are left out as internal, in order. -/
def withheld (d : Declaration) : List Member :=
  if d.IsExamined then d.members.filter fun m => d.Withholds m else []

/-- These are the methods whose verdict says that their roles are internal. -/
lemma withholds_iff_verdict {d : Declaration} {m : Member} :
    d.Withholds m ↔ m.kind = .method ∧
      ∃ roles, verdict d (ClassPolicy.ofTags d.tags) m = .skipped (.internalOnly roles) := by
  rw [verdict_eq]
  constructor
  · intro h
    rw [if_neg (not_not.2 h.isPublic), if_neg h.noHook, if_neg h.described, if_neg h.closed,
      if_pos h.internal]
    exact ⟨h.method, _, rfl⟩
  · rintro ⟨hm, roles, hskipped⟩
    split_ifs at hskipped with hpublic hhook hblank hopen hsystem
    -- every other verdict gives another reason, or none
    · cases hskipped
    · cases hskipped
    · exact ⟨hm, hpublic, hhook, hblank, hopen, hsystem⟩
    · cases hskipped

lemma not_reports_of_withholds {d : Declaration} {m : Member} (h : d.Withholds m) :
    ¬ d.Reports m := by
  intro hr
  rcases hr.access with hopen | ⟨hone, htwo⟩
  · exact h.closed hopen
  · exact h.internal.elim hone htwo

/-! ## `PermitAll` on the type -/

section OnType

variable {d : Declaration} {tags : List Tag} (h : Opened d.tags tags)

include h

lemma isExamined_withTags_iff : { d with tags }.IsExamined ↔ d.IsExamined := by
  unfold IsExamined IsManaged
  simp only [h.carries_iff "Description" (by decide),
    h.carries_iff "Stateless" (by decide), h.carries_iff "Stateful" (by decide),
    h.carries_iff "Local" (by decide), h.carries_iff "Remote" (by decide)]

/-- Now everybody has access to all of the type. -/
lemma isOpen_withTags (s : Scope) : { d with tags }.IsOpen s := by
  cases s with
  | whole => exact h.carries_permitAll
  | method m => exact Or.inl h.carries_permitAll

/-- So the row of a scope shows it, and is else as it was. -/
lemma rowOf_withTags (s : Scope) : { d with tags }.rowOf s = (d.rowOf s).opened := by
  unfold rowOf Row.opened
  rw [if_pos (isOpen_withTags h s)]
  cases s with
  | whole => simp only [textsOf, h.literalsOf_eq "Description" (by decide)]
  | method m => rfl

/-- What is reported now was reported before or left out as internal. -/
lemma reports_withTags_iff (m : Member) :
    { d with tags }.Reports m ↔ d.Reports m ∨ d.Withholds m := by
  constructor
  · intro hr
    by_cases haccess : d.IsOpen (.method m) ∨
        d.rolesOf (.method m) ≠ {"system"} ∧ d.rolesOf (.method m) ≠ {"system", "system-web"}
    · exact Or.inl ⟨hr.method, hr.isPublic, hr.noHook, hr.described, haccess⟩
    · obtain ⟨hclosed, hinternal⟩ := not_or.1 haccess
      refine Or.inr ⟨hr.method, hr.isPublic, hr.noHook, hr.described, hclosed, ?_⟩
      rwa [not_and_or, not_not, not_not] at hinternal
  · have hopen : { d with tags }.IsOpen (.method m) := isOpen_withTags h _
    rintro (hr | hw)
    · exact ⟨hr.method, hr.isPublic, hr.noHook, hr.described, Or.inl hopen⟩
    · exact ⟨hw.method, hw.isPublic, hw.noHook, hw.described, Or.inl hopen⟩

/-- The rows of a type that is not examined are those from before. -/
lemma rows_withTags_of_not_isExamined (hexamined : ¬ d.IsExamined) :
    { d with tags }.rows = d.rows.map Row.opened := by
  rw [rows_of_not_isExamined hexamined,
    rows_of_not_isExamined (mt (isExamined_withTags_iff h).1 hexamined), rowOf_withTags h]
  simp only [h.carries_iff "Description" (by decide)]
  split
  · rfl
  · rfl

/-- The members that are reported now, apart from those that were, are the internal ones. -/
lemma filter_withTags (members : List Member) :
    (members.filter fun m => { d with tags }.Reports m).filter (fun m => d.Reports m) =
        members.filter (fun m => d.Reports m) ∧
      (members.filter fun m => { d with tags }.Reports m).filter (fun m => !decide (d.Reports m)) =
        members.filter fun m => d.Withholds m := by
  simp only [List.filter_filter, reports_withTags_iff h]
  constructor
  · apply List.filter_congr
    intro m _
    by_cases hr : d.Reports m
    · simp [hr]
    · simp [hr]
  · apply List.filter_congr
    intro m _
    by_cases hw : d.Withholds m
    · simp [hw, not_reports_of_withholds hw]
    · simp [hw]

/-- The rows from before are among those of now, in the same order. -/
lemma sublist_rows_withTags : (d.rows.map Row.opened).Sublist { d with tags }.rows := by
  by_cases hexamined : d.IsExamined
  · rw [rows_of_isExamined hexamined, rows_of_isExamined ((isExamined_withTags_iff h).2 hexamined),
      List.map_map]
    simp only [rowOf_withTags h]
    apply List.Sublist.map
    rw [← (filter_withTags h d.members).1]
    exact List.filter_sublist
  · rw [rows_withTags_of_not_isExamined h hexamined]

/-- The other rows of now are those of the methods that were left out as internal. -/
lemma perm_rows_withTags :
    { d with tags }.rows.Perm
      (d.rows.map Row.opened ++ d.withheld.map fun m => { d with tags }.rowOf (.method m)) := by
  unfold withheld
  by_cases hexamined : d.IsExamined
  · obtain ⟨hreports, hwithholds⟩ := filter_withTags h d.members
    rw [if_pos hexamined, rows_of_isExamined hexamined,
      rows_of_isExamined ((isExamined_withTags_iff h).2 hexamined), List.map_map]
    simp only [rowOf_withTags h]
    have hsplit := List.filter_append_perm (fun m => decide (d.Reports m))
      (d.members.filter fun m => { d with tags }.Reports m)
    rw [hreports, hwithholds] at hsplit
    have hmap := (hsplit.map fun m => (d.rowOf (.method m)).opened).symm
    rw [List.map_append] at hmap
    exact hmap
  · rw [if_neg hexamined, rows_withTags_of_not_isExamined h hexamined, List.map_nil,
      List.append_nil]

end OnType

/-! ## `PermitAll` on a member -/

/-- The row of a member in the report of its type. -/
def reported? (d : Declaration) (m : Member) : Option Row :=
  if d.IsExamined then d.memberRow? m else none

/-- A member stands in the report of its type between what comes from the members around it. -/
lemma rows_around (d : Declaration) (above below : List Member) :
    ∃ before after : List Row, ∀ m : Member,
      { d with members := above ++ m :: below }.rows =
        before ++ ({ d with members := above ++ m :: below }.reported? m).toList ++ after := by
  by_cases hexamined : d.IsExamined
  · refine ⟨above.filterMap d.memberRow?, below.filterMap d.memberRow?, ?_⟩
    intro m
    have hexamined' : { d with members := above ++ m :: below }.IsExamined := hexamined
    have hrow : { d with members := above ++ m :: below }.memberRow? = d.memberRow? := rfl
    unfold reported?
    rw [if_pos hexamined', rows_eq_filterMap hexamined', hrow, List.filterMap_append,
      List.append_assoc]
    congr 1
    rcases hm : d.memberRow? m with _ | row
    · rw [List.filterMap_cons_none hm]
      rfl
    · rw [List.filterMap_cons_some hm]
      rfl
  · refine ⟨d.rows, [], ?_⟩
    intro m
    have hexamined' : ¬ { d with members := above ++ m :: below }.IsExamined := hexamined
    unfold reported?
    rw [if_neg hexamined', rows_of_not_isExamined hexamined', rows_of_not_isExamined hexamined]
    simp
    rfl

/-- A member that has a row keeps it. -/
lemma memberRow?_withTags {d : Declaration} {m : Member} {tags : List Tag}
    (h : Opened m.tags tags) {r : Row} (hr : d.memberRow? m = some r) :
    d.memberRow? { m with tags } = some r.opened := by
  rw [memberRow?_eq] at hr ⊢
  by_cases hreports : d.Reports m
  · have hopen : d.IsOpen (.method { m with tags }) := Or.inr h.carries_permitAll
    have hhook : ¬ (Carries tags "PostConstruct" ∨ Carries tags "PreDestroy") := by
      rw [h.carries_iff "PostConstruct" (by decide), h.carries_iff "PreDestroy" (by decide)]
      exact hreports.noHook
    have htexts : literalsOf tags "Description" = literalsOf m.tags "Description" :=
      h.literalsOf_eq "Description" (by decide)
    have hreports' : d.Reports { m with tags } :=
      ⟨hreports.method, hreports.isPublic, hhook, htexts ▸ hreports.described, Or.inl hopen⟩
    rw [if_pos hreports] at hr
    rw [if_pos hreports', ← Option.some.inj hr]
    unfold rowOf Row.opened
    simp only [if_pos hopen, textsOf, htexts]
  · rw [if_neg hreports] at hr
    cases hr

/-- **Giving everybody access only widens a report.** With a `PermitAll` more on the type, every row
shows `[all]`. The rows from before are there, in the same order and with `[all]` for roles, and the
others are those of the methods that were left out as internal. With a `PermitAll` more on a member,
only the row of this member may change or come in anew. -/
theorem rows_opened (d : Declaration) :
    (∀ tags, Opened d.tags tags →
      (∀ r ∈ { d with tags }.rows, r.roles = "[all]") ∧
        (d.rows.map Row.opened).Sublist { d with tags }.rows ∧
        { d with tags }.rows.Perm
          (d.rows.map Row.opened ++
            d.withheld.map fun m => { d with tags }.rowOf (.method m))) ∧
      ∀ (above below : List Member) (m : Member) (tags : List Tag),
        d.members = above ++ m :: below → Opened m.tags tags →
          ∃ before after : List Row,
            d.rows = before ++ (d.reported? m).toList ++ after ∧
              { d with members := above ++ { m with tags } :: below }.rows =
                before ++ (d.reported? { m with tags }).toList ++ after ∧
              ∀ r, d.reported? m = some r → d.reported? { m with tags } = some r.opened := by
  constructor
  · intro tags h
    refine ⟨?_, sublist_rows_withTags h, perm_rows_withTags h⟩
    intro r hr
    rw [rows_eq_map_scopes] at hr
    obtain ⟨s, -, rfl⟩ := List.mem_map.1 hr
    rw [rowOf_withTags h]
    rfl
  · intro above below m tags hmembers h
    obtain ⟨before, after, hrows⟩ := d.rows_around above below
    have hsame : { d with members := above ++ m :: below } = d := by rw [← hmembers]
    refine ⟨before, after, ?_, hrows _, ?_⟩
    · have hrow := hrows m
      rwa [hsame] at hrow
    · intro r hr
      unfold reported? at hr ⊢
      by_cases hexamined : d.IsExamined
      · rw [if_pos hexamined] at hr ⊢
        exact memberRow?_withTags h hr
      · rw [if_neg hexamined] at hr
        cases hr

/-! ### A bean with an internal method -/

/-- A documented public method. -/
def documented (name : String) (tags : List Tag) : Member where
  name := name
  modifiers := ["public"]
  tags := ⟨"Description", some (.literal name)⟩ :: tags

/-- A bean for the system with a method for clerks, and with further tags on the bean and on its
other method. -/
def ledger (onType onSweep : List Tag) : Declaration where
  kind := .classType
  name := "Ledger"
  tags := ⟨"Stateless", none⟩ :: onType ++ [⟨"RolesAllowed", some (.literal "system")⟩]
  members :=
    [documented "post" [⟨"RolesAllowed", some (.literal "clerk")⟩], documented "sweep" onSweep]

/-- A `PermitAll` on the bean, or on its internal method, brings the row of this method in. -/
theorem rows_opened_ledger :
    (Opened (ledger [] []).tags (ledger [⟨"PermitAll", none⟩] []).tags ∧
      (ledger [] []).rows = [⟨"Ledger", "post", "[post]", "[clerk]"⟩] ∧
      (ledger [] []).withheld.map Member.name = ["sweep"] ∧
      (ledger [⟨"PermitAll", none⟩] []).rows.Perm
        [⟨"Ledger", "post", "[post]", "[all]"⟩, ⟨"Ledger", "sweep", "[sweep]", "[all]"⟩]) ∧
      ∃ before after : List Row,
        (ledger [] []).rows = before ++ after ∧
          (ledger [] [⟨"PermitAll", none⟩]).rows =
            before ++ [⟨"Ledger", "sweep", "[sweep]", "[all]"⟩] ++ after := by
  obtain ⟨htype, hmember⟩ := rows_opened (ledger [] [])
  have hopened : Opened (ledger [] []).tags (ledger [⟨"PermitAll", none⟩] []).tags :=
    .intro [_] [_] _ rfl
  obtain ⟨-, -, hperm⟩ := htype _ hopened
  obtain ⟨before, after, hbefore, hafter, -⟩ := hmember [_] [] (documented "sweep" []) _ rfl
    (.intro [_] [] ⟨"PermitAll", none⟩ rfl)
  have hnow : (ledger [] []).rows.map Row.opened ++ (ledger [] []).withheld.map (fun m =>
      (ledger [⟨"PermitAll", none⟩] []).rowOf (.method m)) =
      [⟨"Ledger", "post", "[post]", "[all]"⟩, ⟨"Ledger", "sweep", "[sweep]", "[all]"⟩] := by
    decide +kernel
  have hnone : (ledger [] []).reported? (documented "sweep" []) = none := by decide +kernel
  have hsome : (ledger [] []).reported? (documented "sweep" [⟨"PermitAll", none⟩]) =
      some ⟨"Ledger", "sweep", "[sweep]", "[all]"⟩ := by decide +kernel
  refine ⟨⟨hopened, by decide +kernel, by decide +kernel, hnow ▸ hperm⟩, before, after, ?_, ?_⟩
  · rw [hbefore, hnone, Option.toList_none, List.append_nil]
  · exact (congrArg (fun own => before ++ own.toList ++ after) hsome) ▸ hafter

end Declaration

end RoleAudit
