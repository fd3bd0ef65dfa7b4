import Mathlib.Logic.Relation
import RoleAudit.Proofs.Policy.Alike

/-!
# Other spellings of the same rules

The same rules can be written in many ways. Tags that nobody looks for may be there or not, tags may
stand in another order, an array may list its literals in another order, twice, or among other
things, and a literal may stand in an array of its own. None of this shows in a report.

* `TagValue.Rearranged`, `TagValue.Respelled`: other ways to write an array and a value.
* `Respelled`: other ways to write the tags of a scope.
* `Declaration.Respelled`: one step from a way to write a declaration to another.
* `Declaration.rows_respelled`: any number of steps, forth or back, leaves the rows as they are.
-/

namespace RoleAudit

/-! ## Values -/

namespace TagValue

/-- The same literals in an array. What counts is which literals stand in it directly. -/
inductive Rearranged : List TagValue → List TagValue → Prop
  /-- The elements stand in another order. -/
  | permuted {vs ws : List TagValue} (h : vs.Perm ws) : Rearranged vs ws
  /-- A literal is written once more. -/
  | repeated (before after : List TagValue) (text : String)
      (h : .literal text ∈ before ++ after) :
    Rearranged (before ++ after) (before ++ .literal text :: after)
  /-- Something that is no literal is put in, such as an array. -/
  | added (before after : List TagValue) (v : TagValue) (h : v.literal? = none) :
    Rearranged (before ++ after) (before ++ v :: after)
  /-- An array among the elements is rearranged. -/
  | nested (before after : List TagValue) {vs ws : List TagValue} (h : Rearranged vs ws) :
    Rearranged (before ++ .array vs :: after) (before ++ .array ws :: after)

/-- Another way to write a value. -/
inductive Respelled : TagValue → TagValue → Prop
  | array {vs ws : List TagValue} (h : Rearranged vs ws) : Respelled (.array vs) (.array ws)
  /-- A literal is put into an array of its own. -/
  | bracketed (text : String) : Respelled (.literal text) (.array [.literal text])

lemma Rearranged.mem_iff {vs ws : List TagValue} (h : Rearranged vs ws) (text : String) :
    .literal text ∈ vs ↔ .literal text ∈ ws := by
  induction h with
  | permuted h => exact h.mem_iff
  | repeated before after s h =>
    rw [List.mem_append, List.mem_append, List.mem_cons, or_left_comm, ← List.mem_append]
    constructor
    · exact Or.inr
    · rintro (hs | hmem)
      · exact hs ▸ h
      · exact hmem
  | added before after v h =>
    have hv : .literal text ≠ v := by
      rintro rfl
      simp [literal?] at h
    simp [hv]
  | nested before after _ _ => simp

/-- **Another spelling of a value has the same literals.** -/
lemma Respelled.literals_eq {v w : TagValue} (h : v.Respelled w) : v.literals = w.literals := by
  ext text
  cases h with
  | array h => rw [mem_literals_array, mem_literals_array, h.mem_iff]
  | bracketed s => simp [literals, literal?]

end TagValue

/-! ## The tags of a scope -/

/-- A list is related to itself with one element exchanged for a related one. -/
lemma forall₂_exchange {α : Type} {R : α → α → Prop} (hrefl : ∀ a, R a a) (before after : List α)
    {a b : α} (h : R a b) : List.Forall₂ R (before ++ a :: after) (before ++ b :: after) :=
  List.rel_append (List.forall₂_same.2 fun c _ => hrefl c)
    (.cons h (List.forall₂_same.2 fun c _ => hrefl c))

/-- The names that are looked for in a scope with these marks. -/
def inspected (marks : List String) : List String :=
  "RolesAllowed" :: "PermitAll" :: "Description" :: marks

/-- Another way to write the tags of a scope with these marks. -/
inductive Respelled (marks : List String) : List Tag → List Tag → Prop
  /-- A tag that nobody looks for is put in. -/
  | added (before after : List Tag) (t : Tag) (h : t.name ∉ inspected marks) :
    Respelled marks (before ++ after) (before ++ t :: after)
  /-- The tags stand in another order. Where the last one of a name counts, those of this name keep
  theirs. -/
  | permuted {ts us : List Tag} (h : ts.Perm us)
      (hroles : ts.filter (·.name = "RolesAllowed") = us.filter (·.name = "RolesAllowed"))
      (htexts : ts.filter (·.name = "Description") = us.filter (·.name = "Description")) :
    Respelled marks ts us
  /-- A value is written in another way. -/
  | valued (before after : List Tag) (name : String) {v w : TagValue} (h : v.Respelled w) :
    Respelled marks (before ++ ⟨name, some v⟩ :: after) (before ++ ⟨name, some w⟩ :: after)

lemma Tag.Alike.refl (t : Tag) : t.Alike t := ⟨rfl, fun _ => rfl⟩

/-- Tags with another spelling of a value are read alike. -/
lemma Tag.alike_of_respelled (name : String) {v w : TagValue} (h : v.Respelled w) :
    Tag.Alike ⟨name, some v⟩ ⟨name, some w⟩ :=
  ⟨rfl, fun _ => h.literals_eq⟩

/-- The literals of a name do not depend on the order of the other tags. -/
lemma literalsOf_of_filter_eq {ts us : List Tag} {name : String}
    (h : ts.filter (·.name = name) = us.filter (·.name = name)) :
    literalsOf ts name = literalsOf us name := by
  unfold literalsOf lastNamed
  rw [h]

/-- A scope carries the same names in any order of its tags. -/
lemma carries_perm {ts us : List Tag} (h : ts.Perm us) (name : String) :
    Carries ts name ↔ Carries us name := by
  unfold Carries
  simp only [h.mem_iff]

/-- **Another spelling of the tags says the same about the scope.** -/
lemma Respelled.agree {marks : List String} {ts us : List Tag} (h : Respelled marks ts us) :
    Agree marks ts us := by
  cases h with
  | added before after t h =>
    simp only [inspected, List.mem_cons, not_or] at h
    obtain ⟨hroles, hpermit, htexts, hmarks⟩ := h
    have hcarries (name : String) (hname : t.name ≠ name) :
        Carries (before ++ after) name ↔ Carries (before ++ t :: after) name := by
      rw [carries_insert, or_iff_right hname]
    refine ⟨(literalsOf_insert_of_ne before after hroles).symm, hcarries _ hpermit,
      hcarries _ htexts, (literalsOf_insert_of_ne before after htexts).symm, ?_⟩
    intro name hname
    exact hcarries name fun hsame => hmarks (hsame ▸ hname)
  | permuted h hroles htexts =>
    exact ⟨literalsOf_of_filter_eq hroles, carries_perm h _, carries_perm h _,
      literalsOf_of_filter_eq htexts, fun name _ => carries_perm h name⟩
  | valued before after name h =>
    exact agree_of_alike
      (forall₂_exchange Tag.Alike.refl before after (Tag.alike_of_respelled name h)) marks

/-! ## Declarations -/

/-- Another way to write a member. -/
inductive Member.Respelled : Member → Member → Prop
  | tags (m : Member) {tags : List Tag} (h : RoleAudit.Respelled lifecycleTags m.tags tags) :
    m.Respelled { m with tags }
  /-- The tags of anything but a public method are others altogether. -/
  | unread (m : Member) (tags : List Tag) (h : m.kind ≠ .method ∨ "public" ∉ m.modifiers) :
    m.Respelled { m with tags }

/-- One step to another way to write a declaration. -/
inductive Declaration.Respelled : Declaration → Declaration → Prop
  | tags (d : Declaration) {tags : List Tag} (h : RoleAudit.Respelled stereotypes d.tags tags) :
    d.Respelled { d with tags }
  | member (d : Declaration) (above below : List Member) {m n : Member} (h : m.Respelled n) :
    Respelled { d with members := above ++ m :: below } { d with members := above ++ n :: below }

lemma Member.Respelled.agrees {m n : Member} (h : m.Respelled n) : m.Agrees n := by
  cases h with
  | tags h => exact ⟨rfl, rfl, rfl, fun _ _ => h.agree⟩
  | unread tags h =>
    refine ⟨rfl, rfl, rfl, ?_⟩
    intro hkind hpublic
    have hmem : "public" ∈ m.modifiers := List.contains_iff_mem.1 hpublic
    rcases h with h | h
    · exact absurd hkind h
    · exact absurd hmem h

namespace Declaration

/-- One step leaves what the rows depend on as it is. -/
lemma Respelled.agrees {d e : Declaration} (h : d.Respelled e) : d.Agrees e := by
  cases h with
  | tags d h =>
    exact ⟨rfl, rfl, h.agree, List.forall₂_same.2 fun m _ => Member.Agrees.refl m⟩
  | member d above below h =>
    exact ⟨rfl, rfl, .refl _ _, forall₂_exchange Member.Agrees.refl above below h.agrees⟩

/-- **The rows of a declaration do not depend on how its tags are written.** -/
theorem rows_respelled {d e : Declaration} (h : Relation.EqvGen Respelled d e) :
    d.rows = e.rows := by
  induction h with
  | rel d e hstep => exact hstep.agrees.rows_eq
  | refl d => rfl
  | symm d e _ ih => exact ih.symm
  | trans d e f _ _ hde hef => exact hde.trans hef

/-! ### One bean in two spellings -/

/-- A bean with a public method and a field, and with these tags on them. -/
def till (onType onOpen onLog : List Tag) : Declaration where
  kind := .classType
  name := "Till"
  tags := ⟨"Stateless", none⟩ :: onType
  members := [{ name := "open", modifiers := ["public"], tags := onOpen },
    { kind := .field, name := "log", tags := onLog }]

/-- The roles of an array. -/
def rolesAmong (vs : List TagValue) : Tag := ⟨"RolesAllowed", some (.array vs)⟩

/-- The bean as it was written first. -/
def plainTill : Declaration :=
  till [rolesAmong [.literal "clerk", .literal "auditor"]]
    [⟨"Description", some (.literal "Open")⟩] []

/-- The bean as it was edited later. -/
def editedTill : Declaration :=
  till [rolesAmong [.literal "auditor", .literal "auditor", .array [.literal "teller"],
      .literal "clerk"], ⟨"Deprecated", none⟩]
    [⟨"Description", some (.array [.literal "Open"])⟩] [⟨"PermitAll", none⟩]

/-- Editing goes from the one to the other step by step, and both have the same row. -/
theorem rows_respelled_till :
    Relation.EqvGen Respelled plainTill editedTill ∧ plainTill.rows = editedTill.rows ∧
      plainTill.rows = [⟨"Till", "open", "[Open]", "[auditor; clerk]"⟩] := by
  have onType {ts us : List Tag}
      (h : RoleAudit.Respelled stereotypes (⟨"Stateless", none⟩ :: ts) (⟨"Stateless", none⟩ :: us))
      (onOpen onLog : List Tag) :
      Relation.EqvGen Respelled (till ts onOpen onLog) (till us onOpen onLog) :=
    .rel _ _ (.tags (till ts onOpen onLog) h)
  have onOpen (onType : List Tag) {ts us : List Tag}
      (h : RoleAudit.Respelled lifecycleTags ts us) (onLog : List Tag) :
      Relation.EqvGen Respelled (till onType ts onLog) (till onType us onLog) :=
    .rel _ _ (.member (till onType ts onLog) [] _ (.tags _ h))
  have onLog (onType onOpen ts us : List Tag) :
      Relation.EqvGen Respelled (till onType onOpen ts) (till onType onOpen us) :=
    .rel _ _ (.member (till onType onOpen ts) [_] [] (.unread _ us (.inl MemberKind.noConfusion)))
  have hedited : Relation.EqvGen Respelled plainTill editedTill := by
    refine .trans _ _ _ (onLog _ _ _ [⟨"PermitAll", none⟩]) ?_
    refine .trans _ _ _ (onOpen _ (.valued [] [] _ (.bracketed "Open")) _) ?_
    -- the roles: one element after the other, then their order
    refine .trans _ _ _ (onType (.valued [_] [] _
      (.array (.added [_] [_] (.array [.literal "teller"]) rfl))) _ _) ?_
    refine .trans _ _ _ (onType (.valued [_] [] _
      (.array (.repeated [_, _, _] [] "auditor" (by simp)))) _ _) ?_
    refine .trans _ _ _ (onType (.valued [_] [] _
      (.array (.permuted (List.reverse_perm _).symm))) _ _) ?_
    exact onType (.added [_, _] [] ⟨"Deprecated", none⟩ (by decide)) _ _
  exact ⟨hedited, rows_respelled hedited, by decide +kernel⟩

end Declaration

end RoleAudit
