import RoleAudit.Declaration
import RoleAudit.Row

/-!
# The access policy

Which rows a type declaration yields, and which roles each of them shows.

* A class or interface with a `Description` yields one row for the whole type.
* Otherwise only managed components are reported, one row for each public, documented method that
  the container does not call by itself.
* `PermitAll` on the type or the method shows `[all]`. Otherwise the method's roles stand, or the
  type's if the method has none, and a method whose roles are internal is left out.

Where a scope carries a tag twice, the last one counts. `Declaration.findings` gives the rows
together with the remarks on what was passed over, in the order in which they come up;
`Declaration.rows` are the rows alone.
-/

namespace RoleAudit

/-! ## Names that the policy knows -/

/-- Tag names with a meaning. -/
def rolesAllowed : String := "RolesAllowed"
def permitAll : String := "PermitAll"
def descriptionTag : String := "Description"

/-- Tags that mark a type as a managed component. -/
def stereotypes : List String := ["Stateless", "Stateful", "Local", "Remote"]

/-- Tags of methods that the container calls, never a user. -/
def lifecycleTags : List String := ["PostConstruct", "PreDestroy"]

/-- What is shown where everybody has access. -/
def everyone : String := "[all]"

/-! ## Reading the tags of a scope -/

/-- What the tags of a scope have said so far. -/
structure TagScan where
  /-- The last `RolesAllowed`. -/
  roles : Option Tag := none
  /-- A `PermitAll` was met. -/
  permitAll : Bool := false
  /-- The last `Description`. -/
  description : Option Tag := none
  /-- One of the scope's marks was met. -/
  marked : Bool := false
  deriving Repr, BEq, Inhabited

namespace TagScan

/-- Takes in one tag; `marks` are the names that mark the scope. -/
def read (marks : List String) (scan : TagScan) (t : Tag) : TagScan :=
  if t.name == rolesAllowed then { scan with roles := some t }
  else if t.name == RoleAudit.permitAll then { scan with permitAll := true }
  else if t.name == descriptionTag then { scan with description := some t }
  else if marks.contains t.name then { scan with marked := true }
  else scan

/-- Takes in all tags of a scope, in order. -/
def ofTags (marks : List String) (tags : List Tag) : TagScan :=
  tags.foldl (read marks) {}

end TagScan

/-- What the tags of a type say. -/
structure ClassPolicy where
  roles : List String
  permitAll : Bool
  description : Option Tag
  managed : Bool
  deriving Repr, BEq, Inhabited

/-- What the tags of a method say. -/
structure MethodPolicy where
  roles : List String
  permitAll : Bool
  description : List String
  lifecycle : Bool
  deriving Repr, BEq, Inhabited

/-- The policy of a type. -/
def ClassPolicy.ofTags (tags : List Tag) : ClassPolicy :=
  let scan := TagScan.ofTags stereotypes tags
  { roles := Tag.contents? scan.roles, permitAll := scan.permitAll,
    description := scan.description, managed := scan.marked }

/-- The policy of a method. -/
def MethodPolicy.ofTags (tags : List Tag) : MethodPolicy :=
  let scan := TagScan.ofTags lifecycleTags tags
  { roles := Tag.contents? scan.roles, permitAll := scan.permitAll,
    description := Tag.contents? scan.description, lifecycle := scan.marked }

/-- What is passed over in reading the roles of a type. -/
def classRemarks (tags : List Tag) : List Tag.Remark :=
  Tag.remarks? (TagScan.ofTags stereotypes tags).roles

/-- What is passed over in reading the roles and the description of a method. -/
def methodRemarks (tags : List Tag) : List Tag.Remark :=
  let scan := TagScan.ofTags lifecycleTags tags
  Tag.remarks? scan.roles ++ Tag.remarks? scan.description

/-! ## Rows -/

/-- The row of a whole type. -/
def classRow (d : Declaration) (policy : ClassPolicy) : Row where
  className := d.name
  memberName := wholeClass
  description := Roles.render (Tag.contents? policy.description)
  roles := if policy.permitAll then everyone else Roles.render policy.roles

/-- Why a method is left out. -/
inductive Skip where
  | notPublic
  | lifecycleHook
  | undocumented
  | internalOnly (roles : List String)
  deriving Repr, DecidableEq

/-- What becomes of a method. -/
inductive Verdict where
  | reported (row : Row)
  | skipped (reason : Skip)
  deriving Repr, DecidableEq

/-- The row of a verdict. -/
def Verdict.row? : Verdict → Option Row
  | reported row => some row
  | skipped _ => none

/-- The roles that count for a method: its own, or the type's if it has none. -/
def effectiveRoles (cp : ClassPolicy) (mp : MethodPolicy) : List String :=
  if mp.roles.isEmpty then cp.roles else mp.roles

/-- What becomes of a method of a managed component. The reasons to leave it out are tried in
order. -/
def verdict (d : Declaration) (cp : ClassPolicy) (m : Member) : Verdict :=
  let mp := MethodPolicy.ofTags m.tags
  let row (roles : String) : Row := ⟨d.name, m.name, Roles.render mp.description, roles⟩
  if !m.isPublic then .skipped .notPublic
  else if mp.lifecycle then .skipped .lifecycleHook
  else if mp.description.isEmpty then .skipped .undocumented
  else if cp.permitAll || mp.permitAll then .reported (row everyone)
  else
    let roles := effectiveRoles cp mp
    if Roles.isInternal roles then .skipped (.internalOnly roles)
    else .reported (row (Roles.render roles))

/-! ## Findings -/

/-- What is worth a remark but no row. -/
inductive Remark where
  | tag (remark : Tag.Remark)
  | notManaged (type : String)
  | skipped (type method : String) (reason : Skip)
  deriving Repr, DecidableEq

/-- The log entry of a remark. -/
def Remark.entry : Remark → Log.Entry
  | tag remark => remark.entry
  | notManaged type =>
    ⟨.debug, "extraction.engine", "Skipping " ++ type ++ ": not a managed component"⟩
  | skipped type method reason =>
    let name := type ++ "." ++ method
    let text := match reason with
      | .notPublic => "Skipping non-public method " ++ name
      | .lifecycleHook => "Skipping lifecycle hook " ++ name
      | .undocumented => "Skipping undocumented method " ++ name
      | .internalOnly roles =>
        "Suppressing internal-only method " ++ name ++ " (" ++ Roles.render roles ++ ")"
    ⟨.debug, "extraction.engine", text⟩

/-- A row, or a remark. -/
inductive Finding where
  | row (row : Row)
  | remark (remark : Remark)
  deriving Repr, DecidableEq

/-- The row of a finding. -/
def Finding.row? : Finding → Option Row
  | row r => some r
  | remark _ => none

/-- The findings about one member: remarks on the values of its tags if they are read at all, then
the row or the reason why there is none. -/
def memberFindings (d : Declaration) (cp : ClassPolicy) (m : Member) : List Finding :=
  if m.kind = .method then
    let remarks := if m.isPublic then methodRemarks m.tags else []
    let outcome := match verdict d cp m with
      | .reported row => Finding.row row
      | .skipped reason => .remark (.skipped d.name m.name reason)
    remarks.map (fun r => .remark (.tag r)) ++ [outcome]
  else []

/-- Everything found in a type declaration, in order. -/
def Declaration.findings (d : Declaration) : List Finding :=
  if d.kind = .other then []
  else
    let policy := ClassPolicy.ofTags d.tags
    let remarks := (classRemarks d.tags).map fun r => Finding.remark (.tag r)
    match policy.description with
    | some description =>
      remarks ++ description.remarks.map (fun r => .remark (.tag r)) ++ [.row (classRow d policy)]
    | none =>
      if policy.managed then remarks ++ d.members.flatMap (memberFindings d policy)
      else remarks ++ [.remark (.notManaged d.name)]

/-- The rows of a type declaration, in order. -/
def Declaration.rows (d : Declaration) : List Row := d.findings.filterMap Finding.row?

end RoleAudit
