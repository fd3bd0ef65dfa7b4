import RoleAudit.Tag

/-!
# Declarations

The part of a Java source that access rules are read from: top-level types with their tags, and the
members of each type with their modifiers and tags. What a member does is not part of it.
-/

namespace RoleAudit

/-- What a type declaration declares. -/
inductive TypeKind where
  | classType
  | interfaceType
  /-- An enum, a record or a tag type; such types are never reported. -/
  | other
  deriving Repr, DecidableEq, Inhabited

/-- A name that denotes no kind of type. -/
structure UnknownKind where
  name : String
  deriving Repr, DecidableEq

/-- The wording of the refusal of a kind. -/
def UnknownKind.message (e : UnknownKind) : String :=
  "Unknown declaration kind: " ++ Text.quoted e.name

namespace TypeKind

/-- The name of a kind. -/
def name : TypeKind → String
  | classType => "class"
  | interfaceType => "interface"
  | other => "other"

/-- The kind of a name. -/
def ofName (s : String) : Except UnknownKind TypeKind :=
  if s == "class" then .ok classType
  else if s == "interface" then .ok interfaceType
  else if s == "other" then .ok other
  else .error ⟨s⟩

theorem ofName_name (k : TypeKind) : ofName k.name = .ok k := by cases k <;> rfl

end TypeKind

/-- What a member of a type body is. -/
inductive MemberKind where
  | method
  | constructor
  | field
  | type
  | other
  deriving Repr, DecidableEq, Inhabited

namespace MemberKind

/-- The name of a kind. -/
def name : MemberKind → String
  | method => "method"
  | constructor => "constructor"
  | field => "field"
  | type => "type"
  | other => "other"

/-- All kinds. -/
def all : List MemberKind := [method, constructor, field, type, other]

/-- The kind of a name. -/
def ofName? (s : String) : Option MemberKind := all.find? fun k => k.name == s

end MemberKind

/-- A member of a type body. -/
structure Member where
  kind : MemberKind := .method
  /-- The member's name; empty for members that declare none or several. -/
  name : String := ""
  /-- The keywords in front of it, in order. -/
  modifiers : List String := []
  tags : List Tag := []
  /-- The line of its first token, from 1. -/
  line : Nat := 0
  deriving Repr, BEq, Inhabited

/-- The member has the modifier `public`. -/
def Member.isPublic (m : Member) : Bool := m.modifiers.contains "public"

/-- A top-level type declaration. -/
structure Declaration where
  kind : TypeKind
  name : String := ""
  tags : List Tag := []
  members : List Member := []
  /-- The line of its first token, from 1. -/
  line : Nat := 0
  deriving Repr, BEq, Inhabited

end RoleAudit
