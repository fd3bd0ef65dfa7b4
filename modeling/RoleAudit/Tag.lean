import RoleAudit.Roles
import RoleAudit.Text.Quoted
import RoleAudit.Log.Entry

/-!
# Tags

A tag is what a Java source writes as `@Name` in front of a declaration. Its simple name decides
what it means; its single argument, if it has exactly one without a key, is its value.

The contents of a tag are the string literals of its value: one, or those directly in an array.
Everything else in a value is passed over with a remark.
-/

namespace RoleAudit

/-- The single argument of a tag. -/
inductive TagValue where
  /-- A string literal, without its quotes and with escapes as written. -/
  | literal (text : String)
  /-- An array of values, in order. -/
  | array (elements : List TagValue)
  /-- Any other expression, as written. -/
  | other (source : String)
  deriving Repr, BEq, Inhabited

/-- The text that a remark quotes for a value. -/
def TagValue.text : TagValue → String
  | literal text => text
  | array _ => ""
  | other source => source

/-- The text of a string literal. -/
def TagValue.literal? : TagValue → Option String
  | literal text => some text
  | _ => none

/-- A tag by simple name. Tags without arguments, with keyed arguments or with several have no
value. -/
structure Tag where
  name : String
  value : Option TagValue := none
  deriving Repr, BEq, Inhabited

/-- Something in a value that is no string literal. -/
inductive Tag.Remark where
  | element (text tag : String)
  | value (text tag : String)
  deriving Repr, DecidableEq

/-- The log entry of a remark. -/
def Tag.Remark.entry : Tag.Remark → Log.Entry
  | element text tag =>
    ⟨.debug, "extraction.annotations",
      "Ignoring non-literal element " ++ Text.quoted text ++ " in @" ++ tag⟩
  | value text tag =>
    ⟨.debug, "extraction.annotations",
      "Ignoring non-literal value " ++ Text.quoted text ++ " in @" ++ tag⟩

namespace Tag

/-- The normalized string literals that a tag carries. -/
def contents (t : Tag) : List String :=
  match t.value with
  | none => []
  | some (.literal text) => [text]
  | some (.array elements) => Roles.normalize (elements.filterMap TagValue.literal?)
  | some (.other _) => []

/-- What is passed over in reading a tag's contents, in order. -/
def remarks (t : Tag) : List Remark :=
  match t.value with
  | none => []
  | some (.literal _) => []
  | some (.array elements) =>
    (elements.filter fun e => e.literal?.isNone).map fun e => .element e.text t.name
  | some (.other source) => [.value source t.name]

/-- The contents of a tag that may be absent. -/
def contents? (t : Option Tag) : List String :=
  match t with
  | none => []
  | some t => t.contents

/-- The remarks on a tag that may be absent. -/
def remarks? (t : Option Tag) : List Remark :=
  match t with
  | none => []
  | some t => t.remarks

@[simp] theorem contents_literal (name text : String) :
    contents ⟨name, some (.literal text)⟩ = [text] := rfl

@[simp] theorem contents?_none : contents? none = [] := rfl

end Tag

end RoleAudit
