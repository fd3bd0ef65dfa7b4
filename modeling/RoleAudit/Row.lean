/-!
# Report rows

A report row says who may call what. In the file it is one line of fields, each followed by a comma,
so that every line ends in an empty field.
-/

namespace RoleAudit

/-- The member name of a row that stands for a whole class. -/
def wholeClass : String := "*"

/-- One line of the report. -/
structure Row where
  /-- Simple name of the type. -/
  className : String
  /-- Method name, or `*` for a whole class. -/
  memberName : String
  /-- Rendered description texts. -/
  description : String
  /-- `[all]` or the rendered roles. -/
  roles : String
  deriving Repr, DecidableEq, Inhabited

namespace Row

/-- The fields of a row in their order. -/
def fields (r : Row) : List String := [r.className, r.memberName, r.description, r.roles]

/-- The line of a row, with its line break. -/
def line (r : Row) : String :=
  r.className ++ "," ++ r.memberName ++ "," ++ r.description ++ "," ++ r.roles ++ ",\n"

/-- The row stands for a whole class. -/
def isClassRow (r : Row) : Bool := r.memberName == wholeClass

end Row

/-- The first line of every report. -/
def reportHeader : String := "Class Name,Method Name,Description,Roles,\n"

end RoleAudit
