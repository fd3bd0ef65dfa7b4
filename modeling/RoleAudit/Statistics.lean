import RoleAudit.Row

/-!
# Statistics of a run

Counts of what an audit has seen and reported. Rows of whole classes and rows of methods are counted
apart; the number of all rows is their sum and is not counted by itself.
-/

namespace RoleAudit

/-- The counts of a run. -/
structure Statistics where
  files : Nat := 0
  types : Nat := 0
  classRows : Nat := 0
  methodRows : Nat := 0
  deriving Repr, DecidableEq, Inhabited

namespace Statistics

/-- All rows. -/
def rows (s : Statistics) : Nat := s.classRows + s.methodRows

/-- Counts a row. -/
def countRow (s : Statistics) (r : Row) : Statistics :=
  if r.isClassRow then { s with classRows := s.classRows + 1 }
  else { s with methodRows := s.methodRows + 1 }

/-- Counts files. -/
def addFiles (s : Statistics) (n : Nat) : Statistics := { s with files := s.files + n }

/-- Counts types. -/
def addTypes (s : Statistics) (n : Nat) : Statistics := { s with types := s.types + n }

/-- Each row is counted once. -/
@[simp] theorem rows_countRow (s : Statistics) (r : Row) : (s.countRow r).rows = s.rows + 1 := by
  unfold countRow rows
  split <;> simp <;> omega

/-- The counts by name, as a run summary lists them. -/
def entries (s : Statistics) : List (String × Nat) :=
  [("files_scanned", s.files), ("types_inspected", s.types), ("rows_emitted", s.rows),
    ("class_rows", s.classRows), ("method_rows", s.methodRows)]

/-- The counts in one line. -/
def text (s : Statistics) : String :=
  "AuditStats(files=" ++ toString s.files ++ ", types=" ++ toString s.types ++ ", rows=" ++
    toString s.rows ++ ", class_rows=" ++ toString s.classRows ++ ", method_rows=" ++
    toString s.methodRows ++ ")"

end Statistics

end RoleAudit
