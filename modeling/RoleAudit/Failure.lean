import RoleAudit.Files.Fault
import RoleAudit.Source.Tree
import RoleAudit.Text.Blank

/-!
# Failures of an audit

An audit ends early if its report cannot be opened, if something on its way through the sources
cannot be read, or if a source does not follow the grammar and this matters. Each failure knows the
path it is about and, where the operating system is behind it, the refusal.
-/

namespace RoleAudit

open RoleAudit.Files RoleAudit.Text

/-- Why an audit ends early. -/
inductive Failure where
  /-- The report file cannot be opened. -/
  | sinkUnavailable (path : String) (cause : Refusal)
  /-- There is nothing to scan at a path. -/
  | sourceNotFound (path : String)
  /-- An entry of a directory cannot be examined. -/
  | cannotExamine (path : String) (cause : Refusal)
  /-- A source cannot be read. -/
  | unreadable (path : String) (cause : Refusal)
  /-- A source has so many flaws, the first of them at a place. -/
  | flawed (path : String) (flaws : Nat) (first : Option Source.Point)
  deriving Repr, DecidableEq

namespace Failure

/-- The wording of the flaws of a source. -/
def flawText (path : String) (flaws : Nat) (first : Option Source.Point) : String :=
  let location := match first with
    | some p =>
      " (first at line " ++ toString p.line ++ ", column " ++ toString p.column ++ ")"
    | none => ""
  "File " ++ path ++ " contains " ++ toString flaws ++ " syntax error(s)" ++ location

/-- The message of a failure. -/
def message : Failure → String
  | sinkUnavailable path cause =>
    "Cannot create output stream for " ++ path ++ ": " ++ cause.message
  | sourceNotFound path => "Source path not found: " ++ path
  | cannotExamine path cause => "Cannot stat " ++ path ++ ": " ++ cause.message
  | unreadable path cause => "Cannot read source file " ++ path ++ ": " ++ cause.message
  | flawed path flaws first => flawText path flaws first

/-- Every failure says something. -/
theorem message_ne_empty (f : Failure) : f.message ≠ "" := by
  cases f with
  | sinkUnavailable path cause =>
    have h : "Cannot create output stream for " ≠ "" := by decide
    exact append_ne_empty_left (append_ne_empty_left (append_ne_empty_left h _) _) _
  | sourceNotFound path =>
    have h : "Source path not found: " ≠ "" := by decide
    exact append_ne_empty_left h _
  | cannotExamine path cause =>
    have h : "Cannot stat " ≠ "" := by decide
    exact append_ne_empty_left (append_ne_empty_left (append_ne_empty_left h _) _) _
  | unreadable path cause =>
    have h : "Cannot read source file " ≠ "" := by decide
    exact append_ne_empty_left (append_ne_empty_left (append_ne_empty_left h _) _) _
  | flawed path flaws first =>
    have h : " syntax error(s)" ≠ "" := by decide
    exact append_ne_empty_left (append_ne_empty_right h _) _

/-- The path that a failure is about. -/
def path : Failure → String
  | sinkUnavailable path _ => path
  | sourceNotFound path => path
  | cannotExamine path _ => path
  | unreadable path _ => path
  | flawed path .. => path

/-- The refusal behind a failure. -/
def cause? : Failure → Option Refusal
  | sinkUnavailable _ cause => some cause
  | sourceNotFound _ => none
  | cannotExamine _ cause => some cause
  | unreadable _ cause => some cause
  | flawed .. => none

end Failure

end RoleAudit
