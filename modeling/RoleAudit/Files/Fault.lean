import RoleAudit.Text.Quoted

/-!
# Why a file operation fails

The reasons, as the operating system numbers and words them, and the message that names the path. A
path that holds a NUL is refused before the operating system sees it.
-/

namespace RoleAudit.Files

/-- The operating system's reasons. -/
inductive Reason where
  | notFound
  | alreadyExists
  | notDirectory
  | isDirectory
  | nameTooLong
  | notEmpty
  | tooManyLinks
  deriving Repr, DecidableEq, Inhabited

namespace Reason

/-- The number of a reason. -/
def number : Reason → Nat
  | notFound => 2
  | alreadyExists => 17
  | notDirectory => 20
  | isDirectory => 21
  | nameTooLong => 36
  | notEmpty => 39
  | tooManyLinks => 40

/-- The wording of a reason. -/
def text : Reason → String
  | notFound => "No such file or directory"
  | alreadyExists => "File exists"
  | notDirectory => "Not a directory"
  | isDirectory => "Is a directory"
  | nameTooLong => "File name too long"
  | notEmpty => "Directory not empty"
  | tooManyLinks => "Too many levels of symbolic links"

end Reason

/-- The operating system refuses an operation on a path. -/
structure Refusal where
  reason : Reason
  path : String
  deriving Repr, DecidableEq, Inhabited

/-- The message of a refusal. -/
def Refusal.message (r : Refusal) : String :=
  "[Errno " ++ toString r.reason.number ++ "] " ++ r.reason.text ++ ": " ++ Text.quoted r.path

/-- Why an operation on a path fails. -/
inductive Fault where
  /-- The path holds a NUL. -/
  | nul
  | refused (refusal : Refusal)
  deriving Repr, DecidableEq, Inhabited

/-- The message of a fault. -/
def Fault.message : Fault → String
  | nul => "embedded null byte"
  | refused refusal => refusal.message

end RoleAudit.Files
