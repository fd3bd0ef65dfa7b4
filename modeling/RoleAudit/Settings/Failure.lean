import RoleAudit.Files.Fault
import RoleAudit.Files.Path
import RoleAudit.Json.Reader
import RoleAudit.Text.Blank
import RoleAudit.Yaml.Document

/-!
# Failures of settings

Settings fail if their file is missing, cannot be read or is malformed, or if a value is not what
the setting needs. A `SettingsFailure` is reported by the audit as its own; a `SettingsObstacle` may
also be something that the audit has no words for.
-/

namespace RoleAudit

open RoleAudit.Files RoleAudit.Text

/-- What is wrong with the content of a settings file. -/
inductive SettingsCause where
  | notUtf8 (error : Text.Utf8Error)
  | json (error : Json.Error) (text : List Char)
  | yaml (error : Yaml.Error) (text : List Char)
  deriving Repr, DecidableEq

/-- The wording of a cause. -/
def SettingsCause.message : SettingsCause → String
  | notUtf8 e => e.message
  | json e text => e.message text
  | yaml e text => e.message text

/-- Why settings are refused. -/
inductive SettingsFailure where
  | notFound (path : String)
  | unreadable (path : String) (cause : SettingsCause)
  | malformed (path : String) (cause : SettingsCause)
  /-- The content is no mapping. -/
  | notObject
  | noProjectName (path : String)
  /-- The list of source roots is empty; it stands in a file or came from elsewhere. -/
  | noSourceRoots (path : Option String)
  /-- The setting must be a text or a list. -/
  | notTexts (setting : String)
  | emptyText (setting : String)
  /-- The setting must be a truth value. -/
  | notTruth (setting path : String)
  deriving Repr, DecidableEq

namespace SettingsFailure

/-- The message of a failure. -/
def message : SettingsFailure → String
  | notFound path => "Config file not found: " ++ Path.tidy path
  | unreadable path cause => "Cannot read config file " ++ Path.tidy path ++ ": " ++ cause.message
  | malformed path cause =>
    "Failed to parse config file " ++ Path.tidy path ++ ": " ++ cause.message
  | notObject => "config must be an object"
  | noProjectName _ => "project_name must not be empty"
  | noSourceRoots _ => "source_roots must be a non-empty list"
  | notTexts setting => setting ++ " must be a string or a list of strings"
  | emptyText setting => setting ++ " contains an empty entry"
  | notTruth setting _ => setting ++ " must be a boolean"

/-- Every failure says something. -/
theorem message_ne_empty (f : SettingsFailure) : f.message ≠ "" := by
  cases f with
  | notFound path =>
    have h : "Config file not found: " ≠ "" := by decide
    exact append_ne_empty_left h _
  | unreadable path cause =>
    have h : "Cannot read config file " ≠ "" := by decide
    exact append_ne_empty_left (append_ne_empty_left (append_ne_empty_left h _) _) _
  | malformed path cause =>
    have h : "Failed to parse config file " ≠ "" := by decide
    exact append_ne_empty_left (append_ne_empty_left (append_ne_empty_left h _) _) _
  | notObject => exact (by decide : "config must be an object" ≠ "")
  | noProjectName path => exact (by decide : "project_name must not be empty" ≠ "")
  | noSourceRoots path => exact (by decide : "source_roots must be a non-empty list" ≠ "")
  | notTexts setting =>
    have h : " must be a string or a list of strings" ≠ "" := by decide
    exact append_ne_empty_right h _
  | emptyText setting =>
    have h : " contains an empty entry" ≠ "" := by decide
    exact append_ne_empty_right h _
  | notTruth setting path =>
    have h : " must be a boolean" ≠ "" := by decide
    exact append_ne_empty_right h _

/-- The path that a failure is about. -/
def path? : SettingsFailure → Option String
  | notFound path | unreadable path _ | malformed path _ | noProjectName path
  | notTruth _ path => some path
  | noSourceRoots path => path
  | notObject | notTexts _ | emptyText _ => none

/-- What is behind a failure. -/
def cause? : SettingsFailure → Option SettingsCause
  | unreadable _ cause | malformed _ cause => some cause
  | _ => none

end SettingsFailure

/-- Why there are no settings. -/
inductive SettingsObstacle where
  | failure (failure : SettingsFailure)
  /-- The file cannot be examined. -/
  | refused (refusal : Refusal)
  /-- A number is too long. -/
  | number (limit : DigitLimit)
  | escape (fault : Yaml.EscapeFault)
  | scalar (fault : Yaml.ScalarFault)
  deriving Repr, DecidableEq

/-- The message of an obstacle. -/
def SettingsObstacle.message : SettingsObstacle → String
  | failure f => f.message
  | refused r => r.message
  | number l => l.message
  | escape f => f.message
  | scalar f => f.message

end RoleAudit
