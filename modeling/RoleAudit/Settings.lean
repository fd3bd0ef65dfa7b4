import RoleAudit.Files.Path
import RoleAudit.Text.Blank
import RoleAudit.Text.Lowercase
import RoleAudit.Text.Quoted
import RoleAudit.Walk.Candidate

/-!
# Settings

What an audit is told to do: which sources to scan, which files among them, how to treat flawed
ones, and where to write the report. Every setting has a default.
-/

namespace RoleAudit

open RoleAudit.Files RoleAudit.Text

/-- The settings of an audit. -/
structure Settings where
  projectName : String := "project"
  buildDirectory : String := "target"
  /-- The report file that was asked for. -/
  reportFile : Option String := none
  basePackage : String := ""
  sourceRoots : List String := ["src/main/java"]
  /-- Parts of file names that select the files to be scanned. -/
  markers : List String := Walk.defaultMarkers
  /-- Flawed sources end the audit. -/
  strict : Bool := true
  deriving Repr, DecidableEq, Inhabited

/-- The values of an environment variable that switch a setting on. -/
def switchedOn : List String := ["1", "true", "yes", "on"]

/-- The value of an environment variable switches a setting on. -/
def isSwitchedOn (value : String) : Bool :=
  switchedOn.contains (lower (trim value))

/-- Whether flawed sources end the audit if only the environment says anything about it. -/
def strictByEnvironment (value : Option String) (default : Bool := true) : Bool :=
  match value with
  | none => default
  | some value => isSwitchedOn value

namespace Settings

/-- The report file: the one that was asked for, or else a file in the build directory that is named
after the project. -/
def reportPath (s : Settings) : String :=
  let usual := Path.join s.buildDirectory (s.projectName ++ "-security.csv")
  match s.reportFile with
  | none => usual
  | some path => if path.isEmpty then usual else path

/-- Texts as a list in parentheses; a list of one has a comma. -/
def listText (texts : List String) : String :=
  match texts.map quoted with
  | [one] => "(" ++ one ++ ",)"
  | many => "(" ++ ", ".intercalate many ++ ")"

/-- Settings as the log shows them. -/
def text (s : Settings) : String :=
  "AuditConfig(project_name=" ++ quoted s.projectName ++
    ", build_dir=" ++ quoted s.buildDirectory ++
    ", report_file=" ++ (match s.reportFile with
      | none => "None"
      | some path => quoted path) ++
    ", base_package=" ++ quoted s.basePackage ++
    ", source_roots=" ++ listText s.sourceRoots ++
    ", file_name_markers=" ++ listText s.markers ++
    ", strict_syntax=" ++ (if s.strict then "True" else "False") ++ ")"

/-- Without a report file of its own an audit reports into the build directory. -/
theorem reportPath_of_reportFile_eq_none (s : Settings) (h : s.reportFile = none) :
    s.reportPath = Path.join s.buildDirectory (s.projectName ++ "-security.csv") := by
  simp [reportPath, h]

end Settings

/-- Without a word from the environment the default holds. -/
@[simp] theorem strictByEnvironment_none (default : Bool) :
    strictByEnvironment none default = default := rfl

end RoleAudit
