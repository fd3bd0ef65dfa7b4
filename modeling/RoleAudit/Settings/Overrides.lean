import RoleAudit.Settings.Failure
import RoleAudit.Settings

/-!
# Overriding settings

Single settings may be replaced by others, as from a command line. What is not given stays.
-/

namespace RoleAudit

/-- Settings to be replaced. -/
structure Overrides where
  projectName : Option String := none
  buildDirectory : Option String := none
  reportFile : Option String := none
  basePackage : Option String := none
  sourceRoots : Option (List String) := none
  markers : Option (List String) := none
  strict : Option Bool := none
  deriving Repr, DecidableEq, Inhabited

/-- Replaces settings. There must be a source root if source roots are given. -/
def Settings.override (s : Settings) (o : Overrides) : Except SettingsFailure Settings :=
  if o.sourceRoots == some [] then .error (.noSourceRoots none)
  else
    .ok {
      projectName := o.projectName.getD s.projectName
      buildDirectory := o.buildDirectory.getD s.buildDirectory
      reportFile := o.reportFile.or s.reportFile
      basePackage := o.basePackage.getD s.basePackage
      sourceRoots := o.sourceRoots.getD s.sourceRoots
      markers := o.markers.getD s.markers
      strict := o.strict.getD s.strict }

/-- Nothing to be replaced leaves settings as they are. -/
@[simp] theorem Settings.override_nothing (s : Settings) : s.override {} = .ok s := by
  cases s; rfl

/-! ## Overrides by name -/

/-- Why named overrides are refused. -/
inductive OverrideError where
  | failure (failure : SettingsFailure)
  | unknown (name : String)
  /-- The value of a setting that is a list is none. -/
  | notList (kind : String)
  deriving Repr, DecidableEq

/-- The message of a refusal. -/
def OverrideError.message : OverrideError → String
  | failure f => f.message
  | unknown name =>
    "AuditConfig.__init__() got an unexpected keyword argument '" ++ name ++ "'"
  | notList kind => "'" ++ kind ++ "' object is not iterable"

namespace Overrides

/-- The names of the settings. -/
def names : List String :=
  ["project_name", "build_dir", "report_file", "base_package", "source_roots", "file_name_markers",
    "strict_syntax"]

/-- A value as the text of a setting. -/
def text (v : Value) : String :=
  match v.shown with
  | .ok s => s
  | .error _ => ""

/-- A value as a list of texts: a text is split into its characters, a dictionary gives its keys. -/
def texts : Value → Except OverrideError (List String)
  | .text s => .ok (s.toList.map String.singleton)
  | .list items => .ok (items.map text)
  | .dict es => .ok (es.map fun e => text e.1)
  | .bool _ => .error (.notList "bool")
  | .int _ => .error (.notList "int")
  | .float _ => .error (.notList "float")
  | _ => .ok []

/-- The settings that named values replace. Nothing as a value replaces nothing. -/
def ofEntries (entries : List (String × Value)) : Except OverrideError Overrides := do
  let given := entries.filter fun e => match e.2 with
    | .null => false
    | _ => true
  let find? (name : String) : Option Value := (given.find? fun e => e.1 == name).map (·.2)
  let sourceRoots ← (find? "source_roots").mapM texts
  let markers ← (find? "file_name_markers").mapM texts
  if sourceRoots == some [] then throw (.failure (.noSourceRoots none))
  match given.find? fun e => !names.contains e.1 with
  | some e => throw (.unknown e.1)
  | none =>
    pure {
      projectName := (find? "project_name").map text
      buildDirectory := (find? "build_dir").map text
      reportFile := (find? "report_file").map text
      basePackage := (find? "base_package").map text
      sourceRoots
      markers
      strict := (find? "strict_syntax").map Value.isTrue }

end Overrides

/-- Replaces settings by name. -/
def Settings.overrideByName (s : Settings) (entries : List (String × Value)) :
    Except OverrideError Settings := do
  let o ← Overrides.ofEntries entries
  (s.override o).mapError .failure

end RoleAudit
