import RoleAudit.Settings
import RoleAudit.Settings.Failure
import RoleAudit.Value.Text

/-!
# What a settings file says

A settings file is a mapping in JSON or YAML. `Payload.settings` turns its entries into settings:

* a setting that is read as text may hold any value, which is written out as a literal;
* a list of texts may be a single text;
* texts lose the white space around them;
* keys that are no settings are ignored.
-/

namespace RoleAudit

open RoleAudit.Text

/-- The value of a key; if it is a list its items are given as values of their own. -/
structure Found where
  value : Value
  items : List Value
  deriving Inhabited

/-- What a settings file holds. -/
inductive Payload where
  | nothing
  | entries (entries : List (String × Found))
  | other
  deriving Inhabited

namespace Payload

/-- The content of a JSON file. -/
def ofJson : Value → Payload
  | .null => nothing
  | .dict es =>
    entries <| es.filterMap fun e => match e with
      | (.text key, .list items) => some (key, ⟨.list items, items⟩)
      | (.text key, v) => some (key, ⟨v, []⟩)
      | _ => none
  | _ => other

/-- The content of a YAML file. -/
def ofYaml : Option Yaml.Document → Payload
  | none => nothing
  | some d =>
    match d.contents.meaning? d.root with
    | some (.scalar .null) => nothing
    | some (.dict es) =>
      entries <| es.filterMap fun e => match e with
        | (.text key, n) => some (key, ⟨d.contents.value n, d.contents.items n⟩)
        | _ => none
    | _ => other

/-- The last value of a key counts. -/
def find? (es : List (String × Found)) (key : String) : Option Found :=
  (es.reverse.find? fun e => e.1 == key).map (·.2)

/-- A setting as text, without the white space around it. -/
def textOf (v : Value) : Except SettingsObstacle String :=
  match v.shown with
  | .ok s => .ok (trim s)
  | .error l => .error (.number l)

/-- The items of a list of texts. -/
def textsOf (key : String) (items : List Value) : Except SettingsObstacle (List String) :=
  items.mapM fun item => do
    let text ← textOf item
    if text.isEmpty then throw (.failure (.emptyText key))
    pure text

/-- A list of texts, if it is there. -/
def texts? (es : List (String × Found)) (key : String) :
    Except SettingsObstacle (Option (List String)) :=
  match find? es key with
  | none => .ok none
  | some found =>
    match found.value with
    | .null => .ok none
    | .text s => (textsOf key [.text s]).map some
    | .list _ => (textsOf key found.items).map some
    | _ => .error (.failure (.notTexts key))

/-- A truth value, if it is there. -/
def truth? (es : List (String × Found)) (key path : String) :
    Except SettingsObstacle (Option Bool) :=
  match find? es key with
  | none => .ok none
  | some ⟨.bool b, _⟩ => .ok (some b)
  | some _ => .error (.failure (.notTruth key path))

/-- A text that counts only if its value is true, as values go. -/
def textIfTrue? (es : List (String × Found)) (key : String) :
    Except SettingsObstacle (Option String) :=
  match find? es key with
  | none => .ok none
  | some found => if found.value.isTrue then (textOf found.value).map some else .ok none

/-- The settings of a file's entries. `strict` is what holds if the file does not say. -/
def settingsOf (path : String) (strict : Bool) (es : List (String × Found)) :
    Except SettingsObstacle Settings := do
  let usual : Settings := {}
  let textOr (key usual : String) : Except SettingsObstacle String :=
    match find? es key with
    | none => .ok usual
    | some found => textOf found.value
  let projectName ← textOr "project_name" usual.projectName
  if projectName.isEmpty then throw (.failure (.noProjectName path))
  let sourceRoots ← texts? es "source_roots"
  if sourceRoots == some [] then throw (.failure (.noSourceRoots (some path)))
  let markers ← texts? es "file_name_markers"
  let strict := (← truth? es "strict_syntax" path).getD strict
  let buildDirectory ← textOr "build_dir" usual.buildDirectory
  let reportFile ← textIfTrue? es "report_file"
  let basePackage ← textIfTrue? es "base_package"
  pure {
    projectName
    buildDirectory := if buildDirectory.isEmpty then usual.buildDirectory else buildDirectory
    reportFile
    basePackage := basePackage.getD usual.basePackage
    sourceRoots := sourceRoots.getD usual.sourceRoots
    markers := markers.getD usual.markers
    strict }

/-- The settings that a file's content makes. A file without content leaves the defaults. -/
def settings (path : String) (strict : Bool) : Payload → Except SettingsObstacle Settings
  | nothing => settingsOf path strict []
  | entries es => settingsOf path strict es
  | other => .error (.failure .notObject)

end Payload

end RoleAudit
