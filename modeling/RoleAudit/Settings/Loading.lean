import RoleAudit.Files.Access
import RoleAudit.Log.Entry
import RoleAudit.Settings.Payload
import RoleAudit.Text.Glyph
import RoleAudit.Text.Lowercase

/-!
# Loading settings

Settings come from the environment and from a file, whose word counts more. A file whose name ends
in `.json` is JSON, any other is YAML. What is said about the file is logged.
-/

namespace RoleAudit

open RoleAudit.Files RoleAudit.Text

/-- An entry about settings. -/
def settingsEntry (level : Log.Level) (text : String) : Log.Entry :=
  ⟨level, "core.audit_config", text⟩

/-- Every way to end a line is a line feed. -/
def lineFeeds : List Char → List Char
  | '\r' :: '\n' :: cs => '\n' :: lineFeeds cs
  | '\r' :: cs => '\n' :: lineFeeds cs
  | c :: cs => c :: lineFeeds cs
  | [] => []

namespace Payload

/-- The content of a JSON text. -/
def readJson (path : String) (text : List Char) : Except SettingsObstacle Payload :=
  match Json.read text with
  | .ok v => .ok (ofJson v)
  | .error (.malformed e) => .error (.failure (.malformed path (.json e text)))
  | .error (.number l) => .error (.number l)

/-- The content of a YAML text. -/
def readYaml (path : String) (text : List Char) : Except SettingsObstacle Payload :=
  match Yaml.read text with
  | .ok d => .ok (ofYaml d)
  | .error (.malformed e) => .error (.failure (.malformed path (.yaml e text)))
  | .error (.escape f) => .error (.escape f)
  | .error (.scalar f) => .error (.scalar f)

/-- The file is read as JSON. -/
def isJson (path : String) : Bool := lower (Path.ending path) == ".json"

/-- The bytes of a settings file. Only some refusals mean that there is no such file. -/
def bytesOf (d : Disk) (path : String) : Except SettingsObstacle (List UInt8) :=
  let file := Path.tidy path
  let missing := Except.error (SettingsObstacle.failure (.notFound path))
  match d.locate file with
  | .error .nul => missing
  | .error (.refused r) =>
    if [Reason.notFound, .notDirectory, .tooManyLinks].contains r.reason then missing
    else .error (.refused r)
  | .ok (.vacant ..) => missing
  | .ok (.node _) => (d.read file).mapError fun _ => .failure (.notFound path)

/-- The content of a settings file. -/
def load (d : Disk) (path : String) : Except SettingsObstacle Payload := do
  let bytes ← bytesOf d path
  match Utf8.decode bytes with
  | .error e => throw (.failure (.unreadable path (.notUtf8 e)))
  | .ok text =>
    let text := lineFeeds text
    if isJson path then readJson path text else readYaml path text

end Payload

namespace Settings

/-- Loads settings from a file, if there is one; `environment` is the value of the variable for
strict audits. -/
def load (d : Disk) (environment : Option String) (path : Option String) :
    List Log.Entry × Except SettingsObstacle Settings :=
  let strict := strictByEnvironment environment
  match path with
  | none => ([], .ok { strict })
  | some path =>
    match Payload.load d path with
    | .error obstacle => ([], .error obstacle)
    | .ok payload =>
      let remarks := match payload with
        | .nothing =>
          [settingsEntry .warning
            ("Config file " ++ Path.tidy path ++ " is empty; using defaults")]
        | _ => []
      match payload.settings path strict with
      | .error obstacle => (remarks, .error obstacle)
      | .ok s =>
        (remarks ++ [settingsEntry .debug ("Loaded audit config from " ++ path ++ ": " ++ s.text)],
          .ok s)

end Settings

end RoleAudit
