import RoleAudit.Log.Handler

/-!
# The root logger

Configuring the log gives every handler of the root logger the audit's format and exactly one filter
that supplies the run and the stage; a root logger without handlers gets one. Doing it again changes
nothing but the level.

What any part of the audit logs comes to the handlers of the root logger, if it is grave enough.
-/

namespace RoleAudit.Log

/-- The root logger: its handlers and its threshold. -/
structure Setup where
  handlers : List Handler := []
  level : Level := .warning
  deriving Inhabited

namespace Setup

/-- Sets the format and the level. -/
def configure (setup : Setup) (level : Level) : Setup :=
  let handlers := match setup.handlers with
    | [] => [({ formatted := true } : Handler)]
    | handlers => handlers.map Handler.format
  { handlers := handlers.map Handler.ensureFilter, level }

/-- Configures once per level, in order. -/
def configureAll (setup : Setup) (levels : List Level) : Setup :=
  levels.foldl configure setup

/-- An entry of a level becomes a record: the root logger's threshold lets it pass, and it is above
`unset`, up to where nothing is recorded. No other logger has a threshold of its own. -/
def hears (setup : Setup) (l : Level) : Bool :=
  decide (Level.unset.weight < l.weight) && l.passes setup.level

/-- What the handlers make of what is logged. -/
def log (setup : Setup) (r : Record) : List Outcome :=
  if setup.hears r.entry.level then deliver r.context setup.handlers { entry := r.entry }
  else setup.handlers.map fun _ => .skipped

/-- What each handler writes of all that is logged, in order. -/
def streams (setup : Setup) : List Record → List (List String)
  | [] => setup.handlers.map fun _ => []
  | r :: rs =>
    List.zipWith (fun outcome lines => outcome.line?.toList ++ lines) (setup.log r)
      (streams setup rs)

/-- What each handler writes for entries that are logged in one context, in order. -/
def outputs (setup : Setup) (context : Context) (entries : List Entry) : List (List String) :=
  setup.streams (entries.map fun e => ⟨context, e⟩)

end Setup

end RoleAudit.Log
