import RoleAudit.Log.Entry

/-!
# The run and the stage of a log line

Each log line shows the run it belongs to and the stage the run is in. The two are kept apart: a run
id is set and stays, a stage is opened and closed, and closing one brings back the stage before it.
Where nothing is set the line shows a dash.
-/

namespace RoleAudit.Log

/-- What is shown on a line where nothing is set. -/
def unset : String := "-"

/-- What every log line is marked with. -/
structure Context where
  runId : String := unset
  stage : String := unset
  deriving Repr, DecidableEq, Inhabited

/-- An open stage remembers the stage that was shown before it. -/
structure Scope where
  previous : String
  deriving Repr, DecidableEq, Inhabited

namespace Context

/-- Sets the run id: the given one, or `fresh` if none or an empty one is given. Returns the id. -/
def setRunId (context : Context) (given : Option String) (fresh : String) : String × Context :=
  let id := match given with
    | some value => if value.isEmpty then fresh else value
    | none => fresh
  (id, { context with runId := id })

/-- Opens a stage. -/
def openStage (context : Context) (name : String) : Scope × Context :=
  (⟨context.stage⟩, { context with stage := name })

/-- Closes a stage. -/
def closeStage (context : Context) (scope : Scope) : Context :=
  { context with stage := scope.previous }

/-- Closing a stage right after opening it changes nothing. -/
@[simp] theorem closeStage_openStage (context : Context) (name : String) :
    (context.openStage name).2.closeStage (context.openStage name).1 = context := rfl

/-- Stages leave the run id alone. -/
@[simp] theorem runId_openStage (context : Context) (name : String) :
    (context.openStage name).2.runId = context.runId := rfl

@[simp] theorem runId_closeStage (context : Context) (scope : Scope) :
    (context.closeStage scope).runId = context.runId := rfl

/-- The run id leaves the stage alone. -/
@[simp] theorem stage_setRunId (context : Context) (given : Option String) (fresh : String) :
    (context.setRunId given fresh).2.stage = context.stage := rfl

/-- The line that an entry is written as, without the time in front. -/
def line (context : Context) (e : Entry) : String :=
  e.level.name ++ " | run_id=" ++ context.runId ++ " | stage=" ++ context.stage ++ " | " ++
    e.source ++ " | " ++ e.text

end Context

/-- An entry together with the run and the stage that it was logged in. -/
structure Record where
  context : Context
  entry : Entry
  deriving Repr, DecidableEq, Inhabited

/-- The line of a record. -/
def Record.line (r : Record) : String := r.context.line r.entry

/-! ## Sequences of operations -/

/-- What can be done to a context. -/
inductive Operation where
  | setRunId (value : Option String)
  | enter (stage : String)
  | exit
  deriving Repr, DecidableEq

/-- A context with its open stages, innermost first. -/
structure Session where
  context : Context := {}
  scopes : List Scope := []
  deriving Repr, DecidableEq, Inhabited

/-- Does one operation; `fresh` is the run id to use where none is given. Leaving without an open
stage does nothing. Returns the run id if one was set. -/
def Session.step (s : Session) (fresh : String) : Operation → Option String × Session
  | .setRunId value =>
    let (id, context) := s.context.setRunId value fresh
    (some id, { s with context })
  | .enter stage =>
    let (scope, context) := s.context.openStage stage
    (none, { context, scopes := scope :: s.scopes })
  | .exit =>
    match s.scopes with
    | [] => (none, s)
    | scope :: scopes => (none, { context := s.context.closeStage scope, scopes })

end RoleAudit.Log
