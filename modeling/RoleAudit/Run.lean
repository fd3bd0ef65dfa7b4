import RoleAudit.Log.Context
import RoleAudit.Report.Generate
import RoleAudit.Report.Summary
import RoleAudit.Settings.Resolve

/-!
# Runs of the audit

A run goes through its stages: it finds out its settings, scans the sources into a report and, if it
was asked to, writes a summary. A failure ends the stage and is logged; the summary is written all
the same once the settings are known. A fault that is no failure of the audit ends the run at once.
-/

namespace RoleAudit

open RoleAudit.Files

/-- What a run takes from its surroundings. -/
structure Surroundings where
  disk : Disk
  /-- The value of the environment variable for strict audits. -/
  environment : Option String
  context : Log.Context
  /-- An id that no run has had. -/
  freshId : String
  time : String

/-- What ends a run at once. -/
inductive RunFault where
  | settings (obstacle : SettingsObstacle)
  | report (error : Report.SinkError)
  | summary (fault : Fault)
  deriving Repr, DecidableEq

/-- The message of a fault. -/
def RunFault.message : RunFault → String
  | settings o => o.message
  | report e => e.message
  | summary f => f.message

/-- What a run leaves behind. -/
structure Ran where
  disk : Disk
  context : Log.Context
  log : List Log.Record
  /-- The exit code. -/
  exit : Except RunFault Nat

namespace Run

/-- An entry about the run as a whole. -/
def entry (level : Log.Level) (text : String) : Log.Entry := ⟨level, "run_audit", text⟩

/-- The records of a stage. -/
def stage (context : Log.Context) (name : String) (log : List Log.Entry) : List Log.Record :=
  log.map fun e => ⟨(context.openStage name).2, e⟩

/-- What is logged about a failure: its message, and that something is behind it. -/
def failureLog (message : String) (caused : Bool) : List Log.Entry :=
  entry .error ("Security audit failed: " ++ message) ::
    if caused then [entry .debug "Caused by"] else []

/-! ## What the stages find out -/

/-- Something has gone wrong: there is an error, and it says something. -/
def isFailed (error : Option String) : Bool := error.any fun text => !text.isEmpty

theorem isFailed_some {text : String} (h : text ≠ "") : isFailed (some text) = true := by
  simp [isFailed, h]

/-- What the stages of a run have found out. A run that nothing has gone wrong in knows its settings
and has its counts. -/
structure Standing where
  settings : Option Settings
  /-- The counts of the report. -/
  statistics : Option Statistics
  /-- The message of what ended the stages. -/
  error : Option String
  complete : isFailed error = false → settings.isSome = true ∧ statistics.isSome = true

namespace Standing

/-- The run has failed. -/
def failed (x : Standing) : Bool := isFailed x.error

/-- There are no settings. -/
def unsettled (f : SettingsFailure) : Standing :=
  ⟨none, none, some f.message,
    fun h => absurd (isFailed_some f.message_ne_empty) (Bool.eq_false_iff.1 h)⟩

/-- There is no report, or not all of it. -/
def unreported (s : Settings) (f : Failure) : Standing :=
  ⟨some s, none, some f.message,
    fun h => absurd (isFailed_some f.message_ne_empty) (Bool.eq_false_iff.1 h)⟩

/-- There is a report. -/
def reported (s : Settings) (statistics : Statistics) : Standing :=
  ⟨some s, some statistics, none, fun _ => ⟨rfl, rfl⟩⟩

end Standing

/-! ## The stages -/

/-- A run whose stages are over. -/
structure Staged where
  disk : Disk
  log : List Log.Record
  standing : Standing

/-- The order for a report that settings make. -/
def order (s : Settings) : Report.Order where
  reportFile := s.reportPath
  sourceRoots := s.sourceRoots
  markers := s.markers
  strict := s.strict
  basePackage := s.basePackage

/-- Makes the report. -/
def scan (s : Settings) (context : Log.Context) (d : Disk) : Except Ran Staged :=
  let made := (order s).make d
  let log := stage context "scan" made.log
  match made.result with
  | .ok statistics => .ok ⟨made.disk, log, .reported s statistics⟩
  | .error (.failure f) =>
    let failed := (failureLog f.message f.cause?.isSome).map fun e => ⟨context, e⟩
    .ok ⟨made.disk, log ++ failed, .unreported s f⟩
  | .error e => .error ⟨made.disk, context, log, .error (.report e)⟩

/-- Finds out the settings and makes the report. -/
def stages (o : Options) (around : Surroundings) (context : Log.Context) : Except Ran Staged :=
  let (entries, resolved) := o.settings around.disk around.environment
  let log := stage context "config" entries
  match resolved with
  | .error (.failure f) =>
    let failed := (failureLog f.message f.cause?.isSome).map fun e => ⟨context, e⟩
    .ok ⟨around.disk, log ++ failed, .unsettled f⟩
  | .error obstacle => .error ⟨around.disk, context, log, .error (.settings obstacle)⟩
  | .ok s =>
    match scan s context around.disk with
    | .error ran => .error { ran with log := log ++ ran.log }
    | .ok staged => .ok { staged with log := log ++ staged.log }

/-- The summary of a run. -/
def summary (s : Settings) (runId time : String) (x : Standing) : Report.Summary where
  runId
  status := if x.failed then "failed" else "success"
  reportFile := s.reportPath
  statistics := match x.statistics with
    | some statistics => Report.Summary.countsOf statistics
    | none => []
  error := x.error
  time

/-- Ends a run whose stages are over. -/
def finish (context : Log.Context) (x : Standing) (log : List Log.Record) (d : Disk) : Ran :=
  if h : x.failed = false then
    let settings := x.settings.get (x.complete h).1
    let statistics := x.statistics.get (x.complete h).2
    let written := entry .info ("Report written to " ++ settings.reportPath ++ " (" ++
      toString statistics.rows ++ " rows)")
    ⟨d, context, log ++ [⟨context, written⟩], .ok 0⟩
  else ⟨d, context, log, .ok 1⟩

/-- Writes the summary, if a directory for it was named and the settings are known, and ends the
run. -/
def report (o : Options) (context : Log.Context) (time : String) (staged : Staged) : Ran :=
  let directory := o.summaryDirectory.filter fun directory => !directory.isEmpty
  match directory, staged.standing.settings with
  | some directory, some s =>
    let summary := summary s context.runId time staged.standing
    match summary.write directory staged.disk with
    | (some fault, d) => ⟨d, context, staged.log, .error (.summary fault)⟩
    | (none, d) =>
      let written := entry .info ("Run summary written to " ++ summary.pathIn directory)
      finish context staged.standing (staged.log ++ stage context "report" [written]) d
  | _, _ => finish context staged.standing staged.log staged.disk

end Run

/-- Runs the audit. -/
def Options.run (o : Options) (around : Surroundings) : Ran :=
  let context := (around.context.setRunId none around.freshId).2
  match Run.stages o around context with
  | .error ran => ran
  | .ok staged => Run.report o context around.time staged

/-- The least level that a run logs. -/
def Options.logLevel (o : Options) : Log.Level := if o.verbose then .debug else .info

end RoleAudit
