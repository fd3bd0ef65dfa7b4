import RoleAudit.Report.Sink
import RoleAudit.Scan.Step

/-!
# Making a report

The report is opened before anything is scanned, each row is written as soon as it is found, and the
report is closed whatever happens. What the scan sees is the disk with the report as far as it has
been written, so a report inside a source root is a file like any other.
-/

namespace RoleAudit.Report

open RoleAudit.Files

/-- What a report is made of. -/
structure Order where
  reportFile : String
  sourceRoots : List String
  markers : List String := Walk.defaultMarkers
  strict : Bool := true
  /-- Is logged and has no other effect. -/
  basePackage : String := ""
  deriving Repr, DecidableEq

/-- A report under way. -/
structure Draft where
  disk : Disk
  sink : Sink
  statistics : Statistics := {}
  /-- The log, last entry first. -/
  log : List Log.Entry := []
  /-- The first row that could not be written. -/
  error : Option SinkError := none

/-- What making a report leaves behind. -/
structure Made where
  disk : Disk
  /-- The sink of the report. -/
  sink : Sink
  log : List Log.Entry
  /-- The counts of the report, or why there is none. -/
  result : Except SinkError Statistics

/-- An entry about a report. -/
def reportEntry (level : Log.Level) (text : String) : Log.Entry :=
  ⟨level, "reporting.audit_report", text⟩

namespace Draft

/-- Writes the row of a step. -/
def writeStep (draft : Draft) : Step → Draft
  | .row r =>
    match draft.sink.writeRow r draft.disk with
    | .ok (sink, disk) => { draft with sink, disk }
    | .error e => { draft with error := draft.error.or (some e) }
  | _ => draft

/-- Takes a step: counts it, logs its entry, writes its row. -/
def take (draft : Draft) (step : Step) : Draft :=
  let log := match step.entry? with
    | some e => e :: draft.log
    | none => draft.log
  { draft with statistics := draft.statistics.take step, log }.writeStep step

/-- Writes what a scan finds. -/
def taker : Scan.Taker Draft where
  disk := Draft.disk
  take := Draft.take

end Draft

namespace Order

/-- What is logged before a report is opened. -/
def opening (order : Order) (d : Disk) : List Log.Entry :=
  [reportEntry .info ("Report file      : " ++ d.absolute order.reportFile),
    reportEntry .info ("Source roots     : " ++ ", ".intercalate order.sourceRoots)] ++
  (if order.basePackage.isEmpty then []
    else [reportEntry .info ("Base package     : " ++ order.basePackage)])

/-- Opens the report. -/
def opened (order : Order) (d : Disk) : Sink.Result :=
  ({ path := order.reportFile } : Sink).openUp d

/-- Makes a report. -/
def make (order : Order) (d : Disk) : Made :=
  let opened := order.opened d
  let before := order.opening d ++ opened.log
  match opened.error with
  | some e => { disk := opened.disk, sink := opened.sink, log := before, result := .error e }
  | none =>
    let (failed, draft) := Draft.taker.scan order.markers order.strict order.sourceRoots
      { disk := opened.disk, sink := opened.sink }
    let closed := draft.sink.close draft.disk
    let during := before ++ draft.log.reverse
    match draft.error, failed with
    | some e, _ =>
      { disk := closed.disk, sink := closed.sink, log := during ++ closed.log, result := .error e }
    | none, some failure =>
      let aborted := reportEntry .error ("Audit aborted after " ++
        toString draft.sink.rowsWritten ++ " rows: " ++ failure.message)
      { disk := closed.disk, sink := closed.sink, log := during ++ aborted :: closed.log
        result := .error (.failure failure) }
    | none, none =>
      let complete := reportEntry .info ("Audit complete: " ++ draft.statistics.text)
      { disk := closed.disk, sink := closed.sink, log := during ++ closed.log ++ [complete]
        result := .ok draft.statistics }

end Order

end RoleAudit.Report
