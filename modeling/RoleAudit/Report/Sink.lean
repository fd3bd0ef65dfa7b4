import RoleAudit.Failure
import RoleAudit.Log.Entry
import RoleAudit.Report.Writer
import RoleAudit.Row
import RoleAudit.Text.Encoding

/-!
# The report sink

A sink writes a report: opening it makes the file, with the directories above it, and writes the
header; each row is one more line; closing it sends everything to the disk. A sink counts the rows
over its whole life. It may be opened again after it was closed, which starts the file anew.
-/

namespace RoleAudit.Report

open RoleAudit.Files RoleAudit.Text

/-- A writer of a report. -/
structure Sink where
  path : String
  /-- The name of the encoding, known or not. -/
  encoding : String := "utf-8"
  rowsWritten : Nat := 0
  /-- The open file. -/
  writer : Option Writer := none
  deriving Repr, DecidableEq, Inhabited

/-- Why an operation on a sink fails. -/
inductive SinkError where
  | failure (failure : Failure)
  /-- The path holds a NUL. -/
  | nul
  | unknownEncoding (name : String)
  | unencodable (error : EncodingError)
  | notOpen
  deriving Repr, DecidableEq

/-- The message of an error. -/
def SinkError.message : SinkError → String
  | failure f => f.message
  | nul => Fault.nul.message
  | unknownEncoding name => "unknown encoding: " ++ name
  | unencodable e => e.message
  | notOpen => "Report sink is not open"

/-- An entry about a sink. -/
def sinkEntry (level : Log.Level) (text : String) : Log.Entry :=
  ⟨level, "reporting.csv_report", text⟩

namespace Sink

/-- The sink is closed. -/
def closed (s : Sink) : Bool := s.writer.isNone

/-- What an operation leaves behind. -/
structure Result where
  sink : Sink
  disk : Disk
  log : List Log.Entry := []
  error : Option SinkError := none

/-- Makes the file of a sink, after the directories above it. -/
def makeFile (path : String) (d : Disk) : Except Fault Nat × Disk :=
  match d.makeDirectories (Path.split (d.absolute path)).1 with
  | (some fault, d) => (.error fault, d)
  | (none, d) =>
    match d.openNew path with
    | .ok (n, d) => (.ok n, d)
    | .error fault => (.error fault, d)

/-- Sends to the disk what a writer still holds, if there is one. -/
def flushed (w : Option Writer) (d : Disk) : Disk :=
  match w with
  | none => d
  | some w => (w.flush d).2

/-- Opens a sink. If it is open already, the file is emptied first, and only then receives what was
on its way to it. -/
def openUp (s : Sink) (d : Disk) : Result :=
  match makeFile s.path d with
  | (.error .nul, d) => { sink := s, disk := d, error := some .nul }
  | (.error (.refused refusal), d) =>
    { sink := s, disk := d
      log := [sinkEntry .error
        ("Cannot create report file " ++ s.path ++ ": " ++ refusal.message)]
      error := some (.failure (.sinkUnavailable s.path refusal)) }
  | (.ok n, d) =>
    match Encoding.ofName? s.encoding with
    | none => { sink := s, disk := d, error := some (.unknownEncoding s.encoding) }
    | some encoding =>
      let d := flushed s.writer d
      match encoding.encode reportHeader with
      | .error e => { sink := s, disk := d, error := some (.unencodable e) }
      | .ok header =>
        let (w, d) := Writer.write ⟨n, 0, [], []⟩ header d
        { sink := { s with writer := some w }, disk := d
          log := [sinkEntry .debug ("Opened report sink " ++ s.path)] }

/-- Writes a row. -/
def writeRow (s : Sink) (r : Row) (d : Disk) : Except SinkError (Sink × Disk) :=
  match s.writer, Encoding.ofName? s.encoding with
  | some w, some encoding =>
    match encoding.encode r.line with
    | .error e => .error (.unencodable e)
    | .ok bytes =>
      let (w, d) := w.write bytes d
      .ok ({ s with writer := some w, rowsWritten := s.rowsWritten + 1 }, d)
  | _, _ => .error .notOpen

/-- Writes rows up to the first that fails. -/
def writeRows (s : Sink) : List Row → Disk → Sink × Disk × Option SinkError
  | [], d => (s, d, none)
  | r :: rs, d =>
    match s.writeRow r d with
    | .ok (s, d) => writeRows s rs d
    | .error e => (s, d, some e)

/-- Closes a sink. A sink that is closed stays so. -/
def close (s : Sink) (d : Disk) : Result :=
  match s.writer with
  | none => { sink := s, disk := d }
  | some w =>
    { sink := { s with writer := none }, disk := (w.flush d).2
      log := [sinkEntry .debug
        ("Closed report sink " ++ s.path ++ " (" ++ toString s.rowsWritten ++ " rows)")] }

/-- Opens a sink, writes rows and closes it, whatever happens in between. -/
def writeReport (s : Sink) (rows : List Row) (d : Disk) : Result :=
  let opened := s.openUp d
  match opened.error with
  | some _ => opened
  | none =>
    let (sink, disk, error) := opened.sink.writeRows rows opened.disk
    let closed := sink.close disk
    { closed with log := opened.log ++ closed.log, error }

end Sink

end RoleAudit.Report
