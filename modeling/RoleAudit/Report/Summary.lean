import RoleAudit.Files.Access
import RoleAudit.Json.Printer
import RoleAudit.Statistics
import RoleAudit.Text.Glyph

/-!
# Run summaries

A run summary is a JSON file that says how one run of the audit ended: its status, the report, the
counts and, if it failed, why.
-/

namespace RoleAudit.Report

open RoleAudit.Files

/-- What a run summary says. -/
structure Summary where
  runId : String
  status : String
  reportFile : String
  /-- The counts, by name. -/
  statistics : List (Value × Value) := []
  /-- Why the run failed. -/
  error : Option String := none
  /-- When the run ended. -/
  time : String
  deriving Inhabited

namespace Summary

/-- The counts of a run, by name. -/
def countsOf (s : Statistics) : List (Value × Value) :=
  s.entries.map fun e => (.text e.1, .int e.2)

/-- A summary as a value; the report is named from the root. -/
def value (s : Summary) (d : Disk) : Value :=
  .dict ([(.text "run_id", .text s.runId), (.text "status", .text s.status),
    (.text "report_file", .text (d.absolute s.reportFile)),
    (.text "stats", .dict s.statistics), (.text "timestamp_utc", .text s.time)] ++
    match s.error with
    | some e => [(.text "error", .text e)]
    | none => [])

/-- The path of a summary in a directory. -/
def pathIn (s : Summary) (directory : String) : String := Path.join directory (s.runId ++ ".json")

/-- Writes a summary into a directory, which is made if it is missing. -/
def write (s : Summary) (directory : String) (d : Disk) : Option Fault × Disk :=
  match d.makeDirectories directory with
  | (some fault, d) => (some fault, d)
  | (none, d) =>
    match d.openNew (s.pathIn directory) with
    | .error fault => (some fault, d)
    | .ok (n, d) => (none, d.setContent n (RoleAudit.Text.Utf8.encode (Json.pretty 0 (s.value d))))

end Summary

end RoleAudit.Report
