import RoleAudit.Scan.Step

/-!
# Scanning row by row

A stream yields the rows of a scan one at a time. Nothing happens between two pulls, and the disk
may have changed when the next row is pulled. A stream that has ended, or failed, stays ended.
-/

namespace RoleAudit.Scan

/-- A scan that has been begun. -/
structure Stream where
  markers : List String
  strict : Bool
  /-- The roots that have not been begun. -/
  roots : List String
  /-- Where the walk through the current root stands. -/
  frames : List Walk.Frame := []
  /-- The steps of the current file that have not been taken. -/
  pending : List Step := []
  statistics : Statistics := {}
  ended : Bool := false

/-- What a pull gives. -/
inductive Pulled where
  | row (row : Row)
  | done
  | failed (failure : Failure)
  deriving Repr, DecidableEq

/-- The row that a pull gives. -/
def Pulled.row? : Pulled → Option Row
  | row r => some r
  | _ => none

/-- A pull under way. -/
structure Pulling where
  /-- The disk during the pull. -/
  disk : Files.Disk
  stream : Stream
  /-- The row that was found. -/
  found : Option Row := none
  /-- The log, last entry first. -/
  log : List Log.Entry := []

namespace Pulling

/-- Takes a step that is no row. -/
def take (p : Pulling) (step : Step) : Pulling :=
  { p with
    stream := { p.stream with statistics := p.stream.statistics.take step }
    log := match step.entry? with
      | some e => e :: p.log
      | none => p.log }

/-- Takes steps up to the first row. -/
def deliver (p : Pulling) : List Step → Pulling
  | [] => { p with stream := { p.stream with pending := [] } }
  | .row r :: rest =>
    let p := p.take (.row r)
    { p with stream := { p.stream with pending := rest }, found := some r }
  | step :: rest => deliver (p.take step) rest

/-- Visits files by taking their steps up to the first row. -/
def visitor (markers : List String) (strict : Bool) : Walk.Visitor Pulling where
  disk := Pulling.disk
  markers
  visit path p :=
    match fileSteps p.disk strict path with
    | .ok steps =>
      let p := p.deliver steps
      if p.found.isSome then .stop p else .goOn p
    | .error (steps, failure) => .fail failure (p.deliver steps)

/-- Begins roots until a row is found. -/
def begin (p : Pulling) : List String → Pulled × Pulling
  | [] => (.done, { p with stream := { p.stream with roots := [], ended := true } })
  | root :: roots =>
    let v := visitor p.stream.markers p.stream.strict
    match Walk.start v root (p.take (rootStep p.disk root)) with
    | .finished p => begin p roots
    | .stopped p frames =>
      let p := { p with stream := { p.stream with roots, frames } }
      match p.found with
      | some r => (.row r, p)
      | none => (.done, p)
    | .failed failure p =>
      (.failed failure, { p with stream := { p.stream with ended := true } })

/-- Goes on where the stream stands. -/
def proceed (p : Pulling) : Pulled × Pulling :=
  let p := p.deliver p.stream.pending
  match p.found with
  | some r => (.row r, p)
  | none =>
    match Walk.resume (visitor p.stream.markers p.stream.strict) p.stream.frames p with
    | .finished p => begin { p with stream := { p.stream with frames := [] } } p.stream.roots
    | .stopped p frames =>
      let p := { p with stream := { p.stream with frames } }
      match p.found with
      | some r => (.row r, p)
      | none => (.done, p)
    | .failed failure p =>
      (.failed failure, { p with stream := { p.stream with ended := true } })

end Pulling

/-- Pulls the next row. Gives also the log of the pull. -/
def Stream.pull (s : Stream) (d : Files.Disk) : Pulled × Stream × List Log.Entry :=
  if s.ended then (.done, s, [])
  else
    let (pulled, p) := Pulling.proceed { disk := d, stream := s }
    (pulled, p.stream, p.log.reverse)

/-- A stream from which nothing has been pulled. -/
def Stream.fresh (markers : List String) (strict : Bool) (roots : List String) : Stream :=
  { markers, strict, roots }

/-- Pulls several times, each time on the disk as it is then. Gives also the log of all pulls. -/
def Stream.pulls (s : Stream) : List Files.Disk → List Pulled × Stream × List Log.Entry
  | [] => ([], s, [])
  | d :: disks =>
    let (pulled, s, log) := s.pull d
    let (later, s, laterLog) := s.pulls disks
    (pulled :: later, s, log ++ laterLog)

end RoleAudit.Scan
