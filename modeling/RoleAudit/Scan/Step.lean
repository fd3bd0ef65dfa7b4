import RoleAudit.Policy
import RoleAudit.Statistics
import RoleAudit.Scan.Loading
import RoleAudit.Walk.Traversal

/-!
# The steps of a scan

A scan of source roots is a sequence of steps: a file is begun, a type is begun, a row is found, or
something is worth a remark. What a file contributes is known at once, as a list of steps; whoever
scans takes them one at a time. `Statistics.take` counts them.
-/

namespace RoleAudit

/-- A step of a scan. -/
inductive Step where
  | note (entry : Log.Entry)
  /-- A file was read. -/
  | file
  /-- A type begins. -/
  | type
  | row (row : Row)
  deriving Repr, DecidableEq

namespace Step

/-- The row of a step. -/
def row? : Step → Option Row
  | row r => some r
  | _ => none

/-- The log entry of a step. -/
def entry? : Step → Option Log.Entry
  | note e => some e
  | _ => none

/-- The step of a finding. -/
def ofFinding : Finding → Step
  | .row r => row r
  | .remark r => note r.entry

end Step

/-- Counts a step. -/
def Statistics.take (s : Statistics) : Step → Statistics
  | .note _ => s
  | .file => s.addFiles 1
  | .type => s.addTypes 1
  | .row r => s.countRow r

namespace Scan

/-- An entry about the walk. -/
def walkEntry (text : String) : Log.Entry := ⟨.info, "extraction.walker", text⟩

/-- The steps of a type. -/
def typeSteps (t : Declaration) : List Step := .type :: t.findings.map Step.ofFinding

/-- The number of rows of declarations. -/
def rowCount (declarations : List Declaration) : Nat :=
  declarations.foldl (fun n t => n + t.rows.length) 0

/-- The steps of a file whose declarations are known. -/
def declarationSteps (path : String) (declarations : List Declaration) : List Step :=
  .file :: declarations.flatMap typeSteps ++
    [.note (walkEntry ("Scanned " ++ path ++ ": " ++ toString declarations.length ++ " types, " ++
      toString (rowCount declarations) ++ " rows"))]

/-- The steps of a file, or what was noted before it failed. A walk finds no path with a NUL. -/
def fileSteps (d : Files.Disk) (strict : Bool) (path : String) :
    Except (List Step × Failure) (List Step) :=
  match loadDeclarations d strict path with
  | (log, .ok declarations) => .ok (log.map Step.note ++ declarationSteps path declarations)
  | (log, .error (.failure failure)) => .error (log.map Step.note, failure)
  | (log, .error .nul) => .error (log.map Step.note, .sourceNotFound path)

/-- The step that begins a root. -/
def rootStep (d : Files.Disk) (root : String) : Step :=
  .note (walkEntry ("Scanning source root " ++ d.absolute root))

/-! ## Scanning at once -/

/-- Someone who takes the steps of a scan. -/
structure Taker (σ : Type) where
  /-- The disk at this moment. -/
  disk : σ → Files.Disk
  /-- Takes a step. -/
  take : σ → Step → σ

variable {σ : Type}

/-- Visits files by taking all their steps. -/
def Taker.visitor (t : Taker σ) (markers : List String) (strict : Bool) : Walk.Visitor σ where
  disk := t.disk
  markers
  visit path s :=
    match fileSteps (t.disk s) strict path with
    | .ok steps => .goOn (steps.foldl t.take s)
    | .error (steps, failure) => .fail failure (steps.foldl t.take s)

/-- Scans roots from first to last, up to the first failure. -/
def Taker.scan (t : Taker σ) (markers : List String) (strict : Bool) :
    List String → σ → Option Failure × σ
  | [], s => (none, s)
  | root :: roots, s =>
    match Walk.start (t.visitor markers strict) root (t.take s (rootStep (t.disk s) root)) with
    | .finished s => scan t markers strict roots s
    | .stopped s _ => scan t markers strict roots s
    | .failed failure s => (some failure, s)

/-- Everything that a scan of an unchanging disk has brought so far. -/
structure Harvest where
  disk : Files.Disk
  /-- The steps, last first. -/
  taken : List Step := []

namespace Harvest

/-- Collects steps. -/
def taker : Taker Harvest where
  disk := Harvest.disk
  take s step := { s with taken := step :: s.taken }

/-- The steps in order. -/
def steps (h : Harvest) : List Step := h.taken.reverse

/-- The rows in order. -/
def rows (h : Harvest) : List Row := h.steps.filterMap Step.row?

/-- The log in order. -/
def log (h : Harvest) : List Log.Entry := h.steps.filterMap Step.entry?

/-- The counts. -/
def statistics (h : Harvest) : Statistics := h.steps.foldl Statistics.take {}

end Harvest

/-- Scans roots on an unchanging disk. -/
def scan (d : Files.Disk) (markers : List String) (strict : Bool) (roots : List String) :
    Option Failure × Harvest :=
  Harvest.taker.scan markers strict roots { disk := d }

end Scan

/-! ## Candidate files -/

namespace Walk

/-- A walk that only collects paths, last first. -/
def collector (d : Files.Disk) (markers : List String) : Visitor (List String) where
  disk _ := d
  markers
  visit path paths := .goOn (path :: paths)

/-- The candidate files below a path, in order, and the failure that ended the search. -/
def candidates (d : Files.Disk) (markers : List String) (path : String) :
    List String × Option Failure :=
  match start (collector d markers) path [] with
  | .finished paths => (paths.reverse, none)
  | .stopped paths _ => (paths.reverse, none)
  | .failed failure paths => (paths.reverse, some failure)

end Walk

end RoleAudit
