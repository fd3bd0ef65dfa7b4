import Std.Time.DateTime.Timestamp
import RoleAudit.Files.Edit
import RoleAudit.Run

/-!
# The program

The command line program around `Options.run`. It copies what the run may look at into a disk, runs,
and copies the report and the summary back. Log lines go to the standard error stream.
-/

namespace RoleAudit.Program

open RoleAudit.Files

/-- What a path leads to. -/
inductive Kind where
  | nothing
  | file
  | directory
  deriving Repr, DecidableEq

/-- Looks at a path, relative to the working directory. -/
def look (path : String) : IO Kind := do
  let path := (← IO.currentDir) / path
  if ← path.isDir then pure .directory
  else if ← path.pathExists then pure .file
  else pure .nothing

/-- The names in a directory. -/
def namesIn (path : String) : IO (List String) := do
  let entries ← ((← IO.currentDir) / path).readDir
  pure (entries.toList.map fun e => e.fileName)

/-- Copies a file. -/
def copyFile (d : Disk) (path : String) : IO Disk := do
  let bytes ← IO.FS.readBinFile path
  pure (d.put path bytes.toList).2

/-- Copies what is at a path: a file, or a directory with all Java files below it, down to a depth.
Links count as what they lead to. -/
def copyTree : Nat → Disk → String → IO Disk
  | 0, d, _ => pure d
  | depth + 1, d, path => do
    match ← look path with
    | .nothing => pure d
    | .file => copyFile d path
    | .directory =>
      let mut d := (d.makeDirectories path).2
      for name in ← namesIn path do
        let below := Path.join path name
        if Walk.isJavaName name || (← look below) == .directory then
          d ← copyTree depth d below
      pure d

/-- The directories above a path, outermost first. -/
def above : Nat → String → List String
  | 0, _ => []
  | depth + 1, path =>
    let head := (Path.split path).1
    if head.isEmpty || head == path then [] else above depth head ++ [head]

/-- Copies a path where the run may write, with the directories above it. Files are copied without
what they hold. -/
def copyTarget (d : Disk) (path : String) : IO Disk := do
  let mut d := d
  for p in above path.length path ++ [path] do
    match ← look p with
    | .nothing => pure ()
    | .file => d := if d.isFile p then d else (d.put p []).2
    | .directory => d := (d.makeDirectories p).2
  pure d

/-- Writes a file of the disk back. -/
def writeBack (d : Disk) (path : String) : IO Unit :=
  match d.read path with
  | .error _ => pure ()
  | .ok bytes => do
    let directory := (Path.split path).1
    unless directory.isEmpty do IO.FS.createDirAll directory
    IO.FS.writeBinFile path (ByteArray.mk bytes.toArray)

/-- How deep directories are searched. -/
def depthLimit : Nat := 64

/-- The time now. -/
def now : IO Moment := do
  let t ← Std.Time.Timestamp.now
  pure (Moment.ofEpoch (t.toNanosecondsSinceUnixEpoch.val.toNat / 1000))

/-- A new run id. -/
def freshId : IO String := do
  let n ← IO.rand 0 (Nat.pow 16 12 - 1)
  pure (String.ofList (Text.hexDigits 12 n))

/-- The paths that a run with these settings writes. -/
def targets (s : Settings) (o : Options) (runId : String) : List String :=
  s.reportPath :: match o.summaryDirectory with
    | none => []
    | some directory => [Path.join directory (runId ++ ".json")]

/-- Runs the audit on the files of this machine. -/
def audit (o : Options) : IO UInt32 := do
  let home := (← IO.currentDir).toString
  let environment ← IO.getEnv "ROLES_AUDIT_STRICT_SYNTAX"
  let id ← freshId
  let mut disk := Disk.empty home
  if let some path := o.config then
    if (← look path) == .file then disk ← copyFile disk path
    else disk ← copyTarget disk path
  let settings := (o.settings disk environment).2
  if let .ok s := settings then
    for root in s.sourceRoots do disk ← copyTree depthLimit disk root
    for path in targets s o id do disk ← copyTarget disk path
  let time := (← now).stamp
  let ran := o.run { disk, environment, context := {}, freshId := id, time }
  if let .ok s := settings then
    for path in targets s o id do
      if ran.disk.isFile path then writeBack ran.disk path
  for r in ran.log do
    if r.entry.level.passes o.logLevel then IO.eprintln (time ++ " | " ++ r.line)
  match ran.exit with
  | .ok code => pure code.toUInt32
  | .error fault => do
    IO.eprintln fault.message
    pure 1

end RoleAudit.Program

/-- The program. -/
def main (arguments : List String) : IO UInt32 := do
  match RoleAudit.Request.of arguments with
  | .ok (.audit o) => RoleAudit.Program.audit o
  | .ok .help => do
    IO.println ("usage: " ++ RoleAudit.programName ++ " " ++
      " ".intercalate (RoleAudit.Switch.spellings.map fun e => "[" ++ e.1 ++ "]"))
    pure 0
  | .error e => do
    IO.eprintln e.lastLine
    pure 2
