import RoleAudit.Failure
import RoleAudit.Files.Access
import RoleAudit.Source.Flaws
import RoleAudit.Source.Reader
import RoleAudit.Source.Skeleton

/-!
# Loading a source

Reads one Java file from a disk and gives its tree. A tree with flaws is refused in strict mode; in
lenient mode it passes with a warning.
-/

namespace RoleAudit.Scan

open RoleAudit.Files

/-- A source that was read. -/
structure Loaded where
  bytes : List UInt8
  tree : Source.Tree

/-- Why a source is not loaded. -/
inductive Obstacle where
  | failure (failure : Failure)
  /-- The path holds a NUL. -/
  | nul

/-- An entry about reading sources. -/
def readingEntry (level : Log.Level) (text : String) : Log.Entry :=
  ⟨level, "extraction.parser", text⟩

/-- What is logged about every source before its flaws are known. -/
def parsedEntries (size : Nat) : List Log.Entry :=
  [readingEntry .debug "Created tree-sitter Java parser",
    readingEntry .debug ("Parsed " ++ toString size ++ " bytes of Java code")]

/-- The failure that the flaws of a tree amount to. -/
def flawsOf (path : String) (t : Source.Tree) : Failure :=
  .flawed path t.flaws (t.firstFlaw?.map Source.Tree.start)

/-- Judges a source that was read. -/
def judge (strict : Bool) (path : String) (source : Loaded) :
    List Log.Entry × Except Failure Loaded :=
  let read := parsedEntries source.bytes.length
  let done := readingEntry .debug ("Successfully parsed file: " ++ path)
  if !source.tree.flawed then (read ++ [done], .ok source)
  else if strict then (read, .error (flawsOf path source.tree))
  else (read ++ [readingEntry .warning (flawsOf path source.tree).message, done], .ok source)

/-- What comes of reading a path, with a verdict on its bytes. -/
def settle (path : String) (verdict : List UInt8 → List Log.Entry × Except Failure Loaded) :
    Except Fault (List UInt8) → List Log.Entry × Except Obstacle Loaded
  | .error .nul => ([], .error .nul)
  | .error (.refused refusal) =>
    ([readingEntry .error ("Error reading file " ++ path ++ ": " ++ refusal.message)],
      .error (.failure (.unreadable path refusal)))
  | .ok bytes =>
    match verdict bytes with
    | (log, .ok source) => (log, .ok source)
    | (log, .error failure) => (log, .error (.failure failure))

/-- Reads a source and judges it. -/
def load (d : Disk) (strict : Bool) (path : String) : List Log.Entry × Except Obstacle Loaded :=
  settle path (fun bytes => judge strict path ⟨bytes, Source.read bytes⟩) (d.read path)

/-- Reads the declarations of a source. -/
def loadDeclarations (d : Disk) (strict : Bool) (path : String) :
    List Log.Entry × Except Obstacle (List Declaration) :=
  match load d strict path with
  | (log, .ok source) =>
    (log ++ Source.skeletonEntries path source.tree, .ok (Source.declarations source.tree))
  | (log, .error obstacle) => (log, .error obstacle)

end RoleAudit.Scan
