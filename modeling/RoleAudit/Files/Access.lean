import RoleAudit.Files.Disk

/-!
# Working with files

Tests on paths, reading, opening for writing, making directories, and the listing of a directory in
the order of its names.
-/

namespace RoleAudit.Files

/-- What a listing says about an entry. -/
inductive EntryKind where
  | file
  | directory
  | link
  deriving Repr, DecidableEq, Inhabited

/-- An entry of a listing. -/
structure Entry where
  name : String
  kind : EntryKind
  deriving Repr, DecidableEq, Inhabited

namespace Disk

/-! ## Tests -/

/-- The path leads to a directory. -/
def isDirectory (d : Disk) (path : String) : Bool :=
  match d.locate path with
  | .ok (.node n) =>
    match d.node? n with
    | some (.directory ..) => true
    | _ => false
  | _ => false

/-- The path leads to a file. -/
def isFile (d : Disk) (path : String) : Bool :=
  match d.locate path with
  | .ok (.node n) =>
    match d.node? n with
    | some (.file _) => true
    | _ => false
  | _ => false

/-- The path leads to something. -/
def isThere (d : Disk) (path : String) : Bool :=
  match d.locate path with
  | .ok (.node _) => true
  | _ => false

/-! ## Reading -/

/-- Reads a file. -/
def read (d : Disk) (path : String) : Except Fault (List UInt8) :=
  match d.locate path with
  | .error fault => .error fault
  | .ok (.vacant ..) => .error (.refused ⟨.notFound, path⟩)
  | .ok (.node n) =>
    match d.node? n with
    | some (.file content) => .ok content
    | some (.directory ..) => .error (.refused ⟨.isDirectory, path⟩)
    | _ => .error (.refused ⟨.notFound, path⟩)

/-- What a listing says about a node. -/
def entryKind (d : Disk) (n : Nat) : EntryKind :=
  match d.node? n with
  | some (.directory ..) => .directory
  | some (.link _) => .link
  | _ => .file

/-- The entries of a directory, in the order of their names. -/
def list (d : Disk) (path : String) : List Entry :=
  match d.locate path with
  | .ok (.node n) =>
    ((d.entries n).map fun e => Entry.mk e.1 (d.entryKind e.2)).mergeSort
      fun a b => decide (a.name ≤ b.name)
  | _ => []

/-! ## Writing -/

/-- Opens a file for writing: an existing file is emptied, a missing one made. Returns the file's
node. -/
def openNew (d : Disk) (path : String) : Except Fault (Nat × Disk) :=
  match d.locate path .newFile with
  | .error fault => .error fault
  | .ok (.vacant directory name) => .ok (d.nodes.size, d.attach directory name .file)
  | .ok (.node n) =>
    match d.node? n with
    | some (.file _) => .ok (n, d.setContent n [])
    | _ => .error (.refused ⟨.isDirectory, path⟩)

/-- Makes a directory. -/
def makeDirectory (d : Disk) (path : String) : Except Fault Disk :=
  match d.locate path .entry with
  | .error (.refused ⟨.notDirectory, p⟩) =>
    match d.locate (String.ofList (path.toList.reverse.dropWhile (· == '/')).reverse) .entry with
    | .ok (.node _) => .error (.refused ⟨.alreadyExists, p⟩)
    | _ => .error (.refused ⟨.notDirectory, p⟩)
  | .error fault => .error fault
  | .ok (.node _) => .error (.refused ⟨.alreadyExists, path⟩)
  | .ok (.vacant directory name) => .ok (d.attach directory name .directory)

/-- Makes a directory unless it is there, after the directories above it. What was made before a
failure stays. -/
def makeDirectoriesFrom (d : Disk) : Nat → String → Option Fault × Disk
  | 0, _ => (none, d)
  | depth + 1, path =>
    let (head, tail) :=
      let parts := Path.split path
      if parts.2.isEmpty then Path.split parts.1 else parts
    let needed := !head.isEmpty && !tail.isEmpty && !d.isThere head
    let (failed, d) := if needed then makeDirectoriesFrom d depth head else (none, d)
    match failed with
    | some (.refused ⟨.alreadyExists, _⟩) | none =>
      if needed && tail == "." then (none, d)
      else
        match d.makeDirectory path with
        | .ok d => (none, d)
        | .error .nul => (some .nul, d)
        | .error fault => if d.isDirectory path then (none, d) else (some fault, d)
    | some fault => (some fault, d)

/-- Makes a directory and those above it, as far as they are missing. -/
def makeDirectories (d : Disk) (path : String) : Option Fault × Disk :=
  d.makeDirectoriesFrom (path.length + 1) path

end Disk

end RoleAudit.Files
