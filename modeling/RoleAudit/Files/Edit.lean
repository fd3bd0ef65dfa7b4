import RoleAudit.Files.Access

/-!
# Arranging files

What someone beside the audit does to a disk: putting files in place, making links, taking things
away, and looking at everything there is.
-/

namespace RoleAudit.Files.Disk

/-- The path without slashes at its end. -/
def bare (path : String) : String :=
  String.ofList (path.toList.reverse.dropWhile (· == '/')).reverse

/-- Writes a file, after making the directories above it. -/
def put (d : Disk) (path : String) (content : List UInt8) : Option Fault × Disk :=
  let directory := (Path.split path).1
  let (failed, d) := if directory.isEmpty then (none, d) else d.makeDirectories directory
  match failed with
  | some fault => (some fault, d)
  | none =>
    match d.openNew path with
    | .error fault => (some fault, d)
    | .ok (n, d) => (none, d.setContent n content)

/-- Makes a symbolic link. -/
def link (d : Disk) (path target : String) : Option Fault × Disk :=
  match d.locate path .entry with
  | .error fault => (some fault, d)
  | .ok (.node _) => (some (.refused ⟨.alreadyExists, path⟩), d)
  | .ok (.vacant directory name) => (none, d.attach directory name (.link target))

/-- Takes away a file, a link or a directory with all that is in it. -/
def remove (d : Disk) (path : String) : Option Fault × Disk :=
  match d.locate path .entry with
  | .error fault => (some fault, d)
  | .ok (.vacant ..) => (some (.refused ⟨.notFound, path⟩), d)
  | .ok (.node _) =>
    let (head, name) := Path.split (bare path)
    match d.locate (if head.isEmpty then "." else head) with
    | .ok (.node directory) => (none, d.dropEntry directory name)
    | _ => (none, d)

/-- The paths below a directory, each directory with a slash at its end; links are not followed. -/
def pathsBelow (d : Disk) : Nat → String → Nat → List String
  | 0, _, _ => []
  | depth + 1, above, n =>
    (d.entries n).flatMap fun e =>
      let path := above ++ e.1
      match d.node? e.2 with
      | some (.directory ..) => (path ++ "/") :: pathsBelow d depth (path ++ "/") e.2
      | some (.link _) => if d.isDirectory path then [path ++ "/"] else [path]
      | _ => [path]

/-- All paths below the home directory, in order. -/
def tree (d : Disk) : List String :=
  (d.pathsBelow pathLimit "" d.home).mergeSort fun a b => decide (a ≤ b)

end RoleAudit.Files.Disk
