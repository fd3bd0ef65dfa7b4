import RoleAudit.Walk.Traversal

/-!
# Searching file by file

A search gives the candidate files below a path one at a time. Nothing happens between two pulls, and
the disk may have changed when the next file is pulled. A search that has ended, or failed, stays
ended.
-/

namespace RoleAudit.Walk

open RoleAudit.Files

/-- Where a search stands. -/
inductive Search where
  | fresh (root : String)
  /-- There are directories that have been listed, with the entries that are left in them. -/
  | under (frames : List Frame)
  | ended

/-- What a pull gives. -/
inductive Hit where
  | file (path : String)
  | done
  | failed (failure : Failure)
  deriving Repr, DecidableEq

/-- The file that a pull gives. -/
def Hit.path? : Hit → Option String
  | file path => some path
  | _ => none

/-- A pull under way: the disk during the pull, and the file that was found. -/
structure Finding where
  disk : Disk
  found : Option String := none

/-- Stops at every file. -/
def finder (markers : List String) : Visitor Finding where
  disk := Finding.disk
  markers
  visit path f := .stop { f with found := some path }

namespace Search

/-- What a pull gives, and where the search stands afterwards. -/
def conclude : Outcome Finding Failure → Hit × Search
  | .finished _ => (.done, .ended)
  | .stopped f frames =>
    match f.found with
    | some path => (.file path, .under frames)
    | none => (.done, .under frames)
  | .failed failure _ => (.failed failure, .ended)

/-- Pulls the next file. -/
def pull (markers : List String) (d : Disk) : Search → Hit × Search
  | fresh root => conclude (start (finder markers) root { disk := d })
  | under frames => conclude (resume (finder markers) frames { disk := d })
  | ended => (.done, .ended)

/-- What several pulls give, one after another, each on the disk as it is then. -/
def pulls (markers : List String) (s : Search) : List Disk → List Hit
  | [] => []
  | d :: disks => (s.pull markers d).1 :: (s.pull markers d).2.pulls markers disks

/-- The files that several pulls give. -/
def found (markers : List String) (s : Search) (disks : List Disk) : List String :=
  (s.pulls markers disks).filterMap Hit.path?

end Search

end RoleAudit.Walk
