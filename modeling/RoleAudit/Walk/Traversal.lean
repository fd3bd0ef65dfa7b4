import RoleAudit.Failure
import RoleAudit.Files.Access
import RoleAudit.Walk.Candidate

/-!
# Walking through directories

A walk goes through a directory depth first, siblings in the order of their names, and visits the
candidate files. A directory is listed when it is entered; what an entry is was settled by the
listing, except that a symbolic link is examined when it is reached. A path that is itself a file is
visited whatever its name.

What a visit does is left open. It works on a state, which holds the disk as it is at that moment,
and it may stop the walk; the walk can then be resumed, on a disk that may have changed, from the
entries that are left.

Paths grow with every directory that is entered, and no path may be as long as `Files.pathLimit`,
so a walk ends even where links lead in circles.
-/

namespace RoleAudit.Walk

open RoleAudit.Files

/-- A directory that is being walked through: its path and the entries that are left. -/
structure Frame where
  directory : String
  entries : List Entry
  deriving Repr, DecidableEq, Inhabited

/-- What a visit asks for. -/
inductive Visit (σ ε : Type) where
  | goOn (state : σ)
  | stop (state : σ)
  | fail (failure : ε) (state : σ)

/-- How a walk ends; a walk that was stopped can be resumed from its frames, innermost first. -/
inductive Outcome (σ ε : Type) where
  | finished (state : σ)
  | stopped (state : σ) (frames : List Frame)
  | failed (failure : ε) (state : σ)

/-- How a walk sees its state and what it does with it. -/
structure Visitor (σ : Type) where
  /-- The disk at this moment. -/
  disk : σ → Disk
  /-- The markers that select files. -/
  markers : List String
  /-- Visits a file. -/
  visit : String → σ → Visit σ Failure

/-- Whether an entry is a directory. A link that leads nowhere is none. -/
def examine (d : Disk) (path : String) (kind : EntryKind) : Except Failure Bool :=
  match kind with
  | .directory => .ok true
  | .file => .ok false
  | .link =>
    match d.locate path with
    | .ok _ => .ok (d.isDirectory path)
    | .error (.refused refusal) =>
      if refusal.reason = .notFound then .ok false else .error (.cannotExamine path refusal)
    | .error .nul => .ok false

variable {σ : Type}

/-- Goes through the entries of a directory; `enter` walks through a directory inside it. -/
def among (v : Visitor σ) (enter : String → σ → Outcome σ Failure) (directory : String) :
    List Entry → σ → Outcome σ Failure
  | [], s => .finished s
  | e :: es, s =>
    let path := Path.join directory e.name
    match examine (v.disk s) path e.kind with
    | .error failure => .failed failure s
    | .ok true =>
      match enter path s with
      | .finished s => among v enter directory es s
      | .stopped s frames => .stopped s (frames ++ [⟨directory, es⟩])
      | .failed failure s => .failed failure s
    | .ok false =>
      if isCandidate v.markers e.name then
        match v.visit path s with
        | .goOn s => among v enter directory es s
        | .stop s => .stopped s [⟨directory, es⟩]
        | .fail failure s => .failed failure s
      else among v enter directory es s

/-- Walks from a path, through at most so many directories inside each other. -/
def enter (v : Visitor σ) : Nat → String → σ → Outcome σ Failure
  | 0, path, s => .failed (.sourceNotFound path) s
  | depth + 1, path, s =>
    let d := v.disk s
    if d.isDirectory path then among v (enter v depth) path (d.list path) s
    else if d.isFile path then
      match v.visit path s with
      | .goOn s => .finished s
      | .stop s => .stopped s []
      | .fail failure s => .failed failure s
    else .failed (.sourceNotFound path) s

/-- Walks from a path. -/
def start (v : Visitor σ) (path : String) (s : σ) : Outcome σ Failure := enter v pathLimit path s

/-- Resumes a walk from its frames. -/
def resume (v : Visitor σ) : List Frame → σ → Outcome σ Failure
  | [], s => .finished s
  | f :: frames, s =>
    match among v (enter v pathLimit) f.directory f.entries s with
    | .finished s => resume v frames s
    | .stopped s inner => .stopped s (inner ++ frames)
    | .failed failure s => .failed failure s

end RoleAudit.Walk
