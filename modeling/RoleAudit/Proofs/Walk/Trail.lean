import RoleAudit.Proofs.Files.Listing
import RoleAudit.Scan.Step

/-!
# Trails

The files that a walk comes to on a disk that does not change are a **trail**, a list that depends on
the disk alone. A trail goes through the entries of a directory, and into the directories among them.
When a walk is stopped, the rest of its trail is the one through the directories that are left.

* `trail_eq`: the trail from a path, without a bound on how deep it may go.
* `trailOver`: the trail through what is left of several directories.
-/

namespace RoleAudit.Walk

open RoleAudit.Files RoleAudit.Files.Disk

/-! ## Trails -/

/-- The files that a walk comes to, in order, and the failure at which it ends. -/
structure Trail where
  files : List String
  failure : Option Failure

namespace Trail

/-- Goes on with another trail, if the first does not end in a failure. -/
def andThen (t u : Trail) : Trail :=
  match t.failure with
  | some _ => t
  | none => ⟨t.files ++ u.files, u.failure⟩

lemma nil_andThen (t : Trail) : (⟨[], none⟩ : Trail).andThen t = t := by
  cases t
  rfl

lemma andThen_nil (t : Trail) : t.andThen ⟨[], none⟩ = t := by
  obtain ⟨files, _ | failure⟩ := t
  · unfold andThen
    simp only [List.append_nil]
  · rfl

lemma cons_andThen (path : String) (paths : List String) (failure : Option Failure) (t : Trail) :
    (⟨path :: paths, failure⟩ : Trail).andThen t =
      ⟨path :: ((⟨paths, failure⟩ : Trail).andThen t).files,
        ((⟨paths, failure⟩ : Trail).andThen t).failure⟩ := by
  cases failure <;> rfl

lemma andThen_assoc (t u w : Trail) : (t.andThen u).andThen w = t.andThen (u.andThen w) := by
  obtain ⟨ts, _ | failure⟩ := t
  · obtain ⟨us, _ | failure⟩ := u
    · unfold andThen
      simp only [List.append_assoc]
    · rfl
  · rfl

end Trail

/-- The trail through the entries of a directory. -/
def trailAmong (d : Disk) (markers : List String) (below : String → Trail) (directory : String) :
    List Entry → Trail
  | [] => ⟨[], none⟩
  | e :: es =>
    let path := Path.join directory e.name
    let rest := trailAmong d markers below directory es
    match examine d path e.kind with
    | .error failure => ⟨[], some failure⟩
    | .ok true => (below path).andThen rest
    | .ok false => if isCandidate markers e.name then ⟨path :: rest.files, rest.failure⟩ else rest

/-- The trail from a path, through at most so many directories inside each other. -/
def trailWithin (d : Disk) (markers : List String) : Nat → String → Trail
  | 0, path => ⟨[], some (.sourceNotFound path)⟩
  | depth + 1, path =>
    if d.isDirectory path then trailAmong d markers (trailWithin d markers depth) path (d.list path)
    else if d.isFile path then ⟨[path], none⟩
    else ⟨[], some (.sourceNotFound path)⟩

/-- The trail from a path. -/
def trail (d : Disk) (markers : List String) (path : String) : Trail :=
  trailWithin d markers pathLimit path

/-! ## How deep a walk may go -/

section Depth

variable {d : Disk} {markers : List String} {directory path : String} {es : List Entry}
  {below below' : String → Trail}

lemma trailAmong_congr (h : ∀ e ∈ es,
      below (Path.join directory e.name) = below' (Path.join directory e.name)) :
    trailAmong d markers below directory es = trailAmong d markers below' directory es := by
  induction es with
  | nil => rfl
  | cons e es ih =>
    rw [List.forall_mem_cons] at h
    unfold trailAmong
    simp only [h.1, ih h.2]

/-- A path that is too long leads nowhere. -/
lemma trailWithin_of_long (h : pathLimit ≤ path.utf8ByteSize) (depth : Nat) :
    trailWithin d markers depth path = ⟨[], some (.sourceNotFound path)⟩ := by
  cases depth with
  | zero => rfl
  | succ depth =>
    have hdirectory : ¬ d.isDirectory path = true := by
      intro hdirectory
      have hshort := utf8ByteSize_lt_of_isDirectory hdirectory
      omega
    have hfile : ¬ d.isFile path = true := by
      intro hfile
      have hshort := utf8ByteSize_lt_of_isFile hfile
      omega
    unfold trailWithin
    rw [if_neg hdirectory, if_neg hfile]

/-- How deep a walk may go makes no difference if paths are too long before it is that deep. -/
theorem trailWithin_eq {depth depth' : Nat} (h : pathLimit ≤ depth + path.utf8ByteSize)
    (h' : pathLimit ≤ depth' + path.utf8ByteSize) :
    trailWithin d markers depth path = trailWithin d markers depth' path := by
  induction depth generalizing depth' path with
  | zero =>
    have hlong : pathLimit ≤ path.utf8ByteSize := by omega
    rw [trailWithin_of_long hlong, trailWithin_of_long hlong]
  | succ depth ih =>
    rcases depth' with _ | depth'
    · have hlong : pathLimit ≤ path.utf8ByteSize := by omega
      rw [trailWithin_of_long hlong, trailWithin_of_long hlong]
    have hinside : ∀ e ∈ d.list path, trailWithin d markers depth (Path.join path e.name) =
        trailWithin d markers depth' (Path.join path e.name) := by
      intro e he
      have hlonger := utf8ByteSize_lt_join path (isName_of_mem_list he)
      exact ih (by omega) (by omega)
    unfold trailWithin
    rw [trailAmong_congr hinside]

/-- The trail from a directory goes through its entries, and into the directories among them. -/
theorem trail_eq (d : Disk) (markers : List String) (path : String) :
    trail d markers path =
      if d.isDirectory path then trailAmong d markers (trail d markers) path (d.list path)
      else if d.isFile path then ⟨[path], none⟩
      else ⟨[], some (.sourceNotFound path)⟩ := by
  have hdeeper : trail d markers path = trailWithin d markers (pathLimit + 1) path :=
    trailWithin_eq (by omega) (by omega)
  rw [hdeeper]
  rfl

end Depth

/-! ## What is left of a trail -/

/-- The trail through what is left of several directories, innermost first. -/
def trailOver (d : Disk) (markers : List String) : List Frame → Trail
  | [] => ⟨[], none⟩
  | f :: frames =>
    (trailAmong d markers (trail d markers) f.directory f.entries).andThen
      (trailOver d markers frames)

lemma trailOver_cons (d : Disk) (markers : List String) (f : Frame) (frames : List Frame) :
    trailOver d markers (f :: frames) =
      (trailAmong d markers (trail d markers) f.directory f.entries).andThen
        (trailOver d markers frames) := rfl

lemma trailOver_append (d : Disk) (markers : List String) (frames rest : List Frame) :
    trailOver d markers (frames ++ rest) =
      (trailOver d markers frames).andThen (trailOver d markers rest) := by
  induction frames with
  | nil => exact (Trail.nil_andThen _).symm
  | cons f frames ih =>
    rw [List.cons_append, trailOver_cons, trailOver_cons, ih, Trail.andThen_assoc]

lemma trailOver_singleton (d : Disk) (markers : List String) (f : Frame) :
    trailOver d markers [f] = trailAmong d markers (trail d markers) f.directory f.entries := by
  rw [trailOver_cons]
  exact Trail.andThen_nil _

end RoleAudit.Walk
