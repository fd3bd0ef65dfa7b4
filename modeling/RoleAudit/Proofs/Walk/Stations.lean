import RoleAudit.Proofs.Walk.Visiting

/-!
# The stations of a walk

A walk ends at its first failure. To say which failure that is, one lists everything the walk would
come to if nothing ever failed: the places it enters, the entries it examines and the sources it
visits. These are its **stations**, in order. At each of them something may be wrong, and a walk fails
at the first station where something is.

* `stations`: the stations of a walk from a path.
* `Trail.gather`: the trail through some stations, up to the first where something is wrong.
* `trail_eq_gather`: the trail of a walk goes through its stations.
-/

namespace RoleAudit.Walk

open RoleAudit.Files RoleAudit.Files.Disk

/-- Something that a walk comes to. -/
inductive Station where
  /-- A path that is entered. -/
  | place (path : String)
  /-- An entry of a directory that is examined. -/
  | entry (path : String) (kind : EntryKind)
  /-- A source that is visited. -/
  | source (path : String)
  deriving Repr, DecidableEq

/-- The stations among the entries of a directory. -/
def stationsAmong (d : Disk) (markers : List String) (below : String → List Station)
    (directory : String) : List Entry → List Station
  | [] => []
  | e :: es =>
    let path := Path.join directory e.name
    let inside := match examine d path e.kind with
      | .error _ => []
      | .ok true => below path
      | .ok false => if isCandidate markers e.name then [.source path] else []
    .entry path e.kind :: (inside ++ stationsAmong d markers below directory es)

/-- The stations of a walk from a path, through at most so many directories inside each other. -/
def stationsWithin (d : Disk) (markers : List String) : Nat → String → List Station
  | 0, path => [.place path]
  | depth + 1, path =>
    .place path ::
      if d.isDirectory path then
        stationsAmong d markers (stationsWithin d markers depth) path (d.list path)
      else if d.isFile path then [.source path]
      else []

/-- The stations of a walk from a path. -/
def stations (d : Disk) (markers : List String) (path : String) : List Station :=
  stationsWithin d markers pathLimit path

/-- What is wrong at a station, as far as the walk can tell: there is nothing at a place, or an entry
cannot be examined. -/
def Station.trouble (d : Disk) : Station → Option Failure
  | place path =>
    if d.isDirectory path then none
    else if d.isFile path then none
    else some (.sourceNotFound path)
  | entry path kind =>
    match examine d path kind with
    | .error failure => some failure
    | .ok _ => none
  | source _ => none

/-- The path of a source. -/
def Station.source? : Station → Option String
  | source path => some path
  | _ => none

/-- The trail through some stations, up to the first where something is wrong. -/
def Trail.gather (d : Disk) : List Station → Trail
  | [] => ⟨[], none⟩
  | station :: rest =>
    match station.trouble d with
    | some failure => ⟨[], some failure⟩
    | none => ⟨station.source?.toList ++ (gather d rest).files, (gather d rest).failure⟩

section Gather

variable {d : Disk} {markers : List String} {station : Station} {path : String} {kind : EntryKind}

lemma trouble_entry_of_error {failure : Failure} (h : examine d path kind = .error failure) :
    (Station.entry path kind).trouble d = some failure := by
  simp only [Station.trouble, h]

lemma trouble_entry_of_ok {isDirectory : Bool} (h : examine d path kind = .ok isDirectory) :
    (Station.entry path kind).trouble d = none := by
  simp only [Station.trouble, h]

lemma gather_of_trouble {failure : Failure} (h : station.trouble d = some failure)
    (rest : List Station) : Trail.gather d (station :: rest) = ⟨[], some failure⟩ := by
  unfold Trail.gather
  rw [h]

/-- A station that is no source, and at which nothing is wrong, is passed by. -/
lemma gather_of_pass (h : station.trouble d = none) (hsource : station.source? = none)
    (rest : List Station) : Trail.gather d (station :: rest) = Trail.gather d rest := by
  conv_lhs => unfold Trail.gather
  rw [h, hsource]
  rfl

lemma gather_source (path : String) (rest : List Station) :
    Trail.gather d (.source path :: rest) =
      ⟨path :: (Trail.gather d rest).files, (Trail.gather d rest).failure⟩ := rfl

/-- The trail through some stations and then others. -/
lemma gather_append (xs ys : List Station) :
    Trail.gather d (xs ++ ys) = (Trail.gather d xs).andThen (Trail.gather d ys) := by
  induction xs with
  | nil => exact (Trail.nil_andThen _).symm
  | cons station xs ih =>
    rw [List.cons_append]
    rcases htrouble : station.trouble d with _ | failure
    · rcases hsource : station.source? with _ | path
      · rw [gather_of_pass htrouble hsource, gather_of_pass htrouble hsource, ih]
      · cases station with
        | source path => rw [gather_source, gather_source, Trail.cons_andThen, ih]
        | place path => cases hsource
        | entry path kind => cases hsource
    · rw [gather_of_trouble htrouble, gather_of_trouble htrouble]
      rfl

/-- The trail through the entries of a directory goes through the stations among them. -/
lemma trailAmong_eq_gather {below : String → Trail} {inside : String → List Station}
    {directory : String} {es : List Entry}
    (h : ∀ e ∈ es, below (Path.join directory e.name) =
      Trail.gather d (inside (Path.join directory e.name))) :
    trailAmong d markers below directory es =
      Trail.gather d (stationsAmong d markers inside directory es) := by
  induction es with
  | nil => rfl
  | cons e es ih =>
    rw [List.forall_mem_cons] at h
    unfold trailAmong stationsAmong
    rw [ih h.2]
    rcases hexamine : examine d (Path.join directory e.name) e.kind with failure | isDirectory
    · simp only [hexamine, gather_of_trouble (trouble_entry_of_error hexamine)]
    · simp only [hexamine, gather_of_pass (trouble_entry_of_ok hexamine) rfl]
      cases isDirectory with
      | true =>
        simp only [gather_append]
        rw [h.1]
      | false =>
        by_cases hcandidate : isCandidate markers e.name = true
        · simp only [if_pos hcandidate, List.singleton_append, gather_source]
        · simp only [if_neg hcandidate, List.nil_append]

lemma trouble_place (d : Disk) (path : String) :
    (Station.place path).trouble d =
      if d.isDirectory path then none
      else if d.isFile path then none else some (.sourceNotFound path) := rfl

/-- There is nothing at a path that is too long. -/
lemma trouble_place_of_long (h : pathLimit ≤ path.utf8ByteSize) :
    (Station.place path).trouble d = some (.sourceNotFound path) := by
  have hdirectory : ¬ d.isDirectory path = true := fun hdirectory =>
    Nat.not_lt.2 h (utf8ByteSize_lt_of_isDirectory hdirectory)
  have hfile : ¬ d.isFile path = true := fun hfile =>
    Nat.not_lt.2 h (utf8ByteSize_lt_of_isFile hfile)
  rw [trouble_place, if_neg hdirectory, if_neg hfile]

lemma trailWithin_eq_gather {depth : Nat} (hdepth : pathLimit ≤ depth + path.utf8ByteSize) :
    trailWithin d markers depth path = Trail.gather d (stationsWithin d markers depth path) := by
  induction depth generalizing path with
  | zero =>
    have hlong : pathLimit ≤ path.utf8ByteSize := by omega
    exact (gather_of_trouble (trouble_place_of_long hlong) []).symm
  | succ depth ih =>
    have hplace := trouble_place d path
    unfold trailWithin stationsWithin
    by_cases hdirectory : d.isDirectory path = true
    · rw [if_pos hdirectory] at hplace
      rw [if_pos hdirectory, if_pos hdirectory, gather_of_pass hplace rfl]
      apply trailAmong_eq_gather
      intro e he
      have hlonger := utf8ByteSize_lt_join path (isName_of_mem_list he)
      exact ih (by omega)
    rw [if_neg hdirectory] at hplace ⊢
    rw [if_neg hdirectory]
    by_cases hfile : d.isFile path = true
    · rw [if_pos hfile] at hplace
      rw [if_pos hfile, if_pos hfile, gather_of_pass hplace rfl]
      rfl
    · rw [if_neg hfile] at hplace
      rw [if_neg hfile, if_neg hfile, gather_of_trouble hplace]

/-- **The trail of a walk goes through its stations**, up to the first where something is wrong. -/
theorem trail_eq_gather (d : Disk) (markers : List String) (path : String) :
    trail d markers path = Trail.gather d (stations d markers path) :=
  trailWithin_eq_gather (Nat.le_add_right _ _)

end Gather

/-- The trail of a walk from several roots goes through the stations of all of them. -/
theorem itinerary_eq_gather (d : Disk) (markers : List String) (roots : List String) :
    itinerary d markers roots = Trail.gather d (roots.flatMap (stations d markers)) := by
  induction roots with
  | nil => rfl
  | cons root roots ih =>
    rw [itinerary_cons, ih, trail_eq_gather, List.flatMap_cons, gather_append]

end RoleAudit.Walk
