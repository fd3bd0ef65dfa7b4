import Mathlib.Computability.StateTransition
import RoleAudit.Proofs.Walk.Visiting

/-!
# Walks step by step

A walk is taken apart into its steps: it enters a path, examines the next entry of the innermost
directory, or goes back to the directory around it. Nothing in a step tells it to stop at some depth,
and it does not know where it was before. So whether it comes to its end depends on the disk, or rather
on what is seen of it, which is by how paths are followed.

* `View`: what a walk sees of a disk.
* `Course.step?`: one step.
* `exists_trail`: a walk comes to its end where no path goes on for ever, and its trail has all
  properties that are handed up from the entries of a directory to the directory.
* `trailFrom_locate`: if paths are followed as they are here, the trail is that of the walk.
-/

namespace RoleAudit.Walk

open RoleAudit.Files StateTransition

/-! ## What is seen of a disk -/

/-- What a walk sees of a disk. -/
structure View where
  isDirectory : String → Bool
  isFile : String → Bool
  list : String → List Entry
  examine : String → EntryKind → Except Failure Bool

namespace View

/-- What is seen of a disk by those who follow paths in some way. -/
def along (d : Disk) (follow : String → Except Fault Place) : View :=
  let isDirectory (path : String) : Bool :=
    match follow path with
    | .ok (.node n) =>
      match d.node? n with
      | some (.directory ..) => true
      | _ => false
    | _ => false
  { isDirectory
    isFile := fun path =>
      match follow path with
      | .ok (.node n) =>
        match d.node? n with
        | some (.file _) => true
        | _ => false
      | _ => false
    list := fun path =>
      match follow path with
      | .ok (.node n) =>
        ((d.entries n).map fun e => Entry.mk e.1 (d.entryKind e.2)).mergeSort
          fun a b => decide (a.name ≤ b.name)
      | _ => []
    examine := fun path kind =>
      match kind with
      | .directory => .ok true
      | .file => .ok false
      | .link =>
        match follow path with
        | .ok _ => .ok (isDirectory path)
        | .error (.refused refusal) =>
          if refusal.reason = .notFound then .ok false else .error (.cannotExamine path refusal)
        | .error .nul => .ok false }

/-- **This is what a walk sees here.** -/
theorem along_locate (d : Disk) :
    along d (fun path => d.locate path) = ⟨d.isDirectory, d.isFile, d.list, Walk.examine d⟩ := rfl

/-- A path stands in a directory. -/
def Inside (v : View) (path directory : String) : Prop :=
  v.isDirectory directory = true ∧ ∃ e ∈ v.list directory, path = Path.join directory e.name

end View

/-! ## Steps -/

/-- Where a walk stands, with the files that it has found. -/
inductive Course where
  /-- It is about to enter a path, from inside the frames. -/
  | entering (path : String) (frames : List Frame) (found : List String)
  /-- It goes through the entries that are left. -/
  | among (frames : List Frame) (found : List String)
  | ended (failure : Option Failure) (found : List String)

namespace Course

/-- One step. -/
def step? (v : View) (markers : List String) : Course → Option Course
  | entering path frames found =>
    if v.isDirectory path then some (among (⟨path, v.list path⟩ :: frames) found)
    else if v.isFile path then some (among frames (found ++ [path]))
    else some (ended (some (.sourceNotFound path)) found)
  | among [] found => some (ended none found)
  | among (⟨_, []⟩ :: frames) found => some (among frames found)
  | among (⟨directory, e :: es⟩ :: frames) found =>
    let path := Path.join directory e.name
    match v.examine path e.kind with
    | .error failure => some (ended (some failure) found)
    | .ok true => some (entering path (⟨directory, es⟩ :: frames) found)
    | .ok false =>
      if isCandidate markers e.name then some (among (⟨directory, es⟩ :: frames) (found ++ [path]))
      else some (among (⟨directory, es⟩ :: frames) found)
  | ended .. => none

lemma step?_entering (v : View) (markers : List String) (path : String) (frames : List Frame)
    (found : List String) :
    step? v markers (entering path frames found) =
      if v.isDirectory path then some (among (⟨path, v.list path⟩ :: frames) found)
      else if v.isFile path then some (among frames (found ++ [path]))
      else some (ended (some (.sourceNotFound path)) found) := rfl

lemma step?_among (v : View) (markers : List String) (directory : String) (e : Entry)
    (es : List Entry) (frames : List Frame) (found : List String) :
    step? v markers (among (⟨directory, e :: es⟩ :: frames) found) =
      match v.examine (Path.join directory e.name) e.kind with
      | .error failure => some (ended (some failure) found)
      | .ok true => some (entering (Path.join directory e.name) (⟨directory, es⟩ :: frames) found)
      | .ok false =>
        if isCandidate markers e.name then
          some (among (⟨directory, es⟩ :: frames) (found ++ [Path.join directory e.name]))
        else some (among (⟨directory, es⟩ :: frames) found) := rfl

end Course

/-! ## Trails -/

/-- Where a walk stands after a trail: it goes on in the frames around, or has ended. -/
def Trail.after (t : Trail) (frames : List Frame) (found : List String) : Course :=
  match t.failure with
  | none => .among frames (found ++ t.files)
  | some failure => .ended (some failure) (found ++ t.files)

/-- A walk that enters a path goes along a trail, in finitely many steps. -/
def Goes (v : View) (markers : List String) (path : String) (t : Trail) : Prop :=
  ∀ frames found, Reaches (Course.step? v markers) (.entering path frames found)
    (t.after frames found)

namespace View

/-- The trail through the entries of a directory. -/
def trailAmong (v : View) (markers : List String) (below : String → Trail) (directory : String) :
    List Entry → Trail
  | [] => ⟨[], none⟩
  | e :: es =>
    let path := Path.join directory e.name
    let rest := trailAmong v markers below directory es
    match v.examine path e.kind with
    | .error failure => ⟨[], some failure⟩
    | .ok true => (below path).andThen rest
    | .ok false => if isCandidate markers e.name then ⟨path :: rest.files, rest.failure⟩ else rest

/-- The trail from a path, if the trails from the paths inside are known. -/
def trailFrom (v : View) (markers : List String) (below : String → Trail) (path : String) : Trail :=
  if v.isDirectory path then v.trailAmong markers below path (v.list path)
  else if v.isFile path then ⟨[path], none⟩
  else ⟨[], some (.sourceNotFound path)⟩

end View

section

variable {v : View} {markers : List String} {path directory : String} {es : List Entry}
  {below : String → Trail} {frames : List Frame} {found : List String} {c : Course} {t u : Trail}

/-- A walk that has gone along a trail, and goes along another one if it has not ended, has gone along
both. -/
lemma reaches_andThen
    (h : Reaches (Course.step? v markers) c (t.after (⟨directory, es⟩ :: frames) found))
    (h' : ∀ found, Reaches (Course.step? v markers) (.among (⟨directory, es⟩ :: frames) found)
      (u.after frames found)) :
    Reaches (Course.step? v markers) c ((t.andThen u).after frames found) := by
  obtain ⟨files, _ | failure⟩ := t
  · have hboth : (Trail.andThen ⟨files, none⟩ u).after frames found =
        u.after frames (found ++ files) := by
      unfold Trail.andThen Trail.after
      simp only [List.append_assoc]
    rw [hboth]
    exact h.trans (h' (found ++ files))
  · exact h

/-- What a walk does with the entries of a directory. -/
lemma reaches_among
    (hbelow : ∀ e ∈ es, v.examine (Path.join directory e.name) e.kind = .ok true →
      Goes v markers (Path.join directory e.name) (below (Path.join directory e.name)))
    (frames : List Frame) (found : List String) :
    Reaches (Course.step? v markers) (.among (⟨directory, es⟩ :: frames) found)
      ((v.trailAmong markers below directory es).after frames found) := by
  induction es generalizing found with
  | nil =>
    unfold View.trailAmong Trail.after
    simp only [List.append_nil]
    exact .single rfl
  | cons e es ih =>
    rw [List.forall_mem_cons] at hbelow
    have hrest := ih hbelow.2
    unfold View.trailAmong
    have hstep := Course.step?_among v markers directory e es frames found
    rcases hexamine : v.examine (Path.join directory e.name) e.kind with failure | isDirectory <;>
      simp only [hexamine] at hstep ⊢
    · unfold Trail.after
      simp only [List.append_nil]
      exact .single hstep
    cases isDirectory with
    | true => exact .head hstep (reaches_andThen (hbelow.1 hexamine _ found) hrest)
    | false =>
      by_cases hcandidate : isCandidate markers e.name = true
      · simp only [if_pos hcandidate] at hstep ⊢
        have hfile : Reaches (Course.step? v markers) (.among (⟨directory, e :: es⟩ :: frames) found)
            ((⟨[Path.join directory e.name], none⟩ : Trail).after (⟨directory, es⟩ :: frames)
              found) := .single hstep
        exact reaches_andThen hfile hrest
      · simp only [if_neg hcandidate] at hstep ⊢
        exact .head hstep (hrest found)

/-- What a walk does that enters a path. -/
lemma goes_trailFrom
    (hbelow : v.isDirectory path = true → ∀ e ∈ v.list path,
      Goes v markers (Path.join path e.name) (below (Path.join path e.name))) :
    Goes v markers path (v.trailFrom markers below path) := by
  intro frames found
  have hstep := Course.step?_entering v markers path frames found
  unfold View.trailFrom
  by_cases hdirectory : v.isDirectory path = true
  · rw [if_pos hdirectory] at hstep ⊢
    exact .head hstep (reaches_among (fun e he _ => hbelow hdirectory e he) frames found)
  rw [if_neg hdirectory] at hstep ⊢
  by_cases hfile : v.isFile path = true
  · rw [if_pos hfile] at hstep ⊢
    exact .single hstep
  · rw [if_neg hfile] at hstep ⊢
    unfold Trail.after
    simp only [List.append_nil]
    exact .single hstep

/-- **A walk comes to its end where no path goes on for ever.** Its trail has every property that is
handed up to a directory from the paths inside. -/
theorem exists_trail {P : String → Trail → Prop}
    (hP : ∀ path below, (v.isDirectory path = true → ∀ e ∈ v.list path,
        P (Path.join path e.name) (below (Path.join path e.name))) →
      P path (v.trailFrom markers below path))
    (h : Acc v.Inside path) : ∃ t, Goes v markers path t ∧ P path t := by
  induction h with
  | intro path _ ih =>
    have hinside : ∀ path', ∃ t, v.Inside path' path → Goes v markers path' t ∧ P path' t := by
      intro path'
      by_cases hinside : v.Inside path' path
      · obtain ⟨t, ht⟩ := ih path' hinside
        exact ⟨t, fun _ => ht⟩
      · exact ⟨⟨[], none⟩, fun h => absurd h hinside⟩
    choose below hbelow using hinside
    exact ⟨v.trailFrom markers below path,
      goes_trailFrom fun hdirectory e he => (hbelow _ ⟨hdirectory, e, he, rfl⟩).1,
      hP path below fun hdirectory e he => (hbelow _ ⟨hdirectory, e, he, rfl⟩).2⟩

/-! ## Walks here -/

variable {d : Disk}

lemma trailAmong_locate (markers : List String) (below : String → Trail) (directory : String)
    (es : List Entry) :
    (View.along d fun path => d.locate path).trailAmong markers below directory es =
      trailAmong d markers below directory es := by
  induction es with
  | nil => rfl
  | cons e es ih =>
    unfold View.trailAmong trailAmong
    rw [ih]
    rfl

/-- **If paths are followed as they are here**, the trail is that of the walk. -/
theorem trailFrom_locate
    (hbelow : d.isDirectory path = true → ∀ e ∈ d.list path,
      below (Path.join path e.name) = trail d markers (Path.join path e.name)) :
    (View.along d fun path => d.locate path).trailFrom markers below path =
      trail d markers path := by
  rw [trail_eq]
  unfold View.trailFrom
  rw [trailAmong_locate, View.along_locate]
  by_cases hdirectory : d.isDirectory path = true
  · simp only [if_pos hdirectory]
    exact trailAmong_congr (hbelow hdirectory)
  · simp only [if_neg hdirectory]

end

end RoleAudit.Walk
