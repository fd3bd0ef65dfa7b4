import RoleAudit.Proofs.Walk.Order
import RoleAudit.Proofs.Walk.Visiting

/-!
# Which candidate files there are

The search for candidate files goes down into every directory, through links as well, whatever its
name. Below a directory in which it can go everywhere it finds the entries that are no directories
and have a candidate's name, all of them, each once, in the order of their paths part by part.

* `Listable`: the tree below a directory can be gone through to its end.
* `Below`: the entries at any depth below a directory.
* `ordered_candidates`: what is found comes in order, wherever the search ends.
* `candidates_spec`: what is found, where the search comes to its end.
-/

namespace RoleAudit.Walk

open RoleAudit.Files RoleAudit.Files.Disk

/-! ## Names -/

/-- The name is that of a candidate: it ends as Java files do, and holds a marker if there are any. -/
def Chosen (markers : List String) (name : String) : Prop :=
  ".java".toList <:+ name.toList ∧
    (markers = [] ∨ ∃ marker ∈ markers, marker.toList <:+: name.toList)

lemma occursIn_iff {part cs : List Char} : occursIn part cs = true ↔ part <:+: cs := by
  induction cs with
  | nil =>
    unfold occursIn
    rw [List.isEmpty_iff, List.infix_nil]
  | cons c cs ih =>
    unfold occursIn
    rw [Bool.or_eq_true, List.isPrefixOf_iff_prefix, ih, List.infix_cons_iff]

lemma isCandidate_iff {markers : List String} {name : String} :
    isCandidate markers name = true ↔ Chosen markers name := by
  unfold isCandidate isJavaName holdsMarker javaEnding Chosen
  simp only [Bool.and_eq_true, Bool.or_eq_true, List.isEmpty_iff, List.any_eq_true, occursIn_iff,
    List.isSuffixOf_iff_suffix]

/-! ## What is found comes in order -/

variable {d : Disk} {markers : List String} {root directory path : String} {e : Entry}
  {es : List Entry} {below : String → Trail}

lemma refines_trailAmong
    (hbelow : ∀ path, Refines ((below path).files.map steps) [steps path])
    (hes : Frame.Ordered ⟨directory, es⟩) :
    Refines ((trailAmong d markers below directory es).files.map steps)
      (Frame.heads ⟨directory, es⟩) := by
  induction es with
  | nil => exact Refines.nil _
  | cons e es ih =>
    have hrest := ih hes.tail
    have hheads := hes.refines.ordered
    rw [Frame.heads_cons] at hheads ⊢
    have hlater := hrest.mono (List.subset_cons_self (steps (Path.join directory e.name)) _)
    unfold trailAmong
    rcases hexamine : examine d (Path.join directory e.name) e.kind with failure | isDirectory <;>
      simp only [hexamine]
    · exact Refines.nil _
    cases isDirectory with
    | true =>
      have hinside := hbelow (Path.join directory e.name)
      unfold Trail.andThen
      rcases hends : (below (Path.join directory e.name)).failure with _ | failure
      · rw [List.map_append]
        exact hinside.append hrest hheads
      · exact hinside.mono (List.subset_append_left [_] _)
    | false =>
      by_cases hcandidate : isCandidate markers e.name = true
      · simp only [if_pos hcandidate, List.map_cons]
        exact (Refines.refl hheads).cons hrest
      · simp only [if_neg hcandidate]
        exact hlater

lemma refines_trailWithin (d : Disk) (markers : List String) (depth : Nat) (path : String) :
    Refines ((trailWithin d markers depth path).files.map steps) [steps path] := by
  induction depth generalizing path with
  | zero => exact Refines.nil _
  | succ depth ih =>
    unfold trailWithin
    by_cases hdirectory : d.isDirectory path = true
    · rw [if_pos hdirectory]
      have hlisted := Frame.ordered_list hdirectory
      exact (refines_trailAmong ih hlisted).trans hlisted.refines
    rw [if_neg hdirectory]
    by_cases hfile : d.isFile path = true
    · rw [if_pos hfile]
      exact Refines.refl (List.pairwise_singleton _ _)
    · rw [if_neg hfile]
      exact Refines.nil _

/-- **What is found comes in order**, part by part, wherever the search ends. -/
theorem ordered_candidates (d : Disk) (markers : List String) (root : String) :
    (candidates d markers root).1.Pairwise fun p q => steps p < steps q := by
  rw [candidates_eq_trail]
  have hordered := (refines_trailWithin d markers pathLimit root).ordered
  rw [List.pairwise_map] at hordered
  exact hordered.imp Before.lt

/-! ## What there is to be found -/

/-- The tree below a directory is finite, and can be listed: every directory in it is listed, and of
every entry it can be told whether it is a directory. Links to directories are followed. -/
inductive Listable (d : Disk) : String → Prop where
  | intro {directory : String} (isDirectory : d.isDirectory directory = true)
    (examined : ∀ e ∈ d.list directory, ∀ failure,
      examine d (Path.join directory e.name) e.kind ≠ .error failure)
    (inside : ∀ e ∈ d.list directory, examine d (Path.join directory e.name) e.kind = .ok true →
      Listable d (Path.join directory e.name)) : Listable d directory

/-- An entry stands in a directory, which is the first directory or one below it. -/
inductive Below (d : Disk) : String → String → Entry → Prop where
  | here {directory : String} {e : Entry} (mem : e ∈ d.list directory) : Below d directory directory e
  | inside {root directory : String} {first e : Entry} (mem : first ∈ d.list root)
    (isDirectory : d.isDirectory (Path.join root first.name) = true)
    (below : Below d (Path.join root first.name) directory e) : Below d root directory e

/-- The path is that of a candidate file below a directory. -/
def IsCandidateBelow (d : Disk) (markers : List String) (root path : String) : Prop :=
  ∃ directory e, Below d root directory e ∧ path = Path.join directory e.name ∧
    d.isDirectory path = false ∧ Chosen markers e.name

/-- Candidates below a directory are entries of it, or below one. -/
lemma isCandidateBelow_iff :
    IsCandidateBelow d markers root path ↔
      ∃ e ∈ d.list root,
        (d.isDirectory (Path.join root e.name) = true ∧
          IsCandidateBelow d markers (Path.join root e.name) path) ∨
        (d.isDirectory (Path.join root e.name) = false ∧ path = Path.join root e.name ∧
          Chosen markers e.name) := by
  constructor
  · rintro ⟨directory, e, hbelow, rfl, hfile, hchosen⟩
    cases hbelow with
    | here mem => exact ⟨e, mem, Or.inr ⟨hfile, rfl, hchosen⟩⟩
    | inside mem isDirectory below =>
      exact ⟨_, mem, Or.inl ⟨isDirectory, directory, e, below, rfl, hfile, hchosen⟩⟩
  · rintro ⟨e, mem, ⟨hdirectory, directory, e', hbelow, hpath⟩ | ⟨hfile, rfl, hchosen⟩⟩
    · exact ⟨directory, e', Below.inside mem hdirectory hbelow, hpath⟩
    · exact ⟨root, e, Below.here mem, rfl, hfile, hchosen⟩

/-- A link is examined for what it leads to, if it can be. -/
lemma examine_link (h : ∀ failure, examine d path .link ≠ .error failure) :
    examine d path .link = .ok (d.isDirectory path) := by
  unfold examine at h ⊢
  rcases hlocate : d.locate path with fault | place
  · have hnowhere : d.isDirectory path = false := by
      unfold isDirectory
      rw [hlocate]
    simp only [hlocate] at h
    rw [hnowhere]
    cases fault with
    | nul => rfl
    | refused refusal =>
      by_cases hreason : refusal.reason = .notFound
      · exact if_pos hreason
      · exact absurd (if_neg hreason) (h _)
  · rfl

/-- In a tree that can be listed, an entry is examined for what it is. -/
lemma Listable.examine_eq (h : Listable d directory) (he : e ∈ d.list directory) :
    examine d (Path.join directory e.name) e.kind =
      .ok (d.isDirectory (Path.join directory e.name)) := by
  obtain ⟨-, hexamined, hinside⟩ := h
  have hfailure := hexamined e he
  have hlistable := hinside e he
  rcases hkind : e.kind with _ | _ | _ <;> rw [hkind] at hfailure hlistable
  · rw [isDirectory_join_of_file he hkind]
    rfl
  · obtain ⟨hdirectory, -, -⟩ := hlistable rfl
    rw [hdirectory]
    rfl
  · exact examine_link hfailure

/-! ## What is found -/

/-- What is found among entries, if the directories inside can be gone through to their end. -/
lemma trailAmong_spec (markers : List String) (below : String → Trail)
    (hexamine : ∀ e ∈ es, examine d (Path.join directory e.name) e.kind =
      .ok (d.isDirectory (Path.join directory e.name)))
    (hbelow : ∀ e ∈ es, d.isDirectory (Path.join directory e.name) = true →
      (below (Path.join directory e.name)).failure = none) :
    (trailAmong d markers below directory es).failure = none ∧
      ∀ path, path ∈ (trailAmong d markers below directory es).files ↔
        ∃ e ∈ es,
          (d.isDirectory (Path.join directory e.name) = true ∧
            path ∈ (below (Path.join directory e.name)).files) ∨
          (d.isDirectory (Path.join directory e.name) = false ∧
            path = Path.join directory e.name ∧ Chosen markers e.name) := by
  induction es with
  | nil =>
    refine ⟨rfl, fun path => ?_⟩
    simp [trailAmong]
  | cons e es ih =>
    rw [List.forall_mem_cons] at hexamine hbelow
    obtain ⟨hfailure, hfiles⟩ := ih hexamine.2 hbelow.2
    unfold trailAmong
    simp only [hexamine.1]
    rcases hdirectory : d.isDirectory (Path.join directory e.name) with _ | _
    · by_cases hcandidate : isCandidate markers e.name = true
      · simp only [if_pos hcandidate]
        refine ⟨hfailure, fun path => ?_⟩
        rw [isCandidate_iff] at hcandidate
        rw [List.mem_cons, hfiles, List.exists_mem_cons_iff]
        simp [hdirectory, hcandidate]
      · simp only [if_neg hcandidate]
        refine ⟨hfailure, fun path => ?_⟩
        rw [isCandidate_iff] at hcandidate
        rw [hfiles, List.exists_mem_cons_iff]
        simp [hdirectory, hcandidate]
    · have hinside := hbelow.1 hdirectory
      unfold Trail.andThen
      simp only [hinside]
      refine ⟨hfailure, fun path => ?_⟩
      rw [List.mem_append, hfiles, List.exists_mem_cons_iff]
      simp [hdirectory]

/-- A tree that can be listed is gone through to its end. -/
theorem trail_spec (markers : List String) (h : Listable d root) :
    (trail d markers root).failure = none ∧
      ∀ path, path ∈ (trail d markers root).files ↔ IsCandidateBelow d markers root path := by
  have hexamine := fun e (he : e ∈ d.list root) => h.examine_eq he
  induction h with
  | @intro root hdirectory hexamined hlistable ih =>
    have hinside : ∀ e ∈ d.list root, d.isDirectory (Path.join root e.name) = true →
        (trail d markers (Path.join root e.name)).failure = none ∧
          ∀ path, path ∈ (trail d markers (Path.join root e.name)).files ↔
            IsCandidateBelow d markers (Path.join root e.name) path := by
      intro e he hentry
      have htrue : examine d (Path.join root e.name) e.kind = .ok true := by
        rw [hexamine e he, hentry]
      exact ih e he htrue fun e' he' => (hlistable e he htrue).examine_eq he'
    obtain ⟨hfailure, hfiles⟩ := trailAmong_spec markers (trail d markers) hexamine
      fun e he hentry => (hinside e he hentry).1
    rw [trail_eq, if_pos hdirectory]
    refine ⟨hfailure, fun path => ?_⟩
    rw [hfiles, isCandidateBelow_iff]
    constructor
    · rintro ⟨e, he, ⟨hentry, hmem⟩ | hhere⟩
      · exact ⟨e, he, Or.inl ⟨hentry, ((hinside e he hentry).2 path).1 hmem⟩⟩
      · exact ⟨e, he, Or.inr hhere⟩
    · rintro ⟨e, he, ⟨hentry, hmem⟩ | hhere⟩
      · exact ⟨e, he, Or.inl ⟨hentry, ((hinside e he hentry).2 path).2 hmem⟩⟩
      · exact ⟨e, he, Or.inr hhere⟩

/-- **The candidate files below a directory whose tree can be listed**: the search comes to its end,
and finds the entries at any depth that are no directories and have a candidate's name. Their paths
come in order, part by part, and so each comes once. -/
theorem candidates_spec (d : Disk) (markers : List String) (root : String) (h : Listable d root) :
    (candidates d markers root).2 = none ∧
      (∀ path, path ∈ (candidates d markers root).1 ↔ IsCandidateBelow d markers root path) ∧
      (candidates d markers root).1.Pairwise (fun p q => steps p < steps q) ∧
      (candidates d markers root).1.Nodup := by
  have hordered := ordered_candidates d markers root
  have hnodup : (candidates d markers root).1.Nodup := by
    refine hordered.imp ?_
    rintro p q hlt rfl
    exact List.lt_irrefl _ hlt
  obtain ⟨hfailure, hfiles⟩ := trail_spec markers h
  refine ⟨?_, ?_, hordered, hnodup⟩
  · rw [candidates_eq_trail]
    exact hfailure
  · rw [candidates_eq_trail]
    exact hfiles

/-! ### A directory with the name of a file -/

/-- A disk with a directory whose name is that of a candidate, and a candidate in it. -/
def shelf : Disk := ((Disk.empty "/").attach 0 "XBean.java" .directory).attach 1 "Bean.java" .file

lemma join_shelf : Path.join "/" "XBean.java" = "/XBean.java" := by decide +kernel

lemma join_shelf_inside : Path.join "/XBean.java" "Bean.java" = "/XBean.java/Bean.java" := by
  decide +kernel

lemma locate_shelf : shelf.locate "/XBean.java" = .ok (.node 1) := by
  have hsteps : steps "/XBean.java" = ["XBean.java"] := by decide +kernel
  have hnext : shelf.next .target false linkLimit 0 "XBean.java" [] = .onward false linkLimit 1 [] :=
    by rfl
  have hwalk : shelf.walk .target false linkLimit 0 ["XBean.java"] = .ok (.node 1) := by
    rw [walk_cons, hnext]
    exact walk_nil _ _ _ _ _
  rw [locate_eq_ok_iff, hsteps]
  exact ⟨by decide, by decide, by decide, hwalk⟩

lemma isDirectory_shelf : shelf.isDirectory "/XBean.java" = true :=
  isDirectory_iff.2 ⟨1, locate_shelf, 0, [("Bean.java", 2)], by rfl⟩

lemma list_shelf : shelf.list "/" = [⟨"XBean.java", .directory⟩] :=
  list_of_singleton (locate_root shelf .target) (by rfl)

lemma list_shelf_inside : shelf.list "/XBean.java" = [⟨"Bean.java", .file⟩] :=
  list_of_singleton locate_shelf (by rfl)

lemma listable_shelf : Listable shelf "/" := by
  have hinside : Listable shelf "/XBean.java" := by
    refine .intro isDirectory_shelf ?_ ?_ <;> rw [list_shelf_inside, List.forall_mem_singleton]
    · intro failure
      exact nofun
    · intro hexamine
      cases hexamine
  refine .intro (isDirectory_root shelf) ?_ ?_ <;> rw [list_shelf, List.forall_mem_singleton]
  · intro failure
    exact nofun
  · intro _
    rw [join_shelf]
    exact hinside

/-- A directory is gone into whatever its name, and is no candidate itself. -/
theorem candidates_shelf :
    Listable shelf "/" ∧ (candidates shelf ["Bean"] "/").2 = none ∧
      "/XBean.java/Bean.java" ∈ (candidates shelf ["Bean"] "/").1 ∧
      "/XBean.java" ∉ (candidates shelf ["Bean"] "/").1 := by
  obtain ⟨hfailure, hfiles, -⟩ := candidates_spec shelf ["Bean"] "/" listable_shelf
  refine ⟨listable_shelf, hfailure, ?_, ?_⟩
  · have hroot : (⟨"XBean.java", .directory⟩ : Entry) ∈ shelf.list "/" := by
      rw [list_shelf]
      exact List.mem_singleton_self _
    have hinside : (⟨"Bean.java", .file⟩ : Entry) ∈ shelf.list "/XBean.java" := by
      rw [list_shelf_inside]
      exact List.mem_singleton_self _
    have hfile := isDirectory_join_of_file hinside rfl
    rw [join_shelf_inside] at hfile
    have hbelow : Below shelf "/" "/XBean.java" ⟨"Bean.java", .file⟩ := by
      refine Below.inside hroot ?_ ?_ <;> rw [join_shelf]
      · exact isDirectory_shelf
      · exact Below.here hinside
    rw [hfiles]
    refine ⟨_, _, hbelow, join_shelf_inside.symm, hfile, ?_⟩
    rw [← isCandidate_iff]
    decide +kernel
  · rw [hfiles]
    rintro ⟨directory, e, -, -, hfile, -⟩
    rw [isDirectory_shelf] at hfile
    cases hfile

end RoleAudit.Walk
