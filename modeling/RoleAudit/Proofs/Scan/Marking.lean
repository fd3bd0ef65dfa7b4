import Mathlib.Data.List.Flatten
import RoleAudit.Proofs.Scan.Strictness
import RoleAudit.Proofs.Walk.Marking

/-!
# Scans with fewer and with more markers

If all sources are read, the rows of a scan are those of the files that it comes to, and these are
filtered by markers. So a scan with markers brings some of the rows that one with more markers
brings, or one without any, in the same order.

Where a source is not read, this need not be so: the scan that comes to it ends there, and one with
fewer markers may pass it by.

* `rows_scan_of_parses`: the rows of a scan, where all sources are read.
* `markers_spec`: what markers do to a search and to the rows of a scan.
-/

namespace RoleAudit.Scan

open RoleAudit.Files RoleAudit.Files.Disk RoleAudit.Report RoleAudit.Walk

/-- The source at a path can be read, and passes: it has no flaws, or these do not matter. -/
def Parses (d : Disk) (strict : Bool) (path : String) : Prop :=
  ∃ declarations, (loadDeclarations d strict path).2 = .ok declarations

variable {d : Disk} {strict : Bool} {path : String} {paths : List String}

lemma declarationsIn_of_parses (h : Parses d strict path) :
    ∃ declarations, declarationsIn d strict path = .ok declarations ∧
      rowsAt d path = declarations.flatMap Declaration.rows := by
  obtain ⟨declarations, hload⟩ := h
  have hread : declarationsIn d strict path = .ok declarations := by
    unfold declarationsIn
    rw [hload]
  refine ⟨declarations, hread, ?_⟩
  obtain ⟨t, htree, -, hpasses⟩ | ⟨t, htree, -, hrefused, hpasses⟩ | ⟨f, -, hfails⟩ :=
    declarationsIn_cases d path
  · rw [hpasses] at hread
    rw [rowsAt_of_tree htree, Except.ok.inj hread]
  · -- a source with flaws passes in lenient mode only
    cases strict with
    | true =>
      rw [hrefused] at hread
      cases hread
    | false =>
      rw [hpasses] at hread
      rw [rowsAt_of_tree htree, Except.ok.inj hread]
  · rw [hfails] at hread
    cases hread

/-- The rows of files that are all read are the rows of each. -/
lemma rows_ofFiles_of_parses (h : ∀ path ∈ paths, Parses d strict path)
    (failure : Option Failure) (done : List Row) :
    (Account.ofFiles (fun _ => declarationsIn d strict) failure done paths).rows =
      paths.flatMap (rowsAt d) := by
  induction paths generalizing done with
  | nil => rfl
  | cons path paths ih =>
    rw [List.forall_mem_cons] at h
    obtain ⟨declarations, hread, hrows⟩ := declarationsIn_of_parses h.1
    let read : List Row → String → Except Failure (List Declaration) :=
      fun _ => declarationsIn d strict
    have hfirst : read done path = .ok declarations := hread
    rw [Account.ofFiles_cons_ok hfirst, List.flatMap_cons, hrows, ← ih h.2]
    exact List.flatMap_cons

/-- **The rows of a scan below a root**, where all sources are read, are those of the files that are
found. -/
theorem rows_scan_of_parses {markers : List String} {root : String}
    (h : ∀ path ∈ (trail d markers root).files, Parses d strict path) :
    (scan d markers strict [root]).2.rows = (trail d markers root).files.flatMap (rowsAt d) := by
  rw [(scan_spec d markers strict [root]).2.rows]
  unfold account accountBelow
  rw [itinerary_singleton]
  exact rows_ofFiles_of_parses h _ _

/-- **Markers only filter.** Below a directory, a search with markers finds the files that one
without any finds, in the same order, less those whose name holds none of the markers, and both end in
the same way. So if the sources that are found without markers are all read, the rows of a scan with
markers stand in this order among those of a scan with more markers, and of one without any. -/
theorem markers_spec (d : Disk) {root : String} (hroot : d.isDirectory root = true)
    {markers : List String} (hmarkers : markers ≠ []) :
    (Walk.candidates d markers root).1 =
        (Walk.candidates d [] root).1.filter (fun path => decide (Marked markers path)) ∧
      (Walk.candidates d markers root).2 = (Walk.candidates d [] root).2 ∧
      ∀ strict, (∀ path ∈ (Walk.candidates d [] root).1, Parses d strict path) →
        (∀ wider, markers ⊆ wider →
          (scan d markers strict [root]).2.rows.Sublist (scan d wider strict [root]).2.rows) ∧
        (scan d markers strict [root]).2.rows.Sublist (scan d [] strict [root]).2.rows := by
  have htrail := fun {markers : List String} (hmarkers : markers ≠ []) =>
    trail_marked hmarkers hroot
  rw [candidates_eq_trail, candidates_eq_trail, htrail hmarkers]
  refine ⟨rfl, rfl, ?_⟩
  intro strict hparses
  have hmarked : ∀ {markers}, markers ≠ [] →
      (scan d markers strict [root]).2.rows =
        ((trail d [] root).marked markers).files.flatMap (rowsAt d) := by
    intro markers hmarkers
    rw [← htrail hmarkers]
    refine rows_scan_of_parses fun path hpath => hparses path ?_
    rw [htrail hmarkers] at hpath
    exact List.mem_of_mem_filter hpath
  rw [hmarked hmarkers]
  constructor
  · intro wider hwider
    have hne : wider ≠ [] := by
      rintro rfl
      exact hmarkers (List.subset_nil.1 hwider)
    rw [hmarked hne]
    exact (Trail.sublist_marked hwider _).flatMap _
  · rw [rows_scan_of_parses hparses]
    exact List.filter_sublist.flatMap _

/-! ### A marker in the name of a directory -/

/-- In lenient mode every source passes that can be read. -/
lemma parses_of_read {bytes : List UInt8} (h : d.read path = .ok bytes) : Parses d false path := by
  obtain ⟨log, source, hjudge⟩ : ∃ log source,
      judge false path ⟨bytes, Source.read bytes⟩ = (log, .ok source) := by
    -- what the tree of the text is does not matter
    generalize Source.read bytes = t
    rcases hflawed : t.flawed with _ | _
    · obtain ⟨log, hjudge⟩ := judge_of_flawless hflawed bytes false path
      exact ⟨log, _, hjudge⟩
    · obtain ⟨-, log, hjudge⟩ := judge_of_flawed hflawed bytes path
      exact ⟨log, _, hjudge⟩
  unfold Parses loadDeclarations
  rw [load_of_judge h hjudge]
  exact ⟨_, rfl⟩

lemma locate_shelf_inside : shelf.locate "/XBean.java/Bean.java" = .ok (.node 2) := by
  have hsteps : steps "/XBean.java/Bean.java" = ["XBean.java", "Bean.java"] := by decide +kernel
  have hfirst : shelf.next .target false linkLimit 0 "XBean.java" ["Bean.java"] =
      .onward false linkLimit 1 ["Bean.java"] := by rfl
  have hsecond : shelf.next .target false linkLimit 1 "Bean.java" [] =
      .finished (.ok (.node 2)) := by rfl
  have hwalk : shelf.walk .target false linkLimit 0 ["XBean.java", "Bean.java"] =
      .ok (.node 2) := by
    rw [walk_cons, hfirst]
    simp only [walk_cons, hsecond]
  rw [locate_eq_ok_iff, hsteps]
  exact ⟨by decide, by decide, by decide, hwalk⟩

lemma trail_shelf : trail shelf [] "/" = ⟨["/XBean.java/Bean.java"], none⟩ := by
  have hcandidate : isCandidate [] "Bean.java" = true := by decide +kernel
  have hinside : trail shelf [] "/XBean.java" = ⟨["/XBean.java/Bean.java"], none⟩ := by
    rw [trail_eq, if_pos isDirectory_shelf, list_shelf_inside]
    simp only [trailAmong, examine, join_shelf_inside, if_pos hcandidate]
  rw [trail_eq, if_pos (isDirectory_root shelf), list_shelf]
  simp only [trailAmong, examine, join_shelf, hinside]
  rfl

/-- A file is not marked by the name of the directory that it stands in. -/
theorem markers_spec_shelf :
    shelf.isDirectory "/" = true ∧ ["XBean"] ≠ [] ∧
      (∀ path ∈ (Walk.candidates shelf [] "/").1, Parses shelf false path) ∧
      Walk.candidates shelf [] "/" = (["/XBean.java/Bean.java"], none) ∧
      Walk.candidates shelf ["XBean"] "/" = ([], none) ∧
      (scan shelf ["XBean"] false ["/"]).2.rows.Sublist
        (scan shelf ["XBean", "Bean"] false ["/"]).2.rows ∧
      (scan shelf ["XBean"] false ["/"]).2.rows.Sublist (scan shelf [] false ["/"]).2.rows := by
  have hfound : Walk.candidates shelf [] "/" = (["/XBean.java/Bean.java"], none) := by
    rw [candidates_eq_trail, trail_shelf]
  have hparses : ∀ path ∈ (Walk.candidates shelf [] "/").1, Parses shelf false path := by
    have hread : shelf.read "/XBean.java/Bean.java" = .ok [] := by
      unfold Disk.read
      rw [locate_shelf_inside]
      rfl
    rw [hfound, List.forall_mem_singleton]
    exact parses_of_read hread
  obtain ⟨hfiles, hend, hrows⟩ :=
    markers_spec shelf (isDirectory_root shelf) (List.cons_ne_nil "XBean" [])
  obtain ⟨hwider, hall⟩ := hrows false hparses
  rw [hfound] at hfiles hend
  have hnone : Walk.candidates shelf ["XBean"] "/" = ([], none) :=
    Prod.ext (hfiles.trans (by decide +kernel)) hend
  exact ⟨isDirectory_root shelf, List.cons_ne_nil _ _, hparses, hfound, hnone,
    hwider ["XBean", "Bean"] (by simp), hall⟩

end RoleAudit.Scan
