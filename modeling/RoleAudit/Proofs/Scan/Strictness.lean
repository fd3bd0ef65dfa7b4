import RoleAudit.Proofs.Scan.Recording

/-!
# Strict and lenient scans

A scan is strict or lenient about sources with flaws, and this is all in which the two differ. They
read the same files in the same order, and bring the same, up to the first source that has flaws;
there the strict scan ends, and the lenient one goes on. What ends the lenient scan ends the strict
one too, if that has come so far.

* `declarationsIn_cases`: where reading a source strictly and leniently differ.
* `ofFiles_strict`: what this means for the account of several files.
* `scan_strict`: what it means for a scan.
-/

namespace RoleAudit

/-- The failure is that a source has flaws. -/
def Failure.isFlawed : Failure → Bool
  | flawed .. => true
  | _ => false

namespace Walk

open RoleAudit.Files

/-! ## A walk does not look into files -/

lemma isFlawed_of_examine {d : Disk} {path : String} {kind : EntryKind} {failure : Failure}
    (h : examine d path kind = .error failure) : failure.isFlawed = false := by
  unfold examine at h
  split at h
  · cases h
  · cases h
  · split at h
    · cases h
    · split at h <;> cases h
      rfl
    · cases h

/-- A trail ends in a failure of the walk, if it ends in one. -/
lemma isFlawed_of_trailAmong {d : Disk} {markers : List String} {below : String → Trail}
    (hbelow : ∀ path failure, (below path).failure = some failure → failure.isFlawed = false)
    {directory : String} {es : List Entry} {failure : Failure}
    (h : (trailAmong d markers below directory es).failure = some failure) :
    failure.isFlawed = false := by
  induction es with
  | nil => cases h
  | cons e es ih =>
    unfold trailAmong at h
    rcases hexamine : examine d (Path.join directory e.name) e.kind with f | isDirectory <;>
      simp only [hexamine] at h
    · cases h
      exact isFlawed_of_examine hexamine
    cases isDirectory with
    | true =>
      unfold Trail.andThen at h
      rcases hfirst : (below (Path.join directory e.name)).failure with _ | f <;>
        simp only [hfirst] at h
      · exact ih h
      · cases h
        exact hbelow _ _ hfirst
    | false =>
      by_cases hcandidate : isCandidate markers e.name = true
      · simp only [if_pos hcandidate] at h
        exact ih h
      · simp only [if_neg hcandidate] at h
        exact ih h

lemma isFlawed_of_trailWithin {d : Disk} {markers : List String} {depth : Nat} {path : String}
    {failure : Failure} (h : (trailWithin d markers depth path).failure = some failure) :
    failure.isFlawed = false := by
  induction depth generalizing path failure with
  | zero =>
    cases h
    rfl
  | succ depth ih =>
    unfold trailWithin at h
    by_cases hdirectory : d.isDirectory path = true
    · rw [if_pos hdirectory] at h
      exact isFlawed_of_trailAmong (fun _ _ => ih) h
    rw [if_neg hdirectory] at h
    by_cases hfile : d.isFile path = true
    · rw [if_pos hfile] at h
      cases h
    · rw [if_neg hfile] at h
      cases h
      rfl

lemma isFlawed_of_itinerary {d : Disk} {markers roots : List String} {failure : Failure}
    (h : (itinerary d markers roots).failure = some failure) : failure.isFlawed = false := by
  induction roots with
  | nil => cases h
  | cons root roots ih =>
    rw [itinerary_cons] at h
    unfold Trail.andThen at h
    rcases hfirst : (trail d markers root).failure with _ | f <;> simp only [hfirst] at h
    · exact ih h
    · cases h
      exact isFlawed_of_trailWithin hfirst

end Walk

namespace Scan

open RoleAudit.Files RoleAudit.Report RoleAudit.Walk

/-! ## A single source -/

/-- The tree of a source, if it can be read. -/
def treeAt (d : Disk) (path : String) : Option Source.Tree :=
  match d.read path with
  | .ok bytes => some (Source.read bytes)
  | .error _ => none

/-- The rows of the types that a source declares. -/
def rowsAt (d : Disk) (path : String) : List Row :=
  match treeAt d path with
  | some t => (Source.declarations t).flatMap Declaration.rows
  | none => []

section Source

variable {d : Disk} {path : String} {bytes : List UInt8} {source : Loaded} {log : List Log.Entry}
  {strict : Bool} {t : Source.Tree}

/-- A source without flaws passes. -/
lemma judge_of_flawless (h : t.flawed = false) (bytes : List UInt8) (strict : Bool)
    (path : String) : ∃ log, judge strict path ⟨bytes, t⟩ = (log, .ok ⟨bytes, t⟩) := by
  unfold judge
  rw [h]
  exact ⟨_, rfl⟩

/-- A source with flaws passes in lenient mode only. -/
lemma judge_of_flawed (h : t.flawed = true) (bytes : List UInt8) (path : String) :
    (∃ log, judge true path ⟨bytes, t⟩ = (log, .error (flawsOf path t))) ∧
      ∃ log, judge false path ⟨bytes, t⟩ = (log, .ok ⟨bytes, t⟩) := by
  unfold judge
  rw [h]
  exact ⟨⟨_, rfl⟩, _, rfl⟩

/-- A source passes or fails as the verdict on its bytes says. -/
lemma settle_ok {verdict : List UInt8 → List Log.Entry × Except Failure Loaded}
    {result : Except Failure Loaded} (h : verdict bytes = (log, result)) :
    settle path verdict (.ok bytes) = (log, result.mapError .failure) := by
  simp only [settle, h]
  cases result with
  | error failure => rfl
  | ok source => rfl

lemma load_of_judge (h : d.read path = .ok bytes) {result : Except Failure Loaded}
    (hjudge : judge strict path ⟨bytes, Source.read bytes⟩ = (log, result)) :
    load d strict path = (log, result.mapError .failure) := by
  unfold load
  rw [h]
  exact settle_ok hjudge

lemma declarationsIn_of_judge (h : d.read path = .ok bytes) {result : Except Failure Loaded}
    (hjudge : judge strict path ⟨bytes, Source.read bytes⟩ = (log, result)) :
    declarationsIn d strict path = result.map fun source => Source.declarations source.tree := by
  unfold declarationsIn loadDeclarations
  rw [load_of_judge h hjudge]
  cases result with
  | error failure => rfl
  | ok source => rfl

/-- A source that cannot be read fails in the same way, strictly or not. -/
lemma declarationsIn_of_fault {fault : Fault} (h : d.read path = .error fault) :
    ∃ failure : Failure, failure.isFlawed = false ∧
      ∀ strict, declarationsIn d strict path = .error failure := by
  unfold declarationsIn loadDeclarations load
  rw [h]
  cases fault with
  | nul => exact ⟨.sourceNotFound path, rfl, fun _ => rfl⟩
  | refused refusal => exact ⟨.unreadable path refusal, rfl, fun _ => rfl⟩

end Source

/-- **Where strict and lenient reading differ**: a source without flaws is read either way, one with
flaws is read leniently only, and one that cannot be read at all fails either way. -/
theorem declarationsIn_cases (d : Disk) (path : String) :
    (∃ t, treeAt d path = some t ∧ t.flawed = false ∧
        ∀ strict, declarationsIn d strict path = .ok (Source.declarations t)) ∨
      (∃ t, treeAt d path = some t ∧ t.flawed = true ∧
        declarationsIn d true path = .error (flawsOf path t) ∧
        declarationsIn d false path = .ok (Source.declarations t)) ∨
      ∃ failure : Failure, failure.isFlawed = false ∧
        ∀ strict, declarationsIn d strict path = .error failure := by
  rcases hread : d.read path with fault | bytes
  · exact Or.inr (Or.inr (declarationsIn_of_fault hread))
  have htree : treeAt d path = some (Source.read bytes) := by
    unfold treeAt
    rw [hread]
  have hdeclared : ∀ (strict : Bool) (log : List Log.Entry) (result : Except Failure Loaded),
      judge strict path ⟨bytes, Source.read bytes⟩ = (log, result) →
        declarationsIn d strict path = result.map fun source => Source.declarations source.tree :=
    fun _ _ _ => declarationsIn_of_judge hread
  -- what the tree of the text is does not matter
  generalize Source.read bytes = t at htree hdeclared
  rcases hflawed : t.flawed with _ | _
  · refine Or.inl ⟨t, htree, hflawed, fun strict => ?_⟩
    obtain ⟨log, hjudge⟩ := judge_of_flawless hflawed bytes strict path
    exact hdeclared strict log _ hjudge
  · obtain ⟨⟨log, hstrict⟩, log', hlenient⟩ := judge_of_flawed hflawed bytes path
    exact Or.inr (Or.inl ⟨t, htree, hflawed, hdeclared true log _ hstrict,
      hdeclared false log' _ hlenient⟩)

/-! ## Several sources -/

/-- The source at a path can be read and has no flaws. -/
def IsFlawless (d : Disk) (path : String) : Prop :=
  ∃ t, treeAt d path = some t ∧ t.flawed = false

lemma rowsAt_of_tree {d : Disk} {path : String} {t : Source.Tree} (h : treeAt d path = some t) :
    rowsAt d path = (Source.declarations t).flatMap Declaration.rows := by
  unfold rowsAt
  rw [h]

/-- The strict account of files and the lenient one are the same. If it comes to its end, no file has
flaws, and its rows are those of the files. -/
structure Agreement (d : Disk) (files : List String) (strict lenient : Account) : Prop where
  same : strict = lenient
  notFlawed : ∀ f, strict.failure = some f → f.isFlawed = false
  flawless : strict.failure = none → ∀ p ∈ files, IsFlawless d p
  rows : strict.failure = none → strict.rows = files.flatMap (rowsAt d)

/-- How the strict account of files ends at the first that has flaws, and how the lenient one goes
on from there. -/
structure Parting (d : Disk) (files : List String) (strict lenient : Account) (before : List String)
    (path : String) (after : List String) (t : Source.Tree) : Prop where
  files : files = before ++ path :: after
  flawless : ∀ p ∈ before, IsFlawless d p
  tree : treeAt d path = some t
  flawed : t.flawed = true
  failure : strict.failure = some (flawsOf path t)
  rows : strict.rows = before.flatMap (rowsAt d)
  isPrefix : strict.rows <+: lenient.rows

section Cons

variable {d : Disk} {files : List String} {strict lenient : Account} {first : String}
  {t' : Source.Tree}

/-- A source without flaws before the others: their accounts still agree. -/
lemma Agreement.cons (h : Agreement d files strict lenient) (htree : treeAt d first = some t')
    (hflawless : t'.flawed = false) :
    let reading : Account := ⟨[⟨first, Source.declarations t'⟩], none⟩
    Agreement d (first :: files) (reading.andThen strict) (reading.andThen lenient) where
  same := by
    rw [h.same]
  notFlawed := h.notFlawed
  flawless := by
    intro hend
    rw [List.forall_mem_cons]
    exact ⟨⟨t', htree, hflawless⟩, h.flawless hend⟩
  rows := by
    intro hend
    have hrest : strict.rows = files.flatMap (rowsAt d) := h.rows hend
    rw [List.flatMap_cons, rowsAt_of_tree htree, ← hrest]
    rfl

/-- A source without flaws before the others: their accounts part where they did. -/
lemma Parting.cons {before : List String} {path : String} {after : List String} {t : Source.Tree}
    (h : Parting d files strict lenient before path after t) (htree : treeAt d first = some t')
    (hflawless : t'.flawed = false) :
    let reading : Account := ⟨[⟨first, Source.declarations t'⟩], none⟩
    Parting d (first :: files) (reading.andThen strict) (reading.andThen lenient)
      (first :: before) path after t where
  files := by
    rw [h.files, List.cons_append]
  flawless := by
    rw [List.forall_mem_cons]
    exact ⟨⟨t', htree, hflawless⟩, h.flawless⟩
  tree := h.tree
  flawed := h.flawed
  failure := h.failure
  rows := by
    rw [List.flatMap_cons, rowsAt_of_tree htree, ← h.rows]
    rfl
  isPrefix := List.prefix_append_right_inj _ |>.mpr h.isPrefix

end Cons

/-- **The strict account and the lenient account of the same files** are the same, unless one of
the files has flaws: at the first of these the strict account ends. -/
theorem ofFiles_strict (d : Disk) {failure : Option Failure}
    (hfailure : ∀ f, failure = some f → f.isFlawed = false) (done : List Row)
    (files : List String) :
    let strict := Account.ofFiles (fun _ => declarationsIn d true) failure done files
    let lenient := Account.ofFiles (fun _ => declarationsIn d false) failure done files
    Agreement d files strict lenient ∨
      ∃ before path after t, Parting d files strict lenient before path after t := by
  induction files generalizing done with
  | nil =>
    unfold Account.ofFiles
    refine Or.inl ⟨rfl, hfailure, fun _ p hp => ?_, fun _ => rfl⟩
    cases hp
  | cons first files ih =>
    intro strict lenient
    obtain ⟨t, htree, hflawless, hread⟩ | ⟨t, htree, hflawed, hrefused, -⟩ |
      ⟨f, hf, hfails⟩ := declarationsIn_cases d first
    · -- the first passes either way, and the rest decides
      have hstrict : strict = _ := Account.ofFiles_cons_ok (hread true) failure files
      have hlenient : lenient = _ := Account.ofFiles_cons_ok (hread false) failure files
      rw [hstrict, hlenient]
      obtain hsame | ⟨before, path, after, t', hparting⟩ :=
        ih (done ++ (⟨first, Source.declarations t⟩ : Reading).rows)
      · exact Or.inl (hsame.cons htree hflawless)
      · exact Or.inr ⟨first :: before, path, after, t', hparting.cons htree hflawless⟩
    · have hstrict : strict = _ := Account.ofFiles_cons_error hrefused failure files
      refine Or.inr ⟨[], first, files, t, rfl, ?_, htree, hflawed, ?_, ?_, ?_⟩
      · intro p hp
        cases hp
      · rw [hstrict]
      · rw [hstrict]
        rfl
      · rw [hstrict]
        exact List.nil_prefix
    · have hstrict : strict = _ := Account.ofFiles_cons_error (hfails true) failure files
      have hlenient : lenient = _ := Account.ofFiles_cons_error (hfails false) failure files
      rw [hstrict, hlenient]
      refine Or.inl ⟨rfl, ?_, ?_, ?_⟩
      · intro f' hf'
        cases hf'
        exact hf
      · intro hnone
        cases hnone
      · intro hnone
        cases hnone

/-! ## Scans -/

/-- **Strict and lenient scans agree up to the first source with flaws.** If the strict scan comes
to its end, no file has flaws, and the lenient scan comes to its end as well, with the same rows and
the same counts. If the strict scan ends at a source with flaws, this is the first such file on the
way, the rows are those of the files before it, and the lenient scan begins with them. If it ends in
any other failure, so does the lenient scan, with the same rows. -/
theorem scan_strict (d : Disk) (markers roots : List String) :
    let files := (Walk.itinerary d markers roots).files
    let strict := scan d markers true roots
    let lenient := scan d markers false roots
    match strict.1 with
    | none =>
      lenient.1 = none ∧ lenient.2.rows = strict.2.rows ∧
        lenient.2.statistics = strict.2.statistics ∧
        (∀ p ∈ files, IsFlawless d p) ∧ strict.2.rows = files.flatMap (rowsAt d)
    | some (.flawed path flaws first) =>
      ∃ before after t, files = before ++ path :: after ∧ (∀ p ∈ before, IsFlawless d p) ∧
        treeAt d path = some t ∧ t.flawed = true ∧ Failure.flawed path flaws first = flawsOf path t ∧
        strict.2.rows = before.flatMap (rowsAt d) ∧ strict.2.rows <+: lenient.2.rows
    | some failure =>
      lenient.1 = some failure ∧ lenient.2.rows = strict.2.rows ∧
        lenient.2.statistics = strict.2.statistics := by
  intro files strict lenient
  obtain ⟨hstrict, hstrictKeeps⟩ := scan_spec d markers true roots
  obtain ⟨hlenient, hlenientKeeps⟩ := scan_spec d markers false roots
  have hend : ∀ f, (Walk.itinerary d markers roots).failure = some f → f.isFlawed = false :=
    fun _ => isFlawed_of_itinerary
  obtain hagree | ⟨before, path, after, t, hparting⟩ := ofFiles_strict d hend [] files
  · have haccount : account d markers false roots = account d markers true roots :=
      hagree.same.symm
    have hfailure : lenient.1 = strict.1 := by
      rw [hlenient, hstrict, haccount]
    have hrows : lenient.2.rows = strict.2.rows := by
      rw [hlenientKeeps.rows, hstrictKeeps.rows, haccount]
    have hstatistics : lenient.2.statistics = strict.2.statistics := by
      rw [hlenientKeeps.statistics, hstrictKeeps.statistics, haccount]
    have hnotFlawed : ∀ f, strict.1 = some f → f.isFlawed = false := by
      rw [hstrict]
      exact hagree.notFlawed
    split
    · next h =>
      have hdone := hstrict.symm.trans h
      exact ⟨hfailure.trans h, hrows, hstatistics, hagree.flawless hdone,
        hstrictKeeps.rows.trans (hagree.rows hdone)⟩
    · next h => cases hnotFlawed _ h
    · next h => exact ⟨hfailure.trans h, hrows, hstatistics⟩
  · have hfailure : strict.1 = some (flawsOf path t) := hstrict.trans hparting.failure
    have hrows : strict.2.rows = before.flatMap (rowsAt d) :=
      hstrictKeeps.rows.trans hparting.rows
    have hprefix : strict.2.rows <+: lenient.2.rows := by
      rw [hstrictKeeps.rows, hlenientKeeps.rows]
      exact hparting.isPrefix
    rw [hfailure]
    exact ⟨before, after, t, hparting.files, hparting.flawless, hparting.tree, hparting.flawed, rfl,
      hrows, hprefix⟩

end Scan

end RoleAudit
