import RoleAudit.Proofs.Scan.Recording

/-!
# What steps tell about sources

The steps of a scan tell which sources were read: each is logged when it was parsed, then begun, and
then come its types with their rows. Behind a row there is never the beginning of another source,
since each source has its steps to itself.

* `Tells`: some steps are those of some sources, one after another.
* `fileSteps_ok`, `fileSteps_error`: the steps of a file tell about it, or about no source if it
  fails.
* `Step.quiet`: a step that is about no further source.
-/

namespace RoleAudit.Scan

open RoleAudit.Files RoleAudit.Report

/-! ## Sources that were parsed, in the log -/

/-- What is logged about a source when it was parsed. -/
def parsedEntry (path : String) : Log.Entry :=
  readingEntry .debug ("Successfully parsed file: " ++ path)

/-- The entry says that a source was parsed. -/
def isParsed (e : Log.Entry) : Bool :=
  e.source == "extraction.parser" && "Successfully parsed file: ".toList.isPrefixOf e.text.toList

lemma isParsed_parsedEntry (path : String) : isParsed (parsedEntry path) = true := by
  unfold isParsed parsedEntry readingEntry
  rw [String.toList_append, Bool.and_eq_true, List.isPrefixOf_iff_prefix]
  exact ⟨rfl, List.prefix_append _ _⟩

/-- Other parts of the audit do not say that a source was parsed. -/
lemma isParsed_of_source {e : Log.Entry} (h : e.source ≠ "extraction.parser") :
    isParsed e = false := by
  unfold isParsed
  rw [beq_false_of_ne h, Bool.false_and]

/-- An entry that begins with another letter says something else. -/
lemma isParsed_of_head {level : Log.Level} {text : String} (h : text.toList.head? ≠ some 'S') :
    isParsed (readingEntry level text) = false := by
  have hphrase : "Successfully parsed file: ".toList = 'S' :: "uccessfully parsed file: ".toList := by
    decide
  unfold isParsed readingEntry
  rw [hphrase, Bool.and_eq_false_iff]
  right
  rcases htext : text.toList with _ | ⟨c, cs⟩
  · rfl
  · rw [htext, List.head?_cons, ne_eq, Option.some.injEq] at h
    rw [List.isPrefixOf, beq_false_of_ne (Ne.symm h), Bool.false_and]

lemma parsed_parsedEntries (size : Nat) : (parsedEntries size).filter isParsed = [] := by
  rw [List.filter_eq_nil_iff]
  intro e he
  rw [Bool.not_eq_true]
  rcases List.mem_pair.1 he with rfl | rfl
  · exact isParsed_of_head (by decide)
  · exact isParsed_of_head (by simp [String.toList_append])

lemma isParsed_flaws (level : Log.Level) (path : String) (t : Source.Tree) :
    isParsed (readingEntry level (flawsOf path t).message) = false := by
  apply isParsed_of_head
  unfold flawsOf Failure.message Failure.flawText
  simp [String.toList_append]

lemma skeletonLogger_ne : Source.skeletonLogger ≠ "extraction.parser" := by decide

/-- What is logged about a declaration is not about parsing a source. -/
lemma isParsed_of_mem_tagEntries {t : Source.Tree} {e : Log.Entry}
    (h : e ∈ Source.tagEntries t) : isParsed e = false := by
  obtain ⟨m, -, hm⟩ := List.mem_filterMap.1 h
  obtain ⟨r, -, hr⟩ := Option.bind_eq_some_iff.1 hm
  obtain ⟨line, -, rfl⟩ := Option.map_eq_some_iff.1 hr
  exact isParsed_of_source skeletonLogger_ne

lemma isParsed_of_mem_declarationEntries {t : Source.Tree} {e : Log.Entry}
    (h : e ∈ Source.declarationEntries t) : isParsed e = false := by
  unfold Source.declarationEntries at h
  rcases hdeclaration : Source.declarationOf? t with _ | declaration <;>
    simp only [hdeclaration] at h
  · cases h
  · rcases List.mem_append.1 h with h | h
    · rcases List.mem_append.1 h with h | h
      · exact isParsed_of_mem_tagEntries h
      · obtain ⟨m, -, h⟩ := List.mem_flatMap.1 h
        exact isParsed_of_mem_tagEntries h
    · rw [List.mem_singleton.1 h]
      exact isParsed_of_source skeletonLogger_ne

/-- What is logged about the declarations of a source is not about parsing it. -/
lemma parsed_skeletonEntries (path : String) (t : Source.Tree) :
    (Source.skeletonEntries path t).filter isParsed = [] := by
  rw [List.filter_eq_nil_iff]
  intro e he
  rw [Bool.not_eq_true]
  unfold Source.skeletonEntries at he
  rcases List.mem_append.1 he with he | he
  · obtain ⟨c, -, he⟩ := List.mem_flatMap.1 he
    exact isParsed_of_mem_declarationEntries he
  · rw [List.mem_singleton.1 he]
    exact isParsed_of_source skeletonLogger_ne

/-- A log says once that a source was parsed if something came of it, and else does not say so. -/
def LogsParsed {ε α : Type} (path : String) (outcome : List Log.Entry × Except ε α) : Prop :=
  outcome.1.filter isParsed =
    match outcome.2 with
    | .ok _ => [parsedEntry path]
    | .error _ => []

lemma logsParsed_judge (strict : Bool) (path : String) (source : Loaded) :
    LogsParsed path (judge strict path source) := by
  have hread := parsed_parsedEntries source.bytes.length
  have hdone : isParsed (readingEntry .debug ("Successfully parsed file: " ++ path)) = true :=
    isParsed_parsedEntry path
  have hwarning := isParsed_flaws .warning path source.tree
  unfold LogsParsed judge
  rcases source.tree.flawed with _ | _
  · simp only [Bool.not_false, if_true, List.filter_append, hread, List.nil_append,
      List.filter_cons, hdone, List.filter_nil]
    rfl
  · cases strict with
    | true => simp only [Bool.not_true, Bool.false_eq_true, if_false, if_true, hread]
    | false =>
      simp only [Bool.not_true, Bool.false_eq_true, if_false, List.filter_append, hread,
        List.nil_append, List.filter_cons, hwarning, hdone, if_true, List.filter_nil]
      rfl

lemma logsParsed_settle {path : String}
    {verdict : List UInt8 → List Log.Entry × Except Failure Loaded}
    (h : ∀ bytes, LogsParsed path (verdict bytes)) (content : Except Fault (List UInt8)) :
    LogsParsed path (settle path verdict content) := by
  rcases content with fault | bytes
  · cases fault with
    | nul => rfl
    | refused refusal =>
      have hother : isParsed (readingEntry .error
          ("Error reading file " ++ path ++ ": " ++ refusal.message)) = false :=
        isParsed_of_head (by simp [String.toList_append])
      unfold LogsParsed settle
      simp only [List.filter_cons, hother, List.filter_nil, Bool.false_eq_true, if_false]
  · have hbytes := h bytes
    unfold settle
    rcases hverdict : verdict bytes with ⟨log, failure | source⟩ <;> rw [hverdict] at hbytes <;>
      simp only [hverdict] <;> exact hbytes

/-- **Each source that is loaded is logged once as parsed**, and one that fails is not. -/
theorem logsParsed_load (d : Disk) (strict : Bool) (path : String) :
    LogsParsed path (load d strict path) :=
  logsParsed_settle (fun bytes => logsParsed_judge strict path ⟨bytes, Source.read bytes⟩)
    (d.read path)

lemma logsParsed_loadDeclarations (d : Disk) (strict : Bool) (path : String) :
    LogsParsed path (loadDeclarations d strict path) := by
  have hload := logsParsed_load d strict path
  unfold loadDeclarations
  rcases hcase : load d strict path with ⟨log, obstacle | source⟩ <;> rw [hcase] at hload
  · exact hload
  · unfold LogsParsed
    simp only [List.filter_append, parsed_skeletonEntries, List.append_nil]
    exact hload

/-! ## Steps about sources -/

/-- The entries in the log that say that a source was parsed. -/
def parsedIn (steps : List Step) : List Log.Entry :=
  (steps.filterMap Step.entry?).filter isParsed

lemma parsedIn_append (steps more : List Step) :
    parsedIn (steps ++ more) = parsedIn steps ++ parsedIn more := by
  unfold parsedIn
  rw [List.filterMap_append, List.filter_append]

/-- Steps tell about sources: they log each when it was parsed, and hold it, its types and rows. -/
structure Tells (steps : List Step) (readings : List Reading) : Prop where
  files : steps.count .file = readings.length
  types : steps.count .type = (readings.flatMap Reading.declarations).length
  rows : steps.filterMap Step.row? = readings.flatMap Reading.rows
  parsed : parsedIn steps = readings.map fun r => parsedEntry r.path

lemma Tells.nil : Tells [] [] := ⟨rfl, rfl, rfl, rfl⟩

/-- Steps about some sources and then about others. -/
lemma Tells.append {steps more : List Step} {readings others : List Reading}
    (h : Tells steps readings) (hmore : Tells more others) :
    Tells (steps ++ more) (readings ++ others) where
  files := by rw [List.count_append, h.files, hmore.files, List.length_append]
  types := by
    rw [List.count_append, h.types, hmore.types, List.flatMap_append, List.length_append]
  rows := by rw [List.filterMap_append, h.rows, hmore.rows, List.flatMap_append]
  parsed := by rw [parsedIn_append, h.parsed, hmore.parsed, List.map_append]

lemma parsedIn_notes (log : List Log.Entry) :
    parsedIn (log.map Step.note) = log.filter isParsed := by
  unfold parsedIn
  rw [List.filterMap_map]
  exact congrArg _ (List.filterMap_some (l := log))

/-- Notes that do not say that a source was parsed tell about none. -/
lemma Tells.notes {log : List Log.Entry} (h : log.filter isParsed = []) :
    Tells (log.map Step.note) [] where
  files := List.count_eq_zero.2 (by simp)
  types := List.count_eq_zero.2 (by simp)
  rows := rows_notes log
  parsed := (parsedIn_notes log).trans h

/-! ## The steps of a file -/

/-- Remarks on tags and members are not about parsing a source. -/
lemma isParsed_remark (r : Remark) : isParsed r.entry = false := by
  have htags : "extraction.annotations" ≠ "extraction.parser" := by decide
  have hmembers : "extraction.engine" ≠ "extraction.parser" := by decide
  cases r with
  | tag r => cases r <;> exact isParsed_of_source htags
  | notManaged type => exact isParsed_of_source hmembers
  | skipped type method reason => exact isParsed_of_source hmembers

/-- What the walk itself logs is not about parsing a source. -/
lemma isParsed_walkEntry (text : String) : isParsed (walkEntry text) = false := by
  have hwalker : "extraction.walker" ≠ "extraction.parser" := by decide
  exact isParsed_of_source hwalker

/-- The step is about no further source. -/
def quiet : Step → Bool
  | .note e => !isParsed e
  | .file => false
  | _ => true

lemma quiet_note {e : Log.Entry} (h : isParsed e = false) : quiet (.note e) = true := by
  simp only [quiet, h, Bool.not_false]

lemma quiet_ofFinding (f : Finding) : quiet (Step.ofFinding f) = true := by
  cases f with
  | row r => rfl
  | remark r => exact quiet_note (isParsed_remark r)

/-- What comes behind the beginning of a source is about no further one. -/
lemma quiet_types {declarations : List Declaration} {step : Step}
    (h : step ∈ declarations.flatMap typeSteps) : quiet step = true := by
  obtain ⟨t, -, h⟩ := List.mem_flatMap.1 h
  unfold typeSteps at h
  rcases List.mem_cons.1 h with rfl | h
  · rfl
  · obtain ⟨f, -, rfl⟩ := List.mem_map.1 h
    exact quiet_ofFinding f

/-- Quiet steps tell of no source that was parsed. -/
lemma parsedIn_of_quiet {steps : List Step} (h : ∀ step ∈ steps, quiet step = true) :
    parsedIn steps = [] := by
  unfold parsedIn
  rw [List.filter_eq_nil_iff]
  intro e he
  obtain ⟨step, hstep, hentry⟩ := List.mem_filterMap.1 he
  have hquiet := h step hstep
  cases step with
  | note e' =>
    cases hentry
    simpa [quiet] using hquiet
  | file => cases hentry
  | type => cases hentry
  | row r => cases hentry

/-- The steps of a source behind its beginning. -/
def behindFile (path : String) (declarations : List Declaration) : List Step :=
  (declarationSteps path declarations).tail

lemma quiet_behindFile {path : String} {declarations : List Declaration} {step : Step}
    (h : step ∈ behindFile path declarations) : quiet step = true := by
  have hmem : step ∈ declarations.flatMap typeSteps ++ [_] := h
  rcases List.mem_append.1 hmem with h | h
  · exact quiet_types h
  · rw [List.mem_singleton.1 h]
    exact quiet_note (isParsed_walkEntry _)

/-- **The steps of a file tell about it.** Its rows come behind its beginning, where nothing is about
any further source. -/
theorem fileSteps_ok {d : Disk} {strict : Bool} {path : String} {steps : List Step}
    (h : fileSteps d strict path = .ok steps) :
    ∃ declarations, declarationsIn d strict path = .ok declarations ∧
      Tells steps [⟨path, declarations⟩] ∧
      ∃ head tail, steps = head ++ tail ∧ head.filterMap Step.row? = [] ∧
        ∀ step ∈ tail, quiet step = true := by
  have hlogged := logsParsed_loadDeclarations d strict path
  unfold fileSteps at h
  unfold declarationsIn
  rcases hload : loadDeclarations d strict path with ⟨log, obstacle | declarations⟩ <;>
    simp only [hload] at h hlogged ⊢
  · cases obstacle <;> cases h
  · cases h
    obtain ⟨hfile, htype⟩ := count_declarationSteps path declarations
    have hnofile : (log.map Step.note).count .file = 0 := List.count_eq_zero.2 (by simp)
    have hnotype : (log.map Step.note).count .type = 0 := List.count_eq_zero.2 (by simp)
    have hbehind : parsedIn (declarationSteps path declarations) = [] := by
      have htail : parsedIn (behindFile path declarations) = [] :=
        parsedIn_of_quiet fun _ => quiet_behindFile
      exact htail
    refine ⟨declarations, rfl, ⟨?_, ?_, ?_, ?_⟩, log.map Step.note ++ [.file],
      behindFile path declarations, ?_, ?_, fun step => quiet_behindFile⟩
    · rw [List.count_append, hnofile, hfile]
      rfl
    · rw [List.count_append, hnotype, htype, List.flatMap_singleton, Nat.zero_add]
    · rw [List.filterMap_append, rows_notes, rows_declarationSteps, List.flatMap_singleton]
      rfl
    · rw [parsedIn_append, parsedIn_notes, hbehind, List.append_nil]
      exact hlogged
    · rw [List.append_assoc]
      rfl
    · rw [List.filterMap_append, rows_notes]
      rfl

/-- **The steps of a file that fails tell about no source.** -/
theorem fileSteps_error {d : Disk} {strict : Bool} {path : String} {steps : List Step}
    {failure : Failure} (h : fileSteps d strict path = .error (steps, failure)) :
    declarationsIn d strict path = .error failure ∧ Tells steps [] := by
  have hlogged := logsParsed_loadDeclarations d strict path
  unfold fileSteps at h
  unfold declarationsIn
  rcases hload : loadDeclarations d strict path with ⟨log, obstacle | declarations⟩ <;>
    simp only [hload] at h hlogged ⊢
  · cases obstacle <;> cases h <;> exact ⟨rfl, Tells.notes hlogged⟩
  · cases h

/-- The note about a root tells about no source. -/
lemma tells_rootStep (d : Disk) (root : String) : Tells [rootStep d root] [] := by
  have hother := isParsed_walkEntry ("Scanning source root " ++ d.absolute root)
  have hnone : [walkEntry ("Scanning source root " ++ d.absolute root)].filter isParsed = [] := by
    simp only [List.filter_cons, hother, List.filter_nil, Bool.false_eq_true, if_false]
  exact Tells.notes hnone

end RoleAudit.Scan
