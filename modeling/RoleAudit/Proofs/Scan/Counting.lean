import Mathlib.Data.List.Basic
import RoleAudit.Scan.Step

/-!
# What the statistics count

Taking steps adds up: the counts after several steps are those before, with what the steps hold. The
steps of a file hold the file, its types, and the rows of its types.

* `Statistics.foldl_take`: taking steps adds what the steps hold.
* `Scan.foldl_take_declarationSteps`: what a file adds.
* `Statistics.rows_add`: each row is counted once, as the row of a class or of a method.
-/

namespace RoleAudit

namespace Statistics

/-- The counts with files, types and rows more. -/
def add (s : Statistics) (files types : Nat) (rows : List Row) : Statistics where
  files := s.files + files
  types := s.types + types
  classRows := s.classRows + rows.countP Row.isClassRow
  methodRows := s.methodRows + rows.countP fun r => !r.isClassRow

lemma add_add (s : Statistics) (files files' types types' : Nat) (rows rows' : List Row) :
    (s.add files types rows).add files' types' rows' =
      s.add (files + files') (types + types') (rows ++ rows') := by
  unfold add
  simp only [List.countP_append, Nat.add_assoc]

/-- Each row is counted once. -/
lemma rows_add (s : Statistics) (files types : Nat) (rows : List Row) :
    (s.add files types rows).rows = s.rows + rows.length := by
  have hlength : rows.length =
      rows.countP Row.isClassRow + rows.countP fun r => !r.isClassRow := by
    rw [List.length_eq_countP_add_countP Row.isClassRow]
    simp only [Bool.not_eq_true, Bool.decide_eq_false]
  simp only [Statistics.rows, add]
  omega

/-- What a step adds. -/
lemma take_eq_add (s : Statistics) (step : Step) :
    s.take step = s.add ([step].count .file) ([step].count .type) ([step].filterMap Step.row?) := by
  cases step with
  | note e => rfl
  | file => rfl
  | type => rfl
  | row r =>
    unfold Statistics.take countRow add
    by_cases hclass : r.isClassRow = true
    · simp [hclass, Step.row?]
    · simp [hclass, Step.row?]

/-- **Taking steps adds what the steps hold.** -/
theorem foldl_take (s : Statistics) (steps : List Step) :
    steps.foldl Statistics.take s =
      s.add (steps.count .file) (steps.count .type) (steps.filterMap Step.row?) := by
  induction steps generalizing s with
  | nil => rfl
  | cons step steps ih =>
    rw [List.foldl_cons, ih, take_eq_add, add_add, ← List.count_append, ← List.count_append,
      ← List.filterMap_append, List.singleton_append]

/-- Notes add nothing. -/
lemma foldl_take_notes (s : Statistics) (log : List Log.Entry) :
    (log.map Step.note).foldl Statistics.take s = s := by
  induction log with
  | nil => rfl
  | cons e log ih => exact ih

/-- No count is greater. -/
instance : LE Statistics where
  le s t :=
    s.files ≤ t.files ∧ s.types ≤ t.types ∧ s.classRows ≤ t.classRows ∧ s.methodRows ≤ t.methodRows

/-- Taking steps makes no count smaller. -/
lemma le_foldl_take (s : Statistics) (steps : List Step) :
    s ≤ steps.foldl Statistics.take s := by
  rw [foldl_take]
  exact ⟨Nat.le_add_right _ _, Nat.le_add_right _ _, Nat.le_add_right _ _, Nat.le_add_right _ _⟩

end Statistics

namespace Scan

lemma rows_notes (log : List Log.Entry) : (log.map Step.note).filterMap Step.row? = [] := by
  rw [List.filterMap_map]
  exact List.filterMap_eq_nil_iff.2 fun _ _ => rfl

/-! ## The steps of a file -/

lemma row?_ofFinding (f : Finding) : (Step.ofFinding f).row? = f.row? := by
  cases f <;> rfl

lemma rows_typeSteps (t : Declaration) : (typeSteps t).filterMap Step.row? = t.rows := by
  unfold typeSteps Declaration.rows
  rw [List.filterMap_cons_none rfl, List.filterMap_map]
  exact List.filterMap_congr fun f _ => row?_ofFinding f

/-- Findings begin neither files nor types. -/
lemma not_mem_findings {step : Step} (hstep : step = .file ∨ step = .type)
    (findings : List Finding) : step ∉ findings.map Step.ofFinding := by
  intro h
  obtain ⟨f, -, rfl⟩ := List.mem_map.1 h
  cases f <;> rcases hstep with h | h <;> cases h

lemma count_file_typeSteps (t : Declaration) : (typeSteps t).count .file = 0 := by
  unfold typeSteps
  rw [List.count_cons_of_ne (by decide), List.count_eq_zero]
  exact not_mem_findings (Or.inl rfl) _

lemma count_type_typeSteps (t : Declaration) : (typeSteps t).count .type = 1 := by
  unfold typeSteps
  rw [List.count_cons_self, List.count_eq_zero.2 (not_mem_findings (Or.inr rfl) _)]

/-- The steps of types hold the rows of the types, in order, and begin each type once. -/
lemma steps_types (declarations : List Declaration) :
    (declarations.flatMap typeSteps).count .file = 0 ∧
      (declarations.flatMap typeSteps).count .type = declarations.length ∧
      (declarations.flatMap typeSteps).filterMap Step.row? =
        declarations.flatMap Declaration.rows := by
  induction declarations with
  | nil => exact ⟨rfl, rfl, rfl⟩
  | cons t declarations ih =>
    obtain ⟨hfile, htype, hrows⟩ := ih
    rw [List.flatMap_cons, List.flatMap_cons, List.count_append, List.count_append,
      List.filterMap_append, hfile, htype, hrows, count_file_typeSteps, count_type_typeSteps,
      rows_typeSteps, List.length_cons]
    exact ⟨rfl, Nat.add_comm _ _, rfl⟩

/-- **What a file holds**: the rows of its types, in order. -/
theorem rows_declarationSteps (path : String) (declarations : List Declaration) :
    (declarationSteps path declarations).filterMap Step.row? =
      declarations.flatMap Declaration.rows := by
  unfold declarationSteps
  rw [List.cons_append, List.filterMap_cons_none rfl, List.filterMap_append,
    (steps_types declarations).2.2, List.filterMap_cons_none rfl, List.filterMap_nil,
    List.append_nil]

lemma count_declarationSteps (path : String) (declarations : List Declaration) :
    (declarationSteps path declarations).count .file = 1 ∧
      (declarationSteps path declarations).count .type = declarations.length := by
  obtain ⟨hfile, htype, -⟩ := steps_types declarations
  unfold declarationSteps
  refine ⟨?_, ?_⟩
  · rw [List.cons_append, List.count_cons_self, List.count_append, hfile]
    rfl
  · have hne : Step.file ≠ Step.type := by decide
    rw [List.cons_append, List.count_cons_of_ne hne, List.count_append, htype]
    rfl

/-- **What a file adds** to the counts: itself, its types and their rows. -/
theorem foldl_take_declarationSteps (s : Statistics) (path : String)
    (declarations : List Declaration) :
    (declarationSteps path declarations).foldl Statistics.take s =
      s.add 1 declarations.length (declarations.flatMap Declaration.rows) := by
  obtain ⟨hfile, htype⟩ := count_declarationSteps path declarations
  rw [Statistics.foldl_take, rows_declarationSteps, hfile, htype]

end Scan

end RoleAudit
