import RoleAudit.Proofs.Text.Folding

/-!
# The lines of a text

Where a text is a list of lines, each with its line break, it splits into just these lines. A text
that was folded has no line break left.

* `lines`: the lines of a text.
* `lines_flatMap`: lines that are written one after the other are read back as they are.
* `count_flatMap`: and the text that they are has as many line breaks as there are lines.
* `isOneLine_singleLine`: a folded text stands on one line.
-/

namespace RoleAudit.Text

/-- A text without line breaks. -/
def IsOneLine (cs : List Char) : Prop := ∀ c ∈ cs, isBreak c = false

lemma IsOneLine.nil : IsOneLine [] := List.forall_mem_nil _

lemma IsOneLine.append {cs ds : List Char} (h : IsOneLine cs) (h' : IsOneLine ds) :
    IsOneLine (cs ++ ds) := by
  intro c hc
  rcases List.mem_append.1 hc with hc | hc
  · exact h c hc
  · exact h' c hc

lemma IsOneLine.cons {c : Char} {cs : List Char} (hc : isBreak c = false) (h : IsOneLine cs) :
    IsOneLine (c :: cs) := List.forall_mem_cons.2 ⟨hc, h⟩

/-- Whether a text that is written out has line breaks can be computed. -/
lemma isOneLine_of_all {cs : List Char} (h : (cs.all fun c => !isBreak c) = true) :
    IsOneLine cs := by
  intro c hc
  simpa using List.all_eq_true.1 h c hc

lemma IsOneLine.newline_not_mem {cs : List Char} (h : IsOneLine cs) : '\n' ∉ cs := by
  intro hmem
  have hbreak := h _ hmem
  exact absurd hbreak (by decide)

/-! ## Lines -/

/-- The lines of a text. A line break ends a line; only what comes behind the last one may do
without. -/
def lines (cs : List Char) : List (List Char) :=
  let parts := cs.splitOn '\n'
  if parts.getLast? = some [] then parts.dropLast else parts

/-- Written lines split at their ends, with nothing behind the last. -/
lemma splitOn_flatMap {ls : List (List Char)} (h : ∀ l ∈ ls, '\n' ∉ l) :
    (ls.flatMap fun l => l ++ ['\n']).splitOn '\n' = ls ++ [[]] := by
  induction ls with
  | nil => rfl
  | cons l ls ih =>
    obtain ⟨hl, hls⟩ := List.forall_mem_cons.1 h
    have hsplit : (l ++ '\n' :: ls.flatMap fun l => l ++ ['\n']).splitOn '\n' =
        l.splitOn '\n' ++ (ls.flatMap fun l => l ++ ['\n']).splitOn '\n' :=
      List.splitOnP_append_cons _ _ (beq_self_eq_true '\n')
    rw [List.flatMap_cons, List.append_assoc, List.singleton_append, hsplit,
      List.splitOn_eq_singleton hl, ih hls]
    rfl

/-- **Lines that are written one after the other are read back as they are.** -/
theorem lines_flatMap {ls : List (List Char)} (h : ∀ l ∈ ls, '\n' ∉ l) :
    lines (ls.flatMap fun l => l ++ ['\n']) = ls := by
  unfold lines
  rw [splitOn_flatMap h]
  simp

/-- Written lines have one line break each. -/
lemma count_flatMap {ls : List (List Char)} (h : ∀ l ∈ ls, '\n' ∉ l) :
    (ls.flatMap fun l => l ++ ['\n']).count '\n' = ls.length := by
  induction ls with
  | nil => rfl
  | cons l ls ih =>
    obtain ⟨hl, hls⟩ := List.forall_mem_cons.1 h
    rw [List.flatMap_cons, List.count_append, List.count_append, List.count_eq_zero_of_not_mem hl,
      ih hls, List.length_cons]
    simp [Nat.add_comm]

/-! ## Folded texts -/

/-- What a run of white space turns into has no line break. -/
lemma isOneLine_foldRun (run : List Char) : IsOneLine (foldRun run) := by
  unfold foldRun
  by_cases hbreak : run.any isBreak = true
  · rw [if_pos hbreak]
    intro c hc
    rw [List.mem_singleton.1 hc]
    decide
  · rw [if_neg hbreak]
    intro c hc
    by_contra h
    exact hbreak (List.any_eq_true.2 ⟨c, hc, Bool.of_not_eq_false h⟩)

lemma isOneLine_foldRuns (cs : List Char) : IsOneLine (foldRuns cs) := by
  intro c hc
  obtain ⟨run, -, hrun⟩ := List.mem_flatMap.1 hc
  exact isOneLine_foldRun run c hrun

/-- **A folded text stands on one line.** -/
theorem isOneLine_singleLine (s : String) : IsOneLine (singleLine s).toList := by
  intro c hc
  rw [singleLine_eq, String.toList_ofList] at hc
  exact isOneLine_foldRuns s.toList c (mem_of_mem_trimChars hc)

end RoleAudit.Text
