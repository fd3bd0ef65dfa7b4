import Mathlib.Data.List.SplitBy
import RoleAudit.Text.SingleLine

/-!
# Runs of white space

A text is a row of runs, each of white space or of visible characters, and each as long as it can be.
The pattern for a line break knows nothing of runs. It looks for one line break, and for white space
around it; and as a line break is white space too, there are many ways to match it. Still it never
takes less than a run, or more: before its first line break it has to give back what it took too much,
but what it gives back is taken again by the parts that come next.

* `runs`: the runs of a text.
* `lineBreaks_append`: in front of a run of white space, a match is the whole run.
* `replace_lineBreaks`: where the matches are replaced, the runs with a line break in them are.
-/

namespace RoleAudit.Text

/-! ## Matches -/

variable {gap rest : List Char}

/-- White space at the front is taken whole. -/
lemma most_isBlank_append (hgap : ∀ c ∈ gap, isBlank c = true)
    (hrest : ∀ c ∈ rest.head?, isBlank c = false) :
    Pattern.most isBlank .done (gap ++ rest) = some gap.length := by
  induction gap with
  | nil =>
    cases rest with
    | nil => rfl
    | cons c rest => exact Pattern.most_cons_of_neg (hrest c rfl) _ _
  | cons c gap ih =>
    obtain ⟨hc, hgap⟩ := List.forall_mem_cons.1 hgap
    rw [List.cons_append, Pattern.most_cons_of_pos hc, ih hgap]
    rfl

lemma isBreak_eq_false {c : Char} (h : isBlank c = false) : isBreak c = false := by
  rw [Bool.eq_false_iff] at h ⊢
  exact fun hbreak => h (isBlank_of_isBreak hbreak)

/-- What line breaks leave of the white space is taken behind them. -/
lemma most_isBreak_append (hgap : ∀ c ∈ gap, isBlank c = true)
    (hrest : ∀ c ∈ rest.head?, isBlank c = false) :
    Pattern.most isBreak (.most isBlank .done) (gap ++ rest) = some gap.length := by
  induction gap with
  | nil =>
    have hnothing := most_isBlank_append (List.forall_mem_nil _) hrest
    cases rest with
    | nil => rfl
    | cons c rest =>
      have hc := isBreak_eq_false (hrest c rfl)
      exact (Pattern.most_cons_of_neg hc _ _).trans hnothing
  | cons c gap ih =>
    by_cases hc : isBreak c = true
    · rw [List.cons_append, Pattern.most_cons_of_pos hc, ih (List.forall_mem_cons.1 hgap).2]
      rfl
    · rw [List.cons_append, Pattern.most_cons_of_neg (Bool.eq_false_iff.2 hc)]
      exact most_isBlank_append hgap hrest

/-- **In front of a run of white space, a match is the whole run**, and there is one exactly if the
run has a line break. -/
theorem lineBreaks_append (hgap : ∀ c ∈ gap, isBlank c = true)
    (hrest : ∀ c ∈ rest.head?, isBlank c = false) :
    lineBreaks (gap ++ rest) = if gap.any isBreak then some gap.length else none := by
  unfold lineBreaks
  induction gap with
  | nil =>
    cases rest with
    | nil => rfl
    | cons c rest =>
      have hc := hrest c rfl
      exact (Pattern.most_cons_of_neg hc _ _).trans
        (Pattern.atLeastOne_cons_of_neg (isBreak_eq_false hc) _ _)
  | cons c gap ih =>
    obtain ⟨hc, hgap⟩ := List.forall_mem_cons.1 hgap
    rw [List.cons_append, Pattern.most_cons_of_pos hc, ih hgap, List.any_cons]
    by_cases hlater : gap.any isBreak = true
    · -- the line break that is tried first is the last one of the run
      rw [if_pos hlater, hlater, Bool.or_true]
      rfl
    rw [if_neg hlater, Bool.eq_false_iff.2 hlater, Bool.or_false]
    by_cases hbreak : isBreak c = true
    · rw [Pattern.atLeastOne_cons_of_pos hbreak, most_isBreak_append hgap hrest, if_pos hbreak]
      rfl
    · rw [Pattern.atLeastOne_cons_of_neg (Bool.eq_false_iff.2 hbreak), if_neg hbreak]
      rfl

/-! ## What stands in the place of a run -/

/-- What a run turns into: a single space if a line break is in it, and otherwise itself. -/
def foldRun (run : List Char) : List Char :=
  if run.any isBreak then [' '] else run

lemma foldRun_of_any {run : List Char} (h : run.any isBreak = true) : foldRun run = [' '] := if_pos h

lemma foldRun_of_not_any {run : List Char} (h : ¬ run.any isBreak = true) : foldRun run = run :=
  if_neg h

/-- Visible characters stay. -/
lemma replace_lineBreaks_word {word : List Char} (hword : ∀ c ∈ word, isBlank c = false)
    (rest : List Char) :
    lineBreaks.replace [' '] (word ++ rest) = word ++ lineBreaks.replace [' '] rest := by
  induction word with
  | nil => rfl
  | cons c word ih =>
    obtain ⟨hc, hword⟩ := List.forall_mem_cons.1 hword
    have hfirst : ∀ d ∈ (c :: (word ++ rest)).head?, isBlank d = false := by
      rintro _ ⟨⟩
      exact hc
    have hnone := lineBreaks_append (List.forall_mem_nil _) hfirst
    rw [List.cons_append, Pattern.replace_cons_of_none hnone, ih hword]
    rfl

/-- White space without a line break stays. -/
lemma replace_lineBreaks_of_not_any (hgap : ∀ c ∈ gap, isBlank c = true)
    (hrest : ∀ c ∈ rest.head?, isBlank c = false) (h : ¬ gap.any isBreak = true) :
    lineBreaks.replace [' '] (gap ++ rest) = gap ++ lineBreaks.replace [' '] rest := by
  induction gap with
  | nil => rfl
  | cons c gap ih =>
    have hnone := lineBreaks_append hgap hrest
    rw [if_neg h] at hnone
    have hlater : ¬ gap.any isBreak = true := by
      rw [List.any_cons, Bool.or_eq_true, not_or] at h
      exact h.2
    rw [List.cons_append] at hnone ⊢
    rw [Pattern.replace_cons_of_none hnone, ih (List.forall_mem_cons.1 hgap).2 hlater]
    rfl

/-- A run of white space is replaced whole, if there is a line break in it. -/
lemma replace_lineBreaks_gap (hgap : ∀ c ∈ gap, isBlank c = true)
    (hrest : ∀ c ∈ rest.head?, isBlank c = false) :
    lineBreaks.replace [' '] (gap ++ rest) = foldRun gap ++ lineBreaks.replace [' '] rest := by
  by_cases h : gap.any isBreak = true
  · have hmatch := lineBreaks_append hgap hrest
    rw [if_pos h] at hmatch
    cases gap with
    | nil => cases h
    | cons c gap => rw [foldRun_of_any h, Pattern.replace_append_of_some hmatch]
  · rw [foldRun_of_not_any h, replace_lineBreaks_of_not_any hgap hrest h]

/-! ## Runs -/

/-- Both are white space, or both are visible. -/
def isAlike (a b : Char) : Bool := isBlank a == isBlank b

/-- The runs of a text: as long as they can be, they have white space only, or visible characters
only. -/
def runs (cs : List Char) : List (List Char) := cs.splitBy isAlike

/-- The text, run by run: each run of white space with a line break in it becomes one space. -/
def foldRuns (cs : List Char) : List Char := (runs cs).flatMap foldRun

/-- All characters are white space, or all are visible. -/
def IsRun (cs : List Char) : Prop := ∃ blank, ∀ c ∈ cs, isBlank c = blank

lemma isRun_of_mem_runs {cs run : List Char} (h : run ∈ runs cs) : IsRun run := by
  have hchain := List.isChain_of_mem_splitBy h
  simp only [isAlike, beq_iff_eq] at hchain
  cases run with
  | nil => exact ⟨true, List.forall_mem_nil _⟩
  | cons c run =>
    obtain ⟨hfirst, -⟩ := List.pairwise_cons.1 hchain.pairwise
    exact ⟨isBlank c, List.forall_mem_cons.2 ⟨rfl, fun d hd => (hfirst d hd).symm⟩⟩

/-- No run with visible characters has a line break in it. -/
lemma not_any_isBreak {word : List Char} (hword : ∀ c ∈ word, isBlank c = false) :
    ¬ word.any isBreak = true := by
  rw [List.any_eq_true]
  rintro ⟨c, hc, hbreak⟩
  rw [isBreak_eq_false (hword c hc)] at hbreak
  cases hbreak

/-- Behind a run comes one of the other kind. -/
lemma head?_flatten {run : List Char} {more : List (List Char)} (hgap : ∀ c ∈ run, isBlank c = true)
    (hnext : ∀ next ∈ more.head?, ∃ ha hb, isAlike (run.getLast ha) (next.head hb) = false) :
    ∀ c ∈ more.flatten.head?, isBlank c = false := by
  cases more with
  | nil => exact fun _ h => absurd h (Option.not_mem_none _)
  | cons next more =>
    obtain ⟨hrun, hne, hdiffer⟩ := hnext next rfl
    obtain ⟨d, next, rfl⟩ := List.exists_cons_of_ne_nil hne
    rintro c ⟨⟩
    unfold isAlike at hdiffer
    rw [hgap _ (List.getLast_mem hrun)] at hdiffer
    simpa using hdiffer

/-- Runs of either kind in turn are replaced one by one. -/
lemma replace_lineBreaks_flatten {rs : List (List Char)} (hruns : ∀ run ∈ rs, IsRun run)
    (hturn : rs.IsChain fun run next => ∃ ha hb, isAlike (run.getLast ha) (next.head hb) = false) :
    lineBreaks.replace [' '] rs.flatten = rs.flatMap foldRun := by
  induction rs with
  | nil => rfl
  | cons run more ih =>
    obtain ⟨⟨blank, hrun⟩, hmore⟩ := List.forall_mem_cons.1 hruns
    obtain ⟨hnext, hturn⟩ := List.isChain_cons.1 hturn
    rw [List.flatten_cons, List.flatMap_cons, ← ih hmore hturn]
    cases blank with
    | true => exact replace_lineBreaks_gap hrun (head?_flatten hrun hnext)
    | false => rw [replace_lineBreaks_word hrun, foldRun_of_not_any (not_any_isBreak hrun)]

/-- **Where the matches of the pattern are replaced, the runs with a line break in them are.** -/
theorem replace_lineBreaks (cs : List Char) : lineBreaks.replace [' '] cs = foldRuns cs := by
  have hflatten : (runs cs).flatten = cs := List.flatten_splitBy _ cs
  calc lineBreaks.replace [' '] cs
      = lineBreaks.replace [' '] (runs cs).flatten := by rw [hflatten]
    _ = foldRuns cs := replace_lineBreaks_flatten (fun _ => isRun_of_mem_runs)
        (List.isChain_getLast_head_splitBy _ cs)

/-- A text on one line is the text with its runs folded, and the ends trimmed. -/
lemma singleLine_eq (s : String) :
    singleLine s = String.ofList (trimChars (foldRuns s.toList)) := by
  rw [singleLine, replace_lineBreaks]

end RoleAudit.Text
