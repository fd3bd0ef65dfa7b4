import Mathlib.Data.List.Basic
import RoleAudit.Source.Grammar.Automaton

/-!
# From places back to rules

The automaton of a grammar numbers the places of all rules in one row. This file leads back from a
place to its rule, to the part of the rule that is read there, and to the places behind it, which
never leave the rule.

* `Phrase.layout_add`: a phrase is laid out in the same way wherever it begins.
* `Charted`: what places and entries have to do with the rules that they were made from.
* `Automaton.charted_ofRules`: the invariant holds for the automaton of any rules that are closed.
-/

namespace RoleAudit.Source

/-! ## Layouts that begin further on -/

namespace Layout

/-- The same places, counted from further on. -/
def shift (k : Nat) (l : Layout) : Layout where
  empty := l.empty
  starts := l.starts.map (· + k)
  ends := l.ends.map (· + k)
  parts := l.parts
  links := l.links.map fun link => (link.1.map (· + k), link.2.map (· + k))

/-- The places where a layout starts and those that follow others are its own. -/
def isClosed (l : Layout) : Bool :=
  l.starts.all (· < l.parts.length) && l.links.all fun link => link.2.all (· < l.parts.length)

/-- No place follows another. -/
def isLoose (l : Layout) : Bool := l.links.all fun link => link.2.isEmpty

variable (k : Nat) (a b : Layout)

lemma shift_append : (a.append b).shift k = (a.shift k).append (b.shift k) := by
  unfold append shift
  simp only [List.map_append, List.map_cons, List.map_nil]
  split <;> split <;> simp

lemma shift_either : (a.either b).shift k = (a.shift k).either (b.shift k) := by
  unfold either shift
  simp only [List.map_append]

lemma shift_repeated : a.repeated.shift k = (a.shift k).repeated := by
  unfold repeated shift
  simp only [List.map_append, List.map_cons, List.map_nil]

end Layout

mutual

/-- **A phrase is laid out in the same way wherever it begins.** -/
theorem Phrase.layout_add (k place : Nat) (field : Option Field) :
    ∀ p : Phrase, p.layout (place + k) field = (p.layout place field).shift k
  | .token _ => rfl
  | .part _ => rfl
  | .labelled f p => p.layout_add k place (.some f)
  | .seq ps => Phrase.layoutSeq_add k place field ps
  | .choice ps => Phrase.layoutChoice_add k place field ps
  | .opt p => by
    unfold Phrase.layout
    rw [p.layout_add k place field]
    rfl
  | .many p => by
    unfold Phrase.layout
    rw [p.layout_add k place field, ← Layout.shift_repeated]
    rfl
  | .some p => by
    unfold Phrase.layout
    rw [p.layout_add k place field, Layout.shift_repeated]

theorem Phrase.layoutSeq_add (k place : Nat) (field : Option Field) :
    ∀ ps : List Phrase,
      Phrase.layoutSeq (place + k) field ps = (Phrase.layoutSeq place field ps).shift k
  | [] => rfl
  | p :: ps => by
    unfold Phrase.layoutSeq
    simp only [p.layout_add k place field, Layout.shift_append]
    rw [← Phrase.layoutSeq_add k _ field ps]
    show _ = Layout.append _ (Phrase.layoutSeq (place + (p.layout place field).parts.length + k) _ _)
    rw [Nat.add_right_comm]
    rfl

theorem Phrase.layoutChoice_add (k place : Nat) (field : Option Field) :
    ∀ ps : List Phrase,
      Phrase.layoutChoice (place + k) field ps = (Phrase.layoutChoice place field ps).shift k
  | [] => rfl
  | p :: ps => by
    unfold Phrase.layoutChoice
    simp only [p.layout_add k place field, Layout.shift_either]
    rw [← Phrase.layoutChoice_add k _ field ps]
    show _ = Layout.either _
      (Phrase.layoutChoice (place + (p.layout place field).parts.length + k) _ _)
    rw [Nat.add_right_comm]
    rfl

end

/-- The places of a rule by itself. -/
def Rule.layout (r : Rule) : Layout := r.phrase.layout 0 none

lemma Rule.layout_at (r : Rule) (place : Nat) :
    r.phrase.layout place none = r.layout.shift place := by
  have h := r.phrase.layout_add place 0 none
  rw [Nat.zero_add] at h
  exact h

/-! ## The places of rules in a row -/

section Charted

variable {terminals : List Terminal} {constructs : List Construct}

/-- The place reads a part of the rule, and nothing follows it in a rule without links. -/
structure Place.Reads (terminals : List Terminal) (constructs : List Construct) (p : Place)
    (r : Rule) : Prop where
  part : ∃ part ∈ r.layout.parts,
    p.symbol = Automaton.symbolOf terminals constructs part.1 ∧ p.field = part.2
  next : r.layout.isLoose = true → p.next = []

/-- Entries and places are those of some rules, in their order. What an entry starts with and what
follows a place belongs to the same rule. -/
structure Charted (terminals : List Terminal) (constructs : List Construct) (rules : List Rule)
    (entries : List Entry) (places : List Place) : Prop where
  length : entries.length = rules.length
  entry : ∀ (n : Nat) (e : Entry), entries[n]? = some e → ∃ r : Rule, rules[n]? = some r ∧
    e.construct = r.construct ∧ e.visibility = r.visibility ∧
    ∀ q ∈ e.starts, ∃ p : Place, places[q]? = some p ∧ p.rule = n
  place : ∀ (n : Nat) (p : Place), places[n]? = some p → ∃ r : Rule, rules[p.rule]? = some r ∧
    p.Reads terminals constructs r ∧
    ∀ q ∈ p.next, ∃ p' : Place, places[q]? = some p' ∧ p'.rule = p.rule

/-- What stands in a row stands there still when the row has grown. -/
lemma getElem?_append_of_some {α : Type} {xs : List α} {n : Nat} {x : α} (h : xs[n]? = some x)
    (ys : List α) : (xs ++ ys)[n]? = some x := by
  obtain ⟨hn, -⟩ := List.getElem?_eq_some_iff.1 h
  rw [List.getElem?_append_left hn, h]

/-- What stands in a row that has grown stood there before, or is new. -/
lemma getElem?_append_cases {α : Type} {xs ys : List α} {n : Nat} {x : α}
    (h : (xs ++ ys)[n]? = some x) :
    xs[n]? = some x ∨ ∃ i, n = xs.length + i ∧ ys[i]? = some x := by
  rcases Nat.lt_or_ge n xs.length with hn | hn
  · rw [List.getElem?_append_left hn] at h
    exact .inl h
  · rw [List.getElem?_append_right hn] at h
    exact .inr ⟨n - xs.length, (Nat.add_sub_cancel' hn).symm, h⟩

/-- The place of a part of a rule, behind other places. -/
def placeOf (terminals : List Terminal) (constructs : List Construct) (rule base : Nat) (l : Layout)
    (part : (Phrase × Option Field) × Nat) : Place where
  rule
  symbol := Automaton.symbolOf terminals constructs part.1.1
  field := part.1.2
  final := l.ends.contains (base + part.2)
  next := ((l.links.filter fun link => link.1.contains (base + part.2)).flatMap (·.2)).eraseDups

lemma addRule_eq (acc : Array Entry × Array Place) (r : Rule) :
    (Automaton.addRule terminals constructs acc r).1.toList =
        acc.1.toList ++ [⟨r.construct, r.visibility, (r.layout.shift acc.2.size).starts⟩] ∧
      (Automaton.addRule terminals constructs acc r).2.toList =
        acc.2.toList ++ r.layout.parts.zipIdx.map
          (placeOf terminals constructs acc.1.size acc.2.size (r.layout.shift acc.2.size)) := by
  unfold Automaton.addRule
  simp only [Rule.layout_at]
  constructor
  · rw [Array.toList_push]
  · rw [Array.toList_appendList]
    rfl

variable {rules : List Rule} {entries : List Entry} {places : List Place}

/-- A place within the places of a rule that comes next. -/
lemma exists_placeOf (r : Rule) (rule base : Nat) (l : Layout) {k : Nat}
    (hk : k < r.layout.parts.length) (hbase : base = places.length) :
    ∃ p, (places ++ r.layout.parts.zipIdx.map
        (placeOf terminals constructs rule base l))[k + base]? = some p ∧ p.rule = rule := by
  refine ⟨placeOf terminals constructs rule base l (r.layout.parts[k], k), ?_, rfl⟩
  rw [hbase, List.getElem?_append_right (Nat.le_add_left _ _), Nat.add_sub_cancel]
  simp [hk]

/-- Places that are linked in the layout of a closed rule are places of the rule. -/
lemma lt_of_isClosed {l : Layout} (h : l.isClosed = true) :
    (∀ q ∈ l.starts, q < l.parts.length) ∧
      ∀ link ∈ l.links, ∀ q ∈ link.2, q < l.parts.length := by
  unfold Layout.isClosed at h
  simpa using h

/-- What comes next after a part of a rule is linked in its layout. -/
lemma mem_next_placeOf {r : Rule} {rule base q : Nat} {part : (Phrase × Option Field) × Nat}
    (h : q ∈ (placeOf terminals constructs rule base (r.layout.shift base) part).next) :
    ∃ link ∈ r.layout.links, ∃ k ∈ link.2, q = k + base := by
  obtain ⟨link, hlink, hq⟩ := List.mem_flatMap.1 (List.mem_eraseDups.1 h)
  obtain ⟨link', hlink', rfl⟩ := List.mem_map.1 (List.mem_filter.1 hlink).1
  obtain ⟨k, hk, rfl⟩ := List.mem_map.1 hq
  exact ⟨link', hlink', k, hk, rfl⟩

/-- The place of a part of a rule reads that part. -/
lemma reads_placeOf {r : Rule} {rule base : Nat} {part : Phrase × Option Field} {j : Nat}
    (h : part ∈ r.layout.parts) :
    (placeOf terminals constructs rule base (r.layout.shift base) (part, j)).Reads
      terminals constructs r := by
  refine ⟨⟨part, h, rfl, rfl⟩, ?_⟩
  intro hloose
  rw [List.eq_nil_iff_forall_not_mem]
  intro q hq
  obtain ⟨link, hlink, k, hk, -⟩ := mem_next_placeOf hq
  have hempty := List.all_eq_true.1 hloose link hlink
  rw [List.isEmpty_iff.1 hempty] at hk
  cases hk

/-- **One more rule.** -/
lemma Charted.addRule {acc : Array Entry × Array Place}
    (h : Charted terminals constructs rules acc.1.toList acc.2.toList) {r : Rule}
    (hr : r.layout.isClosed = true) :
    Charted terminals constructs (rules ++ [r])
      (Automaton.addRule terminals constructs acc r).1.toList
      (Automaton.addRule terminals constructs acc r).2.toList := by
  obtain ⟨hentries, hplaces⟩ := @addRule_eq terminals constructs acc r
  obtain ⟨hstarts, hlinks⟩ := lt_of_isClosed hr
  have hrule : (rules ++ [r])[acc.1.size]? = some r := by
    have hsize : acc.1.size = rules.length := h.length
    rw [hsize]
    simp
  have hnew : ∀ k < r.layout.parts.length, ∃ p,
      (Automaton.addRule terminals constructs acc r).2.toList[k + acc.2.size]? = some p ∧
        p.rule = acc.1.size := by
    intro k hk
    rw [hplaces]
    exact exists_placeOf r _ _ _ hk rfl
  have hold : ∀ {q : Nat} {p : Place}, acc.2.toList[q]? = some p →
      (Automaton.addRule terminals constructs acc r).2.toList[q]? = some p := by
    intro q p hq
    rw [hplaces]
    exact getElem?_append_of_some hq _
  refine ⟨?_, ?_, ?_⟩
  · rw [hentries, List.length_append, List.length_append, h.length]
    rfl
  · intro n e he
    rw [hentries] at he
    rcases getElem?_append_cases he with he | ⟨i, rfl, hi⟩
    · obtain ⟨r', hr', hconstruct, hvisibility, hin⟩ := h.entry n e he
      refine ⟨r', getElem?_append_of_some hr' _, hconstruct, hvisibility, ?_⟩
      intro q hq
      obtain ⟨p, hp, hrule⟩ := hin q hq
      exact ⟨p, hold hp, hrule⟩
    · cases i with
      | zero =>
        cases hi
        refine ⟨r, hrule, rfl, rfl, ?_⟩
        intro q hq
        obtain ⟨k, hk, rfl⟩ := List.mem_map.1 hq
        exact hnew k (hstarts k hk)
      | succ i => cases hi
  · intro n p hp
    rw [hplaces] at hp
    rcases getElem?_append_cases hp with hp | ⟨i, -, hi⟩
    · obtain ⟨r', hr', hreads, hin⟩ := h.place n p hp
      refine ⟨r', getElem?_append_of_some hr' _, hreads, ?_⟩
      intro q hq
      obtain ⟨p', hp', hrule⟩ := hin q hq
      exact ⟨p', hold hp', hrule⟩
    · rw [List.getElem?_map, Option.map_eq_some_iff] at hi
      obtain ⟨⟨part, j⟩, hpart, rfl⟩ := hi
      have hmem : part ∈ r.layout.parts :=
        List.fst_mem_of_mem_zipIdx (List.mem_of_getElem? hpart)
      refine ⟨r, hrule, reads_placeOf hmem, ?_⟩
      intro q hq
      obtain ⟨link, hlink, k, hk, rfl⟩ := mem_next_placeOf hq
      exact hnew k (hlinks link hlink k hk)

/-- The rules of a grammar, one after the other. -/
lemma charted_foldl {rest : List Rule} (hrest : ∀ r ∈ rest, r.layout.isClosed = true)
    {acc : Array Entry × Array Place}
    (h : Charted terminals constructs rules acc.1.toList acc.2.toList) :
    Charted terminals constructs (rules ++ rest)
      (rest.foldl (Automaton.addRule terminals constructs) acc).1.toList
      (rest.foldl (Automaton.addRule terminals constructs) acc).2.toList := by
  induction rest generalizing rules acc with
  | nil =>
    rw [List.append_nil]
    exact h
  | cons r rest ih =>
    obtain ⟨hr, hrest⟩ := List.forall_mem_cons.1 hrest
    rw [List.foldl_cons, List.append_cons]
    exact ih hrest (h.addRule hr)

end Charted

namespace Automaton

/-- The terminals of rules, each once. -/
def terminalsOf (rules : List Rule) : List Terminal :=
  (rules.flatMap fun r => r.phrase.terminals).eraseDups

/-- **The automaton of closed rules has their places, and behind these its outset.** -/
theorem charted_ofRules {rules : List Rule} (h : ∀ r ∈ rules, r.layout.isClosed = true) :
    ∃ places,
      (ofRules rules).places.toList =
        places ++ [outset (terminalsOf rules) (ofRules rules).rules] ∧
      Charted (terminalsOf rules) (rules.map Rule.construct) rules
        (ofRules rules).rules.toList places := by
  have hnone : Charted (terminalsOf rules) (rules.map Rule.construct) [] [] [] :=
    ⟨rfl, by simp, by simp⟩
  exact ⟨_, Array.toList_push, @charted_foldl _ _ [] rules h (#[], #[]) hnone⟩

end Automaton

end RoleAudit.Source
