import Mathlib.Computability.StateTransition
import RoleAudit.Proofs.Source.Names
import RoleAudit.Source.Flaws

/-!
# Flaws in the order of the text

The nodes of a tree have an order, that of the text: a node comes before its parts, and everything
in a part before the next part. The count and the search go their own ways through a tree, one of them
backwards and the other past all that knows itself to be free of flaws. Here both are compared with
this order.

* `Tree.nodes`: the nodes of a tree in the order of the text.
* `Tree.IsMarked`: every node knows rightly whether there is a flaw at or below it.
* `Loop.ends`: a loop comes to its end.
* `Tree.flaws_eq`: the count is the number of nodes that are flaws.
* `Tree.firstFlaw?_eq`: in a marked tree, the search finds the first node that is a flaw.
* `isMarked_read`: the tree of any text is marked.
-/

namespace RoleAudit.Source

open StateTransition

/-! ## Loops -/

namespace Loop

variable {σ α : Type} {l : Loop σ}

lemma run_of_none {s : σ} (h : l.round? s = none) : l.run s = s := by
  unfold run
  split
  · rfl
  · next s' h' => cases h.symm.trans h'

lemma run_of_some {s s' : σ} (h : l.round? s = some s') : l.run s = l.run s' := by
  conv_lhs => unfold run
  split
  · next h' => cases h.symm.trans h'
  · next t h' => rw [Option.some.inj (h'.symm.trans h)]

/-- **A loop comes to its end**, and there it is over. -/
theorem ends (l : Loop σ) (s : σ) : Reaches l.round? s (l.run s) ∧ l.round? (l.run s) = none := by
  induction hn : l.measure s using Nat.strong_induction_on generalizing s with
  | _ n ih =>
    rcases hround : l.round? s with _ | s'
    · rw [run_of_none hround]
      exact ⟨.refl, hround⟩
    · rw [run_of_some hround]
      obtain ⟨hreaches, hended⟩ := ih _ (hn ▸ l.decreases hround) s' rfl
      exact ⟨.head hround hreaches, hended⟩

/-- What every round keeps, the loop keeps: a property of states, and a value that they have. -/
theorem run_induction {P : σ → Prop} {f : σ → α}
    (hround : ∀ {s s'}, P s → l.round? s = some s' → P s' ∧ f s' = f s) {s : σ} (hs : P s) :
    P (l.run s) ∧ f (l.run s) = f s := by
  have hall : ∀ {t}, Reaches l.round? s t → P t ∧ f t = f s := by
    intro t ht
    induction ht with
    | refl => exact ⟨hs, rfl⟩
    | tail _ hnext ih =>
      obtain ⟨hP, hf⟩ := hround ih.1 hnext
      exact ⟨hP, hf.trans ih.2⟩
  exact hall (l.ends s).1

end Loop

namespace Tree

/-! ## The order of the text -/

mutual

/-- The nodes of a tree in the order of the text: the tree itself, and then those of its parts. -/
def nodes : Tree → List Tree
  | leaf k f p m gap text => [leaf k f p m gap text]
  | node k f p flaw ts => node k f p flaw ts :: nodesOfAll ts

/-- The nodes of several trees, one tree after the other. -/
def nodesOfAll : List Tree → List Tree
  | [] => []
  | t :: ts => t.nodes ++ nodesOfAll ts

end

lemma nodesOfAll_eq (ts : List Tree) : nodesOfAll ts = ts.flatMap nodes := by
  induction ts with
  | nil => rfl
  | cons t ts ih => rw [nodesOfAll, ih, List.flatMap_cons]

lemma nodes_eq (t : Tree) : t.nodes = t :: t.children.flatMap nodes := by
  cases t with
  | leaf kind field start missing gap text => rfl
  | node kind field start flawed ts => rw [nodes, nodesOfAll_eq]; rfl

lemma self_mem_nodes (t : Tree) : t ∈ t.nodes := by
  rw [nodes_eq]
  exact List.mem_cons_self

/-- There is a flaw at a node or below it. -/
def HasFlaw (t : Tree) : Prop := ∃ u ∈ t.nodes, u.isFlaw = true

/-- Every node of a tree knows rightly whether there is a flaw at or below it. -/
def IsMarked (t : Tree) : Prop := ∀ u ∈ t.nodes, u.flawed = true ↔ u.HasFlaw

lemma IsMarked.of_mem_children {t u : Tree} (h : t.IsMarked) (hu : u ∈ t.children) :
    u.IsMarked := by
  intro v hv
  apply h
  rw [nodes_eq]
  exact List.mem_cons_of_mem t (List.mem_flatMap.2 ⟨u, hu, hv⟩)

/-! ## The count -/

/-- The flaws among the nodes of several trees. -/
def flawsIn (ts : List Tree) : Nat := (ts.flatMap nodes).countP isFlaw

lemma flawsIn_cons (t : Tree) (ts : List Tree) :
    flawsIn (t :: ts) = (if t.isFlaw then 1 else 0) + flawsIn (t.children.reverse ++ ts) := by
  have hreverse : flawsIn t.children.reverse = flawsIn t.children :=
    ((List.reverse_perm t.children).flatMap_right nodes).countP_eq isFlaw
  unfold flawsIn at *
  rw [List.flatMap_cons, List.flatMap_append, List.countP_append, List.countP_append, hreverse,
    nodes_eq t, List.countP_cons]
  omega

/-- **A round of the count** moves flaws from the stack to those that were found. -/
lemma Count.round?_total {c c' : Count} (h : c.round? = some c') :
    c'.found + flawsIn c'.stack = c.found + flawsIn c.stack := by
  obtain ⟨_ | ⟨t, rest⟩, n⟩ := c
  · cases h
  · cases h
    rw [flawsIn_cons]
    dsimp only
    split <;> omega

/-- When a count is over, nothing is left on the stack. -/
lemma Count.stack_of_round? {c : Count} (h : c.round? = none) : c.stack = [] := by
  match c, h with
  | ⟨[], n⟩, _ => rfl

/-- **The count ends** with all flaws of the nodes that were on the stack. -/
theorem Count.run_eq (stack : List Tree) (n : Nat) :
    Count.loop.run ⟨stack, n⟩ = ⟨[], n + flawsIn stack⟩ := by
  obtain ⟨-, htotal⟩ := Loop.run_induction (l := Count.loop) (P := fun _ => True)
    (f := fun c : Count => c.found + flawsIn c.stack) (fun _ h => ⟨trivial, round?_total h⟩)
    (s := ⟨stack, n⟩) trivial
  have hstack := stack_of_round? (Count.loop.ends ⟨stack, n⟩).2
  generalize Count.loop.run ⟨stack, n⟩ = c at *
  obtain ⟨stack', m⟩ := c
  dsimp only at hstack
  subst hstack
  rw [← htotal]
  rfl

/-- **The count is the number of nodes that are flaws.** -/
theorem flaws_eq (t : Tree) : t.flaws = t.nodes.countP isFlaw := by
  unfold flaws
  rw [Count.run_eq]
  simp [flawsIn]

/-! ## The search -/

/-- What a search comes to: the first flaw among the nodes that it has before it. -/
def Search.outcome : Search → Option Tree
  | among stack => (stack.flatMap nodes).find? isFlaw
  | ended found => found

/-- Whatever a search has before it is marked. -/
def Search.OverMarked : Search → Prop
  | among stack => ∀ t ∈ stack, t.IsMarked
  | ended _ => True

/-- A node that knows of no flaw can be passed over. -/
lemma find?_nodes_of_not_flawed {t : Tree} (h : t.IsMarked) (hflawed : ¬ t.flawed = true) :
    t.nodes.find? isFlaw = none := by
  rw [List.find?_eq_none]
  intro u hu hflaw
  exact hflawed ((h t t.self_mem_nodes).2 ⟨u, hu, hflaw⟩)

/-- **A round of the search** passes over no flaw but the one that it finds. -/
lemma Search.round?_outcome {s s' : Search} (hs : s.OverMarked) (h : s.round? = some s') :
    s'.OverMarked ∧ s'.outcome = s.outcome := by
  match s with
  | among [] =>
    cases h
    exact ⟨trivial, rfl⟩
  | among (t :: rest) =>
    obtain ⟨ht, hrest⟩ := List.forall_mem_cons.1 hs
    have hnodes : (t :: rest).flatMap nodes = t :: (t.children ++ rest).flatMap nodes := by
      rw [List.flatMap_cons, nodes_eq, List.flatMap_append, List.cons_append]
    simp only [round?] at h
    split at h
    · next hflaw =>
      cases h
      refine ⟨trivial, ?_⟩
      rw [outcome, outcome, hnodes, List.find?_cons_of_pos hflaw]
    next hflaw =>
    split at h
    · cases h
      refine ⟨List.forall_mem_append.2 ⟨fun u => ht.of_mem_children, hrest⟩, ?_⟩
      rw [outcome, outcome, hnodes, List.find?_cons_of_neg hflaw]
    · next hflawed =>
      cases h
      refine ⟨hrest, ?_⟩
      rw [outcome, outcome, List.flatMap_cons, List.find?_append,
        find?_nodes_of_not_flawed ht hflawed, Option.none_or]

/-- When a search is over, it has come to what it has found. -/
lemma Search.eq_ended {s : Search} (h : s.round? = none) :
    s = ended s.found? ∧ s.outcome = s.found? := by
  match s with
  | ended found => exact ⟨rfl, rfl⟩
  | among [] => cases h
  | among (t :: rest) =>
    simp only [round?] at h
    split at h
    · cases h
    · split at h <;> cases h

/-- **The search ends** with the first flaw in the order of the text, if all is marked. -/
theorem Search.run_eq {stack : List Tree} (h : ∀ t ∈ stack, t.IsMarked) :
    Search.loop.run (among stack) = ended ((stack.flatMap nodes).find? isFlaw) := by
  obtain ⟨-, houtcome⟩ := Loop.run_induction (l := Search.loop) (f := outcome) round?_outcome
    (s := among stack) h
  obtain ⟨hended, hfound⟩ := eq_ended (Search.loop.ends (among stack)).2
  rw [hended, ← hfound, houtcome]
  rfl

/-- **In a marked tree the search finds the first node that is a flaw.** -/
theorem firstFlaw?_eq {t : Tree} (h : t.IsMarked) : t.firstFlaw? = t.nodes.find? isFlaw := by
  unfold firstFlaw?
  rw [Search.run_eq (List.forall_mem_singleton.2 h), List.flatMap_singleton]
  rfl

/-! ## What the root knows -/

/-- There are flaws exactly if there is something to count. -/
lemma flaws_pos_iff (t : Tree) : 0 < t.flaws ↔ t.HasFlaw := by
  rw [flaws_eq, List.countP_pos_iff]
  rfl

/-- A marked tree without flaws knows it, and nothing is found in it. -/
lemma flaws_eq_zero_iff {t : Tree} (h : t.IsMarked) : t.flaws = 0 ↔ t.flawed = false := by
  have hroot := h t t.self_mem_nodes
  rw [← flaws_pos_iff] at hroot
  rw [← Bool.not_eq_true, hroot]
  omega

lemma find?_isFlaw_eq_none_iff (t : Tree) : t.nodes.find? isFlaw = none ↔ t.flaws = 0 := by
  rw [flaws_eq, List.find?_eq_none, List.countP_eq_zero]

/-! ## Trees that were read -/

lemma hasFlaw_leaf (kind : Kind) (field : Option Field) (start : Point) (missing : Bool)
    (gap text : List Text.Glyph) :
    (leaf kind field start missing gap text).flawed = true ↔
      (leaf kind field start missing gap text).HasFlaw := by
  unfold HasFlaw
  rw [nodes]
  simp [flawed, isFlaw, Tree.kind, Tree.missing]

/-- A node that knows of the flaws in its parts knows of those below it. -/
lemma hasFlaw_node {kind : Kind} {field : Option Field} {start : Point} {flawed : Bool}
    {ts : List Tree} (below : ∀ t ∈ ts, t.flawed = true ↔ t.HasFlaw)
    (knows : flawed = (kind == .error || ts.any Tree.flawed)) :
    flawed = true ↔ (node kind field start flawed ts).HasFlaw := by
  have hself : (node kind field start flawed ts).isFlaw = (kind == .error) := by
    simp [isFlaw, Tree.kind, Tree.missing]
  have hparts : ts.any Tree.flawed = true ↔ ∃ u ∈ ts.flatMap nodes, u.isFlaw = true := by
    simp only [List.any_eq_true, List.mem_flatMap]
    constructor
    · rintro ⟨t, ht, hflawed⟩
      obtain ⟨u, hu, hflaw⟩ := (below t ht).1 hflawed
      exact ⟨u, ⟨t, ht, hu⟩, hflaw⟩
    · rintro ⟨u, ⟨t, ht, hu⟩, hflaw⟩
      exact ⟨t, ht, (below t ht).2 ⟨u, hu, hflaw⟩⟩
  unfold HasFlaw
  rw [nodes_eq, List.exists_mem_cons_iff, hself]
  change _ ↔ _ ∨ ∃ u ∈ ts.flatMap nodes, u.isFlaw = true
  rw [← hparts, ← Bool.or_eq_true, ← knows]

/-- By induction on the tree: what a node knows comes from its parts. -/
lemma Orderly.hasFlaw {t : Tree} (h : t.Orderly) : t.flawed = true ↔ t.HasFlaw := by
  induction h with
  | leaf kind field start missing gap text => exact hasFlaw_leaf kind field start missing gap text
  | node below names knows ih => exact hasFlaw_node ih knows

lemma Orderly.of_mem_nodes {t u : Tree} (h : t.Orderly) (hu : u ∈ t.nodes) : u.Orderly := by
  induction h with
  | leaf kind field start missing gap text =>
    rw [nodes, List.mem_singleton] at hu
    rw [hu]
    exact .leaf _ _ _ _ _ _
  | node below names knows ih =>
    rw [nodes_eq] at hu
    rcases List.mem_cons.1 hu with rfl | hu
    · exact .node below names knows
    · obtain ⟨t, ht, hu⟩ := List.mem_flatMap.1 hu
      exact ih t ht hu

/-- **A tree in order is marked.** -/
theorem Orderly.isMarked {t : Tree} (h : t.Orderly) : t.IsMarked :=
  fun _ hu => (h.of_mem_nodes hu).hasFlaw

end Tree

/-- **The tree of any text is marked**, whether it follows the grammar or not. -/
theorem isMarked_read (bytes : List UInt8) : (read bytes).IsMarked :=
  (Automaton.read_orderly namesWell_grammar _).isMarked

end RoleAudit.Source
