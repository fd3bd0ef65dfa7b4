import RoleAudit.Source.Tree

/-!
# Flaws of a tree

The flaws of a tree are counted, and the first of them is found, by two loops over a stack of nodes.
In each round the node on top is looked at, and its parts take its place. The count does so for every
node, the last part first. The search goes through the parts in their order, passes over every node
that knows itself to be free of flaws, and ends at the first flaw.

A `Loop` brings along what makes it end: a measure that becomes smaller with each round. Here this is
the number of nodes that are on the stack or below it.

* `Tree.flaws` counts the flaws.
* `Tree.firstFlaw?` finds the first one.
-/

namespace RoleAudit.Source

/-! ## Loops -/

/-- A loop whose rounds make a measure smaller; there is no round when it is over. -/
structure Loop (σ : Type) where
  round? : σ → Option σ
  measure : σ → Nat
  decreases : ∀ {s s' : σ}, round? s = some s' → measure s' < measure s

/-- The state in which a loop is over. -/
def Loop.run {σ : Type} (l : Loop σ) (s : σ) : σ :=
  match _h : l.round? s with
  | none => s
  | some s' => l.run s'
termination_by l.measure s
decreasing_by exact l.decreases _h

namespace Tree

/-! ## The number of nodes -/

mutual

/-- The number of nodes of a tree. -/
def size : Tree → Nat
  | leaf .. => 1
  | node _ _ _ _ ts => sizeOfAll ts + 1

/-- The number of nodes of several trees. -/
def sizeOfAll : List Tree → Nat
  | [] => 0
  | t :: ts => t.size + sizeOfAll ts

end

/-- A tree has one node more than its parts. -/
theorem size_eq (t : Tree) : t.size = sizeOfAll t.children + 1 := by
  cases t with
  | leaf kind field start missing gap text => rfl
  | node kind field start flawed ts => rfl

@[simp] theorem sizeOfAll_append (ts us : List Tree) :
    sizeOfAll (ts ++ us) = sizeOfAll ts + sizeOfAll us := by
  induction ts with
  | nil => simp [sizeOfAll]
  | cons t ts ih => simp only [List.cons_append, sizeOfAll, ih, Nat.add_assoc]

@[simp] theorem sizeOfAll_reverse (ts : List Tree) : sizeOfAll ts.reverse = sizeOfAll ts := by
  induction ts with
  | nil => rfl
  | cons t ts ih => simp [sizeOfAll, ih, Nat.add_comm]

/-! ## Counting -/

/-- A count under way: the nodes that are still to be looked at, the next one first, and how many
flaws there were. -/
structure Count where
  stack : List Tree
  found : Nat
  deriving Repr

/-- One round of a count. -/
def Count.round? : Count → Option Count
  | ⟨[], _⟩ => none
  | ⟨t :: rest, n⟩ => some ⟨t.children.reverse ++ rest, if t.isFlaw then n + 1 else n⟩

/-- Counting flaws. -/
def Count.loop : Loop Count where
  round? := round?
  measure c := sizeOfAll c.stack
  decreases {c c'} h := by
    match c, h with
    | ⟨t :: rest, n⟩, rfl =>
      simp only [sizeOfAll, sizeOfAll_append, sizeOfAll_reverse, size_eq t]
      omega

/-- The number of flaws in a tree. -/
def flaws (t : Tree) : Nat := (Count.loop.run ⟨[t], 0⟩).found

/-! ## Searching -/

/-- A search for the first flaw: it is under way, with the nodes that are still to be looked at, the
next one first, or it is over. -/
inductive Search where
  | among (stack : List Tree)
  | ended (found : Option Tree)
  deriving Repr

/-- One round of a search. -/
def Search.round? : Search → Option Search
  | ended _ => none
  | among [] => some (ended none)
  | among (t :: rest) =>
    if t.isFlaw then some (ended (some t))
    else if t.flawed then some (among (t.children ++ rest))
    else some (among rest)

/-- How much a search has before it. -/
def Search.size : Search → Nat
  | among stack => sizeOfAll stack + 1
  | ended _ => 0

/-- Searching for the first flaw. -/
def Search.loop : Loop Search where
  round? := round?
  measure := size
  decreases {s s'} h := by
    match s with
    | among [] =>
      cases h
      exact Nat.zero_lt_one
    | among (t :: rest) =>
      simp only [round?] at h
      simp only [size, sizeOfAll, size_eq t]
      split at h
      · cases h
        exact Nat.zero_lt_succ _
      · split at h
        · cases h
          simp only [sizeOfAll_append]
          omega
        · cases h
          dsimp only
          omega

/-- What a search has found. -/
def Search.found? : Search → Option Tree
  | among _ => none
  | ended found => found

/-- The first flaw in the order of the text, searched only below nodes that know of one. -/
def firstFlaw? (t : Tree) : Option Tree := (Search.loop.run (.among [t])).found?

end Tree

end RoleAudit.Source
