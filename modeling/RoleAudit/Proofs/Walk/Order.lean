import RoleAudit.Proofs.Files.Listing
import RoleAudit.Walk.Traversal

/-!
# The order of a walk

Paths are compared part by part. A walk that goes through a directory has some of its entries before
it, in the order of their names, and whatever it finds is at or below one of these. So what it finds
is in order as well, whatever the directories hold by the time they are entered.

* `Before`: the order of the places below two paths.
* `Refines`: paths that are in order, and each at or below one of some others.
* `Frame.Ordered`: a directory whose remaining entries are in order.
-/

namespace RoleAudit.Walk

open RoleAudit.Files RoleAudit.Files.Disk RoleAudit.Files.Path

/-! ## Paths in order -/

/-- What is at or below the first path comes before what is at or below the second. -/
def Before (a b : List String) : Prop := ∀ x y, a ++ x < b ++ y

namespace Before

variable {a b a' b' : List String}

lemma lt (h : Before a b) : a < b := by
  have hends := h [] []
  rwa [List.append_nil, List.append_nil] at hends

/-- What is below keeps the order. -/
lemma mono (h : Before a b) (ha : a <+: a') (hb : b <+: b') : Before a' b' := by
  obtain ⟨s, rfl⟩ := ha
  obtain ⟨t, rfl⟩ := hb
  intro x y
  rw [List.append_assoc, List.append_assoc]
  exact h (s ++ x) (t ++ y)

/-- Two names in a directory are in order with all that is below them. -/
lemma of_lt {m n : String} (h : m < n) (front : List String) :
    Before (front ++ [m]) (front ++ [n]) := by
  intro x y
  rw [List.append_assoc, List.append_assoc]
  exact List.append_left_lt (List.Lex.rel h)

end Before

/-- Paths in order, each at or below one of the others. -/
structure Refines (new old : List (List String)) : Prop where
  ordered : new.Pairwise Before
  inside : ∀ a ∈ new, ∃ b ∈ old, b <+: a

namespace Refines

variable {new mid old old' : List (List String)} {a : List String}

lemma nil (old : List (List String)) : Refines [] old where
  ordered := List.Pairwise.nil
  inside := by
    intro a ha
    cases ha

lemma refl (h : old.Pairwise Before) : Refines old old where
  ordered := h
  inside := by
    intro a ha
    exact ⟨a, ha, List.prefix_rfl⟩

lemma mono (h : Refines new old) (hsubset : old ⊆ old') : Refines new old' where
  ordered := h.ordered
  inside := by
    intro a ha
    obtain ⟨b, hb, hprefix⟩ := h.inside a ha
    exact ⟨b, hsubset hb, hprefix⟩

lemma trans (h : Refines new mid) (h' : Refines mid old) : Refines new old where
  ordered := h.ordered
  inside := by
    intro a ha
    obtain ⟨b, hb, hba⟩ := h.inside a ha
    obtain ⟨c, hc, hcb⟩ := h'.inside b hb
    exact ⟨c, hc, hcb.trans hba⟩

/-- What is below the first paths comes before what is below the others. -/
lemma append {new' : List (List String)} (h : Refines new old) (h' : Refines new' old')
    (hold : (old ++ old').Pairwise Before) : Refines (new ++ new') (old ++ old') where
  ordered := by
    rw [List.pairwise_append] at hold ⊢
    refine ⟨h.ordered, h'.ordered, ?_⟩
    intro a ha b hb
    obtain ⟨x, hx, hxa⟩ := h.inside a ha
    obtain ⟨y, hy, hyb⟩ := h'.inside b hb
    exact (hold.2.2 x hx y hy).mono hxa hyb
  inside := by
    intro a ha
    rcases List.mem_append.1 ha with hfirst | hsecond
    · obtain ⟨x, hx, hxa⟩ := h.inside a hfirst
      exact ⟨x, List.mem_append_left _ hx, hxa⟩
    · obtain ⟨y, hy, hya⟩ := h'.inside a hsecond
      exact ⟨y, List.mem_append_right _ hy, hya⟩

/-- The paths behind the first are refined in their turn. -/
lemma cons (h : Refines (a :: mid) old) (hnew : Refines new mid) : Refines (a :: new) old := by
  have hfirst : Refines [a] [a] := refl (List.pairwise_singleton _ _)
  exact (hfirst.append hnew h.ordered).trans h

end Refines

/-! ## What is left of a listing -/

namespace Frame

/-- The paths of the entries that are left. -/
def heads (f : Frame) : List (List String) :=
  f.entries.map fun e => steps (join f.directory e.name)

/-- The entries that are left are in order. -/
structure Ordered (f : Frame) : Prop where
  directory : f.directory ≠ ""
  isName : ∀ e ∈ f.entries, isName e.name = true
  sorted : f.entries.Pairwise fun a b => a.name < b.name

variable {directory : String} {e : Entry} {es : List Entry} {f : Frame}

lemma heads_cons (directory : String) (e : Entry) (es : List Entry) :
    heads ⟨directory, e :: es⟩ = steps (join directory e.name) :: heads ⟨directory, es⟩ := rfl

lemma Ordered.tail (h : Ordered ⟨directory, e :: es⟩) : Ordered ⟨directory, es⟩ where
  directory := h.directory
  isName := (List.forall_mem_cons.1 h.isName).2
  sorted := (List.pairwise_cons.1 h.sorted).2

/-- The entries of a directory are below it, in order. -/
lemma Ordered.refines (h : f.Ordered) : Refines f.heads [steps f.directory] where
  ordered := by
    unfold heads
    rw [List.pairwise_map]
    refine h.sorted.imp_of_mem ?_
    intro a b ha hb hlt
    rw [steps_join h.directory (h.isName a ha), steps_join h.directory (h.isName b hb)]
    exact Before.of_lt hlt _
  inside := by
    intro parts hparts
    obtain ⟨e, he, rfl⟩ := List.mem_map.1 hparts
    rw [steps_join h.directory (h.isName e he)]
    exact ⟨_, List.mem_singleton_self _, List.prefix_append _ _⟩

/-- A directory is listed in order. -/
lemma ordered_list {d : Disk} {path : String} (h : d.isDirectory path = true) :
    Ordered ⟨path, d.list path⟩ where
  directory := ne_empty_of_isDirectory h
  isName := by
    intro e he
    exact isName_of_mem_list he
  sorted := sorted_list d path

end Frame

end RoleAudit.Walk
