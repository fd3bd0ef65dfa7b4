import Mathlib.Data.Finset.Card
import Mathlib.Logic.Relation
import RoleAudit.Proofs.Files.Listing

/-!
# Routes

A route is where the parts of a path lead, through however many links. Nobody follows it to its end at
any price: a path is given up if it crosses too many links, or is too long. How many are too many, and
what is too long, are limits, and the limits of this system are but one choice.

Where links lead back to a directory that was passed, there is a loop. It does not matter for routes,
which are finite, but it does for those who go wherever they can.

* `Route`: where parts lead from a directory, and how many links they cross.
* `Route.walk_eq`: a route is followed to its end, unless it crosses too many links.
* `Route.exists_of_append`: a route has two legs, and each crosses some of its links.
* `follow`: following a path within limits; `locate_eq_follow` says that it is what is done here.
* `Loops`: a directory below which there is a loop.
* `wellFounded_holds`: without links one comes to an end, if directories make a tree.
-/

namespace RoleAudit.Files

/-- The number of links that a path may cross, and the length in bytes that it must not reach, if
there is one. -/
structure Limits where
  links : Nat
  length : Option Nat

namespace Limits

/-- The limits of this system. -/
def system : Limits := ⟨linkLimit, some pathLimit⟩

/-- The path is too long. -/
def forbids (l : Limits) (path : String) : Bool :=
  l.length.any fun bound => decide (bound ≤ path.utf8ByteSize)

end Limits

namespace Disk

open Relation

/-- The directory in which a path starts. -/
def base (d : Disk) (path : String) : Nat := if Path.isAbsolute path then 0 else d.home

/-- Where parts lead from a directory, to which directory, and how many links they cross. -/
inductive Route (d : Disk) : Nat → List String → Nat → Nat → Prop where
  | arrived {n : Nat} (isDirectory : IsDirectory d.nodes n) : Route d n [] n 0
  | here {n m cost : Nat} {rest : List String} (onward : Route d n rest m cost) :
      Route d n ("." :: rest) m cost
  | up {n m cost : Nat} {rest : List String} (onward : Route d (d.parent n) rest m cost) :
      Route d n (".." :: rest) m cost
  | down {n k m cost : Nat} {name : String} {rest : List String}
      (short : name.utf8ByteSize ≤ nameLimit) (entry : d.lookup? n name = some k)
      (isDirectory : IsDirectory d.nodes k) (onward : Route d k rest m cost) :
      Route d n (name :: rest) m cost
  | through {n k m cost : Nat} {name target : String} {rest : List String}
      (short : name.utf8ByteSize ≤ nameLimit) (entry : d.lookup? n name = some k)
      (isLink : d.node? k = some (.link target))
      (onward : Route d (if Path.isAbsolute target then 0 else n) (steps target ++ rest) m cost) :
      Route d n (name :: rest) m (cost + 1)

variable {d : Disk} {n k m cost cost' links : Nat} {name path target : String}
  {part : String} {parts rest more : List String} {asDirectory : Bool}

/-! ## Following a route -/

/-- What is found under a name stands in the directory. -/
lemma mem_entries_of_lookup? (h : d.lookup? n name = some k) : (name, k) ∈ d.entries n := by
  unfold lookup? at h
  obtain ⟨⟨name', k'⟩, hfind, rfl⟩ := Option.map_eq_some_iff.1 h
  have hname : name' = name := by simpa using List.find?_some hfind
  rw [← hname]
  exact List.mem_of_find?_eq_some hfind

/-- What is found under a name that is not too long is come to. -/
lemma next_of_lookup? (hshort : name.utf8ByteSize ≤ nameLimit) (hentry : d.lookup? n name = some k)
    (asDirectory : Bool) (links : Nat) (rest : List String) :
    d.next .target asDirectory links n name rest =
      d.arrive .target asDirectory links n rest k := by
  obtain ⟨-, -, hdot, hup⟩ := Path.isName_iff.1 (isName_of_mem_entries (mem_entries_of_lookup? hentry))
  rw [next_of_name hdot hup (Or.inl rfl), if_neg (Nat.not_lt.2 hshort), hentry]

lemma arrive_directory (h : IsDirectory d.nodes k) (asDirectory : Bool) (links n : Nat)
    (rest : List String) :
    d.arrive .target asDirectory links n rest k = .onward asDirectory links k rest := by
  obtain ⟨parent, entries, hk⟩ := h
  unfold arrive
  rw [show d.node? k = some (.directory parent entries) from hk]

lemma arrive_link (h : d.node? k = some (.link target)) (asDirectory : Bool) (links n : Nat)
    (rest : List String) :
    d.arrive .target asDirectory links n rest k =
      match links with
      | 0 => .finished (.error .tooManyLinks)
      | links + 1 =>
        .onward (asDirectory || (rest.isEmpty && Path.endsInSlash target)) links
          (if Path.isAbsolute target then 0 else n) (steps target ++ rest) := by
  have hfollowed : ¬ (rest.isEmpty && decide (Aim.target = Aim.entry) && !asDirectory) = true := by
    simp
  unfold arrive
  rw [h]
  exact if_neg hfollowed

namespace Route

lemma isDirectory (h : d.Route n parts m cost) : IsDirectory d.nodes m := by
  induction h with
  | arrived isDirectory => exact isDirectory
  | here _ ih => exact ih
  | up _ ih => exact ih
  | down _ _ _ _ ih => exact ih
  | through _ _ _ _ ih => exact ih

/-- **A route is followed to its end**, unless it crosses too many links. -/
theorem walk_eq (h : d.Route n parts m cost) (asDirectory : Bool) (links : Nat) :
    d.walk .target asDirectory links n parts =
      if cost ≤ links then .ok (.node m) else .error .tooManyLinks := by
  induction h generalizing asDirectory links with
  | arrived => rw [walk_nil, if_pos (Nat.zero_le _)]
  | here _ ih =>
    rw [walk_cons]
    exact ih asDirectory links
  | up _ ih =>
    rw [walk_cons]
    exact ih asDirectory links
  | down short entry isDirectory _ ih =>
    rw [walk_cons, next_of_lookup? short entry, arrive_directory isDirectory]
    exact ih asDirectory links
  | through short entry isLink _ ih =>
    rw [walk_cons, next_of_lookup? short entry, arrive_link isLink]
    rcases links with _ | links
    · rw [if_neg (Nat.not_succ_le_zero _)]
    · simp only [ih, Nat.add_le_add_iff_right]

/-- Parts lead to one directory, and cross one number of links. -/
lemma unique {m' : Nat} (h : d.Route n parts m cost) (h' : d.Route n parts m' cost') :
    m = m' ∧ cost = cost' := by
  have hwalk : ∀ links, (if cost ≤ links then .ok (.node m) else .error .tooManyLinks) =
      (if cost' ≤ links then .ok (.node m') else .error .tooManyLinks :
        Except Reason Place) := by
    intro links
    rw [← h.walk_eq false, ← h'.walk_eq false]
  have hle : cost' ≤ cost := by
    by_contra hmore
    have hcost := hwalk cost
    rw [if_pos le_rfl, if_neg hmore] at hcost
    cases hcost
  have hge : cost ≤ cost' := by
    by_contra hmore
    have hcost := hwalk cost'
    rw [if_pos le_rfl, if_neg hmore] at hcost
    cases hcost
  have hcost := hwalk cost
  rw [if_pos le_rfl, if_pos hle] at hcost
  cases hcost
  exact ⟨rfl, le_antisymm hge hle⟩

lemma append (h : d.Route n parts m cost) (h' : d.Route m more k cost') :
    d.Route n (parts ++ more) k (cost + cost') := by
  induction h with
  | arrived =>
    rw [Nat.zero_add]
    exact h'
  | here _ ih => exact .here (ih h')
  | up _ ih => exact .up (ih h')
  | down short entry isDirectory _ ih => exact .down short entry isDirectory (ih h')
  | through short entry isLink _ ih =>
    have honward := ih h'
    rw [List.append_assoc] at honward
    rw [Nat.add_right_comm]
    exact .through short entry isLink honward

/-- The route from where a part leads is one from the part on. -/
lemma exists_of_next {mustBe : Bool} {links' : Nat}
    (hnext : d.next .target asDirectory links n part rest = .onward mustBe links' k parts)
    (h : d.Route k parts m cost) (hcost : cost ≤ links') :
    ∃ cost', cost' ≤ links ∧ d.Route n (part :: rest) m cost' := by
  by_cases hdot : part = "."
  · subst hdot
    cases hnext
    exact ⟨cost, hcost, .here h⟩
  by_cases hup : part = ".."
  · subst hup
    cases hnext
    exact ⟨cost, hcost, .up h⟩
  rw [next_of_name hdot hup (Or.inl rfl)] at hnext
  by_cases hlong : nameLimit < part.utf8ByteSize
  · rw [if_pos hlong] at hnext
    cases hnext
  have hshort := Nat.not_lt.1 hlong
  rw [if_neg hlong] at hnext
  rcases hentry : d.lookup? n part with _ | j <;> simp only [hentry] at hnext
  · cases hnext
  rcases hj : d.node? j with _ | ⟨content⟩ | ⟨parent, entries⟩ | ⟨target⟩
  · unfold arrive at hnext
    rw [hj] at hnext
    cases hnext
  · unfold arrive at hnext
    rw [hj] at hnext
    cases hnext
  · rw [arrive_directory ⟨parent, entries, hj⟩] at hnext
    cases hnext
    exact ⟨cost, hcost, .down hshort hentry ⟨parent, entries, hj⟩ h⟩
  · rw [arrive_link hj] at hnext
    rcases links with _ | links <;> cases hnext
    exact ⟨cost + 1, Nat.succ_le_succ hcost, .through hshort hentry hj h⟩

/-- Parts that are followed to a directory are a route. -/
theorem exists_of_walk (hn : IsDirectory d.nodes n)
    (h : d.walk .target asDirectory links n parts = .ok (.node m)) (hm : IsDirectory d.nodes m) :
    ∃ cost, cost ≤ links ∧ d.Route n parts m cost := by
  fun_induction Disk.walk d .target asDirectory links n parts with
  | case1 =>
    cases h
    exact ⟨0, Nat.zero_le _, .arrived hn⟩
  | case2 mustBe links n part rest result hnext =>
    -- the way does not end at this part, or it would not end in a directory
    rcases d.next_onward_or_atEnd links n part with ⟨links', next, front, hstep⟩ | hstep
    · obtain ⟨b, hb⟩ := hstep.target mustBe rest
      rw [hnext] at hb
      cases hb
    · obtain ⟨result', hresult, hno⟩ := hstep.target mustBe rest
      rw [hnext] at hresult
      cases hresult
      exact absurd hm (hno m h)
  | case3 mustBe links n part rest _ _ _ _ hnext ih =>
    obtain ⟨cost, hcost, hroute⟩ := ih (isDirectory_of_next hn hnext) h
    exact exists_of_next hnext hroute hcost

/-- **A route has two legs**, and each of them crosses some of its links. -/
theorem exists_of_append (hn : IsDirectory d.nodes n) (hmore : more ≠ [])
    (h : d.Route n (parts ++ more) k cost) :
    ∃ m first second, d.Route n parts m first ∧ d.Route m more k second ∧
      cost = first + second := by
  have hwalk := h.walk_eq false cost
  rw [if_pos le_rfl] at hwalk
  rcases leg_or_deadEnd cost hn parts with ⟨links', m, hleg⟩ | hdead
  · rw [hleg.behind hmore] at hwalk
    obtain ⟨first, -, hfirst⟩ := exists_of_walk hn (hleg.target false) hleg.directory
    obtain ⟨second, -, hsecond⟩ := exists_of_walk hleg.directory hwalk h.isDirectory
    exact ⟨m, first, second, hfirst, hsecond, (h.unique (hfirst.append hsecond)).2⟩
  · obtain ⟨reason, hreason⟩ := hdead.behind hmore .target false
    rw [hwalk] at hreason
    cases hreason

end Route

/-! ## Following within limits -/

/-- Follows a path within limits. -/
def follow (d : Disk) (l : Limits) (path : String) : Except Fault Place :=
  if path.toList.contains (Char.ofNat 0) then .error .nul
  else if path.isEmpty then .error (.refused ⟨.notFound, path⟩)
  else if l.forbids path then .error (.refused ⟨.nameTooLong, path⟩)
  else
    (d.walk .target (Path.endsInSlash path) l.links (d.base path) (steps path)).mapError
      fun reason => .refused ⟨reason, path⟩

/-- **This is how paths are followed here**, within the limits of this system. -/
theorem locate_eq_follow (d : Disk) (path : String) : d.locate path = d.follow .system path := by
  unfold locate follow
  by_cases hnul : path.toList.contains (Char.ofNat 0) = true
  · rw [if_pos hnul, if_pos hnul]
  rw [if_neg hnul, if_neg hnul]
  by_cases hempty : path.isEmpty = true
  · simp only [if_pos hempty]
  simp only [if_neg hempty]
  have hforbids : Limits.system.forbids path = true ↔ pathLimit ≤ path.utf8ByteSize :=
    decide_eq_true_iff
  by_cases hlong : pathLimit ≤ path.utf8ByteSize
  · simp only [if_pos hlong, if_pos (hforbids.2 hlong)]
  simp only [if_neg hlong, if_neg (mt hforbids.1 hlong)]
  unfold base Limits.system
  rcases d.walk .target (Path.endsInSlash path) linkLimit
    (if Path.isAbsolute path then 0 else d.home) (steps path) with reason | place <;> rfl

section Follow

variable {l : Limits}

/-- A path that leads to a directory within limits has a route that keeps to them. -/
lemma exists_route_of_follow (h : d.follow l path = .ok (.node n)) (hn : IsDirectory d.nodes n) :
    path ≠ "" ∧ Char.ofNat 0 ∉ path.toList ∧ l.forbids path = false ∧
      ∃ cost, cost ≤ l.links ∧ d.Route (d.base path) (steps path) n cost := by
  unfold follow at h
  by_cases hnul : path.toList.contains (Char.ofNat 0) = true
  · rw [if_pos hnul] at h
    cases h
  rw [if_neg hnul] at h
  by_cases hempty : path.isEmpty = true
  · rw [if_pos hempty] at h
    cases h
  rw [if_neg hempty] at h
  by_cases hlong : l.forbids path = true
  · rw [if_pos hlong] at h
    cases h
  rw [if_neg hlong] at h
  refine ⟨by simpa using hempty, by simpa using hnul, Bool.eq_false_iff.2 hlong, ?_⟩
  rcases hwalk : d.walk .target (Path.endsInSlash path) l.links (d.base path) (steps path) with
    reason | place <;> rw [hwalk] at h <;> cases h
  exact Route.exists_of_walk (d.isDirectory_start path) hwalk hn

/-- A path that has a route leads there, or is refused, but not because there is nothing. -/
lemma follow_of_route (hempty : path ≠ "") (hnul : Char.ofNat 0 ∉ path.toList)
    (h : d.Route (d.base path) (steps path) n cost) :
    d.follow l path = .ok (.node n) ∨
      ∃ reason, reason ≠ .notFound ∧ d.follow l path = .error (.refused ⟨reason, path⟩) := by
  have hfull : ¬ path.isEmpty = true := by simpa using hempty
  have hclean : ¬ path.toList.contains (Char.ofNat 0) = true := by simpa using hnul
  unfold follow
  rw [if_neg hclean, if_neg hfull, h.walk_eq]
  by_cases hlong : l.forbids path = true
  · rw [if_pos hlong]
    exact Or.inr ⟨.nameTooLong, nofun, rfl⟩
  rw [if_neg hlong]
  by_cases hcost : cost ≤ l.links
  · rw [if_pos hcost]
    exact Or.inl rfl
  · rw [if_neg hcost]
    exact Or.inr ⟨.tooManyLinks, nofun, rfl⟩

/-- A path that has a route leads nowhere else. -/
lemma place_eq_of_follow {place : Place} (h : d.Route (d.base path) (steps path) n cost)
    (hpath : d.follow l path = .ok place) : place = .node n := by
  unfold follow at hpath
  rw [h.walk_eq] at hpath
  split at hpath
  · cases hpath
  split at hpath
  · cases hpath
  split at hpath
  · cases hpath
  by_cases hcost : cost ≤ l.links
  · rw [if_pos hcost] at hpath
    exact (Except.ok.inj hpath).symm
  · rw [if_neg hcost] at hpath
    cases hpath

end Follow

lemma base_join (hpath : path ≠ "") (hname : Path.isName name = true) :
    d.base (Path.join path name) = d.base path := by
  unfold base
  rw [(extends_join hpath hname).isAbsolute_eq]

/-- The route of a path goes on with that of a name. -/
lemma Route.join (h : d.Route (d.base path) (steps path) n cost) (hpath : path ≠ "")
    (hname : Path.isName name = true) (honward : d.Route n [name] m cost') :
    d.Route (d.base (Path.join path name)) (steps (Path.join path name)) m (cost + cost') := by
  rw [base_join hpath hname, steps_join hpath hname]
  exact h.append honward

/-- The route of the path of an entry is that of its directory, and goes on with that of its name. -/
lemma Route.exists_of_join (h : d.Route (d.base path) (steps path) n cost) (hpath : path ≠ "")
    (hname : Path.isName name = true) {whole : Nat}
    (hwhole : d.Route (d.base (Path.join path name)) (steps (Path.join path name)) m whole) :
    ∃ more, d.Route n [name] m more ∧ whole = cost + more := by
  rw [base_join hpath hname, steps_join hpath hname] at hwhole
  obtain ⟨k, first, second, hfirst, hsecond, rfl⟩ :=
    hwhole.exists_of_append (d.isDirectory_start path) (List.cons_ne_nil _ _)
  obtain ⟨rfl, rfl⟩ := h.unique hfirst
  exact ⟨second, hsecond, rfl⟩

/-! ## Loops -/

/-- From a directory one comes to another by one of its entries, through however many links. -/
def Leads (d : Disk) (n m : Nat) : Prop :=
  ∃ name cost, Path.isName name = true ∧ Char.ofNat 0 ∉ name.toList ∧ d.Route n [name] m cost

/-- From a directory one comes to one from which one comes back to it. -/
def Loops (d : Disk) (n : Nat) : Prop := ∃ k, ReflTransGen d.Leads n k ∧ TransGen d.Leads k k

/-- There is a loop below a path. -/
def LoopsBelow (d : Disk) (path : String) : Prop :=
  ∃ n cost, d.Route (d.base path) (steps path) n cost ∧ d.Loops n

/-- Above a loop, one of the entries leads on to it; in it, to where it goes on. -/
lemma Loops.exists_leads (h : d.Loops n) : ∃ m, d.Leads n m ∧ d.Loops m := by
  obtain ⟨k, hreaches, hloop⟩ := h
  rcases hreaches.cases_head with rfl | ⟨m, hleads, hrest⟩
  · obtain ⟨m, hleads, hback⟩ := TransGen.head'_iff.1 hloop
    exact ⟨m, hleads, n, hback, hloop⟩
  · exact ⟨m, hleads, k, hrest, hloop⟩

/-! ## Directories without links -/

/-- A directory stands in another one itself. -/
def Holds (d : Disk) (n m : Nat) : Prop :=
  ∃ name, d.lookup? n name = some m ∧ IsDirectory d.nodes m

/-- No directory stands in itself, at any depth. -/
def IsTree (d : Disk) : Prop := ∀ n, ¬ TransGen d.Holds n n

/-- The directories below a directory, at any depth. -/
noncomputable def directoriesBelow (d : Disk) (n : Nat) : Finset Nat := by
  classical
  exact (Finset.range d.nodes.size).filter fun m => TransGen d.Holds n m

lemma mem_directoriesBelow_iff :
    m ∈ d.directoriesBelow n ↔ m < d.nodes.size ∧ TransGen d.Holds n m := by
  unfold directoriesBelow
  simp only [Finset.mem_filter, Finset.mem_range]

/-- In a tree there are fewer directories below one than below the one it stands in. -/
lemma IsTree.card_lt (h : d.IsTree) (hholds : d.Holds n m) :
    (d.directoriesBelow m).card < (d.directoriesBelow n).card := by
  obtain ⟨-, -, parent, entries, hm⟩ := id hholds
  have hsubset : d.directoriesBelow m ⊆ d.directoriesBelow n := by
    intro k hk
    rw [mem_directoriesBelow_iff] at hk ⊢
    exact ⟨hk.1, .head hholds hk.2⟩
  have hmem : m ∈ d.directoriesBelow n :=
    mem_directoriesBelow_iff.2 ⟨(Array.getElem?_eq_some_iff.1 hm).1, .single hholds⟩
  have hnot : m ∉ d.directoriesBelow m := fun hself => h m (mem_directoriesBelow_iff.1 hself).2
  exact Finset.card_lt_card
    (Finset.ssubset_iff.2 ⟨m, hnot, Finset.insert_subset_iff.2 ⟨hmem, hsubset⟩⟩)

/-- **Without links one comes to an end**, if directories make a tree. -/
theorem wellFounded_holds (h : d.IsTree) : WellFounded fun m n => d.Holds n m :=
  Subrelation.wf h.card_lt (measure fun n => (d.directoriesBelow n).card).wf

/-- An entry leads to a directory that stands there itself, or crosses a link. -/
lemma Route.holds_or_pos (hname : Path.isName name = true) (h : d.Route n [name] m cost) :
    (cost = 0 ∧ d.Holds n m) ∨ 0 < cost := by
  obtain ⟨-, -, hdot, hup⟩ := Path.isName_iff.1 hname
  cases h with
  | here => exact absurd rfl hdot
  | up => exact absurd rfl hup
  | down _ entry isDirectory onward =>
    cases onward
    exact Or.inl ⟨rfl, name, entry, isDirectory⟩
  | through => exact Or.inr (Nat.succ_pos _)

end Disk

end RoleAudit.Files
