import RoleAudit.Files.Fault
import RoleAudit.Files.Node
import RoleAudit.Files.Path

/-!
# Disks

A disk is a table of nodes. A directory knows the directory it is in. Nodes are never taken away, so
an open file can be written after its name is gone; what cannot be reached does not count.

Paths that do not start at the root start at the disk's home directory.

* `Disk.locate` follows a path as the operating system does.
* `Disk.absolute` is the text of a path from the root.
-/

namespace RoleAudit.Files

/-- A disk with a home directory. The node with the number zero is the root. -/
structure Disk where
  nodes : Array Node
  home : Nat
  /-- The path of the home directory. -/
  homePath : String
  rooted : Rooted nodes home

/-- What is done at the end of a path. -/
inductive Aim where
  /-- What the path leads to is used. -/
  | target
  /-- The last entry itself is used; if it is a link, the link is not followed. -/
  | entry
  /-- A file is made, or emptied. -/
  | newFile
  deriving Repr, DecidableEq

/-- Where a path leads. -/
inductive Place where
  | node (number : Nat)
  /-- Nowhere, but the directory for it exists. -/
  | vacant (directory : Nat) (name : String)
  deriving Repr, DecidableEq

/-- The length that a path must not reach, in bytes. -/
def pathLimit : Nat := 4096

/-- The greatest length of a name, in bytes. -/
def nameLimit : Nat := 255

/-- How many symbolic links a path may cross. -/
def linkLimit : Nat := 40

namespace Disk

/-- The directories that lead from the root to a home, each inside the one before. -/
def chain (names : List String) : Array Node :=
  let node (n : Nat) : Node :=
    .directory (n - 1) (match names[n]? with
      | some name => [(name, n + 1)]
      | none => [])
  ((List.range (names.length + 1)).map node).toArray

theorem isDirectory_chain {names : List String} {n : Nat} (h : n ≤ names.length) :
    IsDirectory (chain names) n := by
  simp [IsDirectory, chain, Nat.lt_succ_of_le h]

theorem rooted_chain (names : List String) (h : ∀ name ∈ names, Path.isName name = true) :
    Rooted (chain names) names.length where
  root := isDirectory_chain (Nat.zero_le _)
  home := isDirectory_chain (Nat.le_refl _)
  parent := by
    intro n parent entries h
    simp only [chain, List.getElem?_toArray, List.getElem?_map, Option.map_eq_some_iff] at h
    obtain ⟨m, hm, hnode⟩ := h
    obtain ⟨hlt, rfl⟩ := List.getElem?_eq_some_iff.1 hm
    rw [List.length_range] at hlt
    cases hnode
    rw [List.getElem_range]
    exact isDirectory_chain (by omega)
  names := by
    intro n parent entries h
    simp only [chain, List.getElem?_toArray, List.getElem?_map, Option.map_eq_some_iff] at h
    obtain ⟨m, -, hnode⟩ := h
    cases hnode
    split <;> simp
  isName := by
    intro n parent entries hn entry hentry
    simp only [chain, List.getElem?_toArray, List.getElem?_map, Option.map_eq_some_iff] at hn
    obtain ⟨m, -, hnode⟩ := hn
    cases hnode
    split at hentry
    · next name hname =>
      cases List.mem_singleton.1 hentry
      exact h name (List.mem_of_getElem? hname)
    · cases hentry

/-- A disk with nothing on it but the directories down to its home. -/
def empty (homePath : String) : Disk :=
  let names := (Path.segments homePath).filter Path.isName
  { nodes := chain names, home := names.length, homePath
    rooted := rooted_chain names fun _ h => (List.mem_filter.1 h).2 }

instance : Inhabited Disk := ⟨empty "/"⟩

/-- The node of a number. -/
def node? (d : Disk) (n : Nat) : Option Node := d.nodes[n]?

/-- The entries of a directory; other nodes have none. -/
def entries (d : Disk) (n : Nat) : List (String × Nat) :=
  match d.node? n with
  | some (.directory _ entries) => entries
  | _ => []

/-- The directory that a directory is in. -/
def parent (d : Disk) (n : Nat) : Nat :=
  match d.node? n with
  | some (.directory parent _) => parent
  | _ => n

/-- The node that a directory's entry leads to. -/
def lookup? (d : Disk) (directory : Nat) (name : String) : Option Nat :=
  ((d.entries directory).find? fun e => e.1 == name).map (·.2)

/-! ## Following paths -/

/-- The parts of a path that are followed one by one. -/
def steps (path : String) : List String := (Path.segments path).filter fun p => !p.isEmpty

/-- What comes of a part of a path. -/
inductive Next where
  /-- The path is at its end, or is given up. -/
  | finished (result : Except Reason Place)
  /-- There are parts to be followed from a directory. -/
  | onward (asDirectory : Bool) (links directory : Nat) (parts : List String)

/-- Goes on from a directory to the node that was found in it under the first of several parts.
`links` is how many links may still be crossed, `aim` says what is done at the end, and
`asDirectory` that the last part must be a directory. -/
def arrive (d : Disk) (aim : Aim) (asDirectory : Bool) (links directory : Nat)
    (rest : List String) (n : Nat) : Next :=
  match d.node? n with
  | none => .finished (.error .notFound)
  | some (.file _) =>
    .finished (if rest.isEmpty && !asDirectory then .ok (.node n) else .error .notDirectory)
  | some (.directory ..) => .onward asDirectory links n rest
  | some (.link target) =>
    if rest.isEmpty && aim = .entry && !asDirectory then .finished (.ok (.node n))
    else
      match links with
      | 0 => .finished (.error .tooManyLinks)
      | links + 1 =>
        .onward (asDirectory || (rest.isEmpty && Path.endsInSlash target)) links
          (if Path.isAbsolute target then 0 else directory) (steps target ++ rest)

/-- Follows the first of several parts. No file is made where a directory must be. -/
def next (d : Disk) (aim : Aim) (asDirectory : Bool) (links directory : Nat) (part : String)
    (rest : List String) : Next :=
  if part == "." then .onward asDirectory links directory rest
  else if part == ".." then .onward asDirectory links (d.parent directory) rest
  else if aim = .newFile && asDirectory && rest.isEmpty then .finished (.error .isDirectory)
  else if nameLimit < part.utf8ByteSize then .finished (.error .nameTooLong)
  else
    match d.lookup? directory part with
    | none => .finished (if rest.isEmpty then .ok (.vacant directory part) else .error .notFound)
    | some n => d.arrive aim asDirectory links directory rest n

theorem lt_of_arrive {d : Disk} {aim : Aim} {asDirectory mustBe : Bool}
    {links directory links' directory' n : Nat} {rest parts : List String}
    (h : d.arrive aim asDirectory links directory rest n =
      .onward mustBe links' directory' parts) :
    links' < links ∨ links' = links ∧ parts = rest := by
  unfold arrive at h
  split at h
  · cases h
  · cases h
  · cases h
    exact Or.inr ⟨rfl, rfl⟩
  · split at h
    · cases h
    · split at h
      · cases h
      · cases h
        exact Or.inl (Nat.lt_succ_self _)

/-- What can come of a part: it stays in the directory or goes to the one above, the path is given
up, the part is a free name at the end, or it names an entry. -/
theorem next_cases (d : Disk) (aim : Aim) (asDirectory : Bool) (links directory : Nat)
    (part : String) (rest : List String) :
    d.next aim asDirectory links directory part rest = .onward asDirectory links directory rest ∨
      d.next aim asDirectory links directory part rest =
        .onward asDirectory links (d.parent directory) rest ∨
      (∃ reason, d.next aim asDirectory links directory part rest =
        .finished (.error reason)) ∨
      (rest = [] ∧ d.lookup? directory part = none ∧
        d.next aim asDirectory links directory part rest =
          .finished (.ok (.vacant directory part))) ∨
      ∃ n, d.next aim asDirectory links directory part rest =
        d.arrive aim asDirectory links directory rest n := by
  unfold next
  split
  · exact Or.inl rfl
  split
  · exact Or.inr (Or.inl rfl)
  split
  · exact Or.inr (Or.inr (Or.inl ⟨_, rfl⟩))
  split
  · exact Or.inr (Or.inr (Or.inl ⟨_, rfl⟩))
  split
  · next hfree =>
    by_cases hlast : rest.isEmpty = true
    · rw [if_pos hlast]
      exact Or.inr (Or.inr (Or.inr (Or.inl ⟨List.isEmpty_iff.1 hlast, hfree, rfl⟩)))
    · rw [if_neg hlast]
      exact Or.inr (Or.inr (Or.inl ⟨_, rfl⟩))
  · exact Or.inr (Or.inr (Or.inr (Or.inr ⟨_, rfl⟩)))

/-- Going on takes a part off, or crosses a link. -/
theorem lt_of_next {d : Disk} {aim : Aim} {asDirectory mustBe : Bool}
    {links directory links' directory' : Nat} {part : String} {rest parts : List String}
    (h : d.next aim asDirectory links directory part rest =
      .onward mustBe links' directory' parts) :
    links' < links ∨ links' = links ∧ parts = rest := by
  rcases d.next_cases aim asDirectory links directory part rest with
    hstay | hup | ⟨_, hfails⟩ | ⟨-, -, hends⟩ | ⟨n, harrive⟩
  · rw [hstay] at h
    cases h
    exact Or.inr ⟨rfl, rfl⟩
  · rw [hup] at h
    cases h
    exact Or.inr ⟨rfl, rfl⟩
  · rw [hfails] at h
    cases h
  · rw [hends] at h
    cases h
  · rw [harrive] at h
    exact lt_of_arrive h

/-- Follows parts from a directory. -/
def walk (d : Disk) (aim : Aim) (asDirectory : Bool) (links directory : Nat)
    (parts : List String) : Except Reason Place :=
  match parts with
  | [] => .ok (.node directory)
  | part :: rest =>
    match _hnext : d.next aim asDirectory links directory part rest with
    | .finished result => result
    | .onward asDirectory links directory parts => walk d aim asDirectory links directory parts
termination_by (links, parts.length)
decreasing_by
  rcases lt_of_next _hnext with hlt | ⟨heq, hparts⟩
  · exact Prod.Lex.left _ _ hlt
  · rw [heq, hparts]
    exact Prod.Lex.right _ (Nat.lt_succ_self _)

@[simp] theorem walk_nil (d : Disk) (aim : Aim) (asDirectory : Bool) (links directory : Nat) :
    d.walk aim asDirectory links directory [] = .ok (.node directory) := by
  rw [walk]

theorem walk_cons (d : Disk) (aim : Aim) (asDirectory : Bool) (links directory : Nat)
    (part : String) (rest : List String) :
    d.walk aim asDirectory links directory (part :: rest) =
      match d.next aim asDirectory links directory part rest with
      | .finished result => result
      | .onward asDirectory links directory parts =>
        d.walk aim asDirectory links directory parts := by
  rw [walk]
  split <;> next h => rw [h]

/-- Follows a path. -/
def locate (d : Disk) (path : String) (aim : Aim := .target) : Except Fault Place :=
  if path.toList.contains (Char.ofNat 0) then .error .nul
  else
    let result : Except Reason Place :=
      if path.isEmpty then .error .notFound
      else if pathLimit ≤ path.utf8ByteSize then .error .nameTooLong
      else
        walk d aim (Path.endsInSlash path) linkLimit
          (if Path.isAbsolute path then 0 else d.home) (steps path)
    match result with
    | .ok place => .ok place
    | .error reason => .error (.refused ⟨reason, path⟩)

/-- The path from the root. -/
def absolute (d : Disk) (path : String) : String := Path.normalize (Path.join d.homePath path)

/-! ## Changing a disk -/

/-- Puts something new under a name in a directory, unless the name is taken or is none. Its node
stands behind all others. -/
def attach (d : Disk) (directory : Nat) (name : String) (fresh : Fresh) : Disk :=
  match h : d.nodes[directory]? with
  | some (.directory parent entries) =>
    if taken : name ∈ entries.map Prod.fst ∨ Path.isName name = false then d
    else
      { d with
        nodes := (d.nodes.push (fresh.node directory)).setIfInBounds directory
          (.directory parent (entries ++ [(name, d.nodes.size)]))
        rooted := by
          have hn : (d.nodes.push (fresh.node directory))[directory]? =
              some (.directory parent entries) := by
            have hlt : directory < d.nodes.size := (Array.getElem?_eq_some_iff.1 h).1
            rw [Array.getElem?_push, if_neg (Nat.ne_of_lt hlt), h]
          rw [not_or, Bool.not_eq_false] at taken
          refine (d.rooted.push ⟨parent, entries, h⟩ fresh).setEntries hn ?_ ?_
          · rw [List.map_append, List.nodup_append]
            refine ⟨d.rooted.names h, by simp, ?_⟩
            rintro a ha b hb rfl
            simp only [List.map_cons, List.map_nil, List.mem_singleton] at hb
            exact taken.1 (hb ▸ ha)
          · intro entry hentry
            rcases List.mem_append.1 hentry with hold | hnew
            · exact d.rooted.isName h entry hold
            · cases List.mem_singleton.1 hnew
              exact taken.2 }
  | _ => d

/-- Replaces the bytes of a file. -/
def setContent (d : Disk) (n : Nat) (content : List UInt8) : Disk :=
  match h : d.nodes[n]? with
  | some (.file _) =>
    { d with
      nodes := d.nodes.setIfInBounds n (.file content)
      rooted := d.rooted.setFile h content }
  | _ => d

/-- Takes a name out of a directory. -/
def dropEntry (d : Disk) (directory : Nat) (name : String) : Disk :=
  match h : d.nodes[directory]? with
  | some (.directory parent entries) =>
    { d with
      nodes := d.nodes.setIfInBounds directory
        (.directory parent (entries.filter fun e => e.1 != name))
      rooted := d.rooted.setEntries h ((d.rooted.names h).sublist (List.filter_sublist.map _))
        fun entry hentry => d.rooted.isName h entry (List.mem_filter.1 hentry).1 }
  | _ => d

/-- The bytes of a file; other nodes have none. -/
def content (d : Disk) (n : Nat) : List UInt8 :=
  match d.node? n with
  | some (.file content) => content
  | _ => []

/-- Writes bytes into a file from an offset on; a gap before it is filled with zeros. -/
def writeAt (d : Disk) (n offset : Nat) (bytes : List UInt8) : Disk :=
  if bytes.isEmpty then d
  else
    let old := d.content n
    let front := old.take offset ++ List.replicate (offset - old.length) 0
    d.setContent n (front ++ bytes ++ old.drop (offset + bytes.length))

end Disk

end RoleAudit.Files
