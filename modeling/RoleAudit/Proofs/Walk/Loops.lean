import RoleAudit.Proofs.Files.Routes
import RoleAudit.Proofs.Walk.Course

/-!
# Loops below the root of a walk

A walk follows links to directories, and keeps no record of where it was. Where links lead in circles
there is no end to the paths that it could enter. It is held up all the same. One that goes from a
directory to a directory which stands there itself goes down in a tree, and comes to its leaves; and to
go anywhere else its path has to cross another link, of which it may cross only so many. Where the
length of paths is limited this holds it up as well, since a path gets longer with every step.

In a loop a walk is held up by nothing but these limits, and what goes beyond them is refused. So it
does not pass a loop in silence.

* `View.wellFounded_inside`: within limits no path goes on for ever.
* `exists_inside_of_loopsBelow`: an entry of a directory above a loop is above it as well, and is not
  passed by.
* `walk_ends`: every walk comes to its end, and fails if there is a loop.
-/

namespace RoleAudit

/-- The failure is one of a walk: there is nothing at a path, or an entry cannot be examined. -/
def Failure.isOfWalk : Failure → Bool
  | sourceNotFound _ | cannotExamine .. => true
  | _ => false

namespace Walk

open RoleAudit.Files RoleAudit.Files.Disk StateTransition

variable {d : Disk} {l : Limits} {v : View} {markers : List String} {path directory : String}
  {e : Entry} {es : List Entry} {below : String → Trail} {follow : String → Except Fault Place}
  {n : Nat}

/-! ## What is seen within limits -/

namespace View

lemma isDirectory_along_iff : (View.along d follow).isDirectory path = true ↔
    ∃ n, follow path = .ok (.node n) ∧ IsDirectory d.nodes n := isDirectory_followed_iff

lemma mem_list_along_iff (h : follow directory = .ok (.node n)) :
    e ∈ (View.along d follow).list directory ↔
      ∃ m, (e.name, m) ∈ d.entries n ∧ e.kind = d.entryKind m := by
  unfold along
  simp only [h]
  exact mem_listing_iff

lemma isName_of_mem_list_along (h : e ∈ (View.along d follow).list directory)
    (hdirectory : (View.along d follow).isDirectory directory = true) :
    Path.isName e.name = true := by
  obtain ⟨n, hn, -⟩ := isDirectory_along_iff.1 hdirectory
  obtain ⟨m, hmem, -⟩ := (mem_list_along_iff hn).1 h
  exact isName_of_mem_entries hmem

/-- What is seen by those who follow paths within limits. -/
def within (d : Disk) (l : Limits) : View := along d (d.follow l)

lemma exists_route_of_isDirectory (h : (within d l).isDirectory path = true) :
    path ≠ "" ∧ Char.ofNat 0 ∉ path.toList ∧ l.forbids path = false ∧
      ∃ n cost, d.follow l path = .ok (.node n) ∧ cost ≤ l.links ∧
        d.Route (d.base path) (steps path) n cost := by
  obtain ⟨n, hpath, hn⟩ := isDirectory_along_iff.1 h
  obtain ⟨hempty, hnul, hlong, cost, hcost, hroute⟩ := exists_route_of_follow hpath hn
  exact ⟨hempty, hnul, hlong, n, cost, hpath, hcost, hroute⟩

/-! ## No path goes on for ever -/

lemma acc_of_not_isDirectory (h : ¬ v.isDirectory path = true) : Acc v.Inside path :=
  .intro _ fun _ hinside => absurd hinside.1 h

/-- Paths get longer, until they are too long. -/
lemma acc_of_length {bound : Nat} (h : l.length = some bound) (path : String) :
    Acc (within d l).Inside path := by
  induction hspare : bound - path.utf8ByteSize using Nat.strong_induction_on generalizing path with
  | _ spare ih =>
    refine .intro _ ?_
    rintro _ ⟨hdirectory, e, he, rfl⟩
    obtain ⟨-, -, hshort, -⟩ := exists_route_of_isDirectory hdirectory
    have hbound : path.utf8ByteSize < bound := by
      unfold Limits.forbids at hshort
      simpa [h] using hshort
    have hlonger := utf8ByteSize_lt_join path (isName_of_mem_list_along he hdirectory)
    exact ih _ (by omega) _ rfl

/-- Paths cross links, until these are too many, or go down in a tree. -/
lemma acc_of_route (h : d.IsTree) {cost : Nat}
    (hroute : d.Route (d.base path) (steps path) n cost) : Acc (within d l).Inside path := by
  -- outside, the induction is on the links that are left; inside, on the tree
  induction hspare : l.links - cost using Nat.strong_induction_on generalizing path n cost with
  | _ spare ih =>
    induction n using (wellFounded_holds h).induction generalizing path with
    | _ n deeper =>
      refine .intro _ ?_
      rintro _ ⟨hdirectory, e, he, rfl⟩
      by_cases hinside : (within d l).isDirectory (Path.join path e.name) = true
      swap
      · exact acc_of_not_isDirectory hinside
      have hname := isName_of_mem_list_along he hdirectory
      obtain ⟨hpath, -⟩ := exists_route_of_isDirectory hdirectory
      obtain ⟨-, -, -, m, whole, -, hwhole, hinner⟩ := exists_route_of_isDirectory hinside
      obtain ⟨more, honward, rfl⟩ := hroute.exists_of_join hpath hname hinner
      rcases honward.holds_or_pos hname with ⟨rfl, hholds⟩ | hpos
      · exact deeper m hholds hinner
      · exact ih _ (by omega) hinner rfl

/-- **Within limits no path goes on for ever**, if paths must not be too long, or else if directories
make a tree. -/
theorem wellFounded_inside (h : l.length ≠ none ∨ d.IsTree) :
    WellFounded (within d l).Inside := by
  refine ⟨fun path => ?_⟩
  rcases h with hlength | htree
  · obtain ⟨bound, hbound⟩ := Option.ne_none_iff_exists'.1 hlength
    exact acc_of_length hbound path
  by_cases hdirectory : (within d l).isDirectory path = true
  · obtain ⟨-, -, -, n, cost, -, -, hroute⟩ := exists_route_of_isDirectory hdirectory
    exact acc_of_route htree hroute
  · exact acc_of_not_isDirectory hdirectory

end View

/-! ## How a walk ends -/

lemma isOfWalk_of_examine {kind : EntryKind} {failure : Failure}
    (h : (View.along d follow).examine path kind = .error failure) : failure.isOfWalk = true := by
  unfold View.along at h
  dsimp only at h
  split at h
  · cases h
  · cases h
  · split at h
    · cases h
    · split at h <;> cases h
      rfl
    · cases h

lemma Trail.failure_andThen (t u : Trail) : (t.andThen u).failure = t.failure.or u.failure := by
  obtain ⟨files, _ | failure⟩ := t <;> rfl

/-- All failures of a walk are its own. -/
lemma isOfWalk_trailAmong
    (hexamine : ∀ path kind failure, v.examine path kind = .error failure → failure.isOfWalk = true)
    (hbelow : ∀ e ∈ es, ∀ failure ∈ (below (Path.join directory e.name)).failure,
      failure.isOfWalk = true) :
    ∀ failure ∈ (v.trailAmong markers below directory es).failure, failure.isOfWalk = true := by
  induction es with
  | nil => exact fun _ h => nomatch h
  | cons e es ih =>
    rw [List.forall_mem_cons] at hbelow
    have hrest := ih hbelow.2
    intro failure h
    unfold View.trailAmong at h
    rcases hexamined : v.examine (Path.join directory e.name) e.kind with failure' | isDirectory <;>
      simp only [hexamined] at h
    · cases h
      exact hexamine _ _ _ hexamined
    cases isDirectory with
    | true =>
      simp only [Trail.failure_andThen, Option.mem_def, Option.or_eq_some_iff] at h
      rcases h with hinside | ⟨-, hlater⟩
      · exact hbelow.1 failure hinside
      · exact hrest failure hlater
    | false =>
      -- a candidate or not, the rest decides
      dsimp only at h
      split at h <;> exact hrest failure h

/-- A walk fails that cannot pass one of the entries. -/
lemma failure_trailAmong_ne_none (he : e ∈ es)
    (h : ∀ isDirectory, v.examine (Path.join directory e.name) e.kind = .ok isDirectory →
      isDirectory = true ∧ (below (Path.join directory e.name)).failure ≠ none) :
    (v.trailAmong markers below directory es).failure ≠ none := by
  induction es with
  | nil => cases he
  | cons first es ih =>
    unfold View.trailAmong
    rcases List.mem_cons.1 he with rfl | hlater
    · rcases hexamine : v.examine (Path.join directory e.name) e.kind with failure | isDirectory <;>
        simp only [hexamine]
      · exact nofun
      · obtain ⟨rfl, hfails⟩ := h isDirectory hexamine
        simp only [Trail.failure_andThen, ne_eq, Option.or_eq_none_iff]
        exact fun hnone => hfails hnone.1
    have hrest := ih hlater
    rcases hexamine : v.examine (Path.join directory first.name) first.kind with
      failure | isDirectory <;> simp only [hexamine]
    · exact nofun
    cases isDirectory with
    | true =>
      simp only [Trail.failure_andThen, ne_eq, Option.or_eq_none_iff]
      exact fun hnone => hrest hnone.2
    | false =>
      dsimp only
      split <;> exact hrest

lemma nul_not_mem_join {name : String} (hdirectory : Char.ofNat 0 ∉ directory.toList)
    (hname : Path.isName name = true) (hnul : Char.ofNat 0 ∉ name.toList) :
    Char.ofNat 0 ∉ (Path.join directory name).toList := by
  have hslash : Char.ofNat 0 ∉ "/".toList := by decide
  rw [join_of_isName hname]
  split
  · rw [String.toList_append, List.mem_append]
    exact not_or.2 ⟨hdirectory, hnul⟩
  · rw [String.toList_append, String.toList_append, List.mem_append, List.mem_append]
    exact not_or.2 ⟨not_or.2 ⟨hdirectory, hslash⟩, hnul⟩

/-- An entry that leads somewhere is no file. -/
lemma exists_entry_of_route {name : String} {m cost : Nat} (hname : Path.isName name = true)
    (h : d.Route n [name] m cost) : ∃ k, (name, k) ∈ d.entries n ∧ d.entryKind k ≠ .file := by
  obtain ⟨-, -, hdot, hup⟩ := Path.isName_iff.1 hname
  cases h with
  | here => exact absurd rfl hdot
  | up => exact absurd rfl hup
  | @down _ k _ _ _ _ _ entry isDirectory =>
    obtain ⟨parent, entries, hk⟩ := isDirectory
    refine ⟨k, mem_entries_of_lookup? entry, ?_⟩
    unfold entryKind
    rw [show d.node? k = some (.directory parent entries) from hk]
    exact nofun
  | @through _ k _ _ _ _ _ _ entry isLink =>
    refine ⟨k, mem_entries_of_lookup? entry, ?_⟩
    unfold entryKind
    rw [isLink]
    exact nofun

/-- What leads to a directory is examined as one, unless it cannot be examined. -/
lemma examine_within_of_route {m cost : Nat} {kind : EntryKind} (hkind : kind ≠ .file)
    (hempty : path ≠ "") (hnul : Char.ofNat 0 ∉ path.toList)
    (h : d.Route (d.base path) (steps path) m cost) {isDirectory : Bool}
    (hexamine : (View.within d l).examine path kind = .ok isDirectory) : isDirectory = true := by
  cases kind with
  | file => exact absurd rfl hkind
  | directory =>
    cases hexamine
    rfl
  | link =>
    have hdirectory := fun hpath : d.follow l path = .ok (.node m) =>
      View.isDirectory_along_iff.2 ⟨m, hpath, h.isDirectory⟩
    unfold View.within View.along at hexamine hdirectory
    rcases follow_of_route hempty hnul h with hpath | ⟨reason, hreason, hpath⟩
    · have htrue := hdirectory hpath
      simp only [hpath] at hexamine htrue
      rw [htrue] at hexamine
      cases hexamine
      rfl
    · simp only [hpath, if_neg hreason] at hexamine
      cases hexamine

/-- **An entry of a directory above a loop is above it as well**, and is not passed by. -/
theorem exists_inside_of_loopsBelow (h : d.LoopsBelow path)
    (hdirectory : (View.within d l).isDirectory path = true) :
    ∃ e ∈ (View.within d l).list path, d.LoopsBelow (Path.join path e.name) ∧
      ∀ isDirectory, (View.within d l).examine (Path.join path e.name) e.kind = .ok isDirectory →
        isDirectory = true := by
  obtain ⟨hempty, hnul, -, n, cost, hpath, -, hroute⟩ := View.exists_route_of_isDirectory hdirectory
  obtain ⟨n', cost', hroute', hloops⟩ := h
  obtain ⟨rfl, rfl⟩ := hroute.unique hroute'
  obtain ⟨m, ⟨name, more, hname, hclean, hleads⟩, hon⟩ := hloops.exists_leads
  obtain ⟨k, hmem, hkind⟩ := exists_entry_of_route hname hleads
  have honward := hroute.join hempty hname hleads
  have hfull : Path.join path name ≠ "" := by
    intro hjoin
    have hlonger := utf8ByteSize_lt_join path hname
    rw [hjoin] at hlonger
    exact absurd hlonger (Nat.not_lt_zero _)
  refine ⟨⟨name, d.entryKind k⟩, (View.mem_list_along_iff hpath).2 ⟨k, hmem, rfl⟩,
    ⟨m, _, honward, hon⟩, ?_⟩
  intro isDirectory
  exact examine_within_of_route hkind hfull (nul_not_mem_join hnul hname hclean) honward

/-- What leads to a directory is no file. -/
lemma not_isFile_of_loopsBelow (h : d.LoopsBelow path) :
    ¬ (View.within d l).isFile path = true := by
  obtain ⟨n, cost, hroute, -⟩ := h
  obtain ⟨parent, entries, hn⟩ := hroute.isDirectory
  have hnode : d.node? n = some (.directory parent entries) := hn
  intro hfile
  unfold View.within View.along at hfile
  dsimp only at hfile
  split at hfile
  · next m hpath =>
    cases place_eq_of_follow hroute hpath
    simp only [hnode] at hfile
    cases hfile
  · cases hfile

/-- What is known of the trail from a path, within limits. -/
structure IsTrailWithin (d : Disk) (l : Limits) (markers : List String) (path : String)
    (t : Trail) : Prop where
  isOfWalk : ∀ failure ∈ t.failure, failure.isOfWalk = true
  fails : d.LoopsBelow path → t.failure ≠ none
  system : l = .system → t = trail d markers path

/-- What is known of the trails from the paths in a directory is handed up to it. -/
lemma isTrailWithin_trailFrom
    (hbelow : (View.within d l).isDirectory path = true → ∀ e ∈ (View.within d l).list path,
      IsTrailWithin d l markers (Path.join path e.name) (below (Path.join path e.name))) :
    IsTrailWithin d l markers path ((View.within d l).trailFrom markers below path) where
  isOfWalk := by
    unfold View.trailFrom
    by_cases hdirectory : (View.within d l).isDirectory path = true
    · rw [if_pos hdirectory]
      exact isOfWalk_trailAmong (fun _ _ _ => isOfWalk_of_examine)
        fun e he => (hbelow hdirectory e he).isOfWalk
    rw [if_neg hdirectory]
    split
    · exact fun _ hfailure => nomatch hfailure
    · rintro _ ⟨⟩
      rfl
  fails := by
    intro hloops
    unfold View.trailFrom
    by_cases hdirectory : (View.within d l).isDirectory path = true
    · obtain ⟨e, he, hinside, hexamine⟩ := exists_inside_of_loopsBelow hloops hdirectory
      rw [if_pos hdirectory]
      exact failure_trailAmong_ne_none he fun isDirectory h =>
        ⟨hexamine isDirectory h, (hbelow hdirectory e he).fails hinside⟩
    · rw [if_neg hdirectory, if_neg (not_isFile_of_loopsBelow hloops)]
      exact nofun
  system := by
    rintro rfl
    have hhere : View.within d .system = View.along d fun path => d.locate path := by
      unfold View.within
      exact congrArg (View.along d) (funext fun path => (d.locate_eq_follow path).symm)
    rw [hhere] at hbelow ⊢
    exact trailFrom_locate fun hdirectory e he => (hbelow hdirectory e he).system rfl

/-- **Every walk comes to its end**, whatever the limits are, if paths must not be too long or else if
directories make a tree. It ends without a failure, or with one of its own; and with a failure if there
is a loop below its root. Within the limits of this system it finds what there is to be found. -/
theorem walk_ends (d : Disk) (l : Limits) (h : l.length ≠ none ∨ d.IsTree) (markers : List String)
    (root : String) :
    ∃ failure found,
      Reaches (Course.step? (View.within d l) markers) (.entering root [] [])
        (.ended failure found) ∧
      (∀ f, failure = some f → f.isOfWalk = true) ∧
      (d.LoopsBelow root → failure ≠ none) ∧
      (l = .system → candidates d markers root = (found, failure)) := by
  obtain ⟨t, hgoes, htrail⟩ := exists_trail (P := IsTrailWithin d l markers)
    (fun path below => isTrailWithin_trailFrom) ((View.wellFounded_inside h).apply root)
  refine ⟨t.failure, t.files, (hgoes [] []).trans ?_, htrail.isOfWalk, htrail.fails, ?_⟩
  · unfold Trail.after
    rcases t.failure with _ | failure
    · exact .single rfl
    · exact .refl
  · intro hsystem
    rw [candidates_eq_trail, ← htrail.system hsystem]

/-! ### A link to the directory that it stands in -/

/-- A disk with a link to the root in its root. -/
def snare : Disk := (Disk.empty "/").attach 0 "loop" (.link ".")

lemma eq_one_of_mem_snare {name : String} {n m : Nat} (h : (name, m) ∈ snare.entries n) :
    m = 1 := by
  have hroot : snare.entries 0 = [("loop", 1)] := by rfl
  have hlink : snare.entries 1 = [] := by rfl
  rcases n with _ | _ | n
  · rw [hroot, List.mem_singleton] at h
    cases h
    rfl
  · rw [hlink] at h
    cases h
  · have hsize : snare.nodes.size = 2 := by rfl
    have hnone : snare.node? (n + 1 + 1) = none :=
      Array.getElem?_eq_none (by omega)
    unfold entries at h
    rw [hnone] at h
    cases h

/-- Apart from the link there is nothing in it. -/
lemma isTree_snare : snare.IsTree := by
  intro n hloop
  obtain ⟨m, ⟨name, hentry, parent, entries, hm⟩, -⟩ := Relation.TransGen.head'_iff.1 hloop
  have hlink : snare.nodes[1]? = some (.link ".") := by rfl
  rw [eq_one_of_mem_snare (mem_entries_of_lookup? hentry), hlink] at hm
  cases hm

/-- The link leads back to where it stands. -/
lemma loopsBelow_snare : snare.LoopsBelow "/" := by
  have hroot : IsDirectory snare.nodes 0 := snare.rooted.root
  have hbase : snare.base "/" = 0 := by decide +kernel
  have hsteps : steps "/" = [] := by decide +kernel
  have hlink : snare.node? 1 = some (.link ".") := by rfl
  have htarget : steps "." = ["."] := by decide +kernel
  have hroute : snare.Route 0 ["loop"] 0 1 := by
    refine .through (by decide) (by rfl) hlink ?_
    rw [htarget, ite_self]
    exact .here (.arrived hroot)
  refine ⟨0, 0, ?_, 0, .refl, .single ⟨"loop", 1, by decide, by decide, hroute⟩⟩
  rw [hbase, hsteps]
  exact .arrived hroot

/-- A walk goes around in a loop until its path crosses too many links, if there is no limit for the
length of paths; and with the limits of this system as well it does not end well. -/
theorem walk_ends_snare :
    snare.IsTree ∧ snare.LoopsBelow "/" ∧
      (∃ failure found,
        Reaches (Course.step? (View.within snare ⟨linkLimit, none⟩) ["Bean"]) (.entering "/" [] [])
          (.ended (some failure) found) ∧ failure.isOfWalk = true) ∧
      (candidates snare ["Bean"] "/").2 ≠ none := by
  refine ⟨isTree_snare, loopsBelow_snare, ?_, ?_⟩
  · obtain ⟨failure, found, hreaches, hown, hfails, -⟩ :=
      walk_ends snare ⟨linkLimit, none⟩ (.inr isTree_snare) ["Bean"] "/"
    obtain ⟨f, rfl⟩ := Option.ne_none_iff_exists'.1 (hfails loopsBelow_snare)
    exact ⟨f, found, hreaches, hown f rfl⟩
  · obtain ⟨failure, found, -, -, hfails, hcandidates⟩ :=
      walk_ends snare .system (.inl nofun) ["Bean"] "/"
    rw [hcandidates rfl]
    exact hfails loopsBelow_snare

end Walk

end RoleAudit
