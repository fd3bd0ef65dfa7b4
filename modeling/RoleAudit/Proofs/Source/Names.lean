import RoleAudit.Proofs.Source.Readings
import RoleAudit.Source.Skeleton

/-!
# Names stand on one line

Whatever the source is, the names of the types and methods that are read from it have no line break.
This needs no grammatical source: where one is repaired, what is set aside has no label, and what is
supposed has no text.

* `Automaton.repair_fits`: a repair keeps what the chart knows about names.
* `Automaton.read_orderly`: the tree of any text is in order.
* `oneLine_of_mem_declarations`: names of types, and of their methods, stand on one line.
-/

namespace RoleAudit.Source

open RoleAudit.Text

namespace Automaton

variable {a : Automaton} {columns : Array Column} {c : Column}

/-! ## Repairs -/

/-- The columns of a repair fit. -/
structure RepairFits (a : Automaton) (r : Repair) : Prop where
  columns : a.ColumnsFit r.columns
  column : a.ColumnFits r.column

/-- Something that is set aside has no label, so it fits everywhere. -/
lemma fits_push {x : Item} (hx : a.Fits x) {comments : List Tree} (hcomments : AreRemarks comments)
    (kind : Kind) (p : Point) (missing : Bool) (gap text : List Glyph) :
    a.Fits (x.push ⟨comments, .leaf kind none p missing gap text⟩) :=
  Fit.cons hx hcomments (.leaf _ _ _ _ _ _) fun _ hfield => nomatch hfield

/-- Something is set aside in all readings of a column. -/
lemma fits_pushAll {items : List Item} (h : ∀ x ∈ items, a.Fits x) {comments : List Tree}
    (hcomments : AreRemarks comments) (kind : Kind) (p : Point) (missing : Bool)
    (gap text : List Glyph) :
    ∀ x ∈ items.map fun x => x.push ⟨comments, .leaf kind none p missing gap text⟩, a.Fits x := by
  intro x hx
  obtain ⟨x, hmem, rfl⟩ := List.mem_map.1 hx
  exact fits_push (h x hmem) hcomments kind p missing gap text

lemma supply_fits (hnames : a.NamesWell) (hcolumns : a.ColumnsFit columns) (hc : a.ColumnFits c)
    {r : Repair} (hr : r ∈ a.supply columns c) : a.RepairFits r := by
  unfold supply at hr
  obtain ⟨text, -, hr⟩ := List.mem_filterMap.1 hr
  dsimp only at hr
  split at hr
  · cases hr
  · next n hn =>
    split at hr
    · have hkind : a.terminals[n]? = some (.fixed text) := by
        rw [← Array.getElem?_toList]
        obtain ⟨hlt, hget, -⟩ := List.findIdx?_eq_some_iff_getElem.1 hn
        rw [List.getElem?_eq_getElem hlt, beq_iff_eq.1 hget]
      obtain ⟨hbefore, hnext⟩ := advance_fits hnames columns.size hc
        (List.forall_mem_singleton.2 (isSound_supplied c hkind))
      have hpushed := hcolumns.push hbefore
      split at hr
      · next d rest hadvance =>
        rw [hadvance] at hnext
        split at hr
        · cases hr
          exact ⟨hpushed, (hnext d List.mem_cons_self).closed hnames hpushed⟩
        · cases hr
      · cases hr
    · cases hr

lemma setAside_fits (hcolumns : a.ColumnsFit columns) (hc : a.ColumnFits c) {r : Repair}
    (hr : r ∈ a.setAside columns c) : a.RepairFits r := by
  unfold setAside at hr
  obtain ⟨s, -, hr⟩ := List.mem_filterMap.1 hr
  dsimp only at hr
  split at hr
  · cases hr
    exact ⟨hcolumns, ⟨fits_pushAll (hcolumns.getD s.origin).items
      (Lead.areRemarks_ofText _ _).reverse _ _ _ _ _, hc.awaiting⟩⟩
  · cases hr

lemma skipToken_fits (hcolumns : a.ColumnsFit columns) (hc : a.ColumnFits c) :
    a.RepairFits (a.skipToken columns c) :=
  ⟨hcolumns, ⟨fits_pushAll hc.items (Lead.areRemarks_ofText c.point c.rest).reverse _ _ _ _ _,
    List.forall_mem_nil _⟩⟩

lemma mem_of_cheapest {rs : List Repair} {r : Repair} (h : cheapest rs = some r) : r ∈ rs := by
  induction rs generalizing r with
  | nil => cases h
  | cons s rs ih =>
    unfold cheapest at h
    split at h
    · cases h
      exact List.mem_cons_self
    · next t ht =>
      split at h
      · cases h
        exact List.mem_cons_of_mem _ (ih ht)
      · cases h
        exact List.mem_cons_self

/-- **A repair keeps what the chart knows about names.** -/
theorem repair_fits (hnames : a.NamesWell) (hcolumns : a.ColumnsFit columns) (hc : a.ColumnFits c)
    {r : Repair} (hr : a.repair columns c = some r) : a.RepairFits r := by
  unfold repair at hr
  split at hr
  · next s hs =>
    cases hr
    rcases List.mem_append.1 (mem_of_cheapest hs) with hs | hs
    · exact supply_fits hnames hcolumns hc hs
    · exact setAside_fits hcolumns hc hs
  · split at hr
    · cases hr
    · cases hr
      exact skipToken_fits hcolumns hc

/-! ## The whole source -/

/-- A source that is read up to its end. -/
lemma result_orderly (hc : a.ColumnFits c) {t : Tree} (ht : a.result? c = some t) :
    t.Orderly := by
  unfold result? at ht
  obtain ⟨x, hx, rfl⟩ := Option.map_eq_some_iff.1 ht
  have hfinal := List.find?_some hx
  have hfit := (hc.items x (List.mem_of_find?_eq_some hx)).reverse
  have hrule : a.constructAt x.place = (a.rule 0).construct := by
    dsimp only at hfinal
    rw [Bool.and_eq_true_iff, Bool.and_eq_true_iff, beq_iff_eq] at hfinal
    unfold constructAt
    rw [hfinal.1.1]
  rw [hrule] at hfit
  have hremark : ∀ {ts : List Tree}, AreRemarks ts → ∀ t ∈ ts, t.Orderly ∧
      ((a.rule 0).construct.holdsName = true → t.field = some .name → Glyph.OneLine t.text) := by
    intro ts hts t ht
    refine ⟨hts.orderly ht, ?_⟩
    intro _ hfield
    rw [hts.field ht] at hfield
    cases hfield
  apply Fit.branch
  intro t ht
  rcases List.mem_append.1 ht with ht | ht
  · rcases hparts : x.parts.reverse with _ | ⟨p, ps⟩ <;> rw [hparts] at hfit ht
    · cases ht
    · rcases List.mem_append.1 ht with ht | ht
      · exact hremark (hfit.comments p List.mem_cons_self) t ht
      · exact hfit.mem_joined ht
  · exact hremark (Lead.areRemarks_ofText _ _).reverse t ht

/-- What is read when a column is done: the next one that waits; or else what has been read, if that
is all; or else what a repair makes possible. -/
def goOn (a : Automaton) (source : List Glyph) (fuel : Nat) (columns : Array Column) (c : Column) :
    List Column → Tree
  | d :: waiting =>
    a.follow source fuel columns { d with items := a.closed columns d.items } waiting
  | [] =>
    match if atEnd c then a.result? c else none with
    | some tree => tree
    | none =>
      match a.repair columns c with
      | some r => a.follow source fuel r.columns r.column []
      | none => unreadable source

/-- Reading on goes on when no token fits, and else behind the tokens. -/
lemma follow_succ (source : List Glyph) (fuel : Nat) (columns : Array Column) (c : Column)
    (waiting : List Column) :
    a.follow source (fuel + 1) columns c waiting =
      match a.tokens (a.expected c.items) c.point c.rest with
      | [] => a.goOn source fuel columns c waiting
      | tokens =>
        let advanced := a.advance columns.size c tokens
        a.goOn source fuel (columns.push advanced.1) c
          (advanced.2.foldl (fun waiting d => enqueue d waiting) waiting) := by
  conv_lhs => unfold follow
  dsimp only
  rcases a.tokens (a.expected c.items) c.point c.rest with _ | ⟨t, ts⟩
  · rfl
  · rfl

lemma goOn_orderly (hnames : a.NamesWell) {source : List Glyph} {fuel : Nat}
    (ih : ∀ {columns : Array Column} {c : Column} {waiting : List Column}, a.ColumnsFit columns →
      a.ColumnFits c → (∀ d ∈ waiting, a.ColumnWhole d) →
      (a.follow source fuel columns c waiting).Orderly)
    {waiting : List Column} (hcolumns : a.ColumnsFit columns) (hc : a.ColumnFits c)
    (hwaiting : ∀ d ∈ waiting, a.ColumnWhole d) :
    (a.goOn source fuel columns c waiting).Orderly := by
  unfold goOn
  split
  · obtain ⟨hd, hrest⟩ := List.forall_mem_cons.1 hwaiting
    exact ih hcolumns (hd.closed hnames hcolumns) hrest
  · split
    · next t ht =>
      split at ht
      · exact result_orderly hc ht
      · cases ht
    · split
      · next r hr =>
        have hfits := repair_fits hnames hcolumns hc hr
        exact ih hfits.columns hfits.column (List.forall_mem_nil _)
      · exact .leaf _ _ _ _ _ _

/-- Reading on, with or without repairs. -/
lemma follow_orderly (hnames : a.NamesWell) (source : List Glyph) (fuel : Nat) :
    ∀ {columns : Array Column} {c : Column} {waiting : List Column}, a.ColumnsFit columns →
      a.ColumnFits c → (∀ d ∈ waiting, a.ColumnWhole d) →
      (a.follow source fuel columns c waiting).Orderly := by
  induction fuel with
  | zero =>
    intro columns c waiting _ _ _
    exact .leaf _ _ _ _ _ _
  | succ fuel ih =>
    intro columns c waiting hcolumns hc hwaiting
    have htokens : ∀ t ∈ a.tokens (a.expected c.items) c.point c.rest, t.IsSound a :=
      fun t ht => isSound_tokens ht
    rw [follow_succ]
    rcases hread : a.tokens (a.expected c.items) c.point c.rest with _ | ⟨t, ts⟩
    · exact goOn_orderly hnames ih hcolumns hc hwaiting
    · rw [hread] at htokens
      obtain ⟨hhere, hnext⟩ := advance_fits hnames columns.size hc htokens
      exact goOn_orderly hnames ih (hcolumns.push hhere) hc (whole_enqueueAll hnext hwaiting)

/-- **The tree of any text is in order.** -/
theorem read_orderly (hnames : a.NamesWell) (gs : List Glyph) : (a.read gs).Orderly := by
  have hstart : a.ColumnFits
      { offset := 0, point := Point.start, rest := gs, items := [⟨a.places.size - 1, 0, 0, []⟩] } :=
    ⟨List.forall_mem_singleton.2 (Fit.nil _), List.forall_mem_nil _⟩
  exact follow_orderly hnames gs _ (by simp [ColumnsFit]) hstart (List.forall_mem_nil _)

end Automaton

/-! ## What is declared -/

/-- The text of a name in a declaration that holds one. -/
lemma isOneLine_textOf_name {t : Tree} (h : t.Orderly) {c : Construct}
    (hkind : t.kind = .construct c) (hc : c.holdsName = true) :
    IsOneLine (textOf (t.child? .name)).toList := by
  rcases hchild : t.child? .name with _ | u
  · exact IsOneLine.nil
  · unfold Tree.child? at hchild
    have hlabel := List.find?_some hchild
    have hfield : u.field = some .name := beq_iff_eq.1 hlabel
    have hmem := List.mem_of_find?_eq_some hchild
    cases h with
    | leaf kind field start missing gap text => cases hmem
    | node below names knows => exact (names c hkind hc u hmem hfield).render

lemma Tree.Orderly.of_mem_children {t u : Tree} (h : t.Orderly) (hu : u ∈ t.children) :
    u.Orderly := by
  cases h with
  | leaf kind field start missing gap text => cases hu
  | node below names knows => exact below u hu

/-- A node that declares a type holds a name. -/
lemma holdsName_of_typeKind {t : Tree} {kind : TypeKind} (h : typeKind? t = some kind) :
    ∃ c, t.kind = .construct c ∧ c.holdsName = true := by
  unfold typeKind? at h
  split at h
  all_goals first
    | next hkind => exact ⟨_, hkind, rfl⟩
    | cases h

/-- A member that is a method holds a name. -/
lemma kind_of_memberKind {t : Tree} (h : memberKind t = .method) :
    t.kind = .construct .methodDeclaration := by
  unfold memberKind at h
  split at h
  · next hkind => exact hkind
  · cases h
  · cases h
  · cases h
  · split at h <;> cases h

lemma orderly_of_mem_memberNodes {t u : Tree} (h : t.Orderly) (hu : u ∈ memberNodes t) :
    u.Orderly := by
  unfold memberNodes at hu
  split at hu
  · cases hu
  · next body hbody =>
    have hbody : body.Orderly := h.of_mem_children (List.mem_of_find?_eq_some hbody)
    exact hbody.of_mem_children (List.mem_filter.1 hu).1

/-- **Names of types and of their methods stand on one line.** -/
theorem oneLine_of_mem_declarations {t : Tree} (h : t.Orderly) {d : Declaration}
    (hd : d ∈ declarations t) :
    IsOneLine d.name.toList ∧
      ∀ m ∈ d.members, m.kind = .method → IsOneLine m.name.toList := by
  unfold declarations at hd
  obtain ⟨u, hu, hd⟩ := List.mem_filterMap.1 hd
  have horderly : u.Orderly := h.of_mem_children (List.mem_filter.1 hu).1
  unfold declarationOf? at hd
  obtain ⟨kind, hkind, rfl⟩ := Option.map_eq_some_iff.1 hd
  obtain ⟨c, hconstruct, hc⟩ := holdsName_of_typeKind hkind
  refine ⟨isOneLine_textOf_name horderly hconstruct hc, ?_⟩
  intro m hm hmethod
  obtain ⟨v, hv, rfl⟩ := List.mem_map.1 hm
  exact isOneLine_textOf_name (orderly_of_mem_memberNodes horderly hv) (kind_of_memberKind hmethod)
    rfl

/-- The names that are read from any bytes. -/
theorem oneLine_of_mem_declarations_read (bytes : List UInt8) {d : Declaration}
    (hd : d ∈ declarations (read bytes)) :
    IsOneLine d.name.toList ∧
      ∀ m ∈ d.members, m.kind = .method → IsOneLine m.name.toList :=
  oneLine_of_mem_declarations (Automaton.read_orderly namesWell_grammar _) hd

end RoleAudit.Source
