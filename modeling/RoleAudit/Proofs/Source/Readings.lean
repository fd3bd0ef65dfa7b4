import RoleAudit.Proofs.Source.NameRules
import RoleAudit.Source.Reader

/-!
# What the chart knows about names

Readings grow by tokens and by what complete rules hand on. All the while, the parts of a declaration
that are under the label of a name stand on one line. This holds for readings that were repaired as
well: what is set aside has no label.

A rule that is a name holds exactly one part as long as nothing was set aside inside it, and only
readings of this kind are completed; so what such a rule hands on is one line again.

* `Tree.Orderly`: in a tree, names of declarations stand on one line, and nodes know of flaws.
* `Fit`, `Whole`: parts of a rule that was read with and without repairs.
* `Automaton.whole_closed`, `Automaton.advance_fits`: closing a column and reading on from it keep
  this.
-/

namespace RoleAudit.Source

open RoleAudit.Text

/-! ## Trees -/

/-- In the tree, what a declaration has for a name stands on one line, and nodes know of the flaws in
their parts. -/
inductive Tree.Orderly : Tree → Prop
  | leaf (kind : Kind) (field : Option Field) (start : Point) (missing : Bool)
      (gap text : List Glyph) : Orderly (.leaf kind field start missing gap text)
  | node {kind : Kind} {field : Option Field} {start : Point} {flawed : Bool} {ts : List Tree}
      (below : ∀ t ∈ ts, t.Orderly)
      (names : ∀ c, kind = .construct c → c.holdsName = true →
        ∀ t ∈ ts, t.field = some .name → Glyph.OneLine t.text)
      (knows : flawed = (kind == .error || ts.any Tree.flawed)) :
      Orderly (.node kind field start flawed ts)

namespace Tree

lemma withField_some_field (f : Field) (t : Tree) : (t.withField (some f)).field = some f := by
  cases t with
  | leaf kind field start missing gap text => rfl
  | node kind field start flawed ts => rfl

lemma withField_text (f : Option Field) (t : Tree) : (t.withField f).text = t.text := by
  cases f with
  | none => rfl
  | some f =>
    cases t with
    | leaf kind field start missing gap text => rfl
    | node kind field start flawed ts => rfl

lemma Orderly.withField {t : Tree} (h : t.Orderly) (f : Option Field) : (t.withField f).Orderly := by
  cases f with
  | none => exact h
  | some f =>
    cases h with
    | leaf kind field start missing gap text => exact .leaf _ _ _ _ _ _
    | node below names knows => exact .node below names knows

end Tree

lemma AreRemarks.orderly {ts : List Tree} (h : AreRemarks ts) {t : Tree} (ht : t ∈ ts) :
    t.Orderly := by
  obtain ⟨kind, p, missing, gap, text, rfl⟩ := h t ht
  exact .leaf _ _ _ _ _ _

lemma AreRemarks.field {ts : List Tree} (h : AreRemarks ts) {t : Tree} (ht : t ∈ ts) :
    t.field = none := by
  obtain ⟨kind, p, missing, gap, text, rfl⟩ := h t ht
  rfl

/-! ## Parts of a rule -/

/-- Parts of a construct: in order all the way down, and if the construct holds a name, what stands
under this label is on one line. -/
structure Fit (c : Construct) (parts : List Piece) : Prop where
  comments : ∀ p ∈ parts, AreRemarks p.comments
  trees : ∀ p ∈ parts, p.tree.Orderly
  names : c.holdsName = true → ∀ p ∈ parts, p.tree.field = some .name → Glyph.OneLine p.tree.text

/-- Parts with nothing set aside between them: a construct that is a name has exactly one part, which
stands on one line. -/
structure Whole (c : Construct) (parts : List Piece) : Prop extends Fit c parts where
  single : c.isName = true → ∃ p, parts = [p] ∧ Glyph.OneLine p.tree.text

namespace Fit

variable {c : Construct} {parts : List Piece}

lemma nil (c : Construct) : Fit c [] :=
  ⟨List.forall_mem_nil _, List.forall_mem_nil _, fun _ => List.forall_mem_nil _⟩

/-- One more part. -/
lemma cons (h : Fit c parts) {p : Piece} (hcomments : AreRemarks p.comments)
    (htree : p.tree.Orderly)
    (hname : c.holdsName = true → p.tree.field = some .name → Glyph.OneLine p.tree.text) :
    Fit c (p :: parts) where
  comments := List.forall_mem_cons.2 ⟨hcomments, h.comments⟩
  trees := List.forall_mem_cons.2 ⟨htree, h.trees⟩
  names hc := List.forall_mem_cons.2 ⟨hname hc, h.names hc⟩

lemma append {more : List Piece} (h : Fit c parts) (h' : Fit c more) : Fit c (parts ++ more) where
  comments := List.forall_mem_append.2 ⟨h.comments, h'.comments⟩
  trees := List.forall_mem_append.2 ⟨h.trees, h'.trees⟩
  names hc := List.forall_mem_append.2 ⟨h.names hc, h'.names hc⟩

lemma reverse (h : Fit c parts) : Fit c parts.reverse where
  comments p hp := h.comments p (List.mem_reverse.1 hp)
  trees p hp := h.trees p (List.mem_reverse.1 hp)
  names hc p hp := h.names hc p (List.mem_reverse.1 hp)

/-- The trees of parts in a row, with the comments between them. -/
lemma mem_joined (h : Fit c parts) {t : Tree} (ht : t ∈ Piece.joined parts) :
    t.Orderly ∧ (c.holdsName = true → t.field = some .name → Glyph.OneLine t.text) := by
  have hpart : ∀ p ∈ parts, p.tree.Orderly ∧
      (c.holdsName = true → p.tree.field = some .name → Glyph.OneLine p.tree.text) :=
    fun p hp => ⟨h.trees p hp, fun hc => h.names hc p hp⟩
  cases parts with
  | nil => cases ht
  | cons p ps =>
    rcases List.mem_cons.1 ht with rfl | ht
    · exact hpart p List.mem_cons_self
    · obtain ⟨q, hq, ht⟩ := List.mem_flatMap.1 ht
      have hq := List.mem_cons_of_mem p hq
      rcases List.mem_append.1 ht with ht | ht
      · refine ⟨(h.comments q hq).orderly ht, ?_⟩
        intro _ hfield
        rw [(h.comments q hq).field ht] at hfield
        cases hfield
      · rw [List.mem_singleton.1 ht]
        exact hpart q hq

/-- A node of the construct around its parts. -/
lemma branch {ts : List Tree} (h : ∀ t ∈ ts, t.Orderly ∧
    (c.holdsName = true → t.field = some .name → Glyph.OneLine t.text)) (start : Point) :
    (Tree.branch (.construct c) start ts).Orderly := by
  refine .node (fun t ht => (h t ht).1) ?_ rfl
  intro c' hc' hholds t ht
  cases hc'
  exact (h t ht).2 hholds

end Fit

/-! ## What a complete rule hands on -/

/-- A tree without a label. -/
def Unlabelled (parts : List Piece) : Prop := ∀ p ∈ parts, p.tree.field = none

lemma mem_wrap {c : Construct} {ps : List Piece} {q : Piece} (hq : q ∈ Piece.wrap c ps) :
    ∃ p rest, ps = p :: rest ∧
      q = ⟨p.comments, .branch (.construct c) p.tree.start (Piece.joined ps)⟩ := by
  cases ps with
  | nil => cases hq
  | cons p rest => exact ⟨p, rest, rfl, List.mem_singleton.1 hq⟩

/-- A construct that is shown has no label. -/
lemma unlabelled_wrap (c : Construct) (ps : List Piece) : Unlabelled (Piece.wrap c ps) := by
  intro q hq
  obtain ⟨p, rest, -, rfl⟩ := mem_wrap hq
  rfl

/-- A construct that is shown is in order, and without a label fits into any other. -/
lemma Fit.wrap {c : Construct} {ps : List Piece} (h : Fit c ps) (around : Construct) :
    Fit around (Piece.wrap c ps) where
  comments q hq := by
    obtain ⟨p, rest, rfl, rfl⟩ := mem_wrap hq
    exact h.comments p List.mem_cons_self
  trees q hq := by
    obtain ⟨p, rest, rfl, rfl⟩ := mem_wrap hq
    exact branch (fun t ht => h.mem_joined ht) _
  names _ q hq hfield := by
    rw [unlabelled_wrap c ps q hq] at hfield
    cases hfield

/-- A node around a single part has its text. -/
lemma Whole.wrap_single {c : Construct} {p : Piece} (hp : Glyph.OneLine p.tree.text) :
    ∃ q, Piece.wrap c [p] = [q] ∧ Glyph.OneLine q.tree.text := by
  refine ⟨_, rfl, ?_⟩
  have htext : (Tree.branch (.construct c) p.tree.start (Piece.joined [p])).text = p.tree.text := by
    unfold Piece.joined Tree.branch
    simp [Tree.text, Tree.textOfFirst, Tree.textOfRest]
  rw [htext]
  exact hp

namespace Automaton

variable {a : Automaton}

/-- **What a complete rule hands on**: a construct that is a name hands on one part on one line; what
is spliced fits where it fitted before. -/
lemma yielded_spec {rule : Nat} {parts : List Piece} (h : Whole (a.rule rule).construct parts) :
    (∀ p ∈ a.yielded rule parts, AreRemarks p.comments ∧ p.tree.Orderly) ∧
      ((a.rule rule).construct.isName = true →
        ∃ p, a.yielded rule parts = [p] ∧ Glyph.OneLine p.tree.text) ∧
      ((a.rule rule).visibility = .shown → Unlabelled (a.yielded rule parts)) ∧
      ((a.rule rule).construct.holdsName = true →
        ∀ p ∈ a.yielded rule parts, p.tree.field = some .name → Glyph.OneLine p.tree.text) := by
  have hspliced := h.toFit.reverse
  have hshown := hspliced.wrap (a.rule rule).construct
  have hsingle : (a.rule rule).construct.isName = true →
      ∃ p, parts.reverse = [p] ∧ Glyph.OneLine p.tree.text := by
    intro hname
    obtain ⟨p, rfl, hp⟩ := h.single hname
    exact ⟨p, rfl, hp⟩
  have hwrapped : (a.rule rule).construct.isName = true →
      ∃ p, Piece.wrap (a.rule rule).construct parts.reverse = [p] ∧
        Glyph.OneLine p.tree.text := by
    intro hname
    obtain ⟨p, hreverse, hp⟩ := hsingle hname
    rw [hreverse]
    exact Whole.wrap_single hp
  unfold yielded
  dsimp only
  rcases (a.rule rule).visibility with _ | _ | _
  · exact ⟨fun p hp => ⟨hshown.comments p hp, hshown.trees p hp⟩, hwrapped,
      fun _ => unlabelled_wrap _ _, hshown.names⟩
  · exact ⟨fun p hp => ⟨hspliced.comments p hp, hspliced.trees p hp⟩, hsingle,
      (fun hno => nomatch hno), hspliced.names⟩
  · dsimp only
    split
    · exact ⟨fun p hp => ⟨hspliced.comments p hp, hspliced.trees p hp⟩, hsingle,
        (fun hno => nomatch hno), hspliced.names⟩
    · exact ⟨fun p hp => ⟨hshown.comments p hp, hshown.trees p hp⟩, hwrapped,
        (fun hno => nomatch hno), hshown.names⟩

/-! ## Readings -/

/-- A reading, perhaps with something set aside. -/
def Fits (a : Automaton) (x : Item) : Prop := Fit (a.constructAt x.place) x.parts

/-- A reading with nothing set aside. -/
def IsWhole (a : Automaton) (x : Item) : Prop := Whole (a.constructAt x.place) x.parts

/-- Parts in front of a place: in front of the place of a name there are none. -/
structure Ready (a : Automaton) (place : Nat) (parts : List Piece) : Prop where
  fit : Fit (a.constructAt place) parts
  first : (a.constructAt place).isName = true → parts = []

/-- A reading that waits for the rule of its place. -/
structure Waits (a : Automaton) (w : Await) : Prop where
  symbol : (a.place w.item.place).symbol = .rule w.rule
  ready : a.Ready w.item.place w.item.parts

/-- A place behind a reading is ready for what comes next. -/
lemma ready_next (hnames : a.NamesWell) {x : Item} (hx : a.Fits x) {q : Nat}
    (hq : q ∈ (a.place x.place).next) : a.Ready q x.parts := by
  refine ⟨?_, ?_⟩
  · rw [hnames.constructAt_next hq]
    exact hx
  · intro hname
    rw [hnames.constructAt_next hq] at hname
    rw [hnames.next_name hname] at hq
    cases hq

lemma ready_nil (a : Automaton) (place : Nat) : a.Ready place [] := ⟨Fit.nil _, fun _ => rfl⟩

/-- A part under the label of its place. -/
def labelled (a : Automaton) (place : Nat) (p : Piece) : Piece :=
  { p with tree := p.tree.withField (a.place place).field }

/-- **A token brings a reading on**, with nothing set aside. -/
lemma whole_of_token (hnames : a.NamesWell) {place : Nat} {parts : List Piece}
    (h : a.Ready place parts) {t : Token} (ht : t.IsSound a)
    (hsymbol : (a.place place).symbol = .terminal t.terminal) :
    Whole (a.constructAt place) (a.labelled place t.piece :: parts) := by
  obtain ⟨kind, hkind, hname⟩ := ht.name
  have hline : a.AsksName place → Glyph.OneLine (a.labelled place t.piece).tree.text := by
    intro hasks
    unfold labelled
    rw [Tree.withField_text]
    exact hname (hnames.name_terminal hasks hsymbol hkind)
  refine ⟨h.fit.cons ht.comments ?_ ?_, ?_⟩
  · exact (ht.leaf.orderly (List.mem_singleton_self _)).withField _
  · intro hholds hfield
    apply hline
    right
    refine ⟨hholds, ?_⟩
    unfold labelled at hfield
    rcases hlabel : (a.place place).field with _ | f
    · rw [hlabel] at hfield
      have hnone := ht.leaf.field (List.mem_singleton_self _)
      exact absurd (hfield.symm.trans hnone) (by decide)
    · rw [hlabel, Tree.withField_some_field] at hfield
      exact hfield
  · intro hname
    rw [h.first hname]
    exact ⟨_, rfl, hline (.inl hname)⟩

/-- What a complete rule hands on fits into the reading that waited for it. -/
lemma fit_yielded (hnames : a.NamesWell) {w : Await} (hw : a.Waits w) {parts : List Piece}
    (h : Whole (a.rule w.rule).construct parts) :
    Fit (a.constructAt w.item.place)
      ((a.yielded w.rule parts).map (a.labelled w.item.place)) := by
  obtain ⟨hsound, hsingle, hshown, hheld⟩ := yielded_spec h
  generalize a.yielded w.rule parts = pieces at *
  refine ⟨?_, ?_, ?_⟩
  · intro q hq
    obtain ⟨p, hp, rfl⟩ := List.mem_map.1 hq
    exact (hsound p hp).1
  · intro q hq
    obtain ⟨p, hp, rfl⟩ := List.mem_map.1 hq
    exact (hsound p hp).2.withField _
  · intro hholds q hq hfield
    obtain ⟨p, hmem, rfl⟩ := List.mem_map.1 hq
    unfold labelled at hfield ⊢
    rw [Tree.withField_text]
    -- a name without a label comes from within; with one, it is asked for here
    rcases hlabel : (a.place w.item.place).field with _ | f
    · rw [hlabel] at hfield
      rcases hnames.others hholds hlabel hw.symbol with hvisible | hinner
      · exact absurd ((hshown hvisible p hmem).symm.trans hfield) (by decide)
      · exact hheld hinner p hmem hfield
    · rw [hlabel, Tree.withField_some_field] at hfield
      have hasks : a.AsksName w.item.place := .inr ⟨hholds, hlabel.trans hfield⟩
      obtain ⟨q, hpieces, hq⟩ := hsingle (hnames.name_rule hasks hw.symbol)
      rw [hpieces] at hmem
      rw [List.mem_singleton.1 hmem]
      exact hq

/-- **A complete rule brings a reading on** that waited for it, with nothing set aside. -/
lemma whole_of_rule (hnames : a.NamesWell) {w : Await} (hw : a.Waits w) {parts : List Piece}
    (h : Whole (a.rule w.rule).construct parts) :
    a.IsWhole (a.resume w.item (a.yielded w.rule parts)) := by
  refine ⟨(fit_yielded hnames hw h).reverse.append hw.ready.fit, ?_⟩
  intro hname
  obtain ⟨-, hsingle, -⟩ := yielded_spec h
  obtain ⟨p, hpieces, hp⟩ := hsingle (hnames.name_rule (.inl hname) hw.symbol)
  refine ⟨a.labelled w.item.place p, ?_, ?_⟩
  · show ((a.yielded w.rule parts).map (a.labelled w.item.place)).reverse ++ w.item.parts = _
    rw [hpieces, hw.ready.first hname]
    rfl
  · unfold labelled
    rw [Tree.withField_text]
    exact hp

/-! ## Columns -/

/-- A column that can be read on from: its readings fit, and so does what waits in it. -/
structure ColumnFits (a : Automaton) (c : Column) : Prop where
  items : ∀ x ∈ c.items, a.Fits x
  awaiting : ∀ w ∈ c.awaiting, a.Waits w

/-- All of several columns fit. -/
def ColumnsFit (a : Automaton) (columns : Array Column) : Prop := ∀ c ∈ columns, a.ColumnFits c

lemma columnFits_default (a : Automaton) : a.ColumnFits default :=
  ⟨List.forall_mem_nil _, List.forall_mem_nil _⟩

lemma ColumnsFit.getD {columns : Array Column} (h : a.ColumnsFit columns) (n : Nat) :
    a.ColumnFits (columns.getD n default) := by
  rw [Array.getD_eq_getD_getElem?]
  rcases hc : columns[n]? with _ | c
  · exact columnFits_default a
  · exact h c (Array.mem_of_getElem? hc)

lemma ColumnsFit.push {columns : Array Column} (h : a.ColumnsFit columns) {c : Column}
    (hc : a.ColumnFits c) : a.ColumnsFit (columns.push c) := by
  intro d hd
  rcases Array.mem_push.1 hd with hd | rfl
  · exact h d hd
  · exact hc

/-- All of several readings have nothing set aside. -/
def AreWhole (a : Automaton) (items : List Item) : Prop := ∀ x ∈ items, a.IsWhole x

lemma AreWhole.fits {items : List Item} (h : a.AreWhole items) : ∀ x ∈ items, a.Fits x :=
  fun x hx => (h x hx).toFit

lemma whole_completions (hnames : a.NamesWell) {columns : Array Column} (hcolumns : a.ColumnsFit columns)
    {x : Item} (hx : a.IsWhole x) : a.AreWhole (a.completions columns x) := by
  intro y hy
  unfold completions at hy
  dsimp only at hy
  split at hy
  · split at hy
    · cases hy
    · obtain ⟨w, hw, rfl⟩ := List.mem_map.1 hy
      obtain ⟨hmem, hrule⟩ := List.mem_filter.1 hw
      rw [← beq_iff_eq.1 hrule]
      apply whole_of_rule hnames ((hcolumns.getD x.origin).awaiting w hmem)
      rw [beq_iff_eq.1 hrule]
      exact hx
  · cases hy

lemma whole_close (hnames : a.NamesWell) {columns : Array Column} (hcolumns : a.ColumnsFit columns)
    (fuel : Nat) : ∀ {agenda found : List Item}, a.AreWhole agenda → a.AreWhole found →
      a.AreWhole (a.close columns fuel agenda found) := by
  induction fuel with
  | zero =>
    intro agenda found _ hfound x hx
    unfold close at hx
    exact hfound x (List.mem_reverse.1 hx)
  | succ fuel ih =>
    intro agenda found hagenda hfound
    cases agenda with
    | nil =>
      intro x hx
      unfold close at hx
      exact hfound x (List.mem_reverse.1 hx)
    | cons x agenda =>
      obtain ⟨hx, hagenda⟩ := List.forall_mem_cons.1 hagenda
      unfold close
      split
      · exact ih hagenda hfound
      · exact ih (List.forall_mem_append.2 ⟨whole_completions hnames hcolumns hx, hagenda⟩)
          (List.forall_mem_cons.2 ⟨hx, hfound⟩)

/-- **Closing a column keeps its readings whole.** -/
lemma whole_closed (hnames : a.NamesWell) {columns : Array Column} (hcolumns : a.ColumnsFit columns)
    {items : List Item} (h : a.AreWhole items) : a.AreWhole (a.closed columns items) :=
  whole_close hnames hcolumns _ h (List.forall_mem_nil _)

/-! ## Reading on -/

/-- Everything that waits in a forecast waits rightly. -/
def ForecastFits (a : Automaton) (f : Forecast) : Prop := ∀ w ∈ f.awaiting, a.Waits w

lemma foresee_fits {terminals : Nat} {x : Item} {next : List Nat}
    (hnext : ∀ q ∈ next, a.Ready q x.parts) {f : Forecast} (hf : a.ForecastFits f) :
    a.ForecastFits (a.foresee terminals f x next) := by
  unfold foresee
  induction next generalizing f with
  | nil => exact hf
  | cons q next ih =>
    obtain ⟨hq, hnext⟩ := List.forall_mem_cons.1 hnext
    rw [List.foldl_cons]
    apply ih hnext
    rcases hsymbol : (a.place q).symbol with t | r
    · exact hf
    · dsimp only
      split
      · exact hf
      · exact List.forall_mem_cons.2 ⟨⟨hsymbol, hq⟩, hf⟩

lemma deepen_fits (terminals column fuel : Nat) :
    ∀ (taken : List Nat) {f : Forecast}, a.ForecastFits f →
      a.ForecastFits (a.deepen terminals column fuel taken f) := by
  induction fuel with
  | zero =>
    intro taken f hf
    exact hf
  | succ fuel ih =>
    intro taken f hf
    unfold deepen
    split
    · exact hf
    · apply ih
      exact foresee_fits (fun q _ => ready_nil a q) hf

lemma forecast_fits (hnames : a.NamesWell) (terminals column : Nat) {items : List Item}
    (hitems : ∀ x ∈ items, a.Fits x) : a.ForecastFits (a.forecast terminals column items) := by
  have hdirect : ∀ {f : Forecast}, a.ForecastFits f → a.ForecastFits
      (items.foldl (fun f x => a.foresee terminals f x (a.place x.place).next) f) := by
    induction items with
    | nil =>
      intro f hf
      exact hf
    | cons x items ih =>
      intro f hf
      obtain ⟨hx, hitems⟩ := List.forall_mem_cons.1 hitems
      rw [List.foldl_cons]
      apply ih hitems
      exact foresee_fits (fun q hq => ready_next hnames hx hq) hf
  exact deepen_fits terminals column _ [] (hdirect (List.forall_mem_nil _))

/-- A token that stands where it may is the terminal that stands there. -/
lemma symbol_of_reads {q terminal : Nat}
    (h : (match (a.place q).symbol with
      | .terminal n => n == terminal
      | .rule _ => false) = true) : (a.place q).symbol = .terminal terminal := by
  split at h
  · next n hn => rw [hn, beq_iff_eq.1 h]
  · cases h

/-- **Reading a token leaves nothing set aside.** -/
lemma whole_shift (hnames : a.NamesWell) {items : List Item} (hitems : ∀ x ∈ items, a.Fits x)
    {t : Token} (ht : t.IsSound a) (column : Nat) (rules : List Nat) :
    a.AreWhole (a.shift column items rules t.terminal t.piece) := by
  intro y hy
  unfold shift at hy
  rcases List.mem_append.1 hy with hy | hy
  · obtain ⟨x, hx, hy⟩ := List.mem_flatMap.1 hy
    obtain ⟨q, hq, rfl⟩ := List.mem_map.1 hy
    obtain ⟨hq, hsymbol⟩ := List.mem_filter.1 hq
    exact whole_of_token hnames (ready_next hnames (hitems x hx) hq) ht (symbol_of_reads hsymbol)
  · obtain ⟨r, -, hy⟩ := List.mem_flatMap.1 hy
    obtain ⟨q, hq, rfl⟩ := List.mem_map.1 hy
    obtain ⟨-, hsymbol⟩ := List.mem_filter.1 hq
    exact whole_of_token hnames (ready_nil a q) ht (symbol_of_reads hsymbol)

lemma mem_insert {x y : Item} {items : List Item} (h : y ∈ x.insert items) :
    y = x ∨ y ∈ items := by
  induction items with
  | nil => exact .inl (List.mem_singleton.1 h)
  | cons z items ih =>
    unfold Item.insert at h
    split at h
    · split at h
      · rcases List.mem_cons.1 h with h | h
        · exact .inl h
        · exact .inr (List.mem_cons_of_mem _ h)
      · exact .inr h
    · rcases List.mem_cons.1 h with h | h
      · exact .inr (h ▸ List.mem_cons_self)
      · rcases ih h with h | h
        · exact .inl h
        · exact .inr (List.mem_cons_of_mem _ h)

/-- Adding readings to others. -/
lemma whole_insert {more items : List Item} (hmore : a.AreWhole more) (hitems : a.AreWhole items) :
    a.AreWhole (more.foldl (fun items x => x.insert items) items) := by
  induction more generalizing items with
  | nil => exact hitems
  | cons x more ih =>
    obtain ⟨hx, hmore⟩ := List.forall_mem_cons.1 hmore
    rw [List.foldl_cons]
    apply ih hmore
    intro y hy
    rcases mem_insert hy with rfl | hy
    · exact hx
    · exact hitems y hy

/-- A column with nothing set aside in its readings. -/
structure ColumnWhole (a : Automaton) (c : Column) : Prop where
  items : a.AreWhole c.items
  awaiting : ∀ w ∈ c.awaiting, a.Waits w

/-- When the readings of a column are closed, it can be read on from. -/
lemma ColumnWhole.closed (hnames : a.NamesWell) {columns : Array Column}
    (hcolumns : a.ColumnsFit columns) {c : Column} (h : a.ColumnWhole c) :
    a.ColumnFits { c with items := a.closed columns c.items } :=
  ⟨(whole_closed hnames hcolumns h.items).fits, h.awaiting⟩

/-- **Reading on from a column** keeps it fit, and leads to columns with nothing set aside. -/
lemma advance_fits (hnames : a.NamesWell) (number : Nat) {c : Column} (hc : a.ColumnFits c)
    {tokens : List Token} (htokens : ∀ t ∈ tokens, t.IsSound a) :
    a.ColumnFits (a.advance number c tokens).1 ∧
      ∀ d ∈ (a.advance number c tokens).2, a.ColumnWhole d := by
  unfold advance
  dsimp only
  refine ⟨⟨hc.items, ?_⟩, ?_⟩
  · intro w hw
    exact forecast_fits hnames _ number hc.items w (List.mem_reverse.1 hw)
  · intro d hd
    obtain ⟨t, ht, rfl⟩ := List.mem_map.1 hd
    have hshifted := whole_shift hnames hc.items (htokens t ht)
    exact ⟨whole_insert (hshifted _ _) (List.forall_mem_nil _), List.forall_mem_nil _⟩

/-- Columns that are put among others. -/
lemma whole_enqueue {c : Column} (hc : a.ColumnWhole c) {waiting : List Column}
    (h : ∀ d ∈ waiting, a.ColumnWhole d) : ∀ d ∈ enqueue c waiting, a.ColumnWhole d := by
  induction waiting with
  | nil =>
    intro d hd
    rw [List.mem_singleton.1 hd]
    exact hc
  | cons e waiting ih =>
    obtain ⟨he, hwaiting⟩ := List.forall_mem_cons.1 h
    unfold enqueue
    split
    · exact List.forall_mem_cons.2 ⟨hc, h⟩
    · split
      · have hboth : a.ColumnWhole
            { e with items := c.items.foldl (fun items x => x.insert items) e.items } :=
          ⟨whole_insert hc.items he.items, he.awaiting⟩
        exact List.forall_mem_cons.2 ⟨hboth, hwaiting⟩
      · exact List.forall_mem_cons.2 ⟨he, ih hwaiting⟩

lemma whole_enqueueAll {more waiting : List Column} (hmore : ∀ d ∈ more, a.ColumnWhole d)
    (h : ∀ d ∈ waiting, a.ColumnWhole d) :
    ∀ d ∈ more.foldl (fun waiting d => enqueue d waiting) waiting, a.ColumnWhole d := by
  induction more generalizing waiting with
  | nil => exact h
  | cons d more ih =>
    obtain ⟨hd, hmore⟩ := List.forall_mem_cons.1 hmore
    rw [List.foldl_cons]
    exact ih hmore (whole_enqueue hd h)

end Automaton

end RoleAudit.Source
