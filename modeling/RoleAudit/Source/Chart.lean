import RoleAudit.Source.Token

/-!
# The chart

All readings of a source at once, column by column. A column belongs to a position between two
tokens and holds the rules that have been read up to there, each with the column where it began and
the parts found so far. A rule that is complete hands its tree to those that waited for it in the
column where it began.

No construct is empty, so a rule is complete only in a later column than the one where it began, and
what waits in a column is known before anything that began there is complete.

Readings that agree in place and beginning count as one. When a token leads to the same place from
two others, the one that is listed earlier in its rule is kept.
-/

namespace RoleAudit.Source

open RoleAudit.Text

/-- A rule that has been read in part. -/
structure Item where
  /-- The last place that was read. -/
  place : Nat
  /-- The column where the rule began. -/
  origin : Nat
  /-- The place before the last. -/
  via : Nat
  /-- The parts, last first. -/
  parts : List Piece
  deriving Inhabited

/-- A rule that waits for another to be complete. -/
structure Await where
  /-- The rule that is awaited. -/
  rule : Nat
  /-- The item once the rule is complete, but for the parts that it brings. -/
  item : Item

/-- A position between two tokens and all readings up to there. -/
structure Column where
  /-- How many glyphs come before. -/
  offset : Nat
  point : Point
  rest : List Glyph
  items : List Item
  /-- What waits for rules that begin here. -/
  awaiting : List Await := []
  deriving Inhabited

namespace Item

/-- Two readings that count as one. -/
def agrees (x y : Item) : Bool := x.place == y.place && x.origin == y.origin

/-- Adds a reading reached by a token. -/
def insert (x : Item) : List Item → List Item
  | [] => [x]
  | y :: ys =>
    if x.agrees y then (if x.via < y.via then x :: ys else y :: ys) else y :: insert x ys

/-- The item with one more part. -/
def push (x : Item) (p : Piece) : Item := { x with parts := p :: x.parts }

end Item

/-! ## Pieces -/

/-- Pieces in a row as the parts of one node: the comments in front of the first stay outside. -/
def Piece.joined : List Piece → List Tree
  | [] => []
  | p :: ps => p.tree :: ps.flatMap fun q => q.comments ++ [q.tree]

/-- A node around pieces. -/
def Piece.wrap (c : Construct) (ps : List Piece) : List Piece :=
  match ps with
  | [] => []
  | p :: _ => [⟨p.comments, .branch (.construct c) p.tree.start (Piece.joined ps)⟩]

namespace Automaton

/-- What a complete rule hands on. -/
def yielded (a : Automaton) (rule : Nat) (parts : List Piece) : List Piece :=
  let entry := a.rule rule
  let ps := parts.reverse
  match entry.visibility with
  | .shown => Piece.wrap entry.construct ps
  | .spliced => ps
  | .compound => if ps.length < 2 then ps else Piece.wrap entry.construct ps

/-- Takes in what a complete rule hands on. -/
def resume (a : Automaton) (waiting : Item) (pieces : List Piece) : Item :=
  let field := (a.place waiting.place).field
  let named := pieces.map fun p => { p with tree := p.tree.withField field }
  { waiting with parts := named.reverse ++ waiting.parts }

/-- What becomes of an item whose rule may be complete. -/
def completions (a : Automaton) (columns : Array Column) (x : Item) : List Item :=
  let place := a.place x.place
  if place.final then
    match (columns.getD x.origin default).awaiting.filter fun w => w.rule == place.rule with
    | [] => []
    | waiting =>
      let pieces := a.yielded place.rule x.parts
      waiting.map fun w => a.resume w.item pieces
  else []

/-- All readings that follow from some without reading further. -/
def close (a : Automaton) (columns : Array Column) : Nat → List Item → List Item → List Item
  | 0, _, found => found.reverse
  | _, [], found => found.reverse
  | fuel + 1, x :: agenda, found =>
    if found.any x.agrees then close a columns fuel agenda found
    else close a columns fuel (a.completions columns x ++ agenda) (x :: found)

/-- A bound on the readings of a column: one for each place and origin; each is offered to at most
as many waiting rules. -/
def readings (a : Automaton) (columns : Array Column) : Nat :=
  let n := a.places.size * (columns.size + 1) + 1
  n * n

/-- The readings of a column that starts with some. -/
def closed (a : Automaton) (columns : Array Column) (items : List Item) : List Item :=
  a.close columns (a.readings columns) items []

/-- The terminals that may come next. -/
def expected (a : Automaton) (items : List Item) : Nat :=
  items.foldl (fun acc x => acc ||| a.following.getD x.place 0) 0

/-! ## Reading one token -/

/-- The rules that begin in a column and what waits for them. -/
structure Forecast where
  /-- The rules that begin, last found first. -/
  rules : List Nat := []
  awaiting : List Await := []

/-- Takes in the places that may follow an item: for those that stand for a rule which may start
with one of the terminals, the item waits for that rule. -/
def foresee (a : Automaton) (terminals : Nat) (f : Forecast) (x : Item) (next : List Nat) :
    Forecast :=
  next.foldl (fun f p =>
    match (a.place p).symbol with
    | .terminal _ => f
    | .rule r =>
      if a.leading.getD r 0 &&& terminals == 0 then f
      else
        { rules := if f.rules.contains r then f.rules else r :: f.rules
          awaiting := ⟨r, { x with place := p, via := x.place }⟩ :: f.awaiting }) f

/-- Foresees the rules that begin inside the rules that begin. Each round takes in a rule that has
not been taken in before. -/
def deepen (a : Automaton) (terminals column : Nat) : Nat → List Nat → Forecast → Forecast
  | 0, _, f => f
  | fuel + 1, taken, f =>
    match f.rules.reverse.find? fun r => !taken.contains r with
    | none => f
    | some r =>
      deepen a terminals column fuel (r :: taken)
        (a.foresee terminals f ⟨a.places.size, column, a.places.size, []⟩ (a.rule r).starts)

/-- Everything that begins in a column with one of the terminals. -/
def forecast (a : Automaton) (terminals column : Nat) (items : List Item) : Forecast :=
  let direct := items.foldl (fun f x => a.foresee terminals f x (a.place x.place).next) {}
  a.deepen terminals column a.rules.size [] direct

/-- The readings after a terminal. -/
def shift (a : Automaton) (column : Nat) (items : List Item) (rules : List Nat) (terminal : Nat)
    (piece : Piece) : List Item :=
  let isTerminal (p : Nat) : Bool :=
    match (a.place p).symbol with
    | .terminal n => n == terminal
    | .rule _ => false
  let step (x : Item) (next : List Nat) : List Item :=
    (next.filter isTerminal).map fun p =>
      let named := { piece with tree := piece.tree.withField (a.place p).field }
      { place := p, origin := x.origin, via := x.place, parts := named :: x.parts }
  (items.flatMap fun x => step x (a.place x.place).next) ++
    rules.reverse.flatMap fun r => step ⟨a.places.size, column, a.places.size, []⟩ (a.rule r).starts

/-- Reads tokens behind a column that will have the given number: the column with what waits in it,
and the columns that the tokens lead to, before their readings are closed. -/
def advance (a : Automaton) (number : Nat) (column : Column) (tokens : List Token) :
    Column × List Column :=
  let terminals := tokens.foldl (fun acc t => acc ||| bit t.terminal) 0
  let f := a.forecast terminals number column.items
  let lead (t : Token) : Column :=
    { offset := column.offset + t.length, point := t.point, rest := t.rest
      items := (a.shift number column.items f.rules t.terminal t.piece).foldl
        (fun items x => x.insert items) [] }
  ({ column with awaiting := f.awaiting.reverse }, tokens.map lead)

/-- Puts a column among others, in the order of the source; two at the same position become one. -/
def enqueue (c : Column) : List Column → List Column
  | [] => [c]
  | d :: ds =>
    if c.offset < d.offset then c :: d :: ds
    else if c.offset == d.offset then
      { d with items := c.items.foldl (fun items x => x.insert items) d.items } :: ds
    else d :: enqueue c ds

end Automaton

end RoleAudit.Source
