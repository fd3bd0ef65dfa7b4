import RoleAudit.Source.Grammar.Rules

/-!
# The grammar, place by place

A rule is read as an automaton. Each token and each construct in its phrase is a place; the
automaton says where the phrase may start, which places may follow a place, and where it may end.
For every rule and every place the terminals that may come next are known in advance, as sets of
bits.

Places are numbered through all rules, rules and terminals in the order of the grammar. One more
place comes last: the one before everything else, where the first rule is about to start.
-/

namespace RoleAudit.Source

/-- What is read at a place. -/
inductive Symbol where
  /-- A terminal, by number. -/
  | terminal (number : Nat)
  /-- A rule, by number. -/
  | rule (number : Nat)
  deriving Repr, Inhabited

/-! ## Where the parts of a phrase stand -/

/-- A phrase as places. -/
structure Layout where
  /-- The phrase may be empty. -/
  empty : Bool
  /-- Places where it may start. -/
  starts : List Nat
  /-- Places where it may end. -/
  ends : List Nat
  /-- The parts at the places, in order, each a terminal or a construct, with the name it has. -/
  parts : List (Phrase × Option Field)
  /-- Pairs of places and places that may follow them. -/
  links : List (List Nat × List Nat)

namespace Layout

/-- No places at all. -/
def nothing : Layout := ⟨true, [], [], [], []⟩

/-- A single place. -/
def single (place : Nat) (part : Phrase) (field : Option Field) : Layout :=
  ⟨false, [place], [place], [(part, field)], []⟩

/-- One phrase after the other. -/
def append (a b : Layout) : Layout where
  empty := a.empty && b.empty
  starts := if a.empty then a.starts ++ b.starts else a.starts
  ends := if b.empty then a.ends ++ b.ends else b.ends
  parts := a.parts ++ b.parts
  links := a.links ++ b.links ++ [(a.ends, b.starts)]

/-- One phrase or the other. -/
def either (a b : Layout) : Layout where
  empty := a.empty || b.empty
  starts := a.starts ++ b.starts
  ends := a.ends ++ b.ends
  parts := a.parts ++ b.parts
  links := a.links ++ b.links

/-- A phrase that may follow itself. -/
def repeated (a : Layout) : Layout := { a with links := a.links ++ [(a.ends, a.starts)] }

/-- A phrase that may be absent. -/
def orNothing (a : Layout) : Layout := { a with empty := true }

end Layout

mutual

/-- The places of a phrase, the first of them numbered `place`. -/
def Phrase.layout (place : Nat) (field : Option Field) : Phrase → Layout
  | .token t => .single place (.token t) field
  | .part c => .single place (.part c) field
  | .labelled f p => p.layout place (.some f)
  | .seq ps => Phrase.layoutSeq place field ps
  | .choice ps => Phrase.layoutChoice place field ps
  | .opt p => (p.layout place field).orNothing
  | .many p => (p.layout place field).repeated.orNothing
  | .some p => (p.layout place field).repeated

/-- The places of phrases one after the other. -/
def Phrase.layoutSeq (place : Nat) (field : Option Field) : List Phrase → Layout
  | [] => .nothing
  | p :: ps =>
    let a := p.layout place field
    a.append (Phrase.layoutSeq (place + a.parts.length) field ps)

/-- The places of phrases that stand for each other. -/
def Phrase.layoutChoice (place : Nat) (field : Option Field) : List Phrase → Layout
  | [] => { Layout.nothing with empty := false }
  | p :: ps =>
    let a := p.layout place field
    a.either (Phrase.layoutChoice (place + a.parts.length) field ps)

end

mutual

/-- The terminals of a phrase. -/
def Phrase.terminals : Phrase → List Terminal
  | .token t => [t]
  | .part _ => []
  | .labelled _ p => p.terminals
  | .seq ps => Phrase.terminalsOfAll ps
  | .choice ps => Phrase.terminalsOfAll ps
  | .opt p => p.terminals
  | .many p => p.terminals
  | .some p => p.terminals

/-- The terminals of several phrases. -/
def Phrase.terminalsOfAll : List Phrase → List Terminal
  | [] => []
  | p :: ps => p.terminals ++ Phrase.terminalsOfAll ps

end

/-! ## The automaton -/

/-- A place in a rule. -/
structure Place where
  /-- The rule that it belongs to. -/
  rule : Nat
  symbol : Symbol
  field : Option Field
  /-- The rule may end here. -/
  final : Bool
  /-- The places that may follow. -/
  next : List Nat
  deriving Inhabited

/-- A rule and where it starts. -/
structure Entry where
  construct : Construct
  visibility : Visibility
  starts : List Nat
  deriving Inhabited

/-- A grammar ready to be followed. -/
structure Automaton where
  terminals : Array Terminal
  rules : Array Entry
  places : Array Place
  /-- For each rule, the terminals that it may start with. -/
  leading : Array Nat
  /-- For each place, the terminals that may come after it in its rule. -/
  following : Array Nat

namespace Automaton

/-- A set with one member. -/
def bit (n : Nat) : Nat := 1 <<< n

/-- The number of a phrase's terminal or rule. -/
def symbolOf (terminals : List Terminal) (constructs : List Construct) : Phrase → Symbol
  | .token t => .terminal (terminals.idxOf t)
  | .part c => .rule (constructs.idxOf c)
  | _ => .terminal terminals.length

/-- The places of one rule after those of the rules before it. -/
def addRule (terminals : List Terminal) (constructs : List Construct)
    (acc : Array Entry × Array Place) (r : Rule) : Array Entry × Array Place :=
  let base := acc.2.size
  let layout := r.phrase.layout base none
  let place (part : (Phrase × Option Field) × Nat) : Place :=
    let number := base + part.2
    { rule := acc.1.size
      symbol := symbolOf terminals constructs part.1.1
      field := part.1.2
      final := layout.ends.contains number
      next := ((layout.links.filter fun l => l.1.contains number).flatMap (·.2)).eraseDups }
  (acc.1.push ⟨r.construct, r.visibility, layout.starts⟩,
    acc.2 ++ (layout.parts.zipIdx.map place))

/-- The terminals that some symbol may start with, given those of the rules. -/
def leads (leading : Array Nat) : Symbol → Nat
  | .terminal n => bit n
  | .rule r => leading.getD r 0

/-- The terminals that some places may start with. -/
def leadsOf (places : Array Place) (leading : Array Nat) (ps : List Nat) : Nat :=
  ps.foldl (fun acc p => acc ||| leads leading (places.getD p default).symbol) 0

/-- The terminals that the rules may start with, after so many rounds of looking one rule
further. -/
def leadingAfter (rules : Array Entry) (places : Array Place) : Nat → Array Nat
  | 0 => rules.map fun _ => 0
  | n + 1 =>
    let known := leadingAfter rules places n
    rules.map fun r => leadsOf places known r.starts

/-- The place in front of the first rule, which may be empty. -/
def outset (terminals : List Terminal) (rules : Array Entry) : Place where
  rule := 0
  symbol := .terminal terminals.length
  field := none
  final := true
  next := (rules.getD 0 default).starts

/-- The automaton of a list of rules. A rule's first terminal is found through a chain of rules
that repeats none, so a round for each rule is enough. -/
def ofRules (rules : List Rule) : Automaton :=
  let terminals := (rules.flatMap fun r => r.phrase.terminals).eraseDups
  let (entries, places) :=
    rules.foldl (addRule terminals (rules.map Rule.construct)) (#[], #[])
  let places := places.push (outset terminals entries)
  let leading := leadingAfter entries places entries.size
  { terminals := terminals.toArray, rules := entries, places, leading
    following := places.map fun p => leadsOf places leading p.next }

/-- A place of the grammar. -/
def place (a : Automaton) (n : Nat) : Place := a.places.getD n default

/-- A rule of the grammar. -/
def rule (a : Automaton) (n : Nat) : Entry := a.rules.getD n default

end Automaton

/-- The grammar of Java sources. -/
def grammar : Automaton := .ofRules Grammar.rules

end RoleAudit.Source
