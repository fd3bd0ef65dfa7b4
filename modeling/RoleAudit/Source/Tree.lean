import RoleAudit.Source.Terminal
import RoleAudit.Source.Construct

/-!
# Syntax trees

The tree of a source: constructs with their parts in order, tokens with the text they were read
from, and comments wherever they stood. Every token keeps the white space in front of it, so a tree
determines the text of each of its nodes.

A source that does not follow the grammar has a tree all the same. It contains flaws: tokens that
are missing, and stretches of text that fit nowhere. A node knows whether there is a flaw at or
below it.

* `Tree.text`: the text of a node, from its first token to its last.
* `Tree.child?`, `Tree.parts`: the parts of a node by name, and those that are not mere signs.
* `Tree.branch`: a construct with its parts, which knows whether there is a flaw below it.
-/

namespace RoleAudit.Source

open RoleAudit.Text

/-- A place in a source: line and column from 1, columns in bytes. -/
structure Point where
  line : Nat
  column : Nat
  deriving Repr, DecidableEq, Inhabited

namespace Point

/-- Where a source starts. -/
def start : Point := ⟨1, 1⟩

/-- The place after one glyph. -/
def after (p : Point) (g : Glyph) : Point :=
  if g.isChar '\n' then ⟨p.line + 1, 1⟩ else ⟨p.line, p.column + g.size⟩

/-- The place after a text. -/
def afterAll (p : Point) (gs : List Glyph) : Point := gs.foldl after p

end Point

/-- What a node is. -/
inductive Kind where
  | construct (c : Construct)
  | token (t : Terminal)
  | comment
  /-- Text that fits nowhere. -/
  | error
  deriving Repr, DecidableEq, Inhabited

/-- A syntax tree. -/
inductive Tree where
  /-- A single stretch of text. -/
  | leaf (kind : Kind) (field : Option Field) (start : Point) (missing : Bool)
    (gap text : List Glyph)
  /-- Parts in order; `flawed` says that there is a flaw at the node or below it. -/
  | node (kind : Kind) (field : Option Field) (start : Point) (flawed : Bool)
    (children : List Tree)
  deriving Repr, Inhabited

namespace Tree

/-- What the node is. -/
def kind : Tree → Kind
  | leaf k .. => k
  | node k .. => k

/-- The name by which the node around it asks for it. -/
def field : Tree → Option Field
  | leaf _ f .. => f
  | node _ f .. => f

/-- Where the node starts. -/
def start : Tree → Point
  | leaf _ _ p .. => p
  | node _ _ p .. => p

/-- The parts of the node. -/
def children : Tree → List Tree
  | leaf .. => []
  | node _ _ _ _ ts => ts

/-- The node is a token that the source lacks. -/
def missing : Tree → Bool
  | leaf _ _ _ m .. => m
  | node .. => false

/-- The node is itself a flaw: text that fits nowhere, or a missing token. -/
def isFlaw (t : Tree) : Bool := t.kind == .error || t.missing

/-- There is a flaw at the node or below it, as far as the node knows. -/
def flawed : Tree → Bool
  | leaf k _ _ m .. => k == .error || m
  | node _ _ _ f _ => f

/-- Keywords, separators and operators have no name of their own; all other nodes have. -/
def isNamed (t : Tree) : Bool :=
  match t.kind with
  | .token (.fixed _) => false
  | _ => true

/-- The node is a comment. -/
def isComment (t : Tree) : Bool := t.kind == .comment

/-- The first part with a name. -/
def child? (t : Tree) (f : Field) : Option Tree := t.children.find? fun c => c.field == some f

/-- The parts that are neither comments nor mere words and signs. -/
def parts (t : Tree) : List Tree := t.children.filter fun c => c.isNamed && !c.isComment

/-- The node under a name. -/
def withField (f : Option Field) (t : Tree) : Tree :=
  match f, t with
  | none, t => t
  | some f, leaf k _ p m gap text => leaf k (some f) p m gap text
  | some f, node k _ p flaw ts => node k (some f) p flaw ts

/-! ## Text -/

mutual

/-- The white space in front of a node. -/
def gap : Tree → List Glyph
  | leaf _ _ _ _ gap _ => gap
  | node _ _ _ _ ts => gapOfFirst ts

/-- The white space in front of the first of several nodes. -/
def gapOfFirst : List Tree → List Glyph
  | [] => []
  | t :: _ => t.gap

end

mutual

/-- The text of a node, from its first token to its last. -/
def text : Tree → List Glyph
  | leaf _ _ _ _ _ text => text
  | node _ _ _ _ ts => textOfFirst ts

/-- The text of nodes in a row, without the white space in front of the first. -/
def textOfFirst : List Tree → List Glyph
  | [] => []
  | t :: ts => t.text ++ textOfRest ts

/-- The text of nodes in a row, with the white space in front of each. -/
def textOfRest : List Tree → List Glyph
  | [] => []
  | t :: ts => t.gap ++ t.text ++ textOfRest ts

end

/-- The text of a node as a string. -/
def render (t : Tree) : String := Glyph.render t.text

/-- A construct with its parts, which knows whether there is a flaw below it. -/
def branch (kind : Kind) (start : Point) (children : List Tree) : Tree :=
  node kind none start (kind == .error || children.any flawed) children

end Tree

end RoleAudit.Source
