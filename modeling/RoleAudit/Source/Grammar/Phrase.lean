import RoleAudit.Source.Terminal
import RoleAudit.Source.Construct

/-!
# Phrases

The right-hand sides of a grammar's rules, as data: tokens and constructs in sequence, in
alternation and in repetition. A construct is shown in the tree, spliced into the construct around
it, or shown only if it has at least two parts.
-/

namespace RoleAudit.Source

/-- What a construct may look like. -/
inductive Phrase where
  | token (t : Terminal)
  | part (c : Construct)
  /-- A phrase whose parts can be asked for by name. -/
  | labelled (f : Field) (p : Phrase)
  | seq (ps : List Phrase)
  | choice (ps : List Phrase)
  | opt (p : Phrase)
  /-- Any number of times, also not at all. -/
  | many (p : Phrase)
  /-- At least once. -/
  | some (p : Phrase)
  deriving Repr

namespace Phrase

instance : Coe String Phrase := ⟨fun s => .token (.fixed s)⟩

/-- A construct inside a phrase. -/
def the (c : Construct) : Phrase := .part c

/-- A list with commas in between. -/
def commas (p : Phrase) : Phrase := .seq [p, .many (.seq [",", p])]

/-- A phrase between parentheses. -/
def inParens (p : Phrase) : Phrase := .seq ["(", p, ")"]

/-- A phrase between braces. -/
def inBraces (p : Phrase) : Phrase := .seq ["\x7b", p, "\x7d"]

end Phrase

/-- How a construct appears in the tree. -/
inductive Visibility where
  | shown
  /-- Its parts belong to the construct around it. -/
  | spliced
  /-- Shown if it has two parts or more, spliced otherwise. -/
  | compound
  deriving Repr, DecidableEq, Inhabited

/-- A rule of a grammar. -/
structure Rule where
  construct : Construct
  visibility : Visibility
  phrase : Phrase
  deriving Repr

end RoleAudit.Source
