import RoleAudit.Proofs.Text.Tidy
import RoleAudit.Source.Skeleton

/-!
# How declarations are written

The skeleton of a source is read off its tree. This file goes the other way: it says which trees a
list of declarations is written as. Much of a tree is free. Tokens and comments stand between the
parts, a name may be qualified, a declaration has a type, parameters and a body, and other things
stand at the top of a source.

* `ValueSpells`: literals in quotes, text blocks in three, arrays of values, other expressions.
* `TagSpells`: markers, tags with one argument, and tags whose arguments are no value.
* `MemberSpells`, `TypeSpells`: modifiers in front, a name, and for a type the members in its body.
* `Spells`: a source with types at its top.

The name of a field is not the field's own: it stands in the declarator of a variable. What stands
behind the constants of an enum is a single part of its body.
-/

namespace RoleAudit.Source

open RoleAudit.Text

/-! ## Parts -/

/-- A node with this text. -/
def Tree.HasText (t : Tree) (s : String) : Prop := t.text = Glyph.ofString s

/-- Nodes in a row stand for things in a row. Nodes between them stand for nothing. -/
inductive Lineup {α : Type} (silent : Tree → Prop) (R : Tree → α → Prop) : List Tree → List α → Prop
  | nil : Lineup silent R [] []
  | silent {t : Tree} {ts : List Tree} {xs : List α} (between : silent t)
    (rest : Lineup silent R ts xs) : Lineup silent R (t :: ts) xs
  | item {t : Tree} {x : α} {ts : List Tree} {xs : List α} (node : R t x)
    (rest : Lineup silent R ts xs) : Lineup silent R (t :: ts) (x :: xs)

/-- A comment. -/
def Silent (t : Tree) : Prop := t.kind = .comment

/-- A comment, a word or a sign. -/
def Punctuation (t : Tree) : Prop := t.kind = .comment ∨ ∃ word, t.kind = .token (.fixed word)

/-- The node that stands under a label among the parts. -/
structure Labelled (ts : List Tree) (f : Field) (u : Tree) : Prop where
  mem : u ∈ ts
  field : u.field = some f
  single : ∀ t ∈ ts, t.field = some f → t = u

/-- No node stands under a label. -/
def Lacks (ts : List Tree) (f : Field) : Prop := ∀ t ∈ ts, t.field ≠ some f

/-! ## Names -/

/-- The name of a tag: an identifier, or a qualified name that ends in it. -/
inductive NameSpells : Tree → String → Prop
  | simple {t : Tree} {name : String} (word : isWord name = true) (kind : t.kind = .token .identifier)
    (text : t.HasText name) : NameSpells t name
  | qualified {field : Option Field} {p : Point} {flawed : Bool} {qualifier dot last : Tree}
    {front gap : String} {name : String} (word : isWord name = true)
    (qualifies : qualifier.HasText front) (near : dot.gap = []) (divides : dot.HasText ".")
    (blank : isBlankText gap = true) (space : last.gap = Glyph.ofString gap) (text : last.HasText name) :
    NameSpells (.node (.construct .scopedName) field p flawed [qualifier, dot, last]) name

/-! ## Values -/

/-- A text without a quote that is not escaped. It ends in no backslash that would escape one. -/
def isUnquoted : List Char → Bool
  | [] => true
  | ['\\'] => false
  | '\\' :: _ :: cs => isUnquoted cs
  | c :: cs => c != '"' && isUnquoted cs

/-- A text with three quotes in a row. -/
def HasTripleQuote (s : String) : Prop := ['"', '"', '"'] <:+: s.toList

/-- Nodes of which the first and the last are marks, and a text is between them. -/
structure Encloses (mark content : String) (ts : List Tree) : Prop where
  parts : ∃ opening middle closing, ts = opening :: (middle ++ [closing]) ∧ opening.HasText mark ∧
    Tree.textOfRest middle = Glyph.ofString content ∧ closing.gap = [] ∧ closing.HasText mark

/-- An expression that is neither a literal nor an array, and no pair of a key and a value. -/
def IsOther : Kind → Prop
  | .construct c => c ≠ .stringLiteral ∧ c ≠ .elementArray ∧ c ≠ .elementPair
  | .token (.fixed _) => False
  | .token _ => True
  | .comment => False
  | .error => False

/-- How a value is written. -/
inductive ValueSpells : Tree → TagValue → Prop
  | literal {field : Option Field} {p : Point} {flawed : Bool} {ts : List Tree} {content : String}
    (plain : isUnquoted content.toList = true) (quotes : Encloses "\"" content ts) :
    ValueSpells (.node (.construct .stringLiteral) field p flawed ts) (.literal content)
  | block {field : Option Field} {p : Point} {flawed : Bool} {ts : List Tree} {content : String}
    (plain : ¬ HasTripleQuote content) (quotes : Encloses "\"\"\"" content ts) :
    ValueSpells (.node (.construct .stringLiteral) field p flawed ts) (.literal content)
  | array {field : Option Field} {p : Point} {flawed : Bool} {ts : List Tree}
    {elements : List TagValue} (lineup : Lineup Punctuation ValueSpells ts elements) :
    ValueSpells (.node (.construct .elementArray) field p flawed ts) (.array elements)
  | other {t : Tree} {source : String} (kind : IsOther t.kind) (text : t.HasText source) :
    ValueSpells t (.other source)

/-! ## Tags -/

/-- Arguments that are no value: none, several, or a pair. -/
def Unvalued (arguments : Tree) : Prop :=
  arguments.parts.length ≠ 1 ∨ ∃ pair ∈ arguments.parts, pair.kind = .construct .elementPair

/-- How a tag is written. -/
inductive TagSpells (t : Tree) : Tag → Prop
  | marker {u : Tree} {name : String} (kind : t.kind = .construct .markerTag)
    (label : Labelled t.children .name u) (spells : NameSpells u name) : TagSpells t ⟨name, none⟩
  | single {u arguments : Tree} {name : String} {value : TagValue}
    (kind : t.kind = .construct .tag) (label : Labelled t.children .name u)
    (spells : NameSpells u name) (given : Labelled t.children .arguments arguments)
    (argument : Lineup Punctuation ValueSpells arguments.children [value]) :
    TagSpells t ⟨name, some value⟩
  | unvalued {u arguments : Tree} {name : String} (kind : t.kind = .construct .tag)
    (label : Labelled t.children .name u) (spells : NameSpells u name)
    (given : Labelled t.children .arguments arguments) (keyed : Unvalued arguments) :
    TagSpells t ⟨name, none⟩

/-! ## Modifiers -/

/-- A modifier: a keyword or a tag. -/
abbrev Modifier := String ⊕ Tag

/-- The keywords among modifiers. -/
def wordsOf (front : List Modifier) : List String := front.filterMap Sum.getLeft?

/-- The tags among modifiers. -/
def marksOf (front : List Modifier) : List Tag := front.filterMap Sum.getRight?

/-- How a modifier is written. -/
inductive ModifierSpells : Tree → Modifier → Prop
  | word {t : Tree} {word : String} (kind : t.kind = .token (.fixed word)) :
    ModifierSpells t (.inl word)
  | tag {t : Tree} {tag : Tag} (spells : TagSpells t tag) : ModifierSpells t (.inr tag)

/-- What stands in front of a declaration: nothing, or a node with its modifiers. -/
inductive FrontSpells : List Tree → List Modifier → Prop
  | bare {ts : List Tree} (rest : ∀ t ∈ ts, t.kind ≠ .construct .modifiers) : FrontSpells ts []
  | marked {m : Tree} {ts : List Tree} {front : List Modifier} (kind : m.kind = .construct .modifiers)
    (modifiers : Lineup Silent ModifierSpells m.children front)
    (rest : ∀ t ∈ ts, t.kind ≠ .construct .modifiers) : FrontSpells (m :: ts) front

/-! ## Declarations -/

/-- Which constructs declare a type. -/
inductive TypeForm : Construct → TypeKind → Prop
  | classType : TypeForm .classDeclaration .classType
  | interfaceType : TypeForm .interfaceDeclaration .interfaceType
  | enum : TypeForm .enumDeclaration .other
  | record : TypeForm .recordDeclaration .other
  | tagType : TypeForm .tagTypeDeclaration .other

/-- Which constructs are members with a name of their own. -/
inductive MemberForm : Construct → MemberKind → Prop
  | method : MemberForm .methodDeclaration .method
  | constructor : MemberForm .constructorDeclaration .constructor
  | type {c : Construct} {kind : TypeKind} (form : TypeForm c kind) : MemberForm c .type
  | enumConstant : MemberForm .enumConstant .other
  | tagElement : MemberForm .tagTypeElement .other
  | compactConstructor : MemberForm .compactConstructor .other

/-- Which constructs are fields. -/
inductive FieldForm : Construct → Prop
  | field : FieldForm .fieldDeclaration
  | constant : FieldForm .constantDeclaration

/-- Which constructs are members without a name: initializers, and all that stands behind the
constants of an enum. -/
inductive NamelessForm : Construct → Prop
  | staticInitializer : NamelessForm .staticInitializer
  | initializer : NamelessForm .block
  | behindConstants : NamelessForm .enumBodyDeclarations

/-- How a member is written. -/
inductive MemberSpells (t : Tree) : Member → Prop
  | named {c : Construct} {kind : MemberKind} {front : List Modifier} {u : Tree} {name : String}
    (form : MemberForm c kind) (construct : t.kind = .construct c)
    (modifiers : FrontSpells t.children front) (label : Labelled t.children .name u)
    (text : u.HasText name) :
    MemberSpells t ⟨kind, name, wordsOf front, marksOf front, t.start.line⟩
  | field {c : Construct} {front : List Modifier} {declarator u : Tree} {name : String}
    (form : FieldForm c) (construct : t.kind = .construct c)
    (modifiers : FrontSpells t.children front) (lacks : Lacks t.children .name)
    (mem : declarator ∈ t.children) (declares : declarator.kind = .construct .variableDeclarator)
    (label : Labelled declarator.children .name u) (text : u.HasText name) :
    MemberSpells t ⟨.field, name, wordsOf front, marksOf front, t.start.line⟩
  | nameless {c : Construct} (form : NamelessForm c) (construct : t.kind = .construct c)
    (modifiers : FrontSpells t.children []) (lacks : Lacks t.children .name) :
    MemberSpells t ⟨.other, "", [], [], t.start.line⟩

/-- How a type at the top of a source is written. -/
inductive TypeSpells (t : Tree) : Declaration → Prop
  | intro {c : Construct} {kind : TypeKind} {front : List Modifier} {u body : Tree} {name : String}
    {members : List Member} (form : TypeForm c kind) (construct : t.kind = .construct c)
    (modifiers : FrontSpells t.children front) (label : Labelled t.children .name u)
    (text : u.HasText name) (holds : Labelled t.children .body body)
    (lineup : Lineup Punctuation MemberSpells body.children members) :
    TypeSpells t ⟨kind, name, marksOf front, members, t.start.line⟩

/-- A node at the top of a source that declares no type. -/
def Bystander (t : Tree) : Prop := ∀ c kind, TypeForm c kind → t.kind ≠ .construct c

/-- How declarations are written: as the types at the top of a source. -/
structure Spells (t : Tree) (ds : List Declaration) : Prop where
  kind : t.kind = .construct .program
  lineup : Lineup Bystander TypeSpells t.children ds

end RoleAudit.Source
