import RoleAudit.Source.Tree
import RoleAudit.Declaration

/-!
# The skeleton of a source

The declarations that a syntax tree holds: the types at its top, their tags, and the members of each
with their modifiers and tags. Everything else in the tree (comments, parameters, bodies of methods,
initial values) has no influence.

* `Source.simpleName` cuts a qualified name down to its last part.
* `Source.literalContent` takes the quotes off a string literal and leaves its escapes as written.
* `Source.declarations` gives the declarations of a tree, and `Source.skeleton` the log entries as
  well.
-/

namespace RoleAudit.Source

/-- The name of the log entries about declarations. -/
def skeletonLogger : String := "extraction.traversal"

/-! ## Names and literals -/

/-- What follows the last dot. -/
def afterLastDot (cs : List Char) : List Char :=
  (cs.reverse.takeWhile fun c => c != '.').reverse

/-- The last part of a name that may be qualified. -/
def simpleName (s : String) : String :=
  String.ofList (Text.trimChars (afterLastDot (Text.trimChars s.toList)))

/-- The text starts and ends with so many quotes. -/
def isQuotedBy (n : Nat) (cs : List Char) : Bool :=
  (cs.take n).all (· == '"') && (cs.reverse.take n).all (· == '"') && 2 * n ≤ cs.length

/-- Takes so many characters off both ends. -/
def stripEnds (n : Nat) (cs : List Char) : List Char := (cs.drop n).take (cs.length - 2 * n)

/-- What stands between the quotes of a string literal or a text block. -/
def literalContent (s : String) : String :=
  let cs := s.toList
  if isQuotedBy 3 cs then String.ofList (stripEnds 3 cs)
  else if isQuotedBy 1 cs then String.ofList (stripEnds 1 cs)
  else s

/-- The text of a node that may be absent. -/
def textOf (t : Option Tree) : String :=
  match t with
  | none => ""
  | some t => t.render

/-! ## Tags -/

mutual

/-- The value that an argument of a tag stands for. -/
def tagValue : Tree → TagValue
  | .leaf k f p m gap text => .other (Tree.leaf k f p m gap text).render
  | .node k f p flaw ts =>
    let text := (Tree.node k f p flaw ts).render
    if k == .construct .stringLiteral then .literal (literalContent text)
    else if k == .construct .elementArray then .array (tagValues ts)
    else .other text

/-- The values in a row of nodes, without comments, words and signs. -/
def tagValues : List Tree → List TagValue
  | [] => []
  | t :: ts => if t.isNamed && !t.isComment then tagValue t :: tagValues ts else tagValues ts

end

/-- The single argument without a key among arguments. -/
def singleArgument? (arguments : Tree) : Option Tree :=
  match arguments.parts with
  | [t] => if t.kind == .construct .elementPair then none else some t
  | _ => none

/-- A tag, and the line of it if it has arguments that are no value. -/
def tagOf? (t : Tree) : Option (Tag × Option Nat) :=
  let name := simpleName (textOf (t.child? .name))
  if t.kind == .construct .markerTag then some (⟨name, none⟩, none)
  else if t.kind == .construct .tag then
    match t.child? .arguments with
    | none => some (⟨name, none⟩, none)
    | some arguments =>
      match singleArgument? arguments with
      | none => some (⟨name, none⟩, some t.start.line)
      | some value => some (⟨name, some (tagValue value)⟩, none)
  else none

/-- The log entry about a tag whose arguments are no value. -/
def unvaluedEntry (name : String) (line : Nat) : Log.Entry :=
  ⟨.debug, skeletonLogger,
    "Annotation @" ++ name ++ " at line " ++ toString line ++ " is not single-member"⟩

/-! ## Modifiers -/

/-- The nodes inside the modifiers of a declaration. -/
def modifierNodes (t : Tree) : List Tree :=
  (t.children.filter fun c => c.kind == .construct .modifiers).flatMap Tree.children

/-- A modifier keyword. -/
def keyword? (t : Tree) : Option String :=
  match t.kind with
  | .token (.fixed word) => some word
  | _ => none

/-- The keywords in front of a declaration. -/
def keywords (t : Tree) : List String := (modifierNodes t).filterMap keyword?

/-- The tags in front of a declaration. -/
def tagsOf (t : Tree) : List Tag := (modifierNodes t).filterMap fun m => (tagOf? m).map (·.1)

/-- The log entries about the tags in front of a declaration. -/
def tagEntries (t : Tree) : List Log.Entry :=
  (modifierNodes t).filterMap fun m =>
    (tagOf? m).bind fun r => r.2.map (unvaluedEntry r.1.name)

/-! ## Declarations -/

/-- What kind of type a node declares. -/
def typeKind? (t : Tree) : Option TypeKind :=
  match t.kind with
  | .construct .classDeclaration => some .classType
  | .construct .interfaceDeclaration => some .interfaceType
  | .construct .enumDeclaration => some .other
  | .construct .recordDeclaration => some .other
  | .construct .tagTypeDeclaration => some .other
  | _ => none

/-- What kind of member a node in a type body is. -/
def memberKind (t : Tree) : MemberKind :=
  match t.kind with
  | .construct .methodDeclaration => .method
  | .construct .constructorDeclaration => .constructor
  | .construct .fieldDeclaration => .field
  | .construct .constantDeclaration => .field
  | _ => if (typeKind? t).isSome then .type else .other

/-- A member of a type. -/
def memberOf (t : Tree) : Member where
  kind := memberKind t
  name := textOf (t.child? .name)
  modifiers := keywords t
  tags := tagsOf t
  line := t.start.line

/-- The nodes in the body of a type that are members. -/
def memberNodes (t : Tree) : List Tree :=
  match t.child? .body with
  | none => []
  | some body => body.parts

/-- The declaration of a type, if the node declares one. -/
def declarationOf? (t : Tree) : Option Declaration :=
  (typeKind? t).map fun kind =>
    { kind, name := textOf (t.child? .name), tags := tagsOf t
      members := (memberNodes t).map memberOf, line := t.start.line }

/-- The types declared at the top of a source. -/
def declarations (t : Tree) : List Declaration :=
  (t.children.filter Tree.isNamed).filterMap declarationOf?

/-! ## The log of reading declarations -/

/-- The log entries about one declaration. -/
def declarationEntries (t : Tree) : List Log.Entry :=
  match declarationOf? t with
  | none => []
  | some d =>
    tagEntries t ++ (memberNodes t).flatMap tagEntries ++
      [⟨.debug, skeletonLogger,
        "Extracted " ++ d.kind.name ++ " " ++ d.name ++ " with " ++ toString d.tags.length ++
          " annotations and " ++ toString d.members.length ++ " members"⟩]

/-- The log entries about the declarations of a source. -/
def skeletonEntries (path : String) (t : Tree) : List Log.Entry :=
  (t.children.filter Tree.isNamed).flatMap declarationEntries ++
    [⟨.debug, skeletonLogger,
      "Found " ++ toString (declarations t).length ++ " type declarations in " ++ path⟩]

end RoleAudit.Source
