import RoleAudit.Yaml.Queue
import RoleAudit.Yaml.PlainTag

/-!
# The nodes of a document

A document is a graph of nodes: an alias leads to the node that carries the anchor, also from inside
of it. Nodes are numbered in the order in which they begin.

`Graph.ofText?` reads a text that holds one document, or none.
-/

namespace RoleAudit.Yaml

/-- What a node holds. -/
inductive Content where
  | scalar (text : String)
  | sequence (items : List Nat)
  | mapping (entries : List (Nat × Nat))
  deriving Repr, DecidableEq, Inhabited

/-- A node of a document. -/
structure Node where
  tag : String
  content : Content
  start : Mark
  deriving Repr, DecidableEq, Inhabited

/-- The name that a message shows for a node's shape. -/
def Content.name : Content → String
  | scalar _ => "scalar"
  | sequence _ => "sequence"
  | mapping _ => "mapping"

/-- A document under construction. -/
structure Graph where
  queue : Queue
  nodes : Array Node := #[]
  /-- What the handles of tags stand for. -/
  handles : List (String × String) := []
  /-- The anchors that are known, each with its node. -/
  anchors : List (String × Nat) := []
  deriving Inhabited

/-- The handles that every document knows. -/
def defaultHandles : List (String × String) := [("!", "!"), ("!!", tagPrefix)]

/-- What stands in front of a node's content. -/
structure Properties where
  anchor : Option String := none
  tag : Option String := none
  start : Mark
  stop : Mark

namespace Graph

/-- An error in the structure of a text. -/
def structureError {α : Type} (problem : Problem) (mark : Mark) (activity : Option Activity := none)
    (since : Option Mark := none) : Except ScalarFailure α :=
  .error (.malformed { phase := .nodes, activity, since, problem, mark })

/-- An error in the document. -/
def documentError {α : Type} (problem : Problem) (mark : Mark) (activity : Option Activity := none)
    (since : Option Mark := none) : Except ScalarFailure α :=
  .error (.malformed { phase := .document, activity, since, problem, mark })

/-- The next token. -/
def peek (g : Graph) : Except ScalarFailure (Token × Graph) := do
  let (t, queue) ← g.queue.peek
  pure (t, { g with queue })

/-- Takes the next token. -/
def next (g : Graph) : Except ScalarFailure (Token × Graph) := do
  let (t, g) ← g.peek
  pure (t, { g with queue := g.queue.pop })

/-- Adds a node. -/
def add (g : Graph) (node : Node) : Nat × Graph :=
  (g.nodes.size, { g with nodes := g.nodes.push node })

/-- Adds a node without content. -/
def addEmpty (g : Graph) (mark : Mark) : Nat × Graph :=
  g.add ⟨plainTag "", .scalar "", mark⟩

/-- Fills a node. -/
def fill (g : Graph) (n : Nat) (content : Content) : Graph :=
  match g.nodes[n]? with
  | some node => { g with nodes := g.nodes.setIfInBounds n { node with content } }
  | none => g

/-! ## Properties -/

/-- Reads the anchor and the tag in front of a node, in either order. -/
def properties (g : Graph) : Except ScalarFailure (Properties × Graph) := do
  let (t, g) ← g.peek
  match t.kind with
  | .anchor name => do
    let (_, g) ← g.next
    let (u, g) ← g.peek
    match u.kind with
    | .tag handle rest => do
      let (_, g) ← g.next
      let tag ← expand g handle rest t.start u.start
      pure ({ anchor := some name, tag := some tag, start := t.start, stop := u.stop }, g)
    | _ => pure ({ anchor := some name, start := t.start, stop := t.stop }, g)
  | .tag handle rest => do
    let (_, g) ← g.next
    let (u, g) ← g.peek
    match u.kind with
    | .anchor name => do
      let (_, g) ← g.next
      let tag ← expand g handle rest t.start t.start
      pure ({ anchor := some name, tag := some tag, start := t.start, stop := u.stop }, g)
    | _ => do
      let tag ← expand g handle rest t.start t.start
      pure ({ tag := some tag, start := t.start, stop := t.stop }, g)
  | _ => pure ({ start := t.start, stop := t.start }, g)
where
  /-- The full form of a tag. -/
  expand (g : Graph) (handle : Option String) (rest : String) (since mark : Mark) :
      Except ScalarFailure String :=
    match handle with
    | none => .ok rest
    | some handle =>
      match g.handles.find? fun h => h.1 == handle with
      | some (_, start) => .ok (start ++ rest)
      | none => structureError (.unknownHandle handle) mark (some .node) (some since)

/-- Refuses a second node with an anchor. -/
def checkAnchor (g : Graph) (p : Properties) : Except ScalarFailure Unit :=
  match p.anchor.bind fun name => (g.anchors.find? fun a => a.1 == name) with
  | some (name, n) =>
    documentError .secondAnchor p.start (some (.firstAnchor name)) (g.nodes[n]?.map Node.start)
  | none => .ok ()

/-- Remembers the node of an anchor. -/
def setAnchor (g : Graph) (p : Properties) (n : Nat) : Graph :=
  match p.anchor with
  | some name => { g with anchors := (name, n) :: g.anchors }
  | none => g

/-- The tag of a scalar. -/
def scalarTag (p : Properties) (plain : Bool) (text : String) : String :=
  match p.tag with
  | none => if plain then plainTag text else textTag
  | some tag => if tag == "!" then plainTag text else tag

/-- The tag of an empty node with properties. -/
def emptyTag (p : Properties) : String :=
  match p.tag with
  | none => plainTag ""
  | some tag => if tag == "!" then plainTag "" else tag

/-- The tag of a collection. -/
def collectionTag (p : Properties) (usual : String) : String :=
  match p.tag with
  | none => usual
  | some tag => if tag == "!" then usual else tag

/-! ## Nodes -/

/-- Where a node stands. -/
inductive Position where
  | flow
  | block
  /-- A value in a block mapping, which may be a sequence without indentation. -/
  | blockValue
  deriving Repr, DecidableEq

/-- A token of one of the kinds ends what is read. -/
def isOneOf (t : Token) (kinds : List TokenKind) : Bool := kinds.contains t.kind

mutual

/-- Reads a node. Gives its number. -/
def node (position : Position) : Nat → Graph → Except ScalarFailure (Nat × Graph)
  | 0, g => do
    let (t, _) ← g.peek
    structureError (.noContent t.kind.name) t.start
  | fuel + 1, g => do
    let (t, g) ← g.peek
    match t.kind with
    | .reference name => do
      let (_, g) ← g.next
      match g.anchors.find? fun a => a.1 == name with
      | some (_, n) => pure (n, g)
      | none => documentError (.unknownAlias name) t.start
    | _ => do
      let (p, g) ← g.properties
      let (t, g) ← g.peek
      let start (tag : String) (content : Content) (g : Graph) :
          Except ScalarFailure (Nat × Graph) := do
        checkAnchor g p
        let (n, g) := g.add ⟨tag, content, p.start⟩
        pure (n, setAnchor g p n)
      let sequence := collectionTag p sequenceTag
      let mapping := collectionTag p mappingTag
      match position, t.kind with
      | .blockValue, .blockEntry => do
        let (n, g) ← start sequence (.sequence []) g
        let (items, g) ← indentless fuel g []
        pure (n, g.fill n (.sequence items))
      | _, .scalar plain text => do
        let (_, g) ← g.next
        start (scalarTag p plain text) (.scalar text) g
      | _, .flowSequenceStart => do
        let (n, g) ← start sequence (.sequence []) g
        let (_, g) ← g.next
        let (items, g) ← flowItems t.start true fuel g []
        pure (n, g.fill n (.sequence items))
      | _, .flowMappingStart => do
        let (n, g) ← start mapping (.mapping []) g
        let (_, g) ← g.next
        let (entries, g) ← flowEntries t.start true fuel g []
        pure (n, g.fill n (.mapping entries))
      | .block, .blockSequenceStart | .blockValue, .blockSequenceStart => do
        let (n, g) ← start sequence (.sequence []) g
        let (_, g) ← g.next
        let (items, g) ← blockItems t.start fuel g []
        pure (n, g.fill n (.sequence items))
      | .block, .blockMappingStart | .blockValue, .blockMappingStart => do
        let (n, g) ← start mapping (.mapping []) g
        let (_, g) ← g.next
        let (entries, g) ← blockEntries t.start fuel g []
        pure (n, g.fill n (.mapping entries))
      | _, _ =>
        if p.anchor.isSome || p.tag.isSome then start (emptyTag p) (.scalar "") g
        else
          let activity := if position = .flow then Activity.flowNode else .blockNode
          structureError (.noContent t.kind.name) t.start (some activity) (some p.start)

/-- Reads a node, or an empty one if one of the tokens comes next. -/
def nodeUnless (position : Position) (ends : List TokenKind) (empty : Mark) :
    Nat → Graph → Except ScalarFailure (Nat × Graph)
  | 0, g => pure (g.addEmpty empty)
  | fuel + 1, g => do
    let (t, g) ← g.peek
    if isOneOf t ends then pure (g.addEmpty empty) else node position fuel g

/-- Reads the items of a block sequence. -/
def blockItems (since : Mark) : Nat → Graph → List Nat → Except ScalarFailure (List Nat × Graph)
  | 0, g, items => pure (items, g)
  | fuel + 1, g, items => do
    let (t, g) ← g.next
    match t.kind with
    | .blockEntry => do
      let (n, g) ← nodeUnless .block [.blockEntry, .blockEnd] t.stop fuel g
      blockItems since fuel g (items ++ [n])
    | .blockEnd => pure (items, g)
    | _ => structureError (.noBlockEnd t.kind.name) t.start (some .blockCollection) (some since)

/-- Reads the items of a block sequence without indentation. -/
def indentless : Nat → Graph → List Nat → Except ScalarFailure (List Nat × Graph)
  | 0, g, items => pure (items, g)
  | fuel + 1, g, items => do
    let (t, g) ← g.peek
    match t.kind with
    | .blockEntry => do
      let (_, g) ← g.next
      let (n, g) ← nodeUnless .block [.blockEntry, .key, .value, .blockEnd] t.stop fuel g
      indentless fuel g (items ++ [n])
    | _ => pure (items, g)

/-- Reads the entries of a block mapping. -/
def blockEntries (since : Mark) :
    Nat → Graph → List (Nat × Nat) → Except ScalarFailure (List (Nat × Nat) × Graph)
  | 0, g, entries => pure (entries, g)
  | fuel + 1, g, entries => do
    let (t, g) ← g.peek
    match t.kind with
    | .key => do
      let (_, g) ← g.next
      let ends : List TokenKind := [.key, .value, .blockEnd]
      let (key, g) ← nodeUnless .blockValue ends t.stop fuel g
      let (u, g) ← g.peek
      match u.kind with
      | .value => do
        let (_, g) ← g.next
        let (value, g) ← nodeUnless .blockValue ends u.stop fuel g
        blockEntries since fuel g (entries ++ [(key, value)])
      | _ => do
        let (value, g) := g.addEmpty u.start
        blockEntries since fuel g (entries ++ [(key, value)])
    | .blockEnd => do
      let (_, g) ← g.next
      pure (entries, g)
    | _ => structureError (.noBlockEnd t.kind.name) t.start (some .blockMapping) (some since)

/-- Reads the items of a flow sequence. A key with a value is a mapping of its own. -/
def flowItems (since : Mark) (first : Bool) :
    Nat → Graph → List Nat → Except ScalarFailure (List Nat × Graph)
  | 0, g, items => pure (items, g)
  | fuel + 1, g, items => do
    let (t, g) ← g.peek
    match t.kind with
    | .flowSequenceEnd => do
      let (_, g) ← g.next
      pure (items, g)
    | _ => do
      let g ←
        if first then pure g
        else
          match t.kind with
          | .flowEntry => do
            let (_, g) ← g.next
            pure g
          | _ =>
            structureError (.noSequenceEnd t.kind.name) t.start (some .flowSequence) (some since)
      let (t, g) ← g.peek
      match t.kind with
      | .key => do
        let (n, g) := g.add ⟨mappingTag, .mapping [], t.start⟩
        let (_, g) ← g.next
        let ends : List TokenKind := [.flowEntry, .flowSequenceEnd]
        let (key, g) ← nodeUnless .flow (.value :: ends) t.stop fuel g
        let (u, g) ← g.peek
        let (value, g) ←
          match u.kind with
          | .value => do
            let (_, g) ← g.next
            nodeUnless .flow ends u.stop fuel g
          | _ => pure (g.addEmpty u.start)
        flowItems since false fuel (g.fill n (.mapping [(key, value)])) (items ++ [n])
      | .flowSequenceEnd => do
        let (_, g) ← g.next
        pure (items, g)
      | _ => do
        let (n, g) ← node .flow fuel g
        flowItems since false fuel g (items ++ [n])

/-- Reads the entries of a flow mapping. -/
def flowEntries (since : Mark) (first : Bool) :
    Nat → Graph → List (Nat × Nat) → Except ScalarFailure (List (Nat × Nat) × Graph)
  | 0, g, entries => pure (entries, g)
  | fuel + 1, g, entries => do
    let (t, g) ← g.peek
    match t.kind with
    | .flowMappingEnd => do
      let (_, g) ← g.next
      pure (entries, g)
    | _ => do
      let g ←
        if first then pure g
        else
          match t.kind with
          | .flowEntry => do
            let (_, g) ← g.next
            pure g
          | _ =>
            structureError (.noMappingEnd t.kind.name) t.start (some .flowMapping) (some since)
      let (t, g) ← g.peek
      match t.kind with
      | .key => do
        let (_, g) ← g.next
        let ends : List TokenKind := [.flowEntry, .flowMappingEnd]
        let (key, g) ← nodeUnless .flow (.value :: ends) t.stop fuel g
        let (u, g) ← g.peek
        let (value, g) ←
          match u.kind with
          | .value => do
            let (_, g) ← g.next
            nodeUnless .flow ends u.stop fuel g
          | _ => pure (g.addEmpty u.start)
        flowEntries since false fuel g (entries ++ [(key, value)])
      | .flowMappingEnd => do
        let (_, g) ← g.next
        pure (entries, g)
      | _ => do
        let (key, g) ← node .flow fuel g
        let (u, g) ← g.peek
        let (value, g) := g.addEmpty u.start
        flowEntries since false fuel g (entries ++ [(key, value)])

end

/-! ## Documents -/

/-- Takes in directives. -/
def directives (version : Bool) : Nat → Graph → Except ScalarFailure (Unit × Graph)
  | 0, g => pure ((), g)
  | fuel + 1, g => do
    let (t, g) ← g.peek
    match t.kind with
    | .directive d => do
      let (_, g) ← g.next
      match d with
      | .version major _ =>
        if version then structureError .repeatedVersion t.start
        else if major != 1 then structureError .otherVersion t.start
        else directives true fuel g
      | .handle handle start =>
        if g.handles.any fun h => h.1 == handle then
          structureError (.repeatedHandle handle) t.start
        else directives version fuel { g with handles := g.handles ++ [(handle, start)] }
      | .other => directives version fuel g
    | _ => pure ((), g)

/-- Begins a document with its directives and its first token. -/
def begin (fuel : Nat) (g : Graph) : Except ScalarFailure (Unit × Graph) := do
  let (_, g) ← directives false fuel { g with handles := [] }
  let (t, g) ← g.peek
  match t.kind with
  | .documentStart => do
    let (_, g) ← g.next
    let missing := defaultHandles.filter fun d => !(g.handles.any fun h => h.1 == d.1)
    pure ((), { g with handles := g.handles ++ missing })
  | _ => structureError (.noDocumentStart t.kind.name) t.start

/-- Goes over the ends of documents. -/
def skipEnds : Nat → Graph → Except ScalarFailure (Token × Graph)
  | 0, g => g.peek
  | fuel + 1, g => do
    let (t, g) ← g.peek
    match t.kind with
    | .documentEnd => do
      let (_, g) ← g.next
      skipEnds fuel g
    | _ => pure (t, g)

/-- Reads the document of a text, if there is one. Gives its first node. -/
def document (fuel : Nat) (g : Graph) : Except ScalarFailure (Option Nat × Graph) := do
  let (t, g) ← g.peek
  match t.kind with
  | .textEnd => pure (none, g)
  | _ => do
    let (root, g) ←
      match t.kind with
      | .directive _ | .documentStart => do
        let (_, g) ← begin fuel g
        let (t, g) ← g.peek
        match t.kind with
        | .directive _ | .documentStart | .documentEnd | .textEnd => pure (g.addEmpty t.start)
        | _ => node .block fuel g
      | _ => node .block fuel { g with handles := defaultHandles }
    let (t, g) ← skipEnds fuel g
    match t.kind with
    | .textEnd => pure (some root, g)
    | _ => do
      let (_, g) ← begin fuel g
      documentError .anotherDocument t.start (some .oneDocument) (g.nodes[root]?.map Node.start)

/-- The nodes of a text and the first of them, if there are any. -/
def ofText? (text : List Char) : Except ScalarFailure (Option Nat × Array Node) := do
  let g : Graph := { queue := { cursor := ⟨text, {}⟩ } }
  let (root, g) ← document (4 * text.length + 16) g
  pure (root, g.nodes)

end Graph

end RoleAudit.Yaml
