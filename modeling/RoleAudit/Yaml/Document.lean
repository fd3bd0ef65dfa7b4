import RoleAudit.Yaml.Graph
import RoleAudit.Yaml.ScalarValue

/-!
# What a document stands for

Every node of a document is given its value once, however many aliases lead to it. Scalars are read
as soon as they are met; a collection is filled later, after all collections that were met before
it. So of several errors the one in the outermost collection is reported.

The value of a collection may contain the collection itself. `Contents.value` therefore starts from
a node, and marks where it meets a collection inside itself.
-/

namespace RoleAudit.Yaml

open RoleAudit.Text

/-- Why a text has no value. -/
inductive Failure where
  | malformed (error : Error)
  | escape (fault : EscapeFault)
  | scalar (fault : ScalarFault)
  deriving Repr, DecidableEq

/-- A failure of a scalar's text is a failure of the whole text. -/
def Failure.ofScalar : ScalarFailure → Failure
  | .malformed e => malformed e
  | .escape f => escape f

/-- What a node stands for; values inside of collections are given by their nodes. -/
inductive Meaning where
  | scalar (value : Value)
  | list (items : List Nat)
  | pairs (entries : List (Nat × Nat))
  | set (items : List Value)
  | dict (entries : List (Value × Nat))
  deriving Inhabited

/-- The nodes of a document and what is known of their values. -/
structure Contents where
  nodes : Array Node
  meanings : Array (Option Meaning)
  /-- Collections to be filled, in the order in which they were met. -/
  pending : List Nat := []

namespace Contents

/-- An error in what a node stands for. -/
def valueError {α : Type} (problem : Problem) (mark : Mark) (activity : Option Activity := none)
    (since : Option Mark := none) : Except Failure α :=
  .error (.malformed { phase := .values, activity, since, problem, mark })

/-- A node. -/
def node (c : Contents) (n : Nat) : Node := c.nodes[n]?.getD default

/-- What is known of a node's value. -/
def meaning? (c : Contents) (n : Nat) : Option Meaning := (c.meanings[n]?).join

/-- Says what a node stands for. -/
def setMeaning (c : Contents) (n : Nat) (m : Meaning) : Contents :=
  { c with meanings := c.meanings.setIfInBounds n (some m) }

/-- Puts other entries into a mapping. -/
def setEntries (c : Contents) (n : Nat) (entries : List (Nat × Nat)) : Contents :=
  { c with nodes := c.nodes.setIfInBounds n { c.node n with content := .mapping entries } }

/-- The entries of a mapping. -/
def entries (c : Contents) (n : Nat) : List (Nat × Nat) :=
  match (c.node n).content with
  | .mapping entries => entries
  | _ => []

/-! ## Scalars -/

/-- The text of a scalar. A mapping with a key `=` has the text of that key's value. -/
def scalarText (c : Contents) : Nat → Nat → Except Failure String
  | 0, n => valueError (.noScalar (c.node n).content.name) (c.node n).start
  | fuel + 1, n =>
    let node := c.node n
    match node.content with
    | .scalar text => .ok text
    | .mapping entries =>
      match entries.find? fun e => (c.node e.1).tag == valueTag with
      | some (_, v) => scalarText c fuel v
      | none => valueError (.noScalar node.content.name) node.start
    | .sequence _ => valueError (.noScalar node.content.name) node.start

/-- A fault in a scalar. Bytes that cannot be read are reported with their place. -/
def scalarFault {α : Type} (fault : ScalarFault) (mark : Mark) : Except Failure α :=
  match fault with
  | .notAscii message => valueError (.notAscii message) mark
  | .notBase64 f => valueError (.notBase64 f.message) mark
  | fault => .error (.scalar fault)

/-- The tags of scalars, each with how its texts are read. -/
def scalarTags : List (String × (String → Except ScalarFault Value)) :=
  [(standardTag "null", fun _ => .ok .null),
    (standardTag "bool", fun s => (truthOf s).map .bool),
    (standardTag "int", fun s => (integerOf s).map .int),
    (standardTag "float", fun s => (floatOf s).map .float),
    (standardTag "binary", fun s => (bytesOf s).map .bytes),
    (standardTag "timestamp", momentOf),
    (textTag, fun s => .ok (.text s))]

/-! ## Collections -/

/-- The tags of collections, each with what its nodes stand for as long as they are empty. -/
def collectionTags : List (String × Meaning) :=
  [(sequenceTag, .list []), (standardTag "omap", .pairs []), (standardTag "pairs", .pairs []),
    (standardTag "set", .set []), (mappingTag, .dict [])]

/-- Meets a node: reads a scalar, and puts a collection on the list of those to be filled. -/
def meet (c : Contents) (n : Nat) : Except Failure Contents :=
  if (c.meaning? n).isSome then .ok c
  else
    let node := c.node n
    match collectionTags.find? fun t => t.1 == node.tag with
    | some (_, empty) => .ok { c.setMeaning n empty with pending := c.pending ++ [n] }
    | none =>
      match scalarTags.find? fun t => t.1 == node.tag with
      | none => valueError (.unknownTag node.tag) node.start
      | some (_, read) => do
        let text ← c.scalarText (c.nodes.size + 1) n
        match read text with
        | .ok v => pure (c.setMeaning n (.scalar v))
        | .error fault => scalarFault fault node.start

/-- Meets nodes in order. -/
def meetAll (c : Contents) (ns : List Nat) : Except Failure Contents := ns.foldlM meet c

/-- Moves the entries of merged mappings into a mapping, in front of its own, so that its own count.
Of several mappings in one list the first counts.

`index` goes through the entries; `merged` holds those found so far. A merge key is taken away when
it is met, so a mapping that merges itself comes to an end. -/
def flatten (n : Nat) : Nat → Nat → List (Nat × Nat) → Contents → Except Failure Contents
  | 0, _, merged, c => .ok (c.setEntries n (merged ++ c.entries n))
  | fuel + 1, index, merged, c =>
    match (c.entries n)[index]? with
    | none => .ok (c.setEntries n (merged ++ c.entries n))
    | some (key, value) =>
      let tag := (c.node key).tag
      if tag == mergeTag then do
        let c := c.setEntries n ((c.entries n).eraseIdx index)
        match (c.node value).content with
        | .mapping _ => do
          let c ← flatten value fuel 0 [] c
          flatten n fuel index (merged ++ c.entries value) c
        | .sequence items => do
          let (c, found) ← items.foldlM (fun (acc : Contents × List (List (Nat × Nat))) item => do
            let (c, found) := acc
            match (c.node item).content with
            | .mapping _ => do
              let c ← flatten item fuel 0 [] c
              pure (c, c.entries item :: found)
            | content =>
              valueError (.noMergeMapping content.name) (c.node item).start (some .mapping)
                (some (c.node n).start)) (c, [])
          flatten n fuel index (merged ++ found.flatten) c
        | content =>
          valueError (.noMerge content.name) (c.node value).start (some .mapping)
            (some (c.node n).start)
      else if tag == valueTag then
        let plain := { c.node key with tag := textTag }
        flatten n fuel (index + 1) merged { c with nodes := c.nodes.setIfInBounds key plain }
      else flatten n fuel (index + 1) merged c

/-- A bound for the entries that are met while a mapping is flattened. -/
def flattenFuel (c : Contents) : Nat :=
  let counts := c.nodes.map fun node => match node.content with
    | .scalar _ => 1
    | .sequence items => items.length + 1
    | .mapping entries => entries.length + 1
  (counts.foldl (· + ·) 1) * (c.nodes.size + 1)

/-- The value of a key. -/
def key? (c : Contents) (n : Nat) : Option Value :=
  match c.meaning? n with
  | some (.scalar v) => some v
  | _ => none

/-- The keys of a mapping with the nodes of their values. -/
def keyed (c : Contents) (n : Nat) : Except Failure (Contents × List (Value × Nat)) := do
  let node := c.node n
  match node.content with
  | .mapping _ => do
    let c ← flatten n c.flattenFuel 0 [] c
    (c.entries n).foldlM (fun (acc : Contents × List (Value × Nat)) e => do
      let c ← acc.1.meet e.1
      match c.key? e.1 with
      | none =>
        valueError .unhashableKey (c.node e.1).start (some .mapping) (some node.start)
      | some key => do
        let c ← c.meet e.2
        pure (c, acc.2 ++ [(key, e.2)])) (c, [])
  | content => valueError (.noMapping content.name) node.start

/-- The entries of a list of mappings with one entry each. -/
def paired (c : Contents) (n : Nat) (activity : Activity) :
    Except Failure (Contents × List (Nat × Nat)) := do
  let node := c.node n
  let since := some node.start
  match node.content with
  | .sequence items =>
    items.foldlM (fun (acc : Contents × List (Nat × Nat)) item => do
      let (c, found) := acc
      let start := (c.node item).start
      match (c.node item).content with
      | .mapping [(key, value)] => do
        let c ← c.meetAll [key, value]
        pure (c, found ++ [(key, value)])
      | .mapping entries =>
        valueError (.severalItems entries.length) start (some activity) since
      | content =>
        valueError (.noSingleMapping content.name) start (some activity) since) (c, [])
  | content => valueError (.noOrderedMap content.name) node.start (some activity) since

/-- Fills a collection. -/
def fill (c : Contents) (n : Nat) : Except Failure Contents := do
  let node := c.node n
  match c.meaning? n with
  | some (.list _) =>
    match node.content with
    | .sequence items => do
      let c ← c.meetAll items
      pure (c.setMeaning n (.list items))
    | content => valueError (.noSequence content.name) node.start
  | some (.pairs _) => do
    let activity := if node.tag == standardTag "omap" then Activity.orderedMap else .pairList
    let (c, found) ← c.paired n activity
    pure (c.setMeaning n (.pairs found))
  | some (.set _) => do
    let (c, found) ← c.keyed n
    let items := Value.ofEntries (found.map fun e => (e.1, .null))
    pure (c.setMeaning n (.set (items.map (·.1))))
  | some (.dict _) => do
    let (c, found) ← c.keyed n
    pure (c.setMeaning n (.dict found))
  | _ => pure c

/-- Fills the collections in the order in which they were met. Each is met once. -/
def fillAll : Nat → Contents → Except Failure Contents
  | 0, c => .ok c
  | fuel + 1, c =>
    match c.pending with
    | [] => .ok c
    | n :: rest => do fillAll fuel (← { c with pending := rest }.fill n)

/-- What the nodes of a graph stand for. -/
def ofNodes (nodes : Array Node) (root : Nat) : Except Failure Contents := do
  let c : Contents := { nodes, meanings := nodes.map fun _ => none }
  fillAll (nodes.size + 1) (← c.meet root)

/-! ## Values -/

/-- The kind of container that a node is. -/
def container : Meaning → Container
  | .set _ => .set
  | .dict _ => .dict
  | _ => .list

/-- The value of a node. `path` holds the collections around it, each of them once, so the number of
nodes bounds its length. -/
def unfold (c : Contents) : Nat → List Nat → Nat → Value
  | 0, _, _ => .null
  | fuel + 1, path, n =>
    match c.meaning? n with
    | none => .null
    | some (.scalar v) => v
    | some m =>
      if path.contains n then .again (container m)
      else
        let value (k : Nat) : Value := unfold c fuel (n :: path) k
        match m with
        | .scalar v => v
        | .list items => .list (items.map value)
        | .pairs entries => .list (entries.map fun e => .pair (value e.1) (value e.2))
        | .set items => .set items
        | .dict entries => .dict (Value.ofEntries (entries.map fun e => (e.1, value e.2)))

/-- The value of a node. -/
def value (c : Contents) (n : Nat) : Value := c.unfold (c.nodes.size + 1) [] n

/-- The items of a list, each a value of its own. -/
def items (c : Contents) (n : Nat) : List Value :=
  match c.meaning? n with
  | some (.list items) => items.map c.value
  | some (.pairs entries) => entries.map fun e => .pair (c.value e.1) (c.value e.2)
  | _ => []

end Contents

/-! ## Texts -/

/-- A character that may stand in a text. -/
def isPrintable (c : Char) : Bool :=
  let n := c.toNat
  n == 0x09 || n == 0x0A || n == 0x0D || (0x20 ≤ n && n ≤ 0x7E) || n == 0x85 ||
    (0xA0 ≤ n && n ≤ 0xD7FF) || (0xE000 ≤ n && n ≤ 0xFFFD) || 0x10000 ≤ n

/-- Refuses a text with a character that may not stand in it. -/
def checkPrintable (text : List Char) : Except Failure Unit :=
  let before := text.takeWhile isPrintable
  match text.drop before.length with
  | [] => .ok ()
  | c :: _ =>
    .error (.malformed {
      phase := .characters, problem := .unprintable c, mark := { index := before.length } })

/-- A document: its contents and its first node. -/
structure Document where
  contents : Contents
  root : Nat

/-- Reads the document of a text, if there is one. -/
def read (text : List Char) : Except Failure (Option Document) := do
  checkPrintable text
  let (root, nodes) ← (Graph.ofText? text).mapError Failure.ofScalar
  match root with
  | none => pure none
  | some root => do
    let contents ← Contents.ofNodes nodes root
    pure (some ⟨contents, root⟩)

/-- The value of a document. -/
def Document.value (d : Document) : Value := d.contents.value d.root

end RoleAudit.Yaml
