import RoleAudit.Proofs.Source.Recovery

/-!
# Every list of declarations can be written

What can be said of the trees of a list of declarations is worth little if it has none. So a tree is
drawn here for each list in which names are names, literals can stand between quotes, and members
stand where they may: in the body of an interface there are methods, fields and types only, and a
member without a name is an initializer, which has no modifiers.

* `Expressible`: a declaration that can be written.
* `spells_sourceTree`: a tree that such declarations are written as.
* `declarations_recovered`: every tree that they are written as gives them back, but for the names of
  fields.
* `declarations_ne`: the name of a field does not come back, nor what stands behind the constants of
  an enum.
-/

namespace RoleAudit.Source

open RoleAudit.Text

/-! ## What can be written -/

/-- A literal needs quotes around it, an array values in it, and an expression some text. -/
inductive ExpressibleValue : TagValue → Prop
  | literal {content : String}
    (plain : isUnquoted content.toList = true ∨ ¬ HasTripleQuote content) :
    ExpressibleValue (.literal content)
  | array {elements : List TagValue} (each : ∀ v ∈ elements, ExpressibleValue v) :
    ExpressibleValue (.array elements)
  | other {source : String} (full : source ≠ "") : ExpressibleValue (.other source)

structure ExpressibleTag (tag : Tag) : Prop where
  name : isWord tag.name = true
  value : ∀ v ∈ tag.value, ExpressibleValue v

structure ExpressibleMember (m : Member) : Prop where
  name : isWord m.name = true ∨ m.kind = .other ∧ m.name = "" ∧ m.modifiers = [] ∧ m.tags = []
  tags : ∀ tag ∈ m.tags, ExpressibleTag tag

/-- The declaration of a type that can be written. -/
structure Expressible (d : Declaration) : Prop where
  name : isWord d.name = true
  tags : ∀ tag ∈ d.tags, ExpressibleTag tag
  members : ∀ m ∈ d.members, ExpressibleMember m
  interface : d.kind = .interfaceType → ∀ m ∈ d.members, m.kind ∈ [.method, .field, .type]

/-! ## Drawing -/

/-- A word, a sign or another token with a space in front of it. -/
def word (s : String) : Tree := (sign s).spaced

/-- A name with a space in front of it. -/
def named (s : String) : Tree := (naming s).spaced

/-- A text between marks, in one piece. -/
def enclosed (mark : String) (piece : Terminal) (content : String) : Tree :=
  built .stringLiteral none
    (sign mark :: ((if content = "" then [] else [token (.token piece) content none]) ++
      [sign mark]))

mutual

/-- A tree for a value. -/
def valueTree : TagValue → Tree
  | .literal content =>
    if isUnquoted content.toList then enclosed "\"" .fragment content
    else enclosed "\"\"\"" .blockFragment content
  | .array elements =>
    built .elementArray none (sign "\x7b" :: (valueTrees elements ++ [sign "\x7d"]))
  | .other source => token (.token .identifier) source none

/-- Trees for values, with a comma behind each. -/
def valueTrees : List TagValue → List Tree
  | [] => []
  | v :: vs => valueTree v :: sign "," :: valueTrees vs

end

/-- A tree for a tag. -/
def tagTree (tag : Tag) : Tree :=
  match tag.value with
  | none => built .markerTag none [word "@", naming tag.name]
  | some v =>
    built .tag none
      [word "@", naming tag.name,
        built .tagArguments (some .arguments) [sign "(", valueTree v, sign ")"]]

/-- Tags, and behind them keywords. -/
def frontOf (tags : List Tag) (words : List String) : List Modifier :=
  tags.map .inr ++ words.map .inl

/-- A tree for a modifier. -/
def modifierTree : Modifier → Tree
  | .inl keyword => word keyword
  | .inr tag => tagTree tag

/-- A tree for the modifiers of a declaration, if it has any. -/
def frontTrees (front : List Modifier) : List Tree :=
  if front.isEmpty then [] else [built .modifiers none (front.map modifierTree)]

/-- A construct that starts on a line. -/
def builtAt (line : Nat) (c : Construct) (ts : List Tree) : Tree :=
  .node (.construct c) none ⟨line, 1⟩ false ts

/-- A type that some text is a word for. -/
def plainType (s : String) : Tree := built .primitiveType none [word s]

/-- Parameters, of which there are none. -/
def noParameters : Tree := built .formalParameters none [sign "(", sign ")"]

/-- Something between braces. -/
def braced (c : Construct) (ts : List Tree) : Tree :=
  built c (some .body) (word "\x7b" :: (ts ++ [word "\x7d"]))

/-- What kind of construct a member is drawn as, and what stands behind its modifiers. -/
def memberForm (inInterface : Bool) (m : Member) : Construct × List Tree :=
  match m.kind with
  | .method => (.methodDeclaration, [plainType "void", named m.name, noParameters, sign ";"])
  | .constructor =>
    (.constructorDeclaration, [named m.name, noParameters, braced .constructorBody []])
  | .field =>
    (if inInterface then .constantDeclaration else .fieldDeclaration,
      [plainType "int",
        built .variableDeclarator none
          [named m.name, word "=", (token (.token .number) "0" none).spaced], sign ";"])
  | .type => (.classDeclaration, [word "class", named m.name, braced .classBody []])
  | .other =>
    if m.name = "" then (.block, [word "\x7b", word "\x7d"])
    else (.compactConstructor, [named m.name, braced .block []])

/-- A tree for a member. -/
def memberTree (inInterface : Bool) (m : Member) : Tree :=
  builtAt m.line (memberForm inInterface m).1
    (frontTrees (frontOf m.tags m.modifiers) ++ (memberForm inInterface m).2)

/-- What kind of construct a type is drawn as, and what stands behind its modifiers. -/
def typeForm (d : Declaration) : Construct × List Tree :=
  match d.kind with
  | .classType =>
    (.classDeclaration,
      [word "class", named d.name, braced .classBody (d.members.map (memberTree false))])
  | .interfaceType =>
    (.interfaceDeclaration,
      [word "interface", named d.name, braced .interfaceBody (d.members.map (memberTree true))])
  | .other =>
    (.recordDeclaration,
      [word "record", named d.name, noParameters,
        braced .classBody (d.members.map (memberTree false))])

/-- A tree for a type. -/
def typeTree (d : Declaration) : Tree :=
  builtAt d.line (typeForm d).1 (frontTrees (frontOf d.tags []) ++ (typeForm d).2)

/-- A tree for a source. -/
def sourceTree (ds : List Declaration) : Tree := built .program none (ds.map typeTree)

/-! ## Values and tags -/

/-- Silent nodes may stand behind a row. -/
lemma Lineup.append_silent {α : Type} {silent : Tree → Prop} {R : Tree → α → Prop}
    {ts : List Tree} {xs : List α} {u : Tree} (h : Lineup silent R ts xs) (hu : silent u) :
    Lineup silent R (ts ++ [u]) xs := by
  induction h with
  | nil => exact .silent hu .nil
  | silent between rest ih => exact .silent between ih
  | item node rest ih => exact .item node ih

/-- Nodes that are drawn one by one stand for what they were drawn for. -/
lemma lineup_map {α : Type} {silent : Tree → Prop} {R : Tree → α → Prop} {draw : α → Tree}
    {xs : List α} (h : ∀ x ∈ xs, R (draw x) x) : Lineup silent R (xs.map draw) xs := by
  induction xs with
  | nil => exact .nil
  | cons x xs ih =>
    rw [List.forall_mem_cons] at h
    exact .item h.1 (ih h.2)

lemma punctuation_sign (s : String) : Punctuation (sign s) := Or.inr ⟨s, rfl⟩

lemma punctuation_word (s : String) : Punctuation (word s) := Or.inr ⟨s, rfl⟩

lemma encloses_enclosed (mark : String) (piece : Terminal) (content : String) :
    Encloses mark content (enclosed mark piece content).children := by
  refine ⟨sign mark, _, sign mark, rfl, rfl, ?_, rfl, rfl⟩
  split
  · next hempty =>
    rw [hempty]
    rfl
  · change [] ++ Glyph.ofString content ++ [] = _
    rw [List.nil_append, List.append_nil]

lemma lineup_valueTrees {vs : List TagValue} (h : ∀ v ∈ vs, ValueSpells (valueTree v) v) :
    Lineup Punctuation ValueSpells (valueTrees vs) vs := by
  induction vs with
  | nil => exact .nil
  | cons v vs ih =>
    rw [List.forall_mem_cons] at h
    exact .item h.1 (.silent (punctuation_sign _) (ih h.2))

/-- **A value is written as the tree that is drawn for it.** -/
theorem spells_valueTree {v : TagValue} (h : ExpressibleValue v) : ValueSpells (valueTree v) v := by
  induction h with
  | @literal content plain =>
    unfold valueTree
    by_cases hquoted : isUnquoted content.toList = true
    · rw [if_pos hquoted]
      exact .literal hquoted (encloses_enclosed _ _ _)
    · rw [if_neg hquoted]
      exact .block (plain.resolve_left hquoted) (encloses_enclosed _ _ _)
  | array each ih =>
    unfold valueTree
    refine .array (.silent (punctuation_sign _) ?_)
    exact (lineup_valueTrees ih).append_silent (punctuation_sign _)
  | other full =>
    unfold valueTree
    exact .other trivial rfl

/-- The nodes under a label. -/
def under (f : Field) (ts : List Tree) : List Tree := ts.filter fun t => t.field == some f

lemma labelled_of_under {ts : List Tree} {f : Field} {u : Tree} (h : under f ts = [u]) :
    Labelled ts f u := by
  have hmem : ∀ t, t ∈ ts ∧ t.field = some f ↔ t = u := by
    intro t
    have hfilter : t ∈ under f ts ↔ t ∈ ts ∧ (t.field == some f) = true := List.mem_filter
    rw [h, List.mem_singleton, beq_iff_eq] at hfilter
    exact hfilter.symm
  obtain ⟨hu, hfield⟩ := (hmem u).2 rfl
  exact ⟨hu, hfield, fun t ht hlabel => (hmem t).1 ⟨ht, hlabel⟩⟩

lemma lacks_of_under {ts : List Tree} {f : Field} (h : under f ts = []) : Lacks ts f := by
  intro t ht hlabel
  have hmem : t ∈ under f ts := List.mem_filter.2 ⟨ht, by simp [hlabel]⟩
  rw [h] at hmem
  cases hmem

/-- **A tag is written as the tree that is drawn for it.** -/
theorem spells_tagTree {tag : Tag} (h : ExpressibleTag tag) : TagSpells (tagTree tag) tag := by
  obtain ⟨name, value⟩ := tag
  have hname : NameSpells (naming name) name := .simple h.name rfl rfl
  unfold tagTree
  rcases value with _ | v
  · exact .marker rfl (labelled_of_under rfl) hname
  · refine .single rfl (labelled_of_under rfl) hname (labelled_of_under rfl) ?_
    have hvalue := spells_valueTree (h.value v rfl)
    exact .silent (punctuation_sign _) (.item hvalue (.silent (punctuation_sign _) .nil))

/-! ## Modifiers -/

@[simp] lemma wordsOf_frontOf (tags : List Tag) (words : List String) :
    wordsOf (frontOf tags words) = words := by
  unfold wordsOf frontOf
  rw [List.filterMap_append, List.filterMap_map, List.filterMap_map]
  simp [Function.comp_def]

@[simp] lemma marksOf_frontOf (tags : List Tag) (words : List String) :
    marksOf (frontOf tags words) = tags := by
  unfold marksOf frontOf
  rw [List.filterMap_append, List.filterMap_map, List.filterMap_map]
  simp [Function.comp_def]

lemma spells_modifierTree {tags : List Tag} (h : ∀ tag ∈ tags, ExpressibleTag tag)
    (words : List String) :
    ∀ m ∈ frontOf tags words, ModifierSpells (modifierTree m) m := by
  intro m hm
  rcases List.mem_append.1 hm with htag | hword
  · obtain ⟨tag, hmem, rfl⟩ := List.mem_map.1 htag
    exact .tag (spells_tagTree (h tag hmem))
  · obtain ⟨keyword, -, rfl⟩ := List.mem_map.1 hword
    exact .word rfl

/-- **Modifiers are written as the trees that are drawn for them.** -/
theorem spells_frontTrees {front : List Modifier}
    (h : ∀ m ∈ front, ModifierSpells (modifierTree m) m) {rest : List Tree}
    (hrest : (rest.any fun t => t.kind == .construct .modifiers) = false) :
    FrontSpells (frontTrees front ++ rest) front := by
  have hnone : ∀ t ∈ rest, t.kind ≠ .construct .modifiers := by simpa using hrest
  unfold frontTrees
  split
  · next hempty =>
    rw [List.isEmpty_iff.1 hempty]
    exact .bare hnone
  · exact .marked rfl (lineup_map h) hnone

lemma under_frontTrees (f : Field) (front : List Modifier) (rest : List Tree) :
    under f (frontTrees front ++ rest) = under f rest := by
  unfold frontTrees
  split <;> rfl

/-! ## Declarations -/

/-- **A member is written as the tree that is drawn for it.** -/
theorem spells_memberTree {m : Member} (h : ExpressibleMember m) (inInterface : Bool) :
    MemberSpells (memberTree inInterface m) m := by
  obtain ⟨kind, name, words, tags, line⟩ := m
  have hmodifiers := spells_modifierTree h.tags words
  by_cases hnameless : kind = .other ∧ name = ""
  · -- an initializer has no modifiers
    obtain ⟨rfl, rfl⟩ := hnameless
    have hbare : words = [] ∧ tags = [] := by
      rcases h.name with hword | ⟨-, -, hwords, htags⟩
      · cases hword
      · exact ⟨hwords, htags⟩
    obtain ⟨rfl, rfl⟩ := hbare
    exact .nameless .initializer rfl (spells_frontTrees hmodifiers rfl) (lacks_of_under rfl)
  have hspells : MemberSpells (memberTree inInterface ⟨kind, name, words, tags, line⟩)
      ⟨kind, name, wordsOf (frontOf tags words), marksOf (frontOf tags words), line⟩ := by
    cases kind with
    | method =>
      exact .named .method rfl (spells_frontTrees hmodifiers rfl)
        (labelled_of_under (under_frontTrees _ _ _)) rfl
    | constructor =>
      exact .named .constructor rfl (spells_frontTrees hmodifiers rfl)
        (labelled_of_under (under_frontTrees _ _ _)) rfl
    | field =>
      cases inInterface with
      | false =>
        exact .field .field rfl (spells_frontTrees hmodifiers rfl)
          (lacks_of_under (under_frontTrees _ _ _)) (List.mem_append_right _ (.tail _ (.head _))) rfl
          (labelled_of_under rfl) rfl
      | true =>
        exact .field .constant rfl (spells_frontTrees hmodifiers rfl)
          (lacks_of_under (under_frontTrees _ _ _)) (List.mem_append_right _ (.tail _ (.head _))) rfl
          (labelled_of_under rfl) rfl
    | type =>
      exact .named (.type .classType) rfl (spells_frontTrees hmodifiers rfl)
        (labelled_of_under (under_frontTrees _ _ _)) rfl
    | other =>
      have hname : name ≠ "" := fun hempty => hnameless ⟨rfl, hempty⟩
      unfold memberTree memberForm
      dsimp only
      rw [if_neg hname]
      exact .named .compactConstructor rfl (spells_frontTrees hmodifiers rfl)
        (labelled_of_under (under_frontTrees _ _ _)) rfl
  simpa using hspells

/-- The members of a type are written as what is drawn between its braces. -/
lemma lineup_braced {members : List Member} (h : ∀ m ∈ members, ExpressibleMember m)
    (inInterface : Bool) (c : Construct) :
    Lineup Punctuation MemberSpells (braced c (members.map (memberTree inInterface))).children
      members :=
  .silent (punctuation_word _)
    ((lineup_map fun m hm => spells_memberTree (h m hm) inInterface).append_silent
      (punctuation_word _))

/-- **A type is written as the tree that is drawn for it.** -/
theorem spells_typeTree {d : Declaration} (h : Expressible d) : TypeSpells (typeTree d) d := by
  obtain ⟨kind, name, tags, members, line⟩ := d
  have hmodifiers := spells_modifierTree h.tags []
  have hspells : TypeSpells (typeTree ⟨kind, name, tags, members, line⟩)
      ⟨kind, name, marksOf (frontOf tags []), members, line⟩ := by
    cases kind with
    | classType =>
      exact .intro .classType rfl (spells_frontTrees hmodifiers rfl)
        (labelled_of_under (under_frontTrees _ _ _)) rfl
        (labelled_of_under (under_frontTrees _ _ _)) (lineup_braced h.members _ _)
    | interfaceType =>
      exact .intro .interfaceType rfl (spells_frontTrees hmodifiers rfl)
        (labelled_of_under (under_frontTrees _ _ _)) rfl
        (labelled_of_under (under_frontTrees _ _ _)) (lineup_braced h.members _ _)
    | other =>
      exact .intro .record rfl (spells_frontTrees hmodifiers rfl)
        (labelled_of_under (under_frontTrees _ _ _)) rfl
        (labelled_of_under (under_frontTrees _ _ _)) (lineup_braced h.members _ _)
  rwa [marksOf_frontOf] at hspells

/-- **Declarations are written as the tree that is drawn for them.** -/
theorem spells_sourceTree {ds : List Declaration} (h : ∀ d ∈ ds, Expressible d) :
    Spells (sourceTree ds) ds :=
  ⟨rfl, lineup_map fun d hd => spells_typeTree (h d hd)⟩

/-! ## Reading back -/

/-- **Every list of declarations can be written, and comes back from what it was written as**: the
kinds, names, modifiers, tags and values are the same, in the same order. Only fields come back
without their names. -/
theorem declarations_recovered (ds : List Declaration) :
    ((∀ d ∈ ds, Expressible d) → Spells (sourceTree ds) ds) ∧
      ∀ t, Spells t ds → declarations t = ds.map Declaration.recovered :=
  ⟨spells_sourceTree, fun _ => declarations_of_spells⟩

/-- A class for some roles, with a field and a method. -/
def ledger : List Declaration :=
  [{ kind := .classType, name := "Ledger", line := 2
     tags := [⟨"RolesAllowed", some (.array [.literal "clerk", .array [.other "ADMIN"]])⟩]
     members := [{ kind := .field, name := "total", modifiers := ["private"], line := 3 },
       { kind := .method, name := "post", line := 4 }] }]

/-- An array with another one in it, and a remark. -/
def rolesTree : Tree :=
  built .elementArray none
    [sign "\x7b", enclosed "\"" .fragment "clerk", sign ",", remark,
      built .elementArray none
        [sign "\x7b", token (.token .identifier) "ADMIN" none, sign "\x7d"],
      sign "\x7d"]

/-- The tag of the class, with its package. -/
def rolesTag : Tree :=
  built .tag none
    [sign "@",
      built .scopedName (some .name)
        [token (.token .identifier) "security" none, sign ".",
          token (.token .identifier) "RolesAllowed" none],
      built .tagArguments (some .arguments) [sign "(", rolesTree, sign ")"]]

/-- The field of the class. -/
def totalTree : Tree :=
  builtAt 3 .fieldDeclaration
    [built .modifiers none [sign "private"], plainType "int",
      built .variableDeclarator none [named "total"], sign ";"]

/-- The method of the class. -/
def postTree : Tree :=
  builtAt 4 .methodDeclaration
    [plainType "void", named "post", noParameters, braced .block []]

/-- The class, with remarks. -/
def ledgerType : Tree :=
  builtAt 2 .classDeclaration
    [built .modifiers none [rolesTag, remark, word "final"], word "class", named "Ledger",
      built .classBody (some .body) [sign "\x7b", totalTree, remark, postTree, sign "\x7d"]]

/-- A source with the class in a package. -/
def ledgerTree : Tree :=
  built .program none
    [built .packageDeclaration none
        [sign "package", (token (.token .identifier) "books" none).spaced, sign ";"],
      remark, ledgerType]

lemma spells_rolesTag :
    TagSpells rolesTag
      ⟨"RolesAllowed", some (.array [.literal "clerk", .array [.other "ADMIN"]])⟩ := by
  refine .single rfl (labelled_of_under rfl) ?_ (labelled_of_under rfl)
    (.silent (punctuation_sign _) (.item (.array ?_) (.silent (punctuation_sign _) .nil)))
  · -- the qualified name
    have hfront : Tree.HasText (token (.token .identifier) "security" none) "security" := rfl
    have hgap : (token (.token .identifier) "RolesAllowed" none).gap = Glyph.ofString "" := rfl
    exact .qualified (by decide +kernel) hfront rfl rfl rfl hgap rfl
  · refine .silent (punctuation_sign _) (.item ?_ (.silent (punctuation_sign _)
      (.silent (Or.inl rfl) (.item (.array ?_) (.silent (punctuation_sign _) .nil)))))
    · exact .literal (by decide +kernel) (encloses_enclosed _ _ _)
    · exact .silent (punctuation_sign _) (.item (.other trivial rfl)
        (.silent (punctuation_sign _) .nil))

lemma spells_totalTree :
    MemberSpells totalTree
      { kind := .field, name := "total", modifiers := ["private"], line := 3 } := by
  have hfront : FrontSpells totalTree.children [.inl "private"] :=
    .marked rfl (.item (.word rfl) .nil) (by decide)
  exact .field .field rfl hfront (lacks_of_under rfl) (.tail _ (.tail _ (.head _))) rfl
    (labelled_of_under rfl) rfl

lemma spells_postTree : MemberSpells postTree { kind := .method, name := "post", line := 4 } := by
  have hbare : FrontSpells postTree.children [] := .bare (by decide)
  exact .named .method rfl hbare (labelled_of_under rfl) rfl

lemma spells_ledgerTree : Spells ledgerTree ledger := by
  have hfront : FrontSpells ledgerType.children
      [.inr ⟨"RolesAllowed", some (.array [.literal "clerk", .array [.other "ADMIN"]])⟩,
        .inl "final"] :=
    .marked rfl (.item (.tag spells_rolesTag) (.silent rfl (.item (.word rfl) .nil))) (by decide)
  have htype : ∀ d ∈ ledger, TypeSpells ledgerType d := by
    intro d hd
    cases List.mem_singleton.1 hd
    refine .intro .classType rfl hfront (labelled_of_under rfl) rfl (labelled_of_under rfl) ?_
    exact .silent (punctuation_sign _) (.item spells_totalTree (.silent (Or.inl rfl)
      (.item spells_postTree (.silent (punctuation_sign _) .nil))))
  refine ⟨rfl, .silent ?_ (.silent nofun (.item (htype _ (.head _)) .nil))⟩
  -- a package is no type
  intro c kind form
  cases form <;> nofun

lemma expressible_ledger : ∀ d ∈ ledger, Expressible d := by
  intro d hd
  cases List.mem_singleton.1 hd
  have hroles : ExpressibleValue (.array [.literal "clerk", .array [.other "ADMIN"]]) := by
    refine .array (List.forall_mem_cons.2 ⟨.literal (Or.inl (by decide +kernel)), ?_⟩)
    refine List.forall_mem_singleton.2 (.array (List.forall_mem_singleton.2 (.other ?_)))
    decide
  refine ⟨by decide +kernel, List.forall_mem_singleton.2 ⟨by decide +kernel, ?_⟩, ?_, nofun⟩
  · intro v hv
    cases hv
    exact hroles
  · refine List.forall_mem_cons.2 ⟨?_, List.forall_mem_singleton.2 ?_⟩
    · exact ⟨Or.inl (by decide +kernel), nofun⟩
    · exact ⟨Or.inl (by decide +kernel), nofun⟩

/-- The class comes back from the way it was written, but for the name of its field. -/
theorem declarations_recovered_ledger :
    (∀ d ∈ ledger, Expressible d) ∧ Spells (sourceTree ledger) ledger ∧
      Spells ledgerTree ledger ∧ declarations ledgerTree = ledger.map Declaration.recovered :=
  ⟨expressible_ledger, (declarations_recovered ledger).1 expressible_ledger, spells_ledgerTree,
    (declarations_recovered ledger).2 _ spells_ledgerTree⟩

/-! ## What does not come back -/

/-- A class with a field. -/
def counter : List Declaration :=
  [{ kind := .classType, name := "A", line := 1
     members := [{ kind := .field, name := "x", line := 1 }] }]

/-- The field of the class. -/
def counterField : Tree :=
  builtAt 1 .fieldDeclaration
    [plainType "int", built .variableDeclarator none [named "x"], sign ";"]

/-- The class, written out. -/
def counterType : Tree :=
  builtAt 1 .classDeclaration
    [sign "class", named "A",
      built .classBody (some .body) [word "\x7b", counterField, word "\x7d"]]

/-- A source with the class. -/
def counterTree : Tree := built .program none [counterType]

/-- An enum with a constant and a method. -/
def shades : List Declaration :=
  [{ kind := .other, name := "E", line := 1
     members := [{ kind := .other, name := "A", line := 1 }, { name := "f", line := 1 }] }]

/-- A source with the enum. -/
def shadesTree : Tree :=
  built .program none
    [builtAt 1 .enumDeclaration
      [sign "enum", named "E",
        built .enumBody (some .body)
          [word "\x7b", builtAt 1 .enumConstant [named "A"],
            builtAt 1 .enumBodyDeclarations
              [sign ";", builtAt 1 .methodDeclaration
                [plainType "void", named "f", noParameters, sign ";"]],
            word "\x7d"]]]

lemma spells_counterTree : Spells counterTree counter := by
  have hfield : MemberSpells counterField { kind := .field, name := "x", line := 1 } := by
    have hbare : FrontSpells counterField.children [] := .bare (by decide)
    exact .field .field rfl hbare (lacks_of_under rfl) (.tail _ (.head _)) rfl
      (labelled_of_under rfl) rfl
  have htype : ∀ d ∈ counter, TypeSpells counterType d := by
    intro d hd
    cases List.mem_singleton.1 hd
    have hbare : FrontSpells counterType.children [] := .bare (by decide)
    exact .intro .classType rfl hbare (labelled_of_under rfl) rfl (labelled_of_under rfl)
      (.silent (punctuation_word _) (.item hfield (.silent (punctuation_word _) .nil)))
  exact ⟨rfl, .item (htype _ (.head _)) .nil⟩

/-- **The name of a field does not come back**, nor do the members behind the constants of an
enum. -/
theorem declarations_ne :
    Spells counterTree counter ∧ declarations counterTree ≠ counter ∧
      declarations shadesTree ≠ shades := by
  have hnames : ∀ {t : Tree} {ds : List Declaration}, declarations t = ds →
      ((declarations t).flatMap fun d => d.members.map Member.name) =
        ds.flatMap fun d => d.members.map Member.name := by
    rintro t ds rfl
    rfl
  refine ⟨spells_counterTree, fun heq => ?_, fun heq => ?_⟩
  · exact absurd (hnames heq) (by decide +kernel)
  · exact absurd (hnames heq) (by decide +kernel)

end RoleAudit.Source
