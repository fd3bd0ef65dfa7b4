import RoleAudit.Proofs.Policy.Alike
import RoleAudit.Source.Skeleton

/-!
# Sources that differ in what is not read

The rows of a source depend on the skeleton of its tree only. So comments may come and go, and parts
of a member may be replaced that are neither its modifiers nor its name; so may parts of a type at the
top that are not its body either.

There is one place in a tree that a comment must stay out of. The text of a string literal is read as
a whole, and where the literal has an expression inside it, the comments in the expression are part of
the text. That matters for those literals that a description or a list of roles has as its argument,
or in an array that is (`Tree.quotations`).

* `Commented`, `Retouched`: trees that differ in comments, and in parts that may be replaced.
* `declarations_alike`: the declarations of such trees are read alike.
* `rows_retouched`: they have the same rows.
* `rows_quoting`: trees that differ by a comment inside a literal may have different rows.
-/

namespace RoleAudit.Source

open RoleAudit.Text

/-! ## Trees that differ -/

/-- Comments come and go in a row of nodes, and the other nodes correspond to each other. -/
inductive Among (R : Tree → Tree → Prop) : List Tree → List Tree → Prop
  | nil : Among R [] []
  | pair {t t' : Tree} {ts ts' : List Tree} (node : R t t') (rest : Among R ts ts') :
    Among R (t :: ts) (t' :: ts')
  | inserted {c : Tree} {ts ts' : List Tree} (comment : c.kind = .comment) (free : c.field = none)
    (rest : Among R ts ts') : Among R ts (c :: ts')
  | removed {c : Tree} {ts ts' : List Tree} (comment : c.kind = .comment) (free : c.field = none)
    (rest : Among R ts ts') : Among R (c :: ts) ts'

/-- A node with other parts, and perhaps in another place. The text of a name is the same. -/
inductive Reworked (R : Tree → Tree → Prop) : Tree → Tree → Prop
  | leaf {kind : Kind} {field : Option Field} {p p' : Point} {missing : Bool}
    {gap gap' text : List Glyph} :
    Reworked R (.leaf kind field p missing gap text) (.leaf kind field p' missing gap' text)
  | node {kind : Kind} {field : Option Field} {p p' : Point} {flawed flawed' : Bool}
    {ts ts' : List Tree} (parts : Among R ts ts')
    (name : field = some .name → Tree.textOfFirst ts = Tree.textOfFirst ts') :
    Reworked R (.node kind field p flawed ts) (.node kind field p' flawed' ts')

/-- Comments come and go anywhere in a tree. -/
inductive Commented : Tree → Tree → Prop
  | intro {t t' : Tree} (h : Reworked Commented t t') : Commented t t'

/-- The text of a string literal. -/
def Tree.literal? : Tree → Option (List Glyph)
  | .leaf .. => none
  | .node kind field p flawed ts =>
    if kind == .construct .stringLiteral then some (Tree.node kind field p flawed ts).text else none

/-- The string literals of a value: the one that it is, or those directly in an array. -/
def Tree.quoted : Tree → List (List Glyph)
  | .leaf .. => []
  | .node kind field p flawed ts =>
    if kind == .construct .stringLiteral then [(Tree.node kind field p flawed ts).text]
    else if kind == .construct .elementArray then
      (Tree.node kind field p flawed ts).parts.filterMap Tree.literal?
    else []

/-- The string literals that the arguments of a tag are, or list. -/
def Tree.quotations (t : Tree) : List (List Glyph) :=
  match t.child? .arguments with
  | none => []
  | some arguments => arguments.parts.flatMap Tree.quoted

/-- The name of a tag, without what qualifies it. -/
def Tree.tagName (t : Tree) : String := simpleName (textOf (t.child? .name))

/-- Comments come and go in a tag or another modifier, and what a tag quotes is the same if its
literals are read. -/
structure Remarked (t t' : Tree) : Prop where
  commented : Commented t t'
  quotations : t.tagName ∈ literalTags → t.quotations = t'.quotations

/-- A node of the same kind in the same role; a name is the same name. -/
structure Akin (t t' : Tree) : Prop where
  kind : t.kind = t'.kind
  field : t.field = t'.field
  name : t.field = some .name → t.text = t'.text

/-- A part of a member: only comments come and go in its modifiers, and every other part but its name
may be replaced. -/
inductive MemberPart : Tree → Tree → Prop
  | modifiers {t t' : Tree} (kind : t.kind = .construct .modifiers) (h : Reworked Remarked t t') :
    MemberPart t t'
  | other {t t' : Tree} (kind : t.kind ≠ .construct .modifiers) (h : Akin t t') : MemberPart t t'

/-- A part of a type at the top: the same, and the members in its body are retouched. -/
inductive TypePart : Tree → Tree → Prop
  | modifiers {t t' : Tree} (kind : t.kind = .construct .modifiers) (field : t.field ≠ some .body)
    (h : Reworked Remarked t t') : TypePart t t'
  | body {t t' : Tree} (kind : t.kind ≠ .construct .modifiers) (field : t.field = some .body)
    (h : Reworked (Reworked MemberPart) t t') : TypePart t t'
  | other {t t' : Tree} (kind : t.kind ≠ .construct .modifiers) (field : t.field ≠ some .body)
    (h : Akin t t') : TypePart t t'

/-- Sources that differ in comments, and in parts of members and types that may be replaced. -/
def Retouched (t t' : Tree) : Prop := Reworked (Reworked TypePart) t t'

/-! ## Nodes that correspond -/

/-- Nodes that correspond are of the same kind in the same role, and names are the same. -/
def Faithful (R : Tree → Tree → Prop) : Prop := ∀ {t t' : Tree}, R t t' → Akin t t'

section

variable {R : Tree → Tree → Prop}

lemma faithful_reworked : Faithful (Reworked R) := by
  intro t t' h
  cases h with
  | leaf => exact ⟨rfl, rfl, fun _ => rfl⟩
  | node parts name => exact ⟨rfl, rfl, name⟩

lemma faithful_commented : Faithful Commented := by
  rintro t t' ⟨h⟩
  exact faithful_reworked h

lemma faithful_remarked : Faithful Remarked := fun h => faithful_commented h.commented

lemma faithful_memberPart : Faithful MemberPart := by
  intro t t' h
  cases h with
  | modifiers kind h => exact faithful_reworked h
  | other kind h => exact h

lemma faithful_typePart : Faithful TypePart := by
  intro t t' h
  cases h with
  | modifiers kind field h => exact faithful_reworked h
  | body kind field h => exact faithful_reworked h
  | other kind field h => exact h

lemma Reworked.children {t t' : Tree} (h : Reworked R t t') : Among R t.children t'.children := by
  cases h with
  | leaf => exact .nil
  | node parts name => exact parts

/-! ## Comments among nodes -/

variable {ts ts' : List Tree}

/-- What is taken from the nodes of a row corresponds, if nothing is taken from a comment. -/
lemma Among.filterMap {α : Type} {S : α → α → Prop} {g : Tree → Option α}
    (hR : ∀ {t t'}, R t t' → Option.Rel S (g t) (g t'))
    (hcomment : ∀ c : Tree, c.kind = .comment → c.field = none → g c = none)
    (h : Among R ts ts') : List.Forall₂ S (ts.filterMap g) (ts'.filterMap g) := by
  induction h with
  | nil => exact .nil
  | @pair t t' ts ts' node rest ih =>
    rw [List.filterMap_cons, List.filterMap_cons]
    have hnode := hR node
    generalize g t = a, g t' = b at hnode
    cases hnode with
    | some hab => exact .cons hab ih
    | none => exact ih
  | inserted comment free rest ih => rwa [List.filterMap_cons_none (hcomment _ comment free)]
  | removed comment free rest ih => rwa [List.filterMap_cons_none (hcomment _ comment free)]

/-- The nodes of a row with a property correspond, if no comment has it. -/
lemma Among.filter {p : Tree → Bool} (hR : ∀ {t t'}, R t t' → p t = p t')
    (hcomment : ∀ c : Tree, c.kind = .comment → c.field = none → p c = false)
    (h : Among R ts ts') :
    List.Forall₂ (fun t t' => R t t' ∧ p t = true) (ts.filter p) (ts'.filter p) := by
  have hguard : List.filterMap (Option.guard fun t => p t) = List.filter p :=
    List.filterMap_eq_filter
  rw [← hguard]
  refine h.filterMap ?_ ?_
  · intro t t' ht
    simp only [Option.guard, ← hR ht]
    split
    · next hp => exact .some ⟨ht, hp⟩
    · exact .none
  · intro c hkind hfield
    exact Option.guard_eq_none_iff.2 (by simp [hcomment c hkind hfield])

/-- The nodes of a row under a label correspond. -/
lemma Among.find? (hR : Faithful R) (h : Among R ts ts') (f : Field) :
    Option.Rel (fun t t' => R t t' ∧ t.field = some f)
      (ts.find? fun c => c.field == some f) (ts'.find? fun c => c.field == some f) := by
  have hfilter := h.filter (p := fun c => c.field == some f)
    (fun ht => by rw [(hR ht).field]) (fun c _ hfree => by rw [hfree]; rfl)
  rw [← List.head?_filter, ← List.head?_filter]
  generalize ts.filter _ = us, ts'.filter _ = us' at hfilter
  cases hfilter with
  | nil => exact .none
  | cons hhead _ => exact .some ⟨hhead.1, by simpa using hhead.2⟩

/-- The parts that are neither comments nor mere words and signs correspond. -/
lemma Reworked.parts (hR : Faithful R) {t t' : Tree} (h : Reworked R t t') :
    List.Forall₂ R t.parts t'.parts := by
  refine List.Forall₂.imp (fun _ _ hboth => hboth.1) (h.children.filter ?_ ?_)
  · intro u u' hu
    simp only [Tree.isNamed, Tree.isComment, (hR hu).kind]
  · intro c hkind _
    simp [Tree.isComment, hkind]

lemma Reworked.child? (hR : Faithful R) {t t' : Tree} (h : Reworked R t t') (f : Field) :
    Option.Rel (fun u u' => R u u' ∧ u.field = some f) (t.child? f) (t'.child? f) :=
  h.children.find? hR f

/-- The name is the same. -/
lemma Reworked.textOf_name (hR : Faithful R) {t t' : Tree} (h : Reworked R t t') :
    textOf (t.child? .name) = textOf (t'.child? .name) := by
  have hname := h.child? hR .name
  generalize t.child? .name = u, t'.child? .name = u' at hname
  cases hname with
  | none => rfl
  | some hu => exact congrArg Glyph.render ((hR hu.1).name hu.2)

end

/-! ## Tags -/

/-- What a literal's text stands for. -/
def contentOf (text : List Glyph) : String := literalContent (Glyph.render text)

lemma literal?_tagValue (v : Tree) : (tagValue v).literal? = v.literal?.map contentOf := by
  cases v with
  | leaf => simp only [tagValue, Tree.literal?, TagValue.literal?, Option.map_none]
  | node kind field p flawed ts =>
    unfold tagValue Tree.literal?
    dsimp only
    split
    · rfl
    · split <;> rfl

lemma tagValues_eq (ts : List Tree) :
    tagValues ts = (ts.filter fun t => t.isNamed && !t.isComment).map tagValue := by
  induction ts with
  | nil => simp only [tagValues, List.filter_nil, List.map_nil]
  | cons t ts ih =>
    unfold tagValues
    rw [ih, List.filter_cons]
    split <;> rfl

/-- The literals of a value are those that it quotes. -/
lemma literals_tagValue (v : Tree) : (tagValue v).literals = (v.quoted.map contentOf).toFinset := by
  cases v with
  | leaf =>
    simp only [tagValue, Tree.quoted, TagValue.literals, List.map_nil, List.toFinset_nil]
  | node kind field p flawed ts =>
    unfold tagValue Tree.quoted
    dsimp only
    split
    · rfl
    split
    · have helements : (tagValues ts).filterMap TagValue.literal? =
          ((ts.filter fun t => t.isNamed && !t.isComment).filterMap Tree.literal?).map contentOf := by
        rw [tagValues_eq, List.filterMap_map, List.map_filterMap]
        exact List.filterMap_congr fun v _ => literal?_tagValue v
      exact congrArg List.toFinset helements
    · rfl

/-- The single argument of a tag, if it has arguments and just one without a key. -/
def Tree.argument? (t : Tree) : Option Tree := (t.child? .arguments).bind singleArgument?

/-- The tag of a node, by its name and its single argument. -/
lemma tagOf?_map (t : Tree) :
    (tagOf? t).map (·.1) =
      if t.kind == .construct .markerTag then some ⟨t.tagName, none⟩
      else if t.kind == .construct .tag then some ⟨t.tagName, t.argument?.map tagValue⟩
      else none := by
  unfold tagOf? Tree.argument? Tree.tagName
  dsimp only
  split
  · rfl
  split
  · rcases t.child? .arguments with _ | a
    · rfl
    · rw [Option.bind_some]
      dsimp only
      rcases singleArgument? a with _ | v <;> rfl
  · rfl

/-- What a tag quotes is what its single argument does. -/
lemma quotations_of_argument? {t v : Tree} (h : t.argument? = some v) :
    t.quotations = v.quoted := by
  unfold Tree.argument? at h
  obtain ⟨a, ha, hv⟩ := Option.bind_eq_some_iff.1 h
  have hparts : a.parts = [v] := by
    unfold singleArgument? at hv
    split at hv
    · next u hu =>
      split at hv
      · cases hv
      · rw [hu, Option.some.inj hv]
    · cases hv
  unfold Tree.quotations
  rw [ha]
  dsimp only
  rw [hparts, List.flatMap_singleton]

/-- Arguments that differ in comments have corresponding single arguments, if any. -/
lemma Commented.singleArgument? {a a' : Tree} (h : Commented a a') :
    Option.Rel Commented (singleArgument? a) (singleArgument? a') := by
  obtain ⟨h⟩ := h
  have hparts := h.parts faithful_commented
  unfold Source.singleArgument?
  generalize a.parts = ts, a'.parts = ts' at hparts
  rcases hparts with _ | ⟨ht, _ | ⟨hu, hrest⟩⟩
  · exact .none
  · dsimp only
    rw [(faithful_commented ht).kind]
    split
    · exact .none
    · exact .some ht
  · exact .none

lemma Commented.argument? {t t' : Tree} (h : Commented t t') :
    Option.Rel Commented t.argument? t'.argument? := by
  obtain ⟨h⟩ := h
  have harguments := h.child? faithful_commented .arguments
  unfold Tree.argument?
  generalize t.child? .arguments = a, t'.child? .arguments = a' at harguments
  cases harguments with
  | none => exact .none
  | some ha => exact ha.1.singleArgument?

/-- **Tags that differ in comments, and not in what they quote, are read alike.** -/
lemma Remarked.tag_alike {t t' : Tree} (h : Remarked t t') :
    Option.Rel Tag.Alike ((tagOf? t).map (·.1)) ((tagOf? t').map (·.1)) := by
  obtain ⟨hcommented, hquotations⟩ := h
  obtain ⟨hreworked⟩ := hcommented
  have hname : t.tagName = t'.tagName :=
    congrArg simpleName (hreworked.textOf_name faithful_commented)
  rw [hname] at hquotations
  have hargument := (Commented.intro hreworked).argument?
  rw [tagOf?_map, tagOf?_map, (faithful_reworked hreworked).kind, hname]
  split
  · exact .some ⟨rfl, fun _ => rfl⟩
  split
  · refine .some ⟨rfl, fun hread => ?_⟩
    cases hv : t.argument? with
    | none =>
      rw [hv] at hargument
      generalize t'.argument? = v' at hargument
      cases hargument
      rfl
    | some v =>
      rw [hv] at hargument
      cases hv' : t'.argument? with
      | none =>
        rw [hv'] at hargument
        cases hargument
      | some v' =>
        change (tagValue v).literals = (tagValue v').literals
        rw [literals_tagValue, literals_tagValue, ← quotations_of_argument? hv,
          ← quotations_of_argument? hv', hquotations hread]
  · exact .none

/-! ## Declarations -/

/-- A node with the modifiers of a member or a type. -/
def Marked (R : Tree → Tree → Prop) : Prop :=
  ∀ {t t' : Tree}, R t t' → t.kind = .construct .modifiers → Reworked Remarked t t'

lemma marked_memberPart : Marked MemberPart := by
  intro t t' h hkind
  cases h with
  | modifiers kind h => exact h
  | other kind h => exact absurd hkind kind

lemma marked_typePart : Marked TypePart := by
  intro t t' h hkind
  cases h with
  | modifiers kind field h => exact h
  | body kind field h => exact absurd hkind kind
  | other kind field h => exact absurd hkind kind

section

variable {R : Tree → Tree → Prop} (hR : Faithful R) (hmarked : Marked R) {t t' : Tree}
  (h : Reworked R t t')

include hR hmarked h

/-- The modifiers of a node differ in comments only. -/
lemma Reworked.modifiers :
    List.Forall₂ (Reworked Remarked)
      (t.children.filter fun c => c.kind == .construct .modifiers)
      (t'.children.filter fun c => c.kind == .construct .modifiers) := by
  refine List.Forall₂.imp ?_ (h.children.filter ?_ ?_)
  · rintro u u' ⟨hu, hkind⟩
    exact hmarked hu (by simpa using hkind)
  · intro u u' hu
    rw [(hR hu).kind]
  · intro c hcomment _
    rw [hcomment]
    rfl

lemma Reworked.keywords : keywords t = keywords t' := by
  unfold Source.keywords modifierNodes
  rw [List.filterMap_flatMap, List.filterMap_flatMap, ← List.forall₂_eq_eq_eq]
  refine List.rel_flatMap (h.modifiers hR hmarked) ?_
  intro u u' hu
  refine hu.children.filterMap ?_ ?_
  · intro v v' hv
    unfold keyword?
    rw [(faithful_remarked hv).kind]
    split
    · exact .some rfl
    · exact .none
  · intro c hcomment _
    unfold keyword?
    rw [hcomment]

lemma Reworked.tagsOf : List.Forall₂ Tag.Alike (tagsOf t) (tagsOf t') := by
  unfold Source.tagsOf modifierNodes
  rw [List.filterMap_flatMap, List.filterMap_flatMap]
  refine List.rel_flatMap (h.modifiers hR hmarked) ?_
  intro u u' hu
  refine hu.children.filterMap (fun hv => hv.tag_alike) ?_
  intro c hcomment _
  rw [tagOf?_map, hcomment]
  rfl

end

lemma typeKind?_congr {t t' : Tree} (h : t.kind = t'.kind) : typeKind? t = typeKind? t' := by
  unfold typeKind?
  rw [h]

lemma memberKind_congr {t t' : Tree} (h : t.kind = t'.kind) : memberKind t = memberKind t' := by
  unfold memberKind
  rw [h, typeKind?_congr h]

/-- Members that are retouched are read alike. -/
lemma memberOf_alike {t t' : Tree} (h : Reworked MemberPart t t') :
    (memberOf t).Alike (memberOf t') where
  kind := memberKind_congr (faithful_reworked h).kind
  name := h.textOf_name faithful_memberPart
  modifiers := h.keywords faithful_memberPart marked_memberPart
  tags := h.tagsOf faithful_memberPart marked_memberPart

/-- The members of types that are retouched correspond. -/
lemma memberNodes_rel {t t' : Tree} (h : Reworked TypePart t t') :
    List.Forall₂ (Reworked MemberPart) (memberNodes t) (memberNodes t') := by
  have hbody := h.child? faithful_typePart .body
  unfold memberNodes
  generalize t.child? .body = b, t'.child? .body = b' at hbody
  cases hbody with
  | none => exact .nil
  | some hboth =>
    obtain ⟨hpart, hfield⟩ := hboth
    cases hpart with
    | modifiers kind field h => exact absurd hfield field
    | body kind field h => exact h.parts faithful_reworked
    | other kind field h => exact absurd hfield field

/-- Types that are retouched are read alike. -/
lemma declarationOf?_rel {t t' : Tree} (h : Reworked TypePart t t') :
    Option.Rel Declaration.Alike (declarationOf? t) (declarationOf? t') := by
  unfold declarationOf?
  rw [typeKind?_congr (faithful_reworked h).kind]
  cases typeKind? t' with
  | none => exact .none
  | some kind =>
    refine .some ⟨rfl, h.textOf_name faithful_typePart, h.tagsOf faithful_typePart marked_typePart,
      ?_⟩
    exact List.rel_map (fun _ _ hm => memberOf_alike hm) (memberNodes_rel h)

/-- **The declarations of retouched sources are read alike.** -/
theorem declarations_alike {t t' : Tree} (h : Retouched t t') :
    List.Forall₂ Declaration.Alike (declarations t) (declarations t') := by
  unfold declarations
  rw [List.filterMap_filter, List.filterMap_filter]
  refine (Reworked.children h).filterMap ?_ ?_
  · intro u u' hu
    have hnamed : u.isNamed = u'.isNamed := by
      unfold Tree.isNamed
      rw [(faithful_reworked hu).kind]
    rw [hnamed]
    split
    · exact declarationOf?_rel hu
    · exact .none
  · intro c hcomment _
    have hnone : declarationOf? c = none := by
      unfold declarationOf? typeKind?
      rw [hcomment]
      rfl
    rw [hnone, ite_self]

/-- **Retouched sources have the same rows.** -/
theorem rows_retouched {t t' : Tree} (h : Retouched t t') :
    (declarations t).flatMap Declaration.rows = (declarations t').flatMap Declaration.rows := by
  rw [← List.forall₂_eq_eq_eq]
  refine List.rel_flatMap (declarations_alike h) ?_
  intro d d' hd
  rw [List.forall₂_eq_eq_eq]
  exact hd.rows_eq

/-! ## A source and its retouched forms -/

lemma Among.refl {R : Tree → Tree → Prop} {ts : List Tree} (h : ∀ t ∈ ts, R t t) :
    Among R ts ts := by
  induction ts with
  | nil => exact .nil
  | cons t ts ih =>
    rw [List.forall_mem_cons] at h
    exact .pair h.1 (ih h.2)

/-- No comment need come or go. -/
lemma Commented.refl (t : Tree) : Commented t t := by
  cases t with
  | leaf => exact ⟨.leaf⟩
  | node kind field p flawed ts =>
    refine ⟨.node (.refl fun t ht => ?_) fun _ => rfl⟩
    have := List.sizeOf_lt_of_mem ht
    exact Commented.refl t
termination_by sizeOf t
decreasing_by simp only [Tree.node.sizeOf_spec]; omega

lemma Remarked.refl (t : Tree) : Remarked t t := ⟨.refl t, fun _ => rfl⟩

lemma Akin.refl (t : Tree) : Akin t t := ⟨rfl, rfl, fun _ => rfl⟩

/-- A token. -/
def token (kind : Kind) (s : String) (field : Option Field) : Tree :=
  .leaf kind field Point.start false [] (s.toList.map Glyph.char)

/-- A token with a space in front of it. -/
def Tree.spaced : Tree → Tree
  | leaf kind field p missing _ text => leaf kind field p missing [.char ' '] text
  | t => t

/-- A keyword, a separator or an operator. -/
def sign (s : String) : Tree := token (.token (.fixed s)) s none

/-- The name of the node around it. -/
def naming (s : String) : Tree := token (.token .identifier) s (some .name)

/-- A remark that changes nothing. -/
def remark : Tree := token .comment "/**/" none

/-- A construct with its parts. -/
def built (c : Construct) (field : Option Field) (ts : List Tree) : Tree :=
  .node (.construct c) field Point.start false ts

lemma reworked_built {R : Tree → Tree → Prop} {c : Construct} {field : Option Field}
    {ts ts' : List Tree} (h : Among R ts ts') (hfield : field ≠ some .name) :
    Reworked R (built c field ts) (built c field ts') :=
  .node h fun hname => absurd hname hfield

/-- A string literal with these parts between its quotes. -/
def quoting (ts : List Tree) : Tree :=
  built .stringLiteral none ([sign "\""] ++ ts ++ [sign "\""])

/-- A tag with a description in an array, and remarks. -/
def describing (remarks : List Tree) : Tree :=
  built .tag none
    [sign "@", naming "Description",
      built .tagArguments (some .arguments)
        ([sign "("] ++ remarks ++
          [built .elementArray none
            ([sign "\x7b"] ++ remarks ++
              [quoting [token (.token .fragment) "d" none], sign "\x7d"]), sign ")"])]

/-- A method with a description, remarks, and whatever is in its body. -/
def describedMethod (remarks body : List Tree) : Tree :=
  built .methodDeclaration none
    [built .modifiers none (remarks ++ [describing remarks, sign "public"]),
      built .primitiveType none [(sign "void").spaced], (naming "f").spaced,
      built .formalParameters none [sign "(", sign ")"], built .block (some .body) body]

/-- A source with the method in a stateless class. -/
def describedSource (remarks body : List Tree) : Tree :=
  built .program none
    (remarks ++
      [built .classDeclaration none
        [built .modifiers none (remarks ++ [built .markerTag none [sign "@", naming "Stateless"]]),
          (sign "class").spaced, (naming "A").spaced,
          built .classBody (some .body)
            ([sign "\x7b"] ++ remarks ++ [describedMethod remarks body, sign "\x7d"])]])

lemma remarked_describing : Remarked (describing []) (describing [remark]) := by
  refine ⟨⟨reworked_built (.pair (.refl _) (.pair (.refl _) (.pair ?_ .nil))) nofun⟩, fun _ => rfl⟩
  refine ⟨reworked_built (.pair (.refl _) (.inserted rfl rfl (.pair ?_ ?_))) nofun⟩
  · -- the array
    exact ⟨reworked_built (.pair (.refl _) (.inserted rfl rfl (.refl fun _ _ => .refl _))) nofun⟩
  · exact .refl fun _ _ => .refl _

lemma retouched_describedMethod (body body' : List Tree) :
    Reworked MemberPart (describedMethod [] body) (describedMethod [remark] body') := by
  refine reworked_built (.pair ?_ (.pair ?_ (.pair ?_ (.pair ?_ (.pair ?_ .nil))))) nofun
  · exact .modifiers rfl (reworked_built
      (.inserted rfl rfl (.pair remarked_describing (.pair (.refl _) .nil))) nofun)
  · exact .other nofun (.refl _)
  · exact .other nofun (.refl _)
  · exact .other nofun (.refl _)
  · -- the body of the method
    exact .other nofun ⟨rfl, rfl, nofun⟩

/-- Remarks in a source, and another body of its method, leave its row as it is. -/
theorem rows_retouched_described :
    Retouched (describedSource [] []) (describedSource [remark] [sign ";"]) ∧
      (declarations (describedSource [] [])).flatMap Declaration.rows =
        (declarations (describedSource [remark] [sign ";"])).flatMap Declaration.rows ∧
      (declarations (describedSource [] [])).flatMap Declaration.rows =
        [⟨"A", "f", "[d]", "[]"⟩] := by
  have h : Retouched (describedSource [] []) (describedSource [remark] [sign ";"]) := by
    refine reworked_built (.inserted rfl rfl (.pair ?_ .nil)) nofun
    refine reworked_built (.pair ?_ (.pair ?_ (.pair ?_ (.pair ?_ .nil)))) nofun
    · exact .modifiers rfl nofun (reworked_built (.inserted rfl rfl (.pair (.refl _) .nil)) nofun)
    · exact .other nofun nofun (.refl _)
    · exact .other nofun nofun (.refl _)
    · -- the body of the class
      refine .body nofun rfl (reworked_built ?_ nofun)
      exact .pair .leaf (.inserted rfl rfl
        (.pair (retouched_describedMethod [] [sign ";"]) (.pair .leaf .nil)))
  exact ⟨h, rows_retouched h, by decide +kernel⟩

/-! ## Comments inside a literal -/

/-- A source with a literal that has an object of a nameless class inside, with remarks in the body of
that class. -/
def quotingSource (remarks : List Tree) : Tree :=
  built .program none
    [built .classDeclaration none
      [built .modifiers none
        [built .tag none
          [sign "@", naming "Description",
            built .tagArguments (some .arguments)
              [sign "(",
                quoting
                  [built .interpolation none
                    [sign "\\\x7b",
                      built .objectCreation none
                        [sign "new", (token (.token .identifier) "X" none).spaced,
                          built .argumentList none [sign "(", sign ")"],
                          built .classBody none ([sign "\x7b"] ++ remarks ++ [sign "\x7d"])],
                      sign "\x7d"]],
                sign ")"]]],
        (sign "class").spaced, (naming "A").spaced,
        built .classBody (some .body) [sign "\x7b", sign "\x7d"]]]

/-- **A comment inside a literal shows in the row.** It is part of the text of the literal. -/
theorem rows_quoting :
    Commented (quotingSource []) (quotingSource [remark]) ∧
      (declarations (quotingSource [])).flatMap Declaration.rows =
        [⟨"A", "*", "[\\\x7bnew X()\x7b\x7d\x7d]", "[]"⟩] ∧
      (declarations (quotingSource [remark])).flatMap Declaration.rows =
        [⟨"A", "*", "[\\\x7bnew X()\x7b/**/\x7d\x7d]", "[]"⟩] := by
  refine ⟨?_, by decide +kernel, by decide +kernel⟩
  -- from the top down to the body of the nameless class
  refine ⟨reworked_built (.pair ?_ .nil) nofun⟩
  refine ⟨reworked_built (.pair ?_ (.refl fun _ _ => .refl _)) nofun⟩
  refine ⟨reworked_built (.pair ?_ .nil) nofun⟩
  refine ⟨reworked_built (.pair (.refl _) (.pair (.refl _) (.pair ?_ .nil))) nofun⟩
  refine ⟨reworked_built (.pair (.refl _) (.pair ?_ (.refl fun _ _ => .refl _))) nofun⟩
  refine ⟨reworked_built (.pair (.refl _) (.pair ?_ (.refl fun _ _ => .refl _))) nofun⟩
  refine ⟨reworked_built (.pair (.refl _) (.pair ?_ (.refl fun _ _ => .refl _))) nofun⟩
  refine ⟨reworked_built (.pair (.refl _) (.pair (.refl _) (.pair (.refl _) (.pair ?_ .nil))))
    nofun⟩
  exact ⟨reworked_built (.pair (.refl _) (.inserted rfl rfl (.pair (.refl _) .nil))) nofun⟩

end RoleAudit.Source
