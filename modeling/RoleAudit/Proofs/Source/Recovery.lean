import RoleAudit.Proofs.Source.Retouching
import RoleAudit.Proofs.Source.SimpleName
import RoleAudit.Proofs.Source.Spelling

/-!
# Declarations are read back as they were written

Writing declarations as a tree and reading its skeleton gives the same declarations: the quotes of a
literal come off again, a qualified name is cut down to its last part, keywords and tags are told
apart, and everything else that is in the tree is passed over. Only the name of a field is lost.

* `literalContent_quoted`, `literalContent_block`: the content of a literal is between its quotes.
* `NameSpells.tagName`: a name is what is left of a qualified name.
* `tagValue_of_spells`: a value is read back, to any depth of arrays.
* `memberOf_of_spells`, `declarations_of_spells`: so are members and declarations.
* `declarations_eq_of_spells`: where there are no fields, nothing is lost.
-/

namespace RoleAudit

/-- What is read back of a member. A field has no name of its own. -/
def Member.recovered (m : Member) : Member := if m.kind = .field then { m with name := "" } else m

/-- What is read back of a declaration. -/
def Declaration.recovered (d : Declaration) : Declaration :=
  { d with members := d.members.map Member.recovered }

end RoleAudit

namespace RoleAudit.Source

open RoleAudit.Text

/-! ## Rows of nodes -/

section

variable {α β : Type} {silent : Tree → Prop} {R : Tree → α → Prop} {ts : List Tree} {xs : List α}

/-- What is taken from the nodes of a row is what they stand for. -/
lemma Lineup.filterMap {g : Tree → Option β} {h : α → Option β}
    (hsilent : ∀ {t}, silent t → g t = none) (hR : ∀ {t x}, R t x → g t = h x)
    (hts : Lineup silent R ts xs) : ts.filterMap g = xs.filterMap h := by
  induction hts with
  | nil => rfl
  | silent between rest ih => rw [List.filterMap_cons_none (hsilent between), ih]
  | item node rest ih => rw [List.filterMap_cons, List.filterMap_cons, hR node, ih]

/-- The nodes that stand for something are those with a property. -/
lemma Lineup.forall₂_filter {p : Tree → Bool} (hsilent : ∀ {t}, silent t → p t = false)
    (hR : ∀ {t x}, R t x → p t = true) (hts : Lineup silent R ts xs) :
    List.Forall₂ R (ts.filter p) xs := by
  induction hts with
  | nil => exact .nil
  | silent between rest ih =>
    rw [List.filter_cons_of_neg (by simp [hsilent between])]
    exact ih
  | item node rest ih =>
    rw [List.filter_cons_of_pos (hR node)]
    exact .cons node ih

end

lemma not_part_of_punctuation {t : Tree} (h : Punctuation t) :
    (t.isNamed && !t.isComment) = false := by
  unfold Tree.isNamed Tree.isComment
  rcases h with hcomment | ⟨word, hword⟩
  · simp [hcomment]
  · simp [hword]

lemma isPart_of_construct {t : Tree} {c : Construct} (h : t.kind = .construct c) :
    (t.isNamed && !t.isComment) = true := by
  unfold Tree.isNamed Tree.isComment
  simp [h]

/-! ## Nodes under a label -/

lemma Labelled.child? {t u : Tree} {f : Field} (h : Labelled t.children f u) :
    t.child? f = some u := by
  unfold Tree.child?
  rcases hfound : t.children.find? fun c => c.field == some f with _ | v
  · have hno := List.find?_eq_none.1 hfound u h.mem
    rw [h.field] at hno
    exact absurd (beq_self_eq_true _) hno
  · have hlabel : v.field = some f := by simpa using List.find?_some hfound
    rw [hfound, h.single v (List.mem_of_find?_eq_some hfound) hlabel]

lemma Lacks.child? {t : Tree} {f : Field} (h : Lacks t.children f) : t.child? f = none := by
  unfold Tree.child?
  rw [List.find?_eq_none]
  intro c hc hlabel
  exact h c hc (by simpa using hlabel)

/-! ## Texts -/

lemma Tree.HasText.render {t : Tree} {s : String} (h : t.HasText s) : t.render = s := by
  unfold Tree.render
  rw [h, Glyph.render_ofString]

lemma ofString_append (s s' : String) :
    Glyph.ofString (s ++ s') = Glyph.ofString s ++ Glyph.ofString s' := by
  unfold Glyph.ofString
  rw [String.toList_append, List.map_append]

lemma textOfRest_append (ts us : List Tree) :
    Tree.textOfRest (ts ++ us) = Tree.textOfRest ts ++ Tree.textOfRest us := by
  induction ts with
  | nil => rfl
  | cons t ts ih =>
    rw [List.cons_append, Tree.textOfRest, Tree.textOfRest, ih, ← List.append_assoc]

/-- The text between two marks, with the marks. -/
lemma Encloses.hasText {mark content : String} {ts : List Tree} (h : Encloses mark content ts)
    (kind : Kind) (field : Option Field) (p : Point) (flawed : Bool) :
    (Tree.node kind field p flawed ts).HasText (mark ++ content ++ mark) := by
  obtain ⟨opening, middle, closing, rfl, hopening, hmiddle, hgap, hclosing⟩ := h.parts
  unfold Tree.HasText
  rw [Tree.text, Tree.textOfFirst, textOfRest_append, hopening, hmiddle, Tree.textOfRest, hgap,
    hclosing, ofString_append, ofString_append, Tree.textOfRest]
  simp

/-! ## Literals -/

lemma stripEnds_marks (n : Nat) (cs : List Char) :
    stripEnds n (List.replicate n '"' ++ cs ++ List.replicate n '"') = cs := by
  unfold stripEnds
  rw [List.append_assoc, List.drop_left' List.length_replicate]
  have hlength : (List.replicate n '"' ++ (cs ++ List.replicate n '"')).length - 2 * n =
      cs.length := by
    simp only [List.length_append, List.length_replicate]
    omega
  rw [hlength, List.take_left]

lemma isQuotedBy_marks (n : Nat) (cs : List Char) :
    isQuotedBy n (List.replicate n '"' ++ cs ++ List.replicate n '"') = true := by
  have hmarks : ∀ more : List Char, ((List.replicate n '"' ++ more).take n).all (· == '"') = true := by
    intro more
    rw [List.take_left' List.length_replicate]
    simp
  have hreverse : (List.replicate n '"' ++ cs ++ List.replicate n '"').reverse =
      List.replicate n '"' ++ (cs.reverse ++ List.replicate n '"') := by
    simp
  unfold isQuotedBy
  rw [hreverse, hmarks, List.append_assoc, hmarks]
  simp only [List.length_append, List.length_replicate, Bool.and_self, Bool.true_and,
    decide_eq_true_eq]
  omega

/-- A text without quotes that are not escaped does not begin with a quote. -/
lemma ne_quote_of_isUnquoted {c : Char} {cs : List Char} (h : isUnquoted (c :: cs) = true) :
    c ≠ '"' := by
  rintro rfl
  cases cs <;> simp [isUnquoted] at h

/-- **The content of a literal is between its quotes.** -/
theorem literalContent_quoted {content : String} (h : isUnquoted content.toList = true) :
    literalContent ("\"" ++ content ++ "\"") = content := by
  have htext : ("\"" ++ content ++ "\"").toList =
      List.replicate 1 '"' ++ content.toList ++ List.replicate 1 '"' := by
    simp [String.toList_append]
  have hthree : isQuotedBy 3 (List.replicate 1 '"' ++ content.toList ++ List.replicate 1 '"') =
      false := by
    rcases hcs : content.toList with _ | ⟨c, cs⟩
    · decide
    · -- the first character of the content is no quote
      have hc : (c == '"') = false := by
        rw [hcs] at h
        simpa using ne_quote_of_isUnquoted h
      unfold isQuotedBy
      simp [hc]
  unfold literalContent
  dsimp only
  rw [htext, hthree, isQuotedBy_marks, stripEnds_marks, if_neg Bool.false_ne_true, if_pos rfl,
    String.ofList_toList]

/-- **The content of a text block is between its quotes**, whatever it is. -/
theorem literalContent_block (content : String) :
    literalContent ("\"\"\"" ++ content ++ "\"\"\"") = content := by
  have htext : ("\"\"\"" ++ content ++ "\"\"\"").toList =
      List.replicate 3 '"' ++ content.toList ++ List.replicate 3 '"' := by
    simp [String.toList_append]
  unfold literalContent
  dsimp only
  rw [htext, isQuotedBy_marks, stripEnds_marks, if_pos rfl, String.ofList_toList]

/-! ## Names -/

/-- **The name of a tag is the name that was written**, without what qualifies it. -/
theorem NameSpells.simpleName_render {t : Tree} {name : String} (h : NameSpells t name) :
    simpleName t.render = name := by
  cases h with
  | simple word kind text => rw [text.render, simpleName_of_isWord word]
  | @qualified field p flawed qualifier dot last front gap _ word qualifies near divides blank
      space text =>
    have htext : (Tree.node (.construct .scopedName) field p flawed [qualifier, dot, last]).HasText
        (front ++ "." ++ gap ++ name) := by
      unfold Tree.HasText
      simp only [Tree.text, Tree.textOfFirst, Tree.textOfRest, near, space, ofString_append,
        List.nil_append, List.append_nil, List.append_assoc]
      rw [qualifies, divides, text]
    rw [htext.render, simpleName_qualified word blank]

/-! ## Values -/

/-- What stands for a value is a part, and no pair. -/
lemma ValueSpells.isPart {t : Tree} {v : TagValue} (h : ValueSpells t v) :
    (t.isNamed && !t.isComment) = true ∧ t.kind ≠ .construct .elementPair := by
  cases h with
  | literal plain quotes => exact ⟨rfl, nofun⟩
  | block plain quotes => exact ⟨rfl, nofun⟩
  | array lineup => exact ⟨rfl, nofun⟩
  | other kind text =>
    unfold Tree.isNamed Tree.isComment
    rcases hkind : t.kind with c | (_ | _ | _ | _ | _ | _ | _ | _) | _ | _ <;>
      rw [hkind] at kind <;> simp_all [IsOther]

/-- A row of values is read back if its values are. -/
lemma tagValues_of_lineup {ts : List Tree} {vs : List TagValue}
    (h : Lineup Punctuation ValueSpells ts vs)
    (hvalues : ∀ t ∈ ts, ∀ v, ValueSpells t v → tagValue t = v) : tagValues ts = vs := by
  induction h with
  | nil => rw [tagValues]
  | silent between rest ih =>
    rw [List.forall_mem_cons] at hvalues
    rw [tagValues, not_part_of_punctuation between, if_neg Bool.false_ne_true, ih hvalues.2]
  | item node rest ih =>
    rw [List.forall_mem_cons] at hvalues
    rw [tagValues, node.isPart.1, if_pos rfl, hvalues.1 _ node, ih hvalues.2]

/-- **A value is read back**, to any depth of arrays. -/
theorem tagValue_of_spells {t : Tree} {v : TagValue} (h : ValueSpells t v) : tagValue t = v := by
  cases h with
  | @literal field p flawed ts content plain quotes =>
    have htext := (quotes.hasText (.construct .stringLiteral) field p flawed).render
    rw [tagValue, if_pos (by rfl), htext, literalContent_quoted plain]
  | @block field p flawed ts content plain quotes =>
    have htext := (quotes.hasText (.construct .stringLiteral) field p flawed).render
    rw [tagValue, if_pos (by rfl), htext, literalContent_block]
  | @array field p flawed ts elements lineup =>
    -- the elements stand below the tree, and are read back
    have hts := tagValues_of_lineup lineup fun u hu w hw => by
      have := List.sizeOf_lt_of_mem hu
      exact tagValue_of_spells hw
    rw [tagValue, if_neg (by simp), if_pos (by rfl), hts]
  | other kind text =>
    cases t with
    | leaf => rw [tagValue, text.render]
    | node k field p flawed ts =>
      have hliteral : (k == .construct .stringLiteral) = false := by
        rw [beq_eq_false_iff_ne]
        rintro rfl
        exact kind.1 rfl
      have harray : (k == .construct .elementArray) = false := by
        rw [beq_eq_false_iff_ne]
        rintro rfl
        exact kind.2.1 rfl
      rw [tagValue, hliteral, harray, if_neg Bool.false_ne_true, if_neg Bool.false_ne_true,
        text.render]
termination_by sizeOf t
decreasing_by simp only [Tree.node.sizeOf_spec]; omega

/-! ## Tags -/

/-- The single argument of a tag is found. -/
lemma singleArgument?_of_lineup {arguments : Tree} {v : TagValue}
    (h : Lineup Punctuation ValueSpells arguments.children [v]) :
    ∃ u, singleArgument? arguments = some u ∧ tagValue u = v := by
  have hparts : List.Forall₂ ValueSpells arguments.parts [v] :=
    h.forall₂_filter not_part_of_punctuation fun hv => hv.isPart.1
  generalize hus : arguments.parts = us at hparts
  rcases hparts with _ | ⟨hu, hnil⟩
  cases hnil
  next u =>
  refine ⟨u, ?_, tagValue_of_spells hu⟩
  unfold singleArgument?
  rw [hus]
  simp [hu.isPart.2]

/-- Arguments that are no value have no single one. -/
lemma singleArgument?_of_unvalued {arguments : Tree} (h : Unvalued arguments) :
    singleArgument? arguments = none := by
  unfold singleArgument?
  split
  · next u hu =>
    rcases h with hlength | ⟨pair, hpair, hkind⟩
    · rw [hu] at hlength
      exact absurd rfl hlength
    · rw [hu, List.mem_singleton] at hpair
      subst hpair
      simp [hkind]
  · rfl

lemma Labelled.tagName {t u : Tree} {name : String} (h : Labelled t.children .name u)
    (hname : NameSpells u name) : t.tagName = name := by
  unfold Tree.tagName
  rw [h.child?]
  exact hname.simpleName_render

/-- **A tag is read back.** -/
theorem tagOf?_of_spells {t : Tree} {tag : Tag} (h : TagSpells t tag) :
    (tagOf? t).map (·.1) = some tag := by
  rw [tagOf?_map]
  cases h with
  | marker kind label spells => rw [kind, if_pos (by rfl), label.tagName spells]
  | single kind label spells given argument =>
    obtain ⟨v, hv, hvalue⟩ := singleArgument?_of_lineup argument
    rw [kind, if_neg (by simp), if_pos (by rfl), label.tagName spells]
    unfold Tree.argument?
    rw [given.child?, Option.bind_some, hv, Option.map_some, hvalue]
  | unvalued kind label spells given keyed =>
    rw [kind, if_neg (by simp), if_pos (by rfl), label.tagName spells]
    unfold Tree.argument?
    rw [given.child?, Option.bind_some, singleArgument?_of_unvalued keyed, Option.map_none]

/-! ## Modifiers -/

/-- The modifiers in front of a declaration are in the nodes that are looked through. -/
lemma FrontSpells.lineup {t : Tree} {front : List Modifier} (h : FrontSpells t.children front) :
    Lineup Silent ModifierSpells (modifierNodes t) front := by
  have hnone : ∀ ts : List Tree, (∀ u ∈ ts, u.kind ≠ .construct .modifiers) →
      (ts.filter fun c => c.kind == .construct .modifiers) = [] := by
    intro ts hts
    rw [List.filter_eq_nil_iff]
    intro u hu
    simpa using hts u hu
  unfold modifierNodes
  generalize t.children = ts at h
  cases h with
  | bare rest =>
    rw [hnone _ rest]
    exact .nil
  | marked kind modifiers rest =>
    rw [List.filter_cons_of_pos (by simp [kind]), hnone _ rest, List.flatMap_singleton]
    exact modifiers

lemma ModifierSpells.keyword? {t : Tree} {m : Modifier} (h : ModifierSpells t m) :
    Source.keyword? t = m.getLeft? := by
  unfold Source.keyword?
  cases h with
  | word kind => rw [kind]; rfl
  | tag spells => cases spells <;> rw [‹t.kind = _›] <;> rfl

lemma ModifierSpells.tag? {t : Tree} {m : Modifier} (h : ModifierSpells t m) :
    (tagOf? t).map (·.1) = m.getRight? := by
  cases h with
  | word kind =>
    rw [tagOf?_map, kind]
    rfl
  | tag spells => exact tagOf?_of_spells spells

/-- **The keywords in front of a declaration are read back**, in their order. -/
theorem keywords_of_spells {t : Tree} {front : List Modifier} (h : FrontSpells t.children front) :
    keywords t = wordsOf front := by
  refine h.lineup.filterMap ?_ ModifierSpells.keyword?
  intro u hu
  unfold Source.keyword?
  rw [show u.kind = .comment from hu]

/-- **The tags in front of a declaration are read back**, in their order. -/
theorem tagsOf_of_spells {t : Tree} {front : List Modifier} (h : FrontSpells t.children front) :
    tagsOf t = marksOf front := by
  refine h.lineup.filterMap ?_ ModifierSpells.tag?
  intro u hu
  rw [tagOf?_map, show u.kind = .comment from hu]
  rfl

/-! ## Declarations -/

lemma TypeForm.typeKind? {t : Tree} {c : Construct} {kind : TypeKind} (h : TypeForm c kind)
    (ht : t.kind = .construct c) : Source.typeKind? t = some kind := by
  unfold Source.typeKind?
  rw [ht]
  cases h <;> rfl

lemma MemberForm.memberKind {t : Tree} {c : Construct} {kind : MemberKind} (h : MemberForm c kind)
    (ht : t.kind = .construct c) : Source.memberKind t = kind := by
  cases h with
  | type form =>
    have hsome := form.typeKind? ht
    unfold Source.memberKind
    rw [ht, hsome]
    cases form <;> rfl
  | method => unfold Source.memberKind; rw [ht]
  | constructor => unfold Source.memberKind; rw [ht]
  | enumConstant => unfold Source.memberKind Source.typeKind?; rw [ht]; rfl
  | tagElement => unfold Source.memberKind Source.typeKind?; rw [ht]; rfl
  | compactConstructor => unfold Source.memberKind Source.typeKind?; rw [ht]; rfl

lemma MemberForm.ne_field {c : Construct} {kind : MemberKind} (h : MemberForm c kind) :
    kind ≠ .field := by
  cases h <;> nofun

lemma Labelled.textOf {t u : Tree} {f : Field} {s : String} (h : Labelled t.children f u)
    (hs : u.HasText s) : Source.textOf (t.child? f) = s := by
  rw [h.child?]
  exact hs.render

/-- **A member is read back**, but for the name of a field. -/
theorem memberOf_of_spells {t : Tree} {m : Member} (h : MemberSpells t m) :
    memberOf t = m.recovered := by
  unfold memberOf Member.recovered
  cases h with
  | named form construct modifiers label text =>
    rw [form.memberKind construct, if_neg form.ne_field, label.textOf text,
      keywords_of_spells modifiers, tagsOf_of_spells modifiers]
  | field form construct modifiers lacks mem declares label text =>
    have hkind : memberKind t = .field := by
      unfold memberKind
      cases form <;> rw [construct]
    rw [hkind, lacks.child?, keywords_of_spells modifiers, tagsOf_of_spells modifiers]
    rfl
  | nameless form construct modifiers lacks =>
    have hkind : memberKind t = .other := by
      unfold memberKind typeKind?
      cases form <;> rw [construct] <;> rfl
    rw [hkind, lacks.child?, keywords_of_spells modifiers, tagsOf_of_spells modifiers]
    rfl

/-- A member is a part of the body around it. -/
lemma MemberSpells.isPart {t : Tree} {m : Member} (h : MemberSpells t m) :
    (t.isNamed && !t.isComment) = true := by
  cases h <;> exact isPart_of_construct ‹_›

/-- The members in the body of a type are read back. -/
lemma memberNodes_of_spells {t body : Tree} {members : List Member}
    (hbody : Labelled t.children .body body)
    (h : Lineup Punctuation MemberSpells body.children members) :
    (memberNodes t).map memberOf = members.map Member.recovered := by
  have hnodes : List.Forall₂ MemberSpells (memberNodes t) members := by
    unfold memberNodes
    rw [hbody.child?]
    exact h.forall₂_filter not_part_of_punctuation MemberSpells.isPart
  rw [← List.forall₂_eq_eq_eq, List.forall₂_map_left_iff, List.forall₂_map_right_iff]
  exact hnodes.imp fun _ _ hm => memberOf_of_spells hm

/-- **A type is read back.** -/
theorem declarationOf?_of_spells {t : Tree} {d : Declaration} (h : TypeSpells t d) :
    declarationOf? t = some d.recovered := by
  cases h with
  | intro form construct modifiers label text holds lineup =>
    unfold declarationOf?
    rw [form.typeKind? construct, Option.map_some, label.textOf text, tagsOf_of_spells modifiers,
      memberNodes_of_spells holds lineup]
    rfl

/-- A bystander declares nothing. -/
lemma declarationOf?_of_bystander {t : Tree} (h : Bystander t) : declarationOf? t = none := by
  have hnone : typeKind? t = none := by
    unfold typeKind?
    split
    · next hkind => exact absurd hkind (h _ _ .classType)
    · next hkind => exact absurd hkind (h _ _ .interfaceType)
    · next hkind => exact absurd hkind (h _ _ .enum)
    · next hkind => exact absurd hkind (h _ _ .record)
    · next hkind => exact absurd hkind (h _ _ .tagType)
    · rfl
  unfold declarationOf?
  rw [hnone, Option.map_none]

/-- A type has a name of its own among nodes. -/
lemma TypeSpells.isNamed {t : Tree} {d : Declaration} (h : TypeSpells t d) : t.isNamed = true := by
  cases h with
  | intro form construct modifiers label text holds lineup =>
    unfold Tree.isNamed
    rw [construct]

/-- **Declarations are read back**, but for the names of fields: nothing else is lost, nothing is
added, and the order is kept. -/
theorem declarations_of_spells {t : Tree} {ds : List Declaration} (h : Spells t ds) :
    declarations t = ds.map Declaration.recovered := by
  have hrecovered : ds.filterMap (fun d => some d.recovered) = ds.map Declaration.recovered :=
    congrFun List.filterMap_eq_map' ds
  unfold declarations
  rw [← hrecovered, List.filterMap_filter]
  refine h.lineup.filterMap ?_ ?_
  · intro u hu
    rw [declarationOf?_of_bystander hu, ite_self]
  · intro u d hd
    rw [hd.isNamed, if_pos rfl]
    exact declarationOf?_of_spells hd

/-- **Declarations without fields come back as they were written.** -/
theorem declarations_eq_of_spells {t : Tree} {ds : List Declaration} (h : Spells t ds)
    (hfields : ∀ d ∈ ds, ∀ m ∈ d.members, m.kind ≠ .field) : declarations t = ds := by
  have hsame : ∀ d ∈ ds, d.recovered = d := by
    intro d hd
    have hmembers : d.members.map Member.recovered = d.members :=
      calc d.members.map Member.recovered
          = d.members.map id := List.map_congr_left fun m hm => if_neg (hfields d hd m hm)
        _ = d.members := List.map_id d.members
    unfold Declaration.recovered
    rw [hmembers]
  calc declarations t
      = ds.map Declaration.recovered := declarations_of_spells h
    _ = ds.map id := List.map_congr_left hsame
    _ = ds := List.map_id ds

end RoleAudit.Source
