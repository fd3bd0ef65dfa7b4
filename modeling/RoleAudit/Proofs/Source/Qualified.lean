import RoleAudit.Proofs.Source.Recovery
import RoleAudit.Source.Token

/-!
# Qualified names as they may be laid out

White space and comments may stand between the identifiers and the dots of a qualified name. The
name of a tag is cut out of the text all the same: it is what follows the last dot of the text,
whether that dot divides two identifiers or is part of a comment. White space does no harm, and
neither does a comment in front of the last dot. A comment behind it becomes part of the name, but
for one that ends in a dot itself.

* `Dotted`: a name of identifiers with dots between them, in any layout.
* `Dotted.tag_eq_iff`: when a qualified tag is the same tag as the unqualified one.
* `tag_commented`: a comment makes a stateless class a class like any other.
-/

namespace RoleAudit.Text.Glyph

/-! ## Texts that go on with a character -/

lemma strays_append_char (gs hs : List Glyph) (c : Char) :
    strays (gs ++ char c :: hs) = strays gs := by
  induction gs with
  | nil => rfl
  | cons g gs ih =>
    cases g with
    | char => rfl
    | stray b => rw [List.cons_append, strays, strays, ih]

lemma length_strays_le (gs : List Glyph) : (strays gs).length ≤ gs.length := by
  induction gs with
  | nil => exact Nat.le_refl 0
  | cons g gs ih =>
    cases g with
    | char => exact Nat.zero_le _
    | stray b => exact Nat.succ_le_succ ih

lemma continued_le_length (n : Nat) (low high : UInt8) (bs : List UInt8) :
    continued n low high bs ≤ bs.length := by
  induction bs generalizing n low high with
  | nil => cases n <;> exact Nat.le_refl 0
  | cons b bs ih =>
    cases n with
    | zero => exact Nat.zero_le _
    | succ n =>
      rw [continued, List.length_cons]
      split
      · have := ih n 0x80 0xBF
        omega
      · omega

lemma brokenTail_le_length (b : UInt8) (gs : List Glyph) : brokenTail b gs ≤ gs.length := by
  unfold brokenTail
  split
  · exact Nat.zero_le _
  · exact (continued_le_length ..).trans (length_strays_le gs)

/-- **A character divides a text**: what is in front of it and what is behind it are shown apart. -/
theorem renderChars_append_char (gs hs : List Glyph) (c : Char) :
    renderChars (gs ++ char c :: hs) = renderChars gs ++ c :: renderChars hs := by
  fun_induction renderChars gs with
  | case1 => rw [List.nil_append, renderChars, List.nil_append]
  | case2 d gs ih => rw [List.cons_append, renderChars, ih, List.cons_append]
  | case3 b gs ih =>
    have htail : brokenTail b (gs ++ char c :: hs) = brokenTail b gs := by
      unfold brokenTail
      rw [strays_append_char]
    rw [List.cons_append, renderChars, htail,
      List.drop_append_of_le_length (brokenTail_le_length b gs), ih, List.cons_append]

/-- What follows as text is shown as it is. -/
lemma renderChars_append_ofString (gs : List Glyph) (s : String) :
    renderChars (gs ++ ofString s) = renderChars gs ++ s.toList := by
  unfold ofString
  rcases s.toList with _ | ⟨c, cs⟩
  · rw [List.map_nil, List.append_nil, List.append_nil]
  · rw [List.map_cons, renderChars_append_char, renderChars_map_char]

end RoleAudit.Text.Glyph

namespace RoleAudit.Source

open RoleAudit.Text

/-! ## Layouts -/

/-- Nothing but white space stands in front of a node. -/
def Tree.HasBlankGap (t : Tree) : Prop := ∃ s, t.gap = Glyph.ofString s ∧ isBlankText s = true

/-- A comment between two tokens: all of its text belongs to it. -/
structure Interjected (t : Tree) : Prop where
  kind : t.kind = .comment
  whole : commentReach t.text = some t.text.length
  spaced : t.HasBlankGap

/-- A name of identifiers with dots between them: those that qualify it, the last one, and the
comments behind the last dot. -/
inductive Dotted : Tree → List String → String → List Tree → Prop
  | word {t : Tree} {name : String} (word : isWord name = true) (text : t.HasText name) :
    Dotted t [] name []
  | dot {field : Option Field} {p : Point} {flawed : Bool} {scope sign last : Tree}
    {before inside behind : List Tree} {qualifiers : List String} {inner name : String}
    (qualified : Dotted scope qualifiers inner inside) (commented : ∀ c ∈ before, Interjected c)
    (divides : sign.HasText ".") (apart : sign.HasBlankGap)
    (remarked : ∀ c ∈ behind, Interjected c)
    (word : isWord name = true) (text : last.HasText name) (spaced : last.HasBlankGap) :
    Dotted (.node (.construct .scopedName) field p flawed
        (scope :: (before ++ sign :: (behind ++ [last]))))
      (qualifiers ++ [inner]) name behind

/-- Comments behind the last dot that do no harm: there are none, or the last one ends in a dot. -/
def Harmless (comments : List Tree) : Prop := ∀ c ∈ comments.getLast?, EndsInDot c.render

/-! ## Comments between tokens -/

/-- A comment is seen from its first character on. -/
lemma Interjected.text_eq {c : Tree} (h : Interjected c) :
    ∃ gs, c.text = Glyph.char '/' :: gs := by
  have hwhole := h.whole
  unfold commentReach at hwhole
  have hfirst : ∀ {g : Glyph}, g.isChar '/' = true → g = Glyph.char '/' := by
    intro g hg
    cases g with
    | char d => rw [eq_of_beq hg]
    | stray b => cases hg
  split at hwhole
  · next g k rest hgs =>
    refine ⟨k :: rest, ?_⟩
    rw [hgs]
    split at hwhole
    · next hline => rw [hfirst (Bool.and_eq_true_iff.1 hline).1]
    split at hwhole
    · next hblock => rw [hfirst (Bool.and_eq_true_iff.1 hblock).1]
    · cases hwhole
  · cases hwhole

/-- The text between the last dot and the last identifier. -/
def between (behind : List Tree) (last : Tree) : String :=
  Glyph.render (Tree.textOfRest behind ++ last.gap)

/-- **What stands behind a dot is blank or ends in a dot just if the comments there do no harm.** -/
theorem between_iff {behind : List Tree} {last : Tree} (hremarked : ∀ c ∈ behind, Interjected c)
    (hspaced : last.HasBlankGap) :
    isBlankText (between behind last) = true ∨ EndsInDot (between behind last) ↔
      Harmless behind := by
  obtain ⟨gap, hgap, hblank⟩ := hspaced
  have hgapBlank : ∀ c ∈ gap.toList, isBlank c = true := List.all_eq_true.1 hblank
  rcases List.eq_nil_or_concat' behind with rfl | ⟨earlier, c, rfl⟩
  · -- no comment
    have hbetween : between [] last = gap := by
      unfold between
      rw [hgap, Tree.textOfRest, List.nil_append, Glyph.render_ofString]
    rw [hbetween]
    have hharmless : Harmless [] := by
      intro c hc
      cases hc
    exact iff_of_true (Or.inl hblank) hharmless
  · -- the last comment begins with a character, which divides the text
    obtain ⟨gs, htext⟩ := (hremarked c (by simp)).text_eq
    have hrender : c.render.toList = '/' :: Glyph.renderChars gs := by
      unfold Tree.render Glyph.render
      rw [htext, Glyph.renderChars, String.toList_ofList]
    have hbetween : (between (earlier ++ [c]) last).toList =
        Glyph.renderChars (Tree.textOfRest earlier ++ c.gap) ++ c.render.toList ++ gap.toList := by
      unfold between Glyph.render
      rw [String.toList_ofList, textOfRest_append, Tree.textOfRest, Tree.textOfRest, htext, hgap,
        List.append_nil, Glyph.renderChars_append_ofString, ← List.append_assoc,
        Glyph.renderChars_append_char, hrender]
    have hslash : ∃ d ∈ c.render.toList, isBlank d = false :=
      ⟨'/', by rw [hrender]; exact List.mem_cons_self, by decide⟩
    have hvisible : ¬ isBlankText (between (earlier ++ [c]) last) = true := by
      obtain ⟨d, hd, hdvisible⟩ := hslash
      rw [isBlankText_iff, not_not, hbetween]
      exact ⟨d, by simp [hd], hdvisible⟩
    unfold Harmless
    rw [or_iff_right hvisible, EndsInDot, hbetween, getLast?_trimEnd_append hgapBlank hslash]
    simp [EndsInDot]

/-- **A dotted name is cut down to its last identifier just if the comments behind its last dot do
no harm.** -/
theorem Dotted.simpleName_render_eq_iff {t : Tree} {qualifiers : List String} {name : String}
    {behind : List Tree} (h : Dotted t qualifiers name behind) :
    simpleName t.render = name ↔ Harmless behind := by
  cases h with
  | word word text =>
    rw [text.render]
    exact iff_of_true (simpleName_of_isWord word) nofun
  | @dot field p flawed scope sign last before inside behind _ inner _ qualified commented divides
      apart remarked word text spaced =>
    have htext : (Tree.node (.construct .scopedName) field p flawed
        (scope :: (before ++ sign :: (behind ++ [last])))).render =
          Glyph.render (scope.text ++ Tree.textOfRest before ++ sign.gap) ++ "." ++
            between behind last ++ name := by
      have hparts : (Tree.node (.construct .scopedName) field p flawed
          (scope :: (before ++ sign :: (behind ++ [last])))).text =
            (scope.text ++ Tree.textOfRest before ++ sign.gap) ++ Glyph.char '.' ::
              (Tree.textOfRest behind ++ last.gap ++ Glyph.ofString name) := by
        rw [Tree.text, Tree.textOfFirst, textOfRest_append, Tree.textOfRest, textOfRest_append,
          Tree.textOfRest, Tree.textOfRest, divides, text]
        simp [Glyph.ofString]
      rw [← String.toList_inj]
      unfold Tree.render between Glyph.render
      rw [hparts, Glyph.renderChars_append_char, Glyph.renderChars_append_ofString]
      simp [String.toList_append]
    rw [htext, simpleName_eq_iff word, between_iff remarked spaced]

/-! ## Tags -/

/-- A tag, and the same tag with nothing that qualifies its name. -/
structure Shortened (t t' : Tree) (name : String) : Prop where
  form : t.kind = .construct .markerTag ∨ t.kind = .construct .tag
  kind : t'.kind = t.kind
  label : ∃ u, t'.child? .name = some u ∧ u.HasText name
  argument : t'.argument?.map tagValue = t.argument?.map tagValue

/-- Tags of one form with one argument are the same just if their names are. -/
lemma Shortened.tag_eq_iff_tagName {t t' : Tree} {name : String} (h : Shortened t t' name) :
    (tagOf? t).map (·.1) = (tagOf? t').map (·.1) ↔ t.tagName = t'.tagName := by
  rw [tagOf?_map, tagOf?_map, h.kind, h.argument]
  rcases h.form with hmarker | htag
  · rw [hmarker]
    simp
  · rw [htag]
    simp

/-- The last identifier is the name of the tag that has no other. -/
lemma Shortened.tagName {t t' : Tree} {name : String} (h : Shortened t t' name)
    (hname : isWord name = true) : t'.tagName = name := by
  obtain ⟨u, hu, htext⟩ := h.label
  unfold Tree.tagName
  rw [hu]
  exact (congrArg simpleName htext.render).trans (simpleName_of_isWord hname)

lemma Dotted.isWord {t : Tree} {qualifiers : List String} {name : String} {behind : List Tree}
    (h : Dotted t qualifiers name behind) : isWord name = true := by
  cases h <;> assumption

/-- **A qualified tag is the tag that its last identifier names**, in any layout, unless there are
comments behind the last dot of the name and the last of them does not end in a dot. -/
theorem Dotted.tag_eq_iff {t t' u : Tree} {qualifiers : List String} {name : String}
    {behind : List Tree} (hlabel : t.child? .name = some u)
    (hdotted : Dotted u qualifiers name behind) (hshort : Shortened t t' name) :
    (simpleName u.render = name ↔ Harmless behind) ∧
      ((tagOf? t).map (·.1) = (tagOf? t').map (·.1) ↔ Harmless behind) := by
  have hname : t.tagName = simpleName u.render := by
    unfold Tree.tagName
    rw [hlabel]
    rfl
  refine ⟨hdotted.simpleName_render_eq_iff, ?_⟩
  rw [hshort.tag_eq_iff_tagName, hname, hshort.tagName hdotted.isWord]
  exact hdotted.simpleName_render_eq_iff

/-! ## A comment around a dot -/

/-- A name behind a dot, with comments in front of the dot and behind it. -/
def behindDot (field : Option Field) (scope : Tree) (before behind : List Tree) (name : String) :
    Tree :=
  built .scopedName field
    (scope :: (before ++ sign "." :: (behind ++ [token (.token .identifier) name none])))

/-- The name of stateless beans in its package, with comments around the last dot. -/
def beanName (before behind : List Tree) : Tree :=
  behindDot (some .name) (behindDot none (token (.token .identifier) "javax" none) [] [] "ejb")
    before behind "Stateless"

/-- A tag that marks, by its name. -/
def marking (name : Tree) : Tree := built .markerTag none [sign "@", name]

/-- A comment. -/
def note : Tree := token .comment "/* see EJB 3.2 */" none

lemma interjected_note : ∀ c ∈ [note], Interjected c := by
  intro c hc
  cases List.mem_singleton.1 hc
  exact ⟨rfl, by decide +kernel, "", rfl, rfl⟩

lemma hasBlankGap_token (kind : Kind) (s : String) (field : Option Field) :
    (token kind s field).HasBlankGap := ⟨"", rfl, rfl⟩

lemma dotted_behindDot {field : Option Field} {scope : Tree} {before behind inside : List Tree}
    {qualifiers : List String} {inner name : String} (h : Dotted scope qualifiers inner inside)
    (hbefore : ∀ c ∈ before, Interjected c) (hbehind : ∀ c ∈ behind, Interjected c)
    (hname : isWord name = true) :
    Dotted (behindDot field scope before behind name) (qualifiers ++ [inner]) name behind :=
  .dot h hbefore rfl (hasBlankGap_token _ _ _) hbehind hname rfl (hasBlankGap_token _ _ _)

lemma dotted_beanName {before behind : List Tree} (hbefore : ∀ c ∈ before, Interjected c)
    (hbehind : ∀ c ∈ behind, Interjected c) :
    Dotted (beanName before behind) ["javax", "ejb"] "Stateless" behind := by
  have hjavax : Dotted (token (.token .identifier) "javax" none) [] "javax" [] :=
    .word (by decide +kernel) rfl
  have hscope : Dotted (behindDot none (token (.token .identifier) "javax" none) [] [] "ejb")
      ["javax"] "ejb" [] := dotted_behindDot hjavax nofun nofun (by decide +kernel)
  exact dotted_behindDot hscope hbefore hbehind (by decide +kernel)

lemma shortened_marking {before behind : List Tree} :
    Shortened (marking (beanName before behind)) (marking (naming "Stateless")) "Stateless" :=
  ⟨Or.inl rfl, rfl, ⟨naming "Stateless", rfl, rfl⟩, rfl⟩

/-- A comment in front of the last dot does no harm, dots or not. -/
theorem tag_eq_iff_beanName :
    (marking (beanName [note] [])).child? .name = some (beanName [note] []) ∧
      Dotted (beanName [note] []) ["javax", "ejb"] "Stateless" [] ∧
      Shortened (marking (beanName [note] [])) (marking (naming "Stateless")) "Stateless" ∧
      simpleName (beanName [note] []).render = "Stateless" ∧
      (tagOf? (marking (beanName [note] []))).map (·.1) =
        (tagOf? (marking (naming "Stateless"))).map (·.1) := by
  have hlabel : (marking (beanName [note] [])).child? .name = some (beanName [note] []) := rfl
  have hdotted : Dotted (beanName [note] []) ["javax", "ejb"] "Stateless" [] :=
    dotted_beanName interjected_note nofun
  have heq := Dotted.tag_eq_iff hlabel hdotted shortened_marking
  exact ⟨hlabel, hdotted, shortened_marking, heq.1.2 nofun, heq.2.2 nofun⟩

/-- A source with a described method in a class under a tag. -/
def beanSource (tag : Tree) : Tree :=
  built .program none
    [built .classDeclaration none
      [built .modifiers none [tag], (sign "class").spaced, (naming "A").spaced,
        built .classBody (some .body) [sign "\x7b", describedMethod [] [], sign "\x7d"]]]

/-- **A comment behind the last dot becomes part of the name**: the tag is not recognised, and the
class, which has a row under the unqualified tag, has none. -/
theorem tag_commented :
    Dotted (beanName [] [note]) ["javax", "ejb"] "Stateless" [note] ∧
      simpleName (beanName [] [note]).render = "2 */Stateless" ∧
      (declarations (beanSource (marking (beanName [] [note])))).flatMap Declaration.rows = [] ∧
      (declarations (beanSource (marking (naming "Stateless")))).flatMap Declaration.rows =
        [⟨"A", "f", "[d]", "[]"⟩] :=
  ⟨dotted_beanName nofun interjected_note, by decide +kernel, by decide +kernel,
    by decide +kernel⟩

end RoleAudit.Source
