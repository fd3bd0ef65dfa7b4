import Mathlib.Data.List.TakeWhile
import RoleAudit.Proofs.Text.Lines
import RoleAudit.Source.Repair

/-!
# The tokens of names

A token that is an identifier or a keyword has only the characters of a name, whatever the source
is, so it stands on one line. Comments in front of a token are nothing that could be asked for.

* `oneLine_take_nameReach`: a name as far as it reaches stands on one line.
* `Token.IsSound`: what holds for the tokens that can be read; `Automaton.isSound_tokens` proves it
  for every text and everything that may be expected.
-/

namespace RoleAudit.Text.Glyph

/-- Glyphs without line breaks. -/
def OneLine (gs : List Glyph) : Prop := ∀ c, isBreak c = true → char c ∉ gs

lemma OneLine.nil : OneLine [] := fun _ _ => List.not_mem_nil

/-- A character that stray bytes do not stand for was read as itself. -/
lemma mem_of_mem_renderChars {c : Char} (hc : c ≠ Char.ofNat 0xFFFD) (gs : List Glyph) :
    c ∈ renderChars gs → char c ∈ gs := by
  induction gs using renderChars.induct with
  | case1 =>
    intro h
    rw [renderChars] at h
    cases h
  | case2 c' gs ih =>
    intro h
    rw [renderChars] at h
    rcases List.mem_cons.1 h with rfl | h
    · exact List.mem_cons_self
    · exact List.mem_cons_of_mem _ (ih h)
  | case3 b gs ih =>
    intro h
    rw [renderChars] at h
    rcases List.mem_cons.1 h with h | h
    · exact absurd h hc
    · exact List.mem_cons_of_mem _ (List.mem_of_mem_drop (ih h))

/-- **Glyphs without line breaks are shown on one line.** -/
theorem OneLine.render {gs : List Glyph} (h : OneLine gs) : IsOneLine (Glyph.render gs).toList := by
  intro c hc
  unfold Glyph.render at hc
  rw [String.toList_ofList] at hc
  by_contra hbreak
  have hbreak : isBreak c = true := Bool.of_not_eq_false hbreak
  refine h c hbreak (mem_of_mem_renderChars ?_ gs hc)
  rintro rfl
  exact absurd hbreak (by decide)

end RoleAudit.Text.Glyph

namespace RoleAudit.Source

open RoleAudit.Text

/-! ## How far a name reaches -/

/-- A line break is no part of a name. -/
lemma isName_of_isBreak {c : Char} (h : isBreak c = true) :
    isNameStart c = false ∧ isNameRest c = false := by
  unfold isBreak at h
  rw [Bool.or_eq_true, beq_iff_eq, beq_iff_eq] at h
  rcases h with rfl | rfl
  · decide
  · decide

lemma one_char (p : Char → Bool) (c : Char) (gs : List Glyph) :
    Reach.one p (.char c :: gs) = if p c then some 1 else none := rfl

/-- A run of characters ends where the property does. -/
lemma take_run (p : Char → Bool) (gs : List Glyph) :
    gs.take ((Reach.run p gs).getD 0) = gs.takeWhile fun g => (Reach.one p [g]).isSome := by
  have hprefix := List.takeWhile_prefix (fun g => (Reach.one p [g]).isSome) (l := gs)
  have hlength : (Reach.run p gs).getD 0 =
      (gs.takeWhile fun g => (Reach.one p [g]).isSome).length := by
    unfold Reach.run
    dsimp only
    split
    · next hzero => exact (beq_iff_eq.1 hzero).symm
    · rfl
  rw [hlength]
  exact (List.prefix_iff_eq_take.1 hprefix).symm

/-- A name is a letter and what names go on with. -/
lemma nameReach_eq_some {gs : List Glyph} {n : Nat} (h : nameReach gs = some n) :
    ∃ c rest, gs = .char c :: rest ∧ isNameStart c = true ∧
      n = 1 + (Reach.run isNameRest rest).getD 0 := by
  rcases gs with _ | ⟨⟨c⟩ | ⟨b⟩, rest⟩
  · cases h
  · unfold nameReach Reach.chain at h
    simp only [List.foldr_cons, List.foldr_nil] at h
    unfold Reach.andThen at h
    rw [one_char] at h
    by_cases hc : isNameStart c = true
    · rw [if_pos hc] at h
      refine ⟨c, rest, rfl, hc, ?_⟩
      simpa [Reach.optionally] using h.symm
    · rw [if_neg hc] at h
      cases h
  · cases h

/-- **A name as far as it reaches stands on one line.** -/
theorem oneLine_take_nameReach (gs : List Glyph) :
    Glyph.OneLine (gs.take ((nameReach gs).getD 0)) := by
  rcases hname : nameReach gs with _ | n
  · exact Glyph.OneLine.nil
  · obtain ⟨c, rest, rfl, hc, rfl⟩ := nameReach_eq_some hname
    intro d hd hmem
    obtain ⟨hstart, hrest⟩ := isName_of_isBreak hd
    rw [Option.getD_some, Nat.add_comm, List.take_succ_cons, take_run] at hmem
    rcases List.mem_cons.1 hmem with hmem | hmem
    · cases hmem
      rw [hc] at hstart
      cases hstart
    · have hpart := List.mem_takeWhile_imp hmem
      rw [one_char, hrest] at hpart
      cases hpart

/-! ## Candidates -/

/-- The terminals that a name can be read from. -/
def Terminal.isName : Terminal → Bool
  | identifier => true
  | t => t.keyword?.isSome

/-- The candidate is a terminal of the grammar, and the text of a name stands on one line. -/
structure Candidate.IsSound (a : Automaton) (gs : List Glyph) (c : Candidate) : Prop where
  kind : a.terminals[c.terminal]? = some c.kind
  name : c.kind.isName = true → Glyph.OneLine (gs.take c.length)

lemma isSound_candidates {a : Automaton} {expected : Nat} {gs : List Glyph} {c : Candidate}
    (h : c ∈ a.candidates expected gs) : c.IsSound a gs := by
  unfold Automaton.candidates at h
  obtain ⟨⟨t, n⟩, hmem, h⟩ := List.mem_filterMap.1 h
  have hkind : a.terminals[n]? = some t := by
    rw [← Array.getElem?_toList]
    exact List.mk_mem_zipIdx_iff_getElem?.1 hmem
  dsimp only at h
  split at h
  · obtain ⟨k, hk, rfl⟩ := Option.map_eq_some_iff.1 h
    refine ⟨hkind, ?_⟩
    intro hname
    have hreach : k = (nameReach gs).getD 0 ∨ nameReach gs = some k := by
      split at hk
      · next hkeyword =>
        split at hk
        · exact .inl (Option.some.inj hk).symm
        · cases hk
      · next hkeyword =>
        dsimp only at hname
        unfold Terminal.isName at hname
        split at hname
        · exact .inr hk
        · rw [hkeyword] at hname
          cases hname
    have hk : k = (nameReach gs).getD 0 := by
      rcases hreach with hk | hk
      · exact hk
      · rw [hk, Option.getD_some]
    rw [hk]
    exact oneLine_take_nameReach gs
  · cases h

lemma mem_of_mem_chosen {cs : List Candidate} {c : Candidate} (h : c ∈ Automaton.chosen cs) :
    c ∈ cs := by
  unfold Automaton.chosen at h
  dsimp only at h
  split at h
  · exact (List.mem_filter.1 h).1
  · split at h
    · next hfind =>
      rw [List.mem_singleton.1 h]
      exact (List.mem_filter.1 (List.mem_of_find?_eq_some hfind)).1
    · next hlongest =>
      rw [List.mem_singleton.1 h]
      exact (List.mem_filter.1 (hlongest ▸ List.mem_cons_self)).1
    · cases h

/-! ## What stands in front of a token -/

/-- The trees are single stretches of text without a label. -/
def AreRemarks (ts : List Tree) : Prop :=
  ∀ t ∈ ts, ∃ kind p missing gap text, t = .leaf kind none p missing gap text

lemma AreRemarks.nil : AreRemarks [] := List.forall_mem_nil _

lemma AreRemarks.reverse {ts : List Tree} (h : AreRemarks ts) : AreRemarks ts.reverse :=
  fun t ht => h t (List.mem_reverse.1 ht)

lemma AreRemarks.comment {ts : List Tree} (h : AreRemarks ts) (p : Point) (gap text : List Glyph) :
    AreRemarks (.leaf .comment none p false gap text :: ts) :=
  List.forall_mem_cons.2 ⟨⟨_, _, _, _, _, rfl⟩, h⟩

namespace Lead

/-- Passing over comments collects comments. -/
lemma areRemarks_skip (gs : List Glyph) :
    ∀ lead : Lead, AreRemarks lead.comments → AreRemarks (lead.skip gs).comments := by
  intro lead
  induction lead, gs using skip.induct with
  | case1 lead =>
    intro h
    rw [skip]
    exact h
  | case2 lead g rest hspace ih =>
    intro h
    rw [skip, if_pos hspace]
    exact ih h
  | case3 lead g rest hspace hreach =>
    intro h
    rw [skip, if_neg hspace]
    simp only [hreach]
    exact h
  | case4 lead g rest hspace n hreach text comment ih =>
    intro h
    rw [skip, if_neg hspace]
    simp only [hreach]
    have hbehind := ih (h.comment _ _ _)
    simp only [List.unattach_reverse, List.unattach_attach, comment, text] at hbehind
    exact hbehind

lemma areRemarks_ofText (p : Point) (gs : List Glyph) : AreRemarks (ofText p gs).comments :=
  areRemarks_skip gs _ AreRemarks.nil

/-- So does passing over the comments of a text block. -/
lemma areRemarks_skipBeyondText (gs : List Glyph) :
    ∀ lead : Lead, AreRemarks lead.comments → AreRemarks (lead.skipBeyondText gs).comments := by
  intro lead
  induction lead, gs using skipBeyondText.induct with
  | case1 lead gs gap hreach =>
    intro h
    rw [skipBeyondText]
    simp only [gap] at hreach
    simp only [hreach]
    exact h
  | case2 lead gs gap n hreach hfurther text comment ih =>
    intro h
    rw [skipBeyondText]
    simp only [gap] at hreach hfurther
    simp only [hreach, if_pos hfurther]
    exact ih (h.comment _ _ _)
  | case3 lead gs gap n hreach hfurther =>
    intro h
    rw [skipBeyondText]
    simp only [gap] at hreach hfurther
    simp only [hreach, if_neg hfurther]
    exact h

end Lead

/-! ## Tokens -/

/-- What holds for a token: it is of a kind of the grammar; comments in front of it have no label, and
neither has it; if a name can be read from it, it stands on one line. -/
structure Token.IsSound (a : Automaton) (t : Token) : Prop where
  comments : AreRemarks t.piece.comments
  leaf : AreRemarks [t.piece.tree]
  name : ∃ kind, a.terminals[t.terminal]? = some kind ∧
    (kind.isName = true → Glyph.OneLine t.piece.tree.text)

lemma Lead.isSound_token {a : Automaton} {lead : Lead} (hlead : AreRemarks lead.comments)
    {c : Candidate} (h : c.IsSound a lead.rest) :
    (lead.token c.terminal (.token c.kind) c.length).IsSound a := by
  refine ⟨hlead.reverse, ?_, ?_⟩
  · intro t ht
    rw [List.mem_singleton.1 ht]
    exact ⟨_, _, _, _, _, rfl⟩
  · refine ⟨c.kind, h.kind, ?_⟩
    intro hname
    simpa [Lead.token, Tree.text] using h.name hname

namespace Automaton

/-- **Tokens are sound**, whatever the text is and whatever may be expected. -/
theorem isSound_tokens {a : Automaton} {expected : Nat} {p : Point} {gs : List Glyph} {t : Token}
    (h : t ∈ a.tokens expected p gs) : t.IsSound a := by
  have hread : ∀ lead : Lead, AreRemarks lead.comments →
      ∀ t ∈ (chosen (a.candidates expected lead.rest)).map
        (fun c => lead.token c.terminal (.token c.kind) c.length), t.IsSound a := by
    intro lead hlead t ht
    obtain ⟨c, hc, rfl⟩ := List.mem_map.1 ht
    exact Lead.isSound_token hlead (isSound_candidates (mem_of_mem_chosen hc))
  have hbare : AreRemarks (Lead.bare p gs).comments := AreRemarks.nil
  have hinside : AreRemarks (if a.expectsBlock expected then (Lead.bare p gs).skipBeyondText gs
      else Lead.bare p gs).comments := by
    split
    · exact Lead.areRemarks_skipBeyondText gs _ hbare
    · exact hbare
  have hoftext := hread _ (Lead.areRemarks_ofText p gs) t
  unfold tokens at h
  dsimp only at h
  generalize (if a.expectsBlock expected then (Lead.bare p gs).skipBeyondText gs
    else Lead.bare p gs) = inside at h hinside
  by_cases htext : a.expectsText expected = true
  · rw [if_pos htext] at h
    split at h
    · exact hoftext h
    · exact hread _ hinside t h
  · rw [if_neg htext] at h
    exact hoftext h

/-- A token that is supposed is sound, for its text is empty. -/
lemma isSound_supplied {a : Automaton} (c : Column) {terminal : Nat} {kind : Terminal}
    (h : a.terminals[terminal]? = some kind) : (supplied c terminal kind).IsSound a := by
  refine ⟨AreRemarks.nil, ?_, ?_⟩
  · intro t ht
    rw [List.mem_singleton.1 ht]
    exact ⟨_, _, _, _, _, rfl⟩
  · exact ⟨kind, h, fun _ => Glyph.OneLine.nil⟩

end Automaton

end RoleAudit.Source
