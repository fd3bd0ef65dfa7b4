import RoleAudit.Proofs.Source.NameTokens
import RoleAudit.Proofs.Source.Places

/-!
# Where a grammar reads names

A declaration has its name where its rule says so, and what is read there is a single token that is
an identifier or a keyword. This is a property of the rules, which can be tried rule by rule; here it
is carried over to the places of the automaton, where the chart needs it.

* `Rule.namesWell`: the property of a rule among others.
* `Automaton.NamesWell`: what it comes to at the places.
* `namesWell_grammar`: the grammar of Java sources has the property.
-/

namespace RoleAudit.Source

namespace Construct

/-- A construct that is a name and nothing else. -/
def isName : Construct → Bool
  | word | reservedWord => true
  | _ => false

/-- A declaration that has a name, or a construct whose parts become parts of one. -/
def holdsName : Construct → Bool
  | classDeclaration | interfaceDeclaration | enumDeclaration | recordDeclaration
  | tagTypeDeclaration | methodDeclaration | methodHeader | tagUse | plainType | simpleType => true
  | _ => false

end Construct

/-! ## The property of rules -/

namespace Rule

/-- What is read is a name: a token of its own, or a construct that is a name and has a rule. -/
def readsName (rules : List Rule) : Phrase → Bool
  | .token t => t.isName
  | .part c => c.isName && (rules.map Rule.construct).contains c
  | _ => false

/-- What is read brings no name along from inside: it is a token, is always shown as a node of its
own, or is a construct that holds names itself and has a rule. -/
def bringsNoOther (rules : List Rule) : Phrase → Bool
  | .part c => (rules.all fun r => r.construct != c || r.visibility == .shown) ||
      (c.holdsName && (rules.map Rule.construct).contains c)
  | _ => true

/-- A rule of a name reads a single name, a rule of a declaration reads one where it asks for one, and
takes over nothing else under this label. -/
def namesWell (rules : List Rule) (r : Rule) : Bool :=
  r.layout.isClosed &&
  (!r.construct.isName || r.layout.isLoose) &&
  r.layout.parts.all fun part =>
    (!(r.construct.isName || (r.construct.holdsName && part.2 == some .name)) ||
      readsName rules part.1) &&
    (!(r.construct.holdsName && part.2 == none) || bringsNoOther rules part.1)

end Rule

/-! ## The property of places -/

namespace Automaton

/-- The construct that a place belongs to. -/
def constructAt (a : Automaton) (n : Nat) : Construct := (a.rule (a.place n).rule).construct

/-- The place belongs to a name, or is where a declaration has its name. -/
def AsksName (a : Automaton) (n : Nat) : Prop :=
  (a.constructAt n).isName = true ∨
    ((a.constructAt n).holdsName = true ∧ (a.place n).field = some .name)

/-- What a grammar does with names, place by place. -/
structure NamesWell (a : Automaton) : Prop where
  next_rule : ∀ {n q}, q ∈ (a.place n).next → (a.place q).rule = (a.place n).rule
  starts_rule : ∀ {r q}, q ∈ (a.rule r).starts → (a.place q).rule = r
  next_name : ∀ {n}, (a.constructAt n).isName = true → (a.place n).next = []
  name_terminal : ∀ {n t kind}, a.AsksName n → (a.place n).symbol = .terminal t →
    a.terminals[t]? = some kind → kind.isName = true
  name_rule : ∀ {n r}, a.AsksName n → (a.place n).symbol = .rule r →
    (a.rule r).construct.isName = true
  others : ∀ {n r}, (a.constructAt n).holdsName = true → (a.place n).field = none →
    (a.place n).symbol = .rule r →
    (a.rule r).visibility = .shown ∨ (a.rule r).construct.holdsName = true

lemma NamesWell.constructAt_next {a : Automaton} (h : a.NamesWell) {n q : Nat}
    (hq : q ∈ (a.place n).next) : a.constructAt q = a.constructAt n := by
  unfold constructAt
  rw [h.next_rule hq]

/-! ## From rules to places -/

lemma place_eq (a : Automaton) (n : Nat) : a.place n = a.places.toList[n]?.getD default := by
  unfold place
  rw [Array.getD_eq_getD_getElem?, Array.getElem?_toList]

lemma rule_eq (a : Automaton) (n : Nat) : a.rule n = a.rules.toList[n]?.getD default := by
  unfold rule
  rw [Array.getD_eq_getD_getElem?, Array.getElem?_toList]

section Charted

variable {a : Automaton} {rules : List Rule} {terminals : List Terminal} {places : List Place}
  {start : Place}

/-- A rule of the automaton is one of the rules, or there is no such rule. -/
lemma rule_cases
    (h : Charted terminals (rules.map Rule.construct) rules a.rules.toList places) (n : Nat) :
    (∃ r : Rule, rules[n]? = some r ∧ (a.rule n).construct = r.construct ∧
        (a.rule n).visibility = r.visibility) ∨
      (rules[n]? = none ∧ a.rule n = default) := by
  rw [rule_eq]
  rcases hentry : a.rules.toList[n]? with _ | e
  · right
    refine ⟨?_, rfl⟩
    rw [List.getElem?_eq_none_iff] at hentry ⊢
    rw [← h.length]
    exact hentry
  · obtain ⟨r, hr, hconstruct, hvisibility, -⟩ := h.entry n e hentry
    exact .inl ⟨r, hr, hconstruct, hvisibility⟩

/-- A place of the automaton is the place of a rule, or the one in front of all others, or there is
no such place. -/
lemma place_cases (hplaces : a.places.toList = places ++ [start]) (n : Nat) :
    (∃ p, places[n]? = some p ∧ a.place n = p) ∨ a.place n = start ∨ a.place n = default := by
  rw [place_eq, hplaces]
  rcases hplace : (places ++ [start])[n]? with _ | p
  · exact .inr (.inr rfl)
  · rcases getElem?_append_cases hplace with hp | ⟨i, -, hp⟩
    · exact .inl ⟨p, hp, rfl⟩
    · cases i with
      | zero =>
        cases hp
        exact .inr (.inl rfl)
      | succ i => cases hp

/-- What is known about a place that reads a rule's part. -/
structure Sited (a : Automaton) (rules : List Rule) (terminals : List Terminal) (n : Nat)
    (r : Rule) : Prop where
  mem : r ∈ rules
  construct : a.constructAt n = r.construct
  reads : (a.place n).Reads terminals (rules.map Rule.construct) r

lemma sited (h : Charted terminals (rules.map Rule.construct) rules a.rules.toList places)
    {n : Nat} {p : Place} (hp : places[n]? = some p) (hplace : a.place n = p) :
    ∃ r, a.Sited rules terminals n r := by
  obtain ⟨r, hr, hreads, -⟩ := h.place n p hp
  refine ⟨r, List.mem_of_getElem? hr, ?_, hplace ▸ hreads⟩
  unfold constructAt
  rw [hplace]
  rcases rule_cases h p.rule with ⟨r', hr', hconstruct, -⟩ | ⟨hnone, -⟩
  · rw [hr] at hr'
    cases hr'
    exact hconstruct
  · rw [hr] at hnone
    cases hnone

/-- The rule that stands for a construct. -/
lemma rule_idxOf (h : Charted terminals (rules.map Rule.construct) rules a.rules.toList places)
    {c : Construct} (hc : c ∈ rules.map Rule.construct) :
    ∃ r ∈ rules, r.construct = c ∧
      (a.rule ((rules.map Rule.construct).idxOf c)).construct = c ∧
      (a.rule ((rules.map Rule.construct).idxOf c)).visibility = r.visibility := by
  have hget := List.getElem?_idxOf hc
  rw [List.getElem?_map, Option.map_eq_some_iff] at hget
  obtain ⟨r, hr, hrc⟩ := hget
  rcases rule_cases h ((rules.map Rule.construct).idxOf c) with
    ⟨r', hr', hconstruct, hvisibility⟩ | ⟨hnone, -⟩
  · rw [hr] at hr'
    cases hr'
    exact ⟨r, List.mem_of_getElem? hr, hrc, hconstruct.trans hrc, hvisibility⟩
  · rw [hr] at hnone
    cases hnone

/-- A construct that no rule stands for has the number of no rule. -/
lemma rule_idxOf_of_not_mem
    (h : Charted terminals (rules.map Rule.construct) rules a.rules.toList places)
    {c : Construct} (hc : c ∉ rules.map Rule.construct) :
    a.rule ((rules.map Rule.construct).idxOf c) = default := by
  rw [List.idxOf_eq_length hc, List.length_map]
  rcases rule_cases h rules.length with ⟨r, hr, -⟩ | ⟨-, hdefault⟩
  · rw [List.getElem?_eq_none le_rfl] at hr
    cases hr
  · exact hdefault

/-- What a symbol reads that stands for a name. -/
lemma isName_of_readsName
    (h : Charted terminals (rules.map Rule.construct) rules a.rules.toList places)
    (hterminals : a.terminals = terminals.toArray) {phrase : Phrase}
    (hreads : Rule.readsName rules phrase = true) :
    match symbolOf terminals (rules.map Rule.construct) phrase with
    | .terminal t => ∀ kind, a.terminals[t]? = some kind → kind.isName = true
    | .rule r => (a.rule r).construct.isName = true := by
  cases phrase with
  | token t =>
    intro kind hkind
    rw [hterminals, List.getElem?_toArray] at hkind
    have hmem : t ∈ terminals := by
      obtain ⟨hlt, -⟩ := List.getElem?_eq_some_iff.1 hkind
      exact List.idxOf_lt_length_iff.1 hlt
    rw [List.getElem?_idxOf hmem] at hkind
    cases hkind
    exact hreads
  | part c =>
    obtain ⟨hname, hmem⟩ := Bool.and_eq_true_iff.1 hreads
    obtain ⟨-, -, -, hconstruct, -⟩ := rule_idxOf h (List.contains_iff_mem.1 hmem)
    show (a.rule _).construct.isName = true
    rw [hconstruct]
    exact hname
  | labelled f p => cases hreads
  | seq ps => cases hreads
  | choice ps => cases hreads
  | opt p => cases hreads
  | many p => cases hreads
  | some p => cases hreads

/-- What a construct hands on that brings no other name along. -/
lemma shown_or_holdsName
    (h : Charted terminals (rules.map Rule.construct) rules a.rules.toList places)
    {phrase : Phrase} {n : Nat}
    (hsymbol : symbolOf terminals (rules.map Rule.construct) phrase = .rule n)
    (hbrings : Rule.bringsNoOther rules phrase = true) :
    (a.rule n).visibility = .shown ∨ (a.rule n).construct.holdsName = true := by
  cases phrase with
  | part c =>
    cases hsymbol
    by_cases hmem : c ∈ rules.map Rule.construct
    · obtain ⟨r, hr, hrc, hconstruct, hvisibility⟩ := rule_idxOf h hmem
      rcases Bool.or_eq_true_iff.1 hbrings with hshown | hholds
      · left
        have hrule := List.all_eq_true.1 hshown r hr
        rw [hrc, bne_self_eq_false, Bool.false_or, beq_iff_eq] at hrule
        rw [hvisibility, hrule]
      · right
        rw [hconstruct]
        exact (Bool.and_eq_true_iff.1 hholds).1
    · left
      rw [rule_idxOf_of_not_mem h hmem]
      rfl
  | token t => cases hsymbol
  | labelled f p => cases hsymbol
  | seq ps => cases hsymbol
  | choice ps => cases hsymbol
  | opt p => cases hsymbol
  | many p => cases hsymbol
  | some p => cases hsymbol

/-- A place that a rule starts from is in the rule. -/
lemma rule_of_mem_starts
    (h : Charted terminals (rules.map Rule.construct) rules a.rules.toList places)
    (hplaces : a.places.toList = places ++ [start]) {r q : Nat} (hq : q ∈ (a.rule r).starts) :
    (a.place q).rule = r := by
  rw [rule_eq] at hq
  rcases hentry : a.rules.toList[r]? with _ | e <;> rw [hentry] at hq
  · cases hq
  · obtain ⟨-, -, -, -, hin⟩ := h.entry r e hentry
    obtain ⟨p, hp, hrule⟩ := hin q hq
    rw [place_eq, hplaces, getElem?_append_of_some hp]
    exact hrule

/-- The construct at a place has to do with no name. -/
def Plain (a : Automaton) (n : Nat) : Prop :=
  (a.constructAt n).isName = false ∧ (a.constructAt n).holdsName = false

lemma Plain.not_asksName {n : Nat} (h : a.Plain n) : ¬a.AsksName n := by
  rintro (hname | ⟨hholds, -⟩)
  · rw [h.1] at hname
    cases hname
  · rw [h.2] at hholds
    cases hholds

/-- Where no rule's part is read there is no name, if there is none in the first rule. -/
lemma sited_or_plain
    (h : Charted terminals (rules.map Rule.construct) rules a.rules.toList places)
    (hplaces : a.places.toList = places ++ [start]) (hstart : start.rule = 0)
    (hfirst : ∀ r, rules[0]? = some r → r.construct.isName = false ∧ r.construct.holdsName = false)
    (n : Nat) : (∃ r ∈ rules, a.Sited rules terminals n r) ∨ a.Plain n := by
  have hzero : (a.place n).rule = 0 → a.Plain n := by
    intro hrule
    unfold Plain constructAt
    rw [hrule]
    rcases rule_cases h 0 with ⟨r, hr, hconstruct, -⟩ | ⟨-, hdefault⟩
    · rw [hconstruct]
      exact hfirst r hr
    · rw [hdefault]
      exact ⟨rfl, rfl⟩
  rcases place_cases hplaces n with ⟨p, hp, hplace⟩ | hplace | hplace
  · obtain ⟨r, hr⟩ := sited h hp hplace
    exact .inl ⟨r, hr.mem, hr⟩
  · right
    apply hzero
    rw [hplace, hstart]
  · right
    apply hzero
    rw [hplace]
    rfl

end Charted

/-- What the property says of the part that is read at a place. -/
lemma Sited.namesWell {a : Automaton} {rules : List Rule} {terminals : List Terminal} {n : Nat}
    {r : Rule} (h : a.Sited rules terminals n r) (hr : r.namesWell rules = true) :
    ((a.constructAt n).isName = true → (a.place n).next = []) ∧
      ∃ phrase, (a.place n).symbol = symbolOf terminals (rules.map Rule.construct) phrase ∧
        (a.AsksName n → Rule.readsName rules phrase = true) ∧
        ((a.constructAt n).holdsName = true → (a.place n).field = none →
          Rule.bringsNoOther rules phrase = true) := by
  unfold Rule.namesWell at hr
  obtain ⟨hr, hparts⟩ := Bool.and_eq_true_iff.1 hr
  obtain ⟨-, hloose⟩ := Bool.and_eq_true_iff.1 hr
  obtain ⟨part, hpart, hsymbol, hfield⟩ := h.reads.part
  obtain ⟨hname, hothers⟩ := Bool.and_eq_true_iff.1 (List.all_eq_true.1 hparts part hpart)
  unfold AsksName
  rw [h.construct, hfield]
  refine ⟨?_, part.1, hsymbol, ?_, ?_⟩
  · intro hword
    apply h.reads.next
    rw [hword] at hloose
    exact hloose
  · intro hasks
    have hcondition :
        (r.construct.isName || (r.construct.holdsName && part.2 == some .name)) = true := by
      rw [Bool.or_eq_true_iff, Bool.and_eq_true_iff, beq_iff_eq]
      exact hasks
    rw [hcondition] at hname
    exact hname
  · intro hholds hnone
    rw [hholds, hnone] at hothers
    exact hothers

/-- **Rules that deal with names well make an automaton that does**, if the first of them stands for
no name and holds none. -/
theorem namesWell_ofRules {rules : List Rule} (h : ∀ r ∈ rules, r.namesWell rules = true)
    (hfirst : ∀ r, rules[0]? = some r → r.construct.isName = false ∧ r.construct.holdsName = false) :
    (ofRules rules).NamesWell := by
  have hclosed : ∀ r ∈ rules, r.layout.isClosed = true := by
    intro r hr
    have hwell := h r hr
    unfold Rule.namesWell at hwell
    exact (Bool.and_eq_true_iff.1 (Bool.and_eq_true_iff.1 hwell).1).1
  obtain ⟨places, hplaces, hcharted⟩ := charted_ofRules hclosed
  generalize hstart : outset (terminalsOf rules) (ofRules rules).rules = start at hplaces
  have hterminals : (ofRules rules).terminals = (terminalsOf rules).toArray := rfl
  have hzero : start.rule = 0 := by
    rw [← hstart]
    rfl
  have hsited := sited_or_plain hcharted hplaces hzero hfirst
  -- a name that is asked for is asked for by a rule
  have hasked : ∀ {n}, (ofRules rules).AsksName n → ∃ phrase,
      ((ofRules rules).place n).symbol =
        symbolOf (terminalsOf rules) (rules.map Rule.construct) phrase ∧
      Rule.readsName rules phrase = true := by
    intro n hasks
    rcases hsited n with ⟨r, hr, hn⟩ | hplain
    · obtain ⟨-, phrase, hphrase, hreads, -⟩ := hn.namesWell (h r hr)
      exact ⟨phrase, hphrase, hreads hasks⟩
    · exact absurd hasks hplain.not_asksName
  refine ⟨?_, rule_of_mem_starts hcharted hplaces, ?_, ?_, ?_, ?_⟩
  · intro n q hq
    rcases place_cases hplaces n with ⟨p, hp, hplace⟩ | hplace | hplace
    · rw [hplace] at hq ⊢
      obtain ⟨-, -, -, hin⟩ := hcharted.place n p hp
      obtain ⟨p', hp', hrule⟩ := hin q hq
      rw [place_eq, hplaces, getElem?_append_of_some hp']
      exact hrule
    · rw [hplace, ← hstart] at hq ⊢
      exact rule_of_mem_starts hcharted hplaces hq
    · rw [hplace] at hq
      cases hq
  · intro n hname
    rcases hsited n with ⟨r, hr, hn⟩ | hplain
    · exact (hn.namesWell (h r hr)).1 hname
    · exact absurd (.inl hname) hplain.not_asksName
  · intro n t kind hasks hsymbol hkind
    obtain ⟨phrase, hphrase, hreads⟩ := hasked hasks
    have hname := isName_of_readsName hcharted hterminals hreads
    rw [← hphrase, hsymbol] at hname
    exact hname kind hkind
  · intro n r hasks hsymbol
    obtain ⟨phrase, hphrase, hreads⟩ := hasked hasks
    have hname := isName_of_readsName hcharted hterminals hreads
    rw [← hphrase, hsymbol] at hname
    exact hname
  · intro n r' hholds hfield hsymbol
    rcases hsited n with ⟨r, hr, hn⟩ | hplain
    · obtain ⟨-, phrase, hphrase, -, hbrings⟩ := hn.namesWell (h r hr)
      rw [hphrase] at hsymbol
      exact shown_or_holdsName hcharted hsymbol (hbrings hholds hfield)
    · rw [hplain.2] at hholds
      cases hholds

end Automaton

/-- **The grammar of Java sources deals well with names.** -/
theorem namesWell_grammar : grammar.NamesWell := by
  have hrules : Grammar.rules.all (Rule.namesWell Grammar.rules) = true := by decide +kernel
  apply Automaton.namesWell_ofRules (List.all_eq_true.1 hrules)
  intro r hr
  cases hr
  exact ⟨rfl, rfl⟩

end RoleAudit.Source
