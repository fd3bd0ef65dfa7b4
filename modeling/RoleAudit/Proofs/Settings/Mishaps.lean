import RoleAudit.Proofs.Json.Numerals
import RoleAudit.Proofs.Settings.Resolving

/-!
# What goes wrong in loading settings

Loading settings fails in the declared way if it fails with a `SettingsFailure`: that is what the
audit has words for, and what it ends with. Not all that can go wrong is of this kind. A reader that
knows what is wrong with a file says so in two ways, and only one of them is looked for: the text is
malformed, or else a number, a character, or a scalar in it is out of range.

* `Payload.Mishap`: what goes wrong without being looked for.
* `Disk.locate_refused`: why a path is refused.
* `Settings.load_undeclared_iff`: loading settings fails in a way that is not declared exactly if
  there is such a mishap.
* `Settings.load_json`: with a JSON file that happens only if the file has too long a run of digits.
* `Settings.load_thirtieth_of_february`: with a YAML file it happens with a date that is none.
-/

namespace RoleAudit

open RoleAudit.Files RoleAudit.Text

/-- The audit has words for an obstacle. -/
def SettingsObstacle.IsDeclared (o : SettingsObstacle) : Prop := ∃ f, o = .failure f

/-- A computation fails with an obstacle that is not declared. -/
def Undeclared {α : Type} (x : Except SettingsObstacle α) (o : SettingsObstacle) : Prop :=
  x = .error o ∧ ¬ o.IsDeclared

section

variable {α β : Type} {o : SettingsObstacle}

lemma not_undeclared_ok (a : α) : ¬ Undeclared (.ok a) o := fun h => nomatch h.1

lemma not_undeclared_failure (f : SettingsFailure) :
    ¬ Undeclared (.error (.failure f) : Except SettingsObstacle α) o := by
  rintro ⟨h, hundeclared⟩
  exact hundeclared ⟨f, (Except.error.inj h).symm⟩

lemma undeclared_error {x : SettingsObstacle} (h : ¬ x.IsDeclared) :
    Undeclared (.error x : Except SettingsObstacle α) o ↔ o = x := by
  constructor
  · rintro ⟨hx, -⟩
    exact (Except.error.inj hx).symm
  · rintro rfl
    exact ⟨rfl, h⟩

/-- An obstacle of one of several computations in a row. -/
lemma undeclared_bind {x : Except SettingsObstacle α} {f : α → Except SettingsObstacle β} :
    Undeclared (x >>= f) o ↔ Undeclared x o ∨ ∃ a, x = .ok a ∧ Undeclared (f a) o := by
  unfold Undeclared
  rw [bind_eq_error]
  constructor
  · rintro ⟨hx | ⟨a, hx, hf⟩, hundeclared⟩
    · exact .inl ⟨hx, hundeclared⟩
    · exact .inr ⟨a, hx, hf, hundeclared⟩
  · rintro (⟨hx, hundeclared⟩ | ⟨a, hx, hf, hundeclared⟩)
    · exact ⟨.inl hx, hundeclared⟩
    · exact ⟨.inr ⟨a, hx, hf⟩, hundeclared⟩

end

/-! ## Refused paths -/

namespace Files.Disk

/-- The reasons for which a path that is followed to its target can be refused. -/
def pathReasons : List Reason := [.notFound, .notDirectory, .tooManyLinks, .nameTooLong]

lemma reason_of_arrive {d : Disk} {asDirectory : Bool} {links directory n : Nat}
    {rest : List String} {reason : Reason}
    (h : d.arrive .target asDirectory links directory rest n = .finished (.error reason)) :
    reason ∈ pathReasons := by
  unfold arrive at h
  split at h
  · cases h
    decide
  · split at h
    · cases h
    · cases h
      decide
  · cases h
  · split at h
    · cases h
    · split at h
      · cases h
        decide
      · cases h

lemma reason_of_next {d : Disk} {asDirectory : Bool} {links directory : Nat} {part : String}
    {rest : List String} {reason : Reason}
    (h : d.next .target asDirectory links directory part rest = .finished (.error reason)) :
    reason ∈ pathReasons := by
  unfold next at h
  split at h
  · cases h
  split at h
  · cases h
  split at h
  · next hnew => exact absurd hnew (by simp)
  split at h
  · cases h
    decide
  split at h
  · split at h
    · cases h
    · cases h
      decide
  · exact reason_of_arrive h

/-- By induction on the way: what refuses a path is refused at its first part, or behind it. -/
lemma reason_of_walk (d : Disk) (asDirectory : Bool) (links directory : Nat) (parts : List String)
    {reason : Reason} (h : d.walk .target asDirectory links directory parts = .error reason) :
    reason ∈ pathReasons := by
  fun_induction walk d .target asDirectory links directory parts with
  | case1 => cases h
  | case2 asDirectory links directory part rest result hnext =>
    rw [h] at hnext
    exact reason_of_next hnext
  | case3 asDirectory links directory part rest asDirectory' links' directory' parts' hnext ih =>
    exact ih h

/-- **Why a path is refused**: it leads nowhere, or something on it is too long. -/
theorem locate_refused {d : Disk} {path : String} {r : Refusal}
    (h : d.locate path = .error (.refused r)) : r.reason ∈ pathReasons := by
  unfold locate at h
  split at h
  · cases h
  dsimp only at h
  split at h
  · cases h
  · next reason hresult =>
    cases h
    change reason ∈ pathReasons
    split at hresult
    · cases hresult
      decide
    split at hresult
    · cases hresult
      decide
    · exact reason_of_walk _ _ _ _ _ hresult

end Files.Disk

/-! ## Mishaps -/

namespace Payload

/-- The text of a settings file, with line feeds for all line breaks. -/
def HasText (d : Disk) (path : String) (text : List Char) : Prop :=
  ∃ bytes chars, bytesOf d path = .ok bytes ∧ Utf8.decode bytes = .ok chars ∧
    lineFeeds chars = text

lemma HasText.unique {d : Disk} {path : String} {text text' : List Char} (h : HasText d path text)
    (h' : HasText d path text') : text = text' := by
  obtain ⟨bytes, chars, hbytes, hdecode, rfl⟩ := h
  obtain ⟨bytes', chars', hbytes', hdecode', rfl⟩ := h'
  rw [hbytes] at hbytes'
  cases hbytes'
  rw [hdecode] at hdecode'
  cases hdecode'
  rfl

/-- A file with a text is loaded by reading the text. -/
lemma HasText.load_eq {d : Disk} {path : String} {text : List Char} (h : HasText d path text) :
    load d path = if isJson path = true then readJson path text else readYaml path text := by
  obtain ⟨bytes, chars, hbytes, hdecode, rfl⟩ := h
  unfold load
  rw [hbytes, ok_bind, hdecode]

/-- A file that is loaded has a text. -/
lemma exists_hasText {d : Disk} {path : String} {p : Payload} (h : load d path = .ok p) :
    ∃ text, HasText d path text := by
  unfold load at h
  rw [bind_eq_ok] at h
  obtain ⟨bytes, hbytes, h⟩ := h
  cases hdecode : Utf8.decode bytes with
  | error e =>
    rw [hdecode] at h
    cases h
  | ok chars => exact ⟨_, bytes, chars, hbytes, hdecode, rfl⟩

/-- What goes wrong with a settings file without being looked for. -/
inductive Mishap (d : Disk) (path : String) : SettingsObstacle → Prop where
  /-- The path, or a name on it, is too long. -/
  | path {r : Refusal} (locate : d.locate (Path.tidy path) = .error (.refused r))
    (reason : r.reason = .nameTooLong) : Mishap d path (.refused r)
  /-- A JSON text has a number with too many digits. -/
  | numeral {text : List Char} {l : DigitLimit} (hasText : HasText d path text)
    (json : isJson path = true) (read : Json.read text = .error (.number l)) :
    Mishap d path (.number l)
  /-- A YAML text has an escape that is no character's. -/
  | escape {text : List Char} {f : Yaml.EscapeFault} (hasText : HasText d path text)
    (yaml : isJson path = false) (read : Yaml.read text = .error (.escape f)) :
    Mishap d path (.escape f)
  /-- A YAML text has a scalar that stands for no value of its kind. -/
  | scalar {text : List Char} {f : Yaml.ScalarFault} (hasText : HasText d path text)
    (yaml : isJson path = false) (read : Yaml.read text = .error (.scalar f)) :
    Mishap d path (.scalar f)
  /-- The first thing that is wrong with the entries of a YAML file is a number that is too long to be
  written out. -/
  | written {es : List (String × Found)} {l : DigitLimit} (yaml : isJson path = false)
    (reads : Settings.Reads d (some path) es)
    (first : (objections path es).head? = some (.number l)) : Mishap d path (.number l)

variable {d : Disk} {path : String} {obstacle : SettingsObstacle}

/-! ### Stage by stage -/

/-- The bytes of a file are missed in an undeclared way if its path is too long. -/
lemma undeclared_bytesOf :
    Undeclared (bytesOf d path) obstacle ↔
      ∃ r, obstacle = .refused r ∧ d.locate (Path.tidy path) = .error (.refused r) ∧
        r.reason = .nameTooLong := by
  unfold bytesOf
  dsimp only
  cases hlocate : d.locate (Path.tidy path) with
  | ok place =>
    simp only [reduceCtorEq, false_and, and_false, exists_false, iff_false]
    cases place with
    | vacant directory name => exact not_undeclared_failure _
    | node n =>
      dsimp only
      cases d.read (Path.tidy path) with
      | ok bytes => exact not_undeclared_ok bytes
      | error fault => exact not_undeclared_failure _
  | error fault =>
    cases fault with
    | nul =>
      simp only [Except.error.injEq, reduceCtorEq, false_and, and_false, exists_false, iff_false]
      exact not_undeclared_failure _
    | refused r =>
      have hreason := Disk.locate_refused hlocate
      have hundeclared : ¬ (SettingsObstacle.refused r).IsDeclared := fun ⟨f, hf⟩ => nomatch hf
      dsimp only
      by_cases hlong : r.reason = .nameTooLong
      · have hkept : ¬ [Reason.notFound, .notDirectory, .tooManyLinks].contains r.reason = true := by
          rw [hlong]
          decide
        rw [if_neg hkept, undeclared_error hundeclared]
        simp [hlong]
      · have hmissing : [Reason.notFound, .notDirectory, .tooManyLinks].contains r.reason = true := by
          simpa [Disk.pathReasons, hlong] using hreason
        rw [if_pos hmissing]
        refine iff_of_false (not_undeclared_failure _) ?_
        rintro ⟨r', -, hr, hlong'⟩
        cases hr
        exact hlong hlong'

/-- A JSON text fails to be read in an undeclared way if it has too long a number. -/
lemma undeclared_readJson {text : List Char} :
    Undeclared (readJson path text) obstacle ↔
      ∃ l, obstacle = .number l ∧ Json.read text = .error (.number l) := by
  unfold readJson
  cases Json.read text with
  | ok v => exact iff_of_false (not_undeclared_ok _) (by simp)
  | error e =>
    cases e with
    | malformed e => exact iff_of_false (not_undeclared_failure _) (by simp)
    | number l =>
      have hundeclared : ¬ (SettingsObstacle.number l).IsDeclared := fun ⟨f, hf⟩ => nomatch hf
      exact (undeclared_error hundeclared).trans (by simp)

/-- A YAML text does if it has a character or a scalar that is out of range. -/
lemma undeclared_readYaml {text : List Char} :
    Undeclared (readYaml path text) obstacle ↔
      (∃ f, obstacle = .escape f ∧ Yaml.read text = .error (.escape f)) ∨
        ∃ f, obstacle = .scalar f ∧ Yaml.read text = .error (.scalar f) := by
  unfold readYaml
  cases Yaml.read text with
  | ok v => exact iff_of_false (not_undeclared_ok _) (by simp)
  | error e =>
    cases e with
    | malformed e => exact iff_of_false (not_undeclared_failure _) (by simp)
    | escape f =>
      have hundeclared : ¬ (SettingsObstacle.escape f).IsDeclared := fun ⟨f, hf⟩ => nomatch hf
      exact (undeclared_error hundeclared).trans (by simp)
    | scalar f =>
      have hundeclared : ¬ (SettingsObstacle.scalar f).IsDeclared := fun ⟨f, hf⟩ => nomatch hf
      exact (undeclared_error hundeclared).trans (by simp)

/-- A file fails to be read in an undeclared way if its path is too long, or its text has something
out of range. -/
lemma undeclared_load :
    Undeclared (load d path) obstacle ↔
      (∃ r, obstacle = .refused r ∧ d.locate (Path.tidy path) = .error (.refused r) ∧
        r.reason = .nameTooLong) ∨
      ∃ text, HasText d path text ∧
        ((isJson path = true ∧ Undeclared (readJson path text) obstacle) ∨
          isJson path = false ∧ Undeclared (readYaml path text) obstacle) := by
  unfold load
  rw [undeclared_bind, undeclared_bytesOf]
  refine or_congr_right ?_
  constructor
  · rintro ⟨bytes, hbytes, h⟩
    cases hdecode : Utf8.decode bytes with
    | error e =>
      rw [hdecode] at h
      exact absurd h (not_undeclared_failure _)
    | ok chars =>
      rw [hdecode] at h
      dsimp only at h
      refine ⟨lineFeeds chars, ⟨bytes, chars, hbytes, hdecode, rfl⟩, ?_⟩
      cases hjson : isJson path with
      | true => exact .inl ⟨rfl, by rwa [if_pos hjson] at h⟩
      | false => exact .inr ⟨rfl, by rwa [if_neg (Bool.not_eq_true _ ▸ hjson)] at h⟩
  · rintro ⟨text, ⟨bytes, chars, hbytes, hdecode, rfl⟩, h⟩
    refine ⟨bytes, hbytes, ?_⟩
    rw [hdecode]
    dsimp only
    rcases h with ⟨hjson, h⟩ | ⟨hjson, h⟩
    · rwa [if_pos hjson]
    · rwa [if_neg (Bool.not_eq_true _ ▸ hjson)]

/-! ### Objections -/

/-- An entry has a value, or an item in its value, that cannot be written out. -/
def IsLong (es : List (String × Found)) (l : DigitLimit) : Prop :=
  ∃ e ∈ es, e.2.value.shown = .error l ∨ ∃ item ∈ e.2.items, item.shown = .error l

/-- What is objected to is declared, but for values that cannot be written out. -/
def Declares (es : List (String × Found)) (objections : List SettingsObstacle) : Prop :=
  ∀ o ∈ objections, o.IsDeclared ∨ ∃ l, o = .number l ∧ IsLong es l

section

variable {es : List (String × Found)} {xs ys : List SettingsObstacle} {key : String}

lemma declares_nil : Declares es [] := fun _ h => nomatch h

lemma declares_failure (f : SettingsFailure) : Declares es [.failure f] := by
  intro o ho
  exact .inl ⟨f, List.mem_singleton.1 ho⟩

lemma Declares.append (hxs : Declares es xs) (hys : Declares es ys) : Declares es (xs ++ ys) := by
  intro o ho
  rcases List.mem_append.1 ho with ho | ho
  · exact hxs o ho
  · exact hys o ho

lemma Declares.ite {c : Prop} [Decidable c] (hxs : Declares es xs) (hys : Declares es ys) :
    Declares es (if c then xs else ys) := by
  split
  · exact hxs
  · exact hys

lemma declares_textObjections (h : Declares es xs) {v : Value}
    (hv : ∀ l, v.shown = .error l → IsLong es l) : Declares es (textObjections xs v) := by
  unfold textObjections
  split
  · exact h.ite declares_nil
  · next l hl =>
    intro o ho
    exact .inr ⟨l, List.mem_singleton.1 ho, hv l hl⟩

lemma isLong_of_find? {found : Found} (h : find? es key = some found) {l : DigitLimit}
    (hl : found.value.shown = .error l) : IsLong es l :=
  ⟨_, mem_of_find? h, .inl hl⟩

lemma declares_keyObjections (h : Declares es xs) : Declares es (keyObjections es key xs) := by
  unfold keyObjections
  split
  · exact declares_nil
  · next found hfound => exact declares_textObjections h fun _ => isLong_of_find? hfound

lemma declares_trueKeyObjections : Declares es (trueKeyObjections es key) := by
  unfold trueKeyObjections
  split
  · exact declares_nil
  · next found hfound =>
    have hvalue : Declares es (textObjections [] found.value) :=
      declares_textObjections declares_nil fun _ => isLong_of_find? hfound
    exact hvalue.ite declares_nil

lemma declares_listObjections : Declares es (listObjections es key) := by
  unfold listObjections
  split
  · exact declares_nil
  · next found hfound =>
    split
    · exact declares_nil
    · exact declares_textObjections (declares_failure _) fun _ hl => nomatch hl
    · intro o ho
      obtain ⟨v, hv, ho⟩ := List.mem_flatMap.1 ho
      have hlong : ∀ l, v.shown = .error l → IsLong es l :=
        fun l hl => ⟨_, mem_of_find? hfound, .inr ⟨v, hv, hl⟩⟩
      exact declares_textObjections (declares_failure _) hlong o ho
    · exact declares_failure _

lemma declares_truthObjections : Declares es (truthObjections es key path) := by
  unfold truthObjections
  split
  · exact declares_nil
  · exact declares_nil
  · exact declares_failure _

lemma declares_objections (path : String) (es : List (String × Found)) :
    Declares es (objections path es) :=
  (declares_keyObjections (declares_failure _)).append <|
    declares_listObjections.append <| ((declares_failure _).ite declares_nil).append <|
    declares_listObjections.append <| declares_truthObjections.append <|
    (declares_keyObjections declares_nil).append <|
    declares_trueKeyObjections.append declares_trueKeyObjections

end

/-- The entries of a JSON file whose value can be written out have values that can be. -/
lemma not_isLong_ofJson {v : Value} (hv : v.IsWritable) {es : List (String × Found)}
    (hes : (ofJson v).entries? = some es) (l : DigitLimit) : ¬ IsLong es l := by
  have hwritable : ∀ e ∈ es, e.2.value.IsWritable ∧ ∀ item ∈ e.2.items, item.IsWritable := by
    unfold ofJson at hes
    split at hes
    · cases hes
      exact fun _ he => nomatch he
    · next entries =>
      cases hes
      intro e he
      obtain ⟨entry, hentry, hfound⟩ := List.mem_filterMap.1 he
      have hvalue := (Value.isWritable_dict.1 hv entry hentry).2
      split at hfound
      · cases hfound
        exact ⟨hvalue, Value.isWritable_list.1 hvalue⟩
      · cases hfound
        exact ⟨hvalue, fun _ hitem => nomatch hitem⟩
      · cases hfound
    · cases hes
  rintro ⟨e, he, hlong | ⟨item, hitem, hlong⟩⟩
  · exact (hwritable e he).1.shown_ne_error l hlong
  · exact ((hwritable e he).2 item hitem).shown_ne_error l hlong

/-- Entries are objected to in an undeclared way if the first objection is to a number. -/
lemma undeclared_barring {es : List (String × Found)} {s : Settings} :
    Undeclared (barring (objections path es) s) obstacle ↔
      ∃ l, obstacle = .number l ∧ (objections path es).head? = some (.number l) := by
  unfold Undeclared
  rw [barring_eq_error]
  constructor
  · rintro ⟨hhead, hundeclared⟩
    rcases declares_objections path es obstacle (List.mem_of_head? hhead) with h | ⟨l, rfl, -⟩
    · exact absurd h hundeclared
    · exact ⟨l, rfl, hhead⟩
  · rintro ⟨l, rfl, hhead⟩
    exact ⟨hhead, fun ⟨f, hf⟩ => nomatch hf⟩

lemma undeclared_settings {p : Payload} {strict : Bool} :
    Undeclared (p.settings path strict) obstacle ↔
      ∃ es l, p.entries? = some es ∧ obstacle = .number l ∧
        (objections path es).head? = some (.number l) := by
  rw [settings_eq]
  cases p.entries? with
  | none => exact iff_of_false (not_undeclared_failure _) (by simp)
  | some es => exact undeclared_barring.trans (by simp)

end Payload

/-! ## Loading -/

namespace Settings

variable {d : Disk} {environment : Option String} {path : String} {obstacle : SettingsObstacle}

/-- Loading fails in an undeclared way in reading the file, or in looking at its entries. -/
lemma undeclared_load :
    Undeclared (load d environment (some path)).2 obstacle ↔
      Undeclared (Payload.load d path) obstacle ∨
        ∃ es l, Reads d (some path) es ∧ obstacle = .number l ∧
          (Payload.objections path es).head? = some (.number l) := by
  rw [load_file, undeclared_bind]
  simp only [Payload.undeclared_settings]
  refine or_congr_right ⟨?_, ?_⟩
  · rintro ⟨p, hload, es, l, hes, hl, hfirst⟩
    exact ⟨es, l, .file hload hes, hl, hfirst⟩
  · rintro ⟨es, l, hreads, hl, hfirst⟩
    cases hreads with
    | @file _ p _ hload hes => exact ⟨p, hload, es, l, hes, hl, hfirst⟩

/-- The first objection to the entries of a JSON file is not to a number. -/
lemma Reads.isJson_eq_false {es : List (String × Found)} {l : DigitLimit}
    (h : Reads d (some path) es) (hfirst : (Payload.objections path es).head? = some (.number l)) :
    Payload.isJson path = false := by
  by_contra hjson
  rw [Bool.not_eq_false] at hjson
  cases h with
  | @file _ p _ hload hes =>
    obtain ⟨text, htext⟩ := Payload.exists_hasText hload
    rw [htext.load_eq, if_pos hjson] at hload
    unfold Payload.readJson at hload
    rcases Json.read_kept text with ⟨e, hkept⟩ | ⟨l, hkept, -⟩ | ⟨v, hkept, hv⟩
    · rw [hkept] at hload
      cases hload
    · rw [hkept] at hload
      cases hload
    · rw [hkept] at hload
      cases hload
      have hnumber := List.mem_of_head? hfirst
      rcases Payload.declares_objections path es _ hnumber with ⟨f, hf⟩ | ⟨l', -, hlong⟩
      · cases hf
      · exact Payload.not_isLong_ofJson hv hes l' hlong

lemma mishap_of_undeclared (h : Undeclared (load d environment (some path)).2 obstacle) :
    Payload.Mishap d path obstacle := by
  simp only [undeclared_load, Payload.undeclared_load, Payload.undeclared_readJson,
    Payload.undeclared_readYaml] at h
  rcases h with (⟨r, rfl, hlocate, hreason⟩ | ⟨text, htext, h⟩) | ⟨es, l, hreads, rfl, hfirst⟩
  · exact .path hlocate hreason
  · rcases h with ⟨hjson, l, rfl, hread⟩ | ⟨hyaml, ⟨f, rfl, hread⟩ | ⟨f, rfl, hread⟩⟩
    · exact .numeral htext hjson hread
    · exact .escape htext hyaml hread
    · exact .scalar htext hyaml hread
  · exact .written (hreads.isJson_eq_false hfirst) hreads hfirst

/-- **A JSON file is loaded, or refused in the declared way, or has too long a run of digits.** -/
theorem load_json {text : List Char} (hjson : Payload.isJson path = true)
    (htext : Payload.HasText d path text)
    (h : (load d environment (some path)).2 = .error obstacle) :
    obstacle.IsDeclared ∨ ∃ l, obstacle = .number l ∧ Json.HasLongRun text l := by
  by_contra hnot
  rw [not_or] at hnot
  obtain ⟨hundeclared, hshort⟩ := hnot
  cases mishap_of_undeclared ⟨h, hundeclared⟩ with
  | path hlocate hreason =>
    have hmissed := (Payload.undeclared_bytesOf.2 ⟨_, rfl, hlocate, hreason⟩).1
    obtain ⟨_, _, hbytes, -⟩ := htext
    cases hbytes.symm.trans hmissed
  | numeral htext' _ hread =>
    rw [htext'.unique htext] at hread
    rcases Json.read_kept text with ⟨e, hkept⟩ | ⟨l, hkept, hrun⟩ | ⟨v, hkept, -⟩
    · cases hread.symm.trans hkept
    · cases hread.symm.trans hkept
      exact hshort ⟨_, rfl, hrun⟩
    · cases hread.symm.trans hkept
  | escape _ hyaml _ => cases hjson.symm.trans hyaml
  | scalar _ hyaml _ => cases hjson.symm.trans hyaml
  | written hyaml _ _ => cases hjson.symm.trans hyaml

end Settings

end RoleAudit
