import RoleAudit.Proofs.Text.Trimming
import RoleAudit.Settings.Payload

/-!
# What the entries of a settings file amount to

The entries of a settings file are looked through in a fixed order, and the first thing that is wrong
with them is reported. So what they amount to has two parts that can be told one by one: everything
that is wrong with them, in this order, and the settings that they make if nothing is.

* `Payload.objections`: everything that is wrong with the entries of a file.
* `Payload.made`: the settings of a file's entries, each setting from the entry of its own key.
* `Payload.settingsOf_eq`: reading entries comes to the first objection, or else to these settings.
* `Payload.objections_eq`, `Payload.mem_earlyObjections`: what the objections can be, and where.
-/

namespace RoleAudit.Payload

open RoleAudit.Text

/-! ## Results and objections -/

/-- A result, unless there are objections to it; of several the first is reported. -/
def barring {α : Type} (objections : List SettingsObstacle) (result : α) :
    Except SettingsObstacle α :=
  match objections with
  | [] => .ok result
  | x :: _ => .error x

@[simp] lemma barring_nil {α : Type} (a : α) : barring [] a = .ok a := rfl

@[simp] lemma barring_cons {α : Type} (x : SettingsObstacle) (xs : List SettingsObstacle) (a : α) :
    barring (x :: xs) a = .error x := rfl

lemma barring_eq_ok {α : Type} {xs : List SettingsObstacle} {a b : α} :
    barring xs a = .ok b ↔ xs = [] ∧ a = b := by
  cases xs with
  | nil => simp
  | cons x xs => simp

lemma barring_eq_error {α : Type} {xs : List SettingsObstacle} {a : α} {x : SettingsObstacle} :
    barring xs a = .error x ↔ xs.head? = some x := by
  cases xs with
  | nil => simp
  | cons y ys => simp

section

variable {α β : Type} {xs ys : List SettingsObstacle} {a : α} {b : β}
  {f : α → Except SettingsObstacle β}

/-- One result after the other: the objections to the first come first. -/
lemma barring_bind (h : f a = barring ys b) : (barring xs a >>= f) = barring (xs ++ ys) b := by
  cases xs with
  | nil => exact h
  | cons x xs => rfl

lemma barring_map (g : α → β) : (barring xs a).map g = barring xs (g a) := by
  cases xs <;> rfl

/-- The last result: nothing can object any more. -/
lemma barring_pure (g : α → β) :
    (barring xs a >>= fun a => (pure (g a) : Except SettingsObstacle β)) = barring xs (g a) := by
  cases xs <;> rfl

/-- A test between results. -/
lemma barring_ite {c : Bool} {x : SettingsObstacle} {r : Except SettingsObstacle β}
    (h : r = barring ys b) :
    (if c = true then .error x else r) = barring ((if c = true then [x] else []) ++ ys) b := by
  cases c with
  | false => exact h
  | true => rfl

end

/-! ## Texts -/

/-- A result is handed on. -/
lemma ok_bind {α β : Type} (a : α) (f : α → Except SettingsObstacle β) :
    ((.ok a : Except SettingsObstacle α) >>= f) = f a := rfl

/-- Throwing ends a computation. -/
lemma throw_bind {α β : Type} (x : SettingsObstacle) (f : α → Except SettingsObstacle β) :
    ((throw x : Except SettingsObstacle α) >>= f) = .error x := rfl

/-- A value written out, without the white space around it. -/
def written (v : Value) : String :=
  match v.shown with
  | .ok s => trim s
  | .error _ => ""

/-- What is wrong with a value as a text: it is too long to be written out; or it is blank, if that
counts. -/
def textObjections (blank : List SettingsObstacle) (v : Value) : List SettingsObstacle :=
  match v.shown with
  | .ok s => if isBlankText s = true then blank else []
  | .error l => [.number l]

lemma textOf_eq (v : Value) : textOf v = barring (textObjections [] v) (written v) := by
  unfold textOf textObjections written
  cases v.shown with
  | error l => rfl
  | ok s =>
    dsimp only
    rw [ite_self]
    rfl

/-- A text that must not be blank. -/
lemma textOf_bind {β : Type} {v : Value} {x : SettingsObstacle}
    {f : String → Except SettingsObstacle β} {ys : List SettingsObstacle} {b : β}
    (h : f (written v) = barring ys b) :
    (textOf v >>= fun text => if text.isEmpty = true then .error x else f text) =
      barring (textObjections [x] v ++ ys) b := by
  unfold textOf textObjections written at *
  cases hv : v.shown with
  | error l => rfl
  | ok s =>
    rw [hv] at h
    dsimp only at h ⊢
    rw [ok_bind, isEmpty_trim]
    exact barring_ite h

lemma not_isBlankText_written {v : Value} {x : SettingsObstacle} (h : textObjections [x] v = []) :
    isBlankText (written v) = false := by
  unfold textObjections at h
  unfold written
  cases hv : v.shown with
  | error l =>
    rw [hv] at h
    cases h
  | ok s =>
    rw [hv] at h
    dsimp only at h ⊢
    rw [isBlankText_trim]
    by_contra hblank
    rw [if_pos (Bool.not_eq_false _ ▸ hblank)] at h
    cases h

/-- A written value is empty exactly if it is blank. -/
lemma isEmpty_written (v : Value) : (written v).isEmpty = isBlankText (written v) := by
  unfold written
  cases v.shown with
  | error l => rfl
  | ok s =>
    dsimp only
    rw [isEmpty_trim, isBlankText_trim]

lemma textsOf_eq (key : String) (items : List Value) :
    textsOf key items =
      barring (items.flatMap (textObjections [.failure (.emptyText key)])) (items.map written) := by
  unfold textsOf
  induction items with
  | nil => rfl
  | cons v items ih =>
    rw [List.mapM_cons, ih, List.flatMap_cons, List.map_cons]
    have hitem : (textOf v >>= fun text =>
        if text.isEmpty = true then .error (.failure (.emptyText key)) else .ok text) =
          barring (textObjections [.failure (.emptyText key)] v ++ []) (written v) :=
      textOf_bind rfl
    simp only [throw_bind]
    change ((textOf v >>= fun text =>
        if text.isEmpty = true then .error (.failure (.emptyText key)) else .ok text) >>= _) = _
    rw [hitem, List.append_nil]
    apply barring_bind
    exact barring_pure _

/-! ## The settings of the keys -/

/-- What is found under a key is an entry. -/
lemma mem_of_find? {es : List (String × Found)} {key : String} {found : Found}
    (h : find? es key = some found) : (key, found) ∈ es := by
  unfold find? at h
  obtain ⟨⟨key', found'⟩, he, rfl⟩ := Option.map_eq_some_iff.1 h
  have hkey : key' = key := by simpa using List.find?_some he
  rw [← hkey]
  exact List.mem_reverse.1 (List.mem_of_find?_eq_some he)

section

variable (es : List (String × Found)) (key : String)

/-- The text of a key. -/
def textAt? : Option String := (find? es key).map fun found => written found.value

/-- The text of a key whose value is true, as values go. -/
def trueTextAt? : Option String :=
  ((find? es key).filter fun found => found.value.isTrue).map fun found => written found.value

/-- The texts of a key; a single text is a list of one. -/
def textsAt? : Option (List String) :=
  (find? es key).bind fun found =>
    match found.value with
    | .text s => some [trim s]
    | .list _ => some (found.items.map written)
    | _ => none

/-- The truth value of a key. -/
def truthAt? : Option Bool :=
  (find? es key).bind fun found =>
    match found.value with
    | .bool b => some b
    | _ => none

/-- What is wrong with the value of a key as a text. -/
def keyObjections (blank : List SettingsObstacle) : List SettingsObstacle :=
  match find? es key with
  | none => []
  | some found => textObjections blank found.value

/-- What is wrong with the value of a key as a text, if it is true. -/
def trueKeyObjections : List SettingsObstacle :=
  match find? es key with
  | none => []
  | some found => if found.value.isTrue = true then textObjections [] found.value else []

/-- What is wrong with the value of a key as a list of texts. -/
def listObjections : List SettingsObstacle :=
  match find? es key with
  | none => []
  | some found =>
    match found.value with
    | .null => []
    | .text s => textObjections [.failure (.emptyText key)] (.text s)
    | .list _ => found.items.flatMap (textObjections [.failure (.emptyText key)])
    | _ => [.failure (.notTexts key)]

/-- What is wrong with the value of a key as a truth value. -/
def truthObjections (path : String) : List SettingsObstacle :=
  match find? es key with
  | none => []
  | some ⟨.bool _, _⟩ => []
  | some _ => [.failure (.notTruth key path)]

lemma texts?_eq : texts? es key = barring (listObjections es key) (textsAt? es key) := by
  unfold texts? listObjections textsAt?
  rcases find? es key with _ | ⟨v, items⟩
  · rfl
  · dsimp only [Option.bind_some]
    cases v with
    | text s =>
      dsimp only
      rw [textsOf_eq, barring_map, List.flatMap_singleton]
      rfl
    | list vs =>
      dsimp only
      rw [textsOf_eq, barring_map]
    | _ => rfl

lemma truth?_eq (path : String) :
    truth? es key path = barring (truthObjections es key path) (truthAt? es key) := by
  unfold truth? truthObjections truthAt?
  rcases find? es key with _ | ⟨v, items⟩
  · rfl
  · cases v <;> rfl

lemma textIfTrue?_eq :
    textIfTrue? es key = barring (trueKeyObjections es key) (trueTextAt? es key) := by
  unfold textIfTrue? trueKeyObjections trueTextAt?
  rcases find? es key with _ | found
  · rfl
  · dsimp only
    rw [Option.filter_some, textOf_eq, barring_map]
    cases found.value.isTrue <;> rfl

/-- The text of a key, with what holds if the key is not there. -/
def textOr (usual : String) : Except SettingsObstacle String :=
  match find? es key with
  | none => .ok usual
  | some found => textOf found.value

lemma textOr_eq (usual : String) :
    textOr es key usual = barring (keyObjections es key []) ((textAt? es key).getD usual) := by
  unfold textOr keyObjections textAt?
  rcases find? es key with _ | found
  · rfl
  · exact textOf_eq found.value

/-- A text that must not be blank, with what holds if the key is not there. -/
lemma textOr_bind {β : Type} {usual : String} (husual : usual.isEmpty = false)
    {x : SettingsObstacle} {f : String → Except SettingsObstacle β} {ys : List SettingsObstacle}
    {b : β} (h : f ((textAt? es key).getD usual) = barring ys b) :
    (textOr es key usual >>= fun text => if text.isEmpty = true then .error x else f text) =
      barring (keyObjections es key [x] ++ ys) b := by
  unfold textAt? at h
  unfold textOr keyObjections
  rcases hfound : find? es key with _ | found <;> rw [hfound] at h
  · change (if usual.isEmpty = true then .error x else f usual) = _
    rw [husual]
    exact h
  · exact textOf_bind h

end

/-! ## All entries -/

/-- Everything that is wrong with the entries of a file, in the order in which it is looked for. -/
def objections (path : String) (es : List (String × Found)) : List SettingsObstacle :=
  keyObjections es "project_name" [.failure (.noProjectName path)] ++
  (listObjections es "source_roots" ++
  ((if (textsAt? es "source_roots" == some []) = true then
    [.failure (.noSourceRoots (some path))] else []) ++
  (listObjections es "file_name_markers" ++
  (truthObjections es "strict_syntax" path ++
  (keyObjections es "build_dir" [] ++
  (trueKeyObjections es "report_file" ++
  trueKeyObjections es "base_package"))))))

/-- The settings of a file's entries. `strict` is what holds if the file does not say. -/
def made (strict : Bool) (es : List (String × Found)) : Settings where
  projectName := (textAt? es "project_name").getD "project"
  buildDirectory := ((textAt? es "build_dir").filter fun text => !text.isEmpty).getD "target"
  reportFile := trueTextAt? es "report_file"
  basePackage := (trueTextAt? es "base_package").getD ""
  sourceRoots := (textsAt? es "source_roots").getD ["src/main/java"]
  markers := (textsAt? es "file_name_markers").getD Walk.defaultMarkers
  strict := (truthAt? es "strict_syntax").getD strict

/-- A text that counts only if it is not empty. -/
lemma getD_filter (text : Option String) {usual : String} :
    (if (text.getD usual).isEmpty = true then usual else text.getD usual) =
      (text.filter fun text => !text.isEmpty).getD usual := by
  cases text with
  | none => exact ite_self _
  | some s =>
    rw [Option.getD_some, Option.filter_some]
    cases s.isEmpty <;> rfl

/-- **Reading entries comes to the first objection to them**, and if there is none, to the settings
that they make. -/
theorem settingsOf_eq (path : String) (strict : Bool) (es : List (String × Found)) :
    settingsOf path strict es = barring (objections path es) (made strict es) := by
  unfold settingsOf
  simp only [throw_bind]
  apply textOr_bind es "project_name" rfl
  rw [texts?_eq, texts?_eq, truth?_eq, textIfTrue?_eq, textIfTrue?_eq]
  apply barring_bind
  apply barring_ite
  apply barring_bind
  apply barring_bind
  change (textOr es "build_dir" "target" >>= _) = _
  rw [textOr_eq]
  apply barring_bind
  apply barring_bind
  rw [barring_pure, getD_filter]
  rfl

/-! ## What an objection can be -/

section

variable {es : List (String × Found)} {key path : String} {o : SettingsObstacle}

/-- A value is blank, or too long to be written out. -/
lemma mem_textObjections {blank : List SettingsObstacle} {v : Value}
    (h : o ∈ textObjections blank v) : o ∈ blank ∨ ∃ l, o = .number l := by
  unfold textObjections at h
  split at h
  · split at h
    · exact .inl h
    · cases h
  · next l _ => exact .inr ⟨l, List.mem_singleton.1 h⟩

lemma mem_keyObjections {blank : List SettingsObstacle} (h : o ∈ keyObjections es key blank) :
    o ∈ blank ∨ ∃ l, o = .number l := by
  unfold keyObjections at h
  split at h
  · cases h
  · exact mem_textObjections h

lemma mem_trueKeyObjections (h : o ∈ trueKeyObjections es key) : ∃ l, o = .number l := by
  unfold trueKeyObjections at h
  split at h
  · cases h
  · split at h
    · exact (mem_textObjections h).resolve_left List.not_mem_nil
    · cases h

lemma mem_listObjections (h : o ∈ listObjections es key) :
    (o = .failure (.notTexts key) ∨ o = .failure (.emptyText key)) ∨ ∃ l, o = .number l := by
  have hblank : ∀ {v : Value}, o ∈ textObjections [.failure (.emptyText key)] v →
      (o = .failure (.notTexts key) ∨ o = .failure (.emptyText key)) ∨ ∃ l, o = .number l :=
    fun hv => (mem_textObjections hv).imp_left fun ho => .inr (List.mem_singleton.1 ho)
  unfold listObjections at h
  split at h
  · cases h
  · split at h
    · cases h
    · exact hblank h
    · obtain ⟨v, -, hv⟩ := List.mem_flatMap.1 h
      exact hblank hv
    · exact .inl (.inl (List.mem_singleton.1 h))

/-- What is looked for before the truth value. -/
def earlyObjections (path : String) (es : List (String × Found)) : List SettingsObstacle :=
  keyObjections es "project_name" [.failure (.noProjectName path)] ++
  (listObjections es "source_roots" ++
  ((if (textsAt? es "source_roots" == some []) = true then
    [.failure (.noSourceRoots (some path))] else []) ++
  listObjections es "file_name_markers"))

/-- What is looked for behind the truth value. -/
def lateObjections (es : List (String × Found)) : List SettingsObstacle :=
  keyObjections es "build_dir" [] ++
  (trueKeyObjections es "report_file" ++ trueKeyObjections es "base_package")

lemma objections_eq (path : String) (es : List (String × Found)) :
    objections path es =
      earlyObjections path es ++ (truthObjections es "strict_syntax" path ++ lateObjections es) := by
  unfold objections earlyObjections lateObjections
  simp only [List.append_assoc]

/-- The settings that are lists of texts. -/
def listKeys : List String := ["source_roots", "file_name_markers"]

/-- **What is wrong before the truth value is looked at**: the name of the project is blank, a list
is none, is empty, or has an empty text in it, or something is too long. -/
lemma mem_earlyObjections (h : o ∈ earlyObjections path es) :
    o = .failure (.noProjectName path) ∨ o = .failure (.noSourceRoots (some path)) ∨
      (∃ key ∈ listKeys, o = .failure (.notTexts key) ∨ o = .failure (.emptyText key)) ∨
      ∃ l, o = .number l := by
  unfold earlyObjections at h
  simp only [List.mem_append] at h
  rcases h with hname | hroots | hempty | hmarkers
  · exact (mem_keyObjections hname).imp List.mem_singleton.1 (.inr ∘ .inr)
  · exact .inr (.inr ((mem_listObjections hroots).imp_left fun ho => ⟨_, by decide, ho⟩))
  · split at hempty
    · exact .inr (.inl (List.mem_singleton.1 hempty))
    · cases hempty
  · exact .inr (.inr ((mem_listObjections hmarkers).imp_left fun ho => ⟨_, by decide, ho⟩))

/-- Behind the truth value there are only values that are too long. -/
lemma mem_lateObjections (h : o ∈ lateObjections es) : ∃ l, o = .number l := by
  unfold lateObjections at h
  simp only [List.mem_append] at h
  rcases h with hbuild | hreport | hpackage
  · exact (mem_keyObjections hbuild).resolve_left List.not_mem_nil
  · exact mem_trueKeyObjections hreport
  · exact mem_trueKeyObjections hpackage

end

end RoleAudit.Payload
