import RoleAudit.Proofs.Files.Following
import RoleAudit.Proofs.Files.Parts
import RoleAudit.Proofs.Settings.Objections
import RoleAudit.Settings.Resolve

/-!
# How settings are resolved

Settings come about in two steps: a file is loaded over the defaults, and single settings are
replaced by others. Each step succeeds under a condition of its own, and then each setting has one
source.

* `Settings.Reads`: the entries that settings are made from.
* `Settings.load_eq_ok`: when loading succeeds, and with which settings.
* `Options.settings_eq_ok`: when the settings of a run are known, and which they are.
-/

namespace RoleAudit

open RoleAudit.Files

/-! ## Results one after the other -/

section

variable {ε δ α β : Type}

/-- A computation succeeds if each of its steps does. -/
lemma bind_eq_ok {x : Except ε α} {f : α → Except ε β} {b : β} :
    (x >>= f) = .ok b ↔ ∃ a, x = .ok a ∧ f a = .ok b := by
  cases x with
  | error e => exact ⟨fun h => (nomatch h), fun ⟨_, h, _⟩ => (nomatch h)⟩
  | ok a => exact ⟨fun h => ⟨a, rfl, h⟩, fun ⟨_, h, hf⟩ => Except.ok.inj h ▸ hf⟩

/-- A computation fails at the first of its steps that does. -/
lemma bind_eq_error {x : Except ε α} {f : α → Except ε β} {e : ε} :
    (x >>= f) = .error e ↔ x = .error e ∨ ∃ a, x = .ok a ∧ f a = .error e := by
  cases x with
  | error e' =>
    refine ⟨fun h => .inl (Except.error.inj h ▸ rfl), ?_⟩
    rintro (h | ⟨_, h, _⟩)
    · exact congrArg _ (Except.error.inj h)
    · exact nomatch h
  | ok a =>
    refine ⟨fun h => .inr ⟨a, rfl, h⟩, ?_⟩
    rintro (h | ⟨_, h, hf⟩)
    · exact nomatch h
    · exact Except.ok.inj h ▸ hf

/-- Another word for an error changes no success. -/
lemma mapError_eq_ok {x : Except ε α} {f : ε → δ} {a : α} :
    x.mapError f = .ok a ↔ x = .ok a := by
  cases x <;> simp [Except.mapError]

end

/-! ## Loading -/

/-- The entries of a content; one without entries has none. -/
def Payload.entries? : Payload → Option (List (String × Found))
  | nothing => some []
  | entries es => some es
  | other => none

lemma Payload.settings_eq {p : Payload} {path : String} {strict : Bool} :
    p.settings path strict =
      match p.entries? with
      | none => .error (.failure .notObject)
      | some es => Payload.barring (Payload.objections path es) (Payload.made strict es) := by
  cases p with
  | nothing => exact Payload.settingsOf_eq path strict []
  | entries es => exact Payload.settingsOf_eq path strict es
  | other => rfl

lemma Payload.settings_eq_ok {p : Payload} {path : String} {strict : Bool} {s : Settings} :
    p.settings path strict = .ok s ↔
      ∃ es, p.entries? = some es ∧ Payload.objections path es = [] ∧ Payload.made strict es = s := by
  rw [Payload.settings_eq]
  rcases p.entries? with _ | es
  · simp
  · simp [Payload.barring_eq_ok]

namespace Settings

variable {d : Disk} {environment file : Option String}

/-- Settings from a file: it is read, and then its content is looked at. -/
lemma load_file (path : String) :
    (load d environment (some path)).2 =
      Payload.load d path >>= fun p => p.settings path (strictByEnvironment environment) := by
  unfold load
  dsimp only
  rcases Payload.load d path with obstacle | p
  · rfl
  · dsimp only [Bind.bind, Except.bind]
    rcases p.settings path (strictByEnvironment environment) with obstacle | s <;> rfl

/-- The entries that settings are made from: those of the file, if there is one. -/
inductive Reads (d : Disk) : Option String → List (String × Found) → Prop where
  | bare : Reads d none []
  | file {path : String} {p : Payload} {es : List (String × Found)}
    (load : Payload.load d path = .ok p) (entries : p.entries? = some es) : Reads d (some path) es

/-- A file is read in one way. -/
lemma Reads.unique {es es' : List (String × Found)} (h : Reads d file es) (h' : Reads d file es') :
    es = es' := by
  cases h with
  | bare => cases h'; rfl
  | file load entries =>
    cases h' with
    | file load' entries' =>
      cases load.symm.trans load'
      exact Option.some.inj (entries.symm.trans entries')

/-- What loading comes to, if there are entries: the first objection to them, or the settings that
they make. -/
lemma Reads.load_eq {path : String} {es : List (String × Found)} (h : Reads d (some path) es) :
    (load d environment (some path)).2 =
      Payload.barring (Payload.objections path es)
        (Payload.made (strictByEnvironment environment) es) := by
  cases h with
  | file load entries =>
    rw [load_file, load, Payload.ok_bind, Payload.settings_eq, entries]

/-- There is nothing to object to where there is no file. -/
lemma Reads.exists_path {es : List (String × Found)} (h : Reads d file es)
    (hobjections : ∀ path ∈ file, Payload.objections path es = []) :
    ∃ path, Payload.objections path es = [] := by
  cases h with
  | bare => exact ⟨"", rfl⟩
  | @file path => exact ⟨path, hobjections path rfl⟩

/-- **Loading settings succeeds** if the file can be read and there are no objections to its
entries. -/
theorem load_eq_ok {s : Settings} :
    (load d environment file).2 = .ok s ↔
      ∃ es, Reads d file es ∧ (∀ path ∈ file, Payload.objections path es = []) ∧
        Payload.made (strictByEnvironment environment) es = s := by
  cases file with
  | none =>
    constructor
    · intro h
      exact ⟨[], .bare, fun _ hpath => (nomatch hpath), Except.ok.inj h⟩
    · rintro ⟨es, ⟨⟩, -, rfl⟩
      rfl
  | some path =>
    rw [load_file, bind_eq_ok]
    constructor
    · rintro ⟨p, hload, hp⟩
      obtain ⟨es, hes, hobjections, hs⟩ := Payload.settings_eq_ok.1 hp
      exact ⟨es, .file hload hes, by simpa using hobjections, hs⟩
    · rintro ⟨es, hreads, hobjections, hs⟩
      cases hreads with
      | file hload hes =>
        exact ⟨_, hload, Payload.settings_eq_ok.2 ⟨es, hes, hobjections path rfl, hs⟩⟩

/-! ## Replacing -/

/-- Settings with others in the place of some. -/
def overridden (s : Settings) (o : Overrides) : Settings where
  projectName := o.projectName.getD s.projectName
  buildDirectory := o.buildDirectory.getD s.buildDirectory
  reportFile := o.reportFile.or s.reportFile
  basePackage := o.basePackage.getD s.basePackage
  sourceRoots := o.sourceRoots.getD s.sourceRoots
  markers := o.markers.getD s.markers
  strict := o.strict.getD s.strict

lemma override_eq_ok {s t : Settings} {o : Overrides} :
    s.override o = .ok t ↔ o.sourceRoots ≠ some [] ∧ s.overridden o = t := by
  unfold override
  by_cases h : o.sourceRoots = some []
  · simp [h]
  · rw [if_neg (by simpa using h), Except.ok.injEq]
    exact ⟨fun ht => ⟨h, ht⟩, fun ht => ht.2⟩

end Settings

/-- The settings of a run: they are loaded, and then some are replaced. -/
lemma Options.settings_snd (o : Options) (d : Disk) (environment : Option String) :
    (o.settings d environment).2 =
      (Settings.load d environment o.config).2 >>= fun s =>
        (s.override o.overrides).mapError .failure := by
  unfold Options.settings
  rcases Settings.load d environment o.config with ⟨log, obstacle | s⟩ <;> rfl

/-- **The settings of a run are known** if its file can be read, there are no objections to its
entries, and the command line does not leave it without source roots. -/
theorem Options.settings_eq_ok {o : Options} {d : Disk} {environment : Option String}
    {s : Settings} :
    (o.settings d environment).2 = .ok s ↔
      ∃ es, Settings.Reads d o.config es ∧ (∀ path ∈ o.config, Payload.objections path es = []) ∧
        o.sourceRoots ≠ some [] ∧
        (Payload.made (strictByEnvironment environment) es).overridden o.overrides = s := by
  rw [Options.settings_snd, bind_eq_ok]
  constructor
  · rintro ⟨t, hload, hs⟩
    obtain ⟨es, hreads, hobjections, rfl⟩ := Settings.load_eq_ok.1 hload
    obtain ⟨hroots, hs⟩ := Settings.override_eq_ok.1 (mapError_eq_ok.1 hs)
    exact ⟨es, hreads, hobjections, hroots, hs⟩
  · rintro ⟨es, hreads, hobjections, hroots, hs⟩
    exact ⟨_, Settings.load_eq_ok.2 ⟨es, hreads, hobjections, rfl⟩,
      mapError_eq_ok.2 (Settings.override_eq_ok.2 ⟨hroots, hs⟩)⟩

/-! ## A disk with one settings file -/

/-- A disk with one file, in the root. -/
def Files.Disk.holding (name : String) (content : List UInt8) : Disk :=
  ((Disk.empty "/").attach 0 name .file).setContent 1 content

namespace Payload

section

variable {name : String} {content : List UInt8}
  (hnodes : (Disk.holding name content).nodes = #[.directory 0 [(name, 1)], .file content])

include hnodes

lemma node?_holding : (Disk.holding name content).node? 1 = some (.file content) := by
  unfold Disk.node?
  rw [hnodes]
  rfl

lemma locate_holding (hhome : (Disk.holding name content).home = 0)
    (hname : Path.isName name = true) (hnul : name.toList.contains (Char.ofNat 0) = false)
    (hshort : name.utf8ByteSize ≤ nameLimit) :
    (Disk.holding name content).locate name = .ok (.node 1) := by
  obtain ⟨hempty, hslash, hdot, hup⟩ := Path.isName_iff.1 hname
  have hlimit : ¬ pathLimit ≤ name.utf8ByteSize := by
    unfold pathLimit
    unfold nameLimit at hshort
    omega
  have hlookup : (Disk.holding name content).lookup? 0 name = some 1 := by
    unfold Disk.lookup? Disk.entries Disk.node?
    rw [hnodes]
    simp
  rw [Disk.locate_eq_ok_iff, Disk.steps_of_slash_not_mem hempty hslash,
    Path.isAbsolute_of_slash_not_mem hslash, Path.endsInSlash_of_slash_not_mem hslash,
    if_neg Bool.false_ne_true, hhome]
  refine ⟨hnul, by simpa using hempty, hlimit, ?_⟩
  rw [Disk.walk_cons, Disk.next_of_name hdot hup (.inl rfl), if_neg (Nat.not_lt.2 hshort), hlookup]
  dsimp only
  unfold Disk.arrive
  rw [node?_holding hnodes]
  rfl

/-- The file of such a disk can be read. -/
lemma bytesOf_holding (hhome : (Disk.holding name content).home = 0)
    (hname : Path.isName name = true) (hnul : name.toList.contains (Char.ofNat 0) = false)
    (hshort : name.utf8ByteSize ≤ nameLimit) (htidy : Path.tidy name = name) :
    bytesOf (Disk.holding name content) name = .ok content := by
  unfold bytesOf Disk.read
  dsimp only
  rw [htidy, locate_holding hnodes hhome hname hnul hshort]
  dsimp only
  rw [node?_holding hnodes]
  rfl

end

lemma bytesOf_holding_json (content : List UInt8) :
    bytesOf (Disk.holding "audit.json" content) "audit.json" = .ok content :=
  bytesOf_holding rfl rfl (by decide +kernel) (by decide +kernel) (by decide +kernel)
    (by decide +kernel)

end Payload

/-- The entries of a JSON file on such a disk. -/
lemma Settings.reads_holding_json {text : String} {es : List (String × Found)}
    (hdecode : Text.Utf8.decode text.toUTF8.toList = .ok text.toList)
    (hlines : lineFeeds text.toList = text.toList)
    (hread : Payload.readJson "audit.json" text.toList = .ok (.entries es)) :
    Reads (.holding "audit.json" text.toUTF8.toList) (some "audit.json") es := by
  have hjson : Payload.isJson "audit.json" = true := by decide +kernel
  refine .file (p := .entries es) ?_ rfl
  unfold Payload.load
  rw [Payload.bytesOf_holding_json]
  dsimp only [Bind.bind, Except.bind]
  rw [hdecode]
  dsimp only
  rw [hlines, if_pos hjson, hread]

end RoleAudit
