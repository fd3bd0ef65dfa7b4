import RoleAudit.Proofs.Settings.Resolving

/-!
# The precedence of settings

A setting may be given on the command line, in a file, by the environment, or not at all. The first
of these that gives it decides, for each setting by itself: `Layered`. What counts as given differs
from setting to setting. On the command line an empty text is given, but not for the path of the
report; in a file a blank build directory is not given, and an empty list of markers is.

* `Options.Layered`: each setting of a run, from its own layers.
* `Options.settings_layered`: the settings of a run are so, if the values in its file are of the
  kinds that settings are.
-/

namespace RoleAudit

open RoleAudit.Files RoleAudit.Text

/-- What the layers of a setting come to: the flag if it is given, or else the entry if there is one,
or else what is usual. -/
def layered {α : Type} (flag entry : Option α) (usual : α) : α := (flag.or entry).getD usual

/-! ## The values of a file -/

namespace Found

/-- A value as a text, without the white space around it. -/
def text (found : Found) : String := Payload.written found.value

/-- A value as a list of texts, each without the white space around it; one that is no list is a list
of one. -/
def texts (found : Found) : List String :=
  match found.value with
  | .list _ => found.items.map Payload.written
  | v => [Payload.written v]

/-- A value as a truth value. -/
def truth (found : Found) : Bool :=
  match found.value with
  | .bool b => b
  | _ => false

end Found

/-- The settings that are read as texts. -/
def textKeys : List String := ["project_name", "build_dir", "report_file", "base_package"]

/-- The entries of a settings file have values, and those of the settings that are read as texts are
texts. -/
structure Payload.Typed (es : List (String × Found)) : Prop where
  present : ∀ e ∈ es, e.2.value ≠ .null
  texts : ∀ key ∈ textKeys, ∀ found, Payload.find? es key = some found → ∃ s, found.value = .text s

namespace Payload

variable {es : List (String × Found)} {key : String}

lemma textAt?_eq : textAt? es key = (find? es key).map Found.text := rfl

/-- Among texts, only an empty one does not count as true, and it is empty without the white space
around it as well. -/
lemma getD_trueTextAt? (h : ∀ found, find? es key = some found → ∃ s, found.value = .text s) :
    (trueTextAt? es key).getD "" = ((find? es key).map Found.text).getD "" := by
  unfold trueTextAt?
  rcases hfound : find? es key with _ | ⟨v, items⟩
  · rfl
  · obtain ⟨s, rfl⟩ := h _ hfound
    rw [Option.filter_some]
    by_cases hs : s = ""
    · rw [hs]
      rfl
    · have htrue : (Value.text s).isTrue = true := by simpa [Value.isTrue] using hs
      rw [htrue]
      rfl

/-- A list of texts that is not objected to is what its value says. -/
lemma textsAt?_eq (hpresent : ∀ e ∈ es, e.2.value ≠ .null) (h : listObjections es key = []) :
    textsAt? es key = (find? es key).map Found.texts := by
  unfold listObjections at h
  unfold textsAt?
  rcases hfound : find? es key with _ | ⟨v, items⟩ <;> rw [hfound] at h
  · rfl
  · cases v with
    | null => exact absurd rfl (hpresent _ (mem_of_find? hfound))
    | text s => rfl
    | list vs => rfl
    | _ => cases h

/-- A truth value that is not objected to is what its value says. -/
lemma truthAt?_eq {path : String} (h : truthObjections es key path = []) :
    truthAt? es key = (find? es key).map Found.truth := by
  unfold truthObjections at h
  unfold truthAt?
  rcases hfound : find? es key with _ | ⟨v, items⟩ <;> rw [hfound] at h
  · rfl
  · cases v with
    | bool b => rfl
    | _ => cases h

end Payload

/-! ## The layers of a run -/

/-- The settings of a run, each from its own layers: the command line, the entry of its key in the
file, and what is usual. Only the usual path of the report is made from other settings. -/
structure Options.Layered (o : Options) (environment : Option String) (es : List (String × Found))
    (s : Settings) : Prop where
  projectName : s.projectName =
    layered o.projectName ((Payload.find? es "project_name").map Found.text) "project"
  /-- A blank entry counts as none. -/
  buildDirectory : s.buildDirectory =
    layered o.buildDirectory
      (((Payload.find? es "build_dir").map Found.text).filter fun text => !isBlankText text) "target"
  basePackage : s.basePackage =
    layered o.basePackage ((Payload.find? es "base_package").map Found.text) ""
  sourceRoots : s.sourceRoots =
    layered o.sourceRoots ((Payload.find? es "source_roots").map Found.texts) ["src/main/java"]
  /-- Asking for all Java files is a flag for no markers. -/
  markers : s.markers =
    layered (if o.allJavaFiles then some [] else o.markers)
      ((Payload.find? es "file_name_markers").map Found.texts) Walk.defaultMarkers
  /-- The environment is one more layer. -/
  strict : s.strict =
    layered (if o.lenient then some false else none)
      ((Payload.find? es "strict_syntax").map Found.truth)
      ((environment.map isSwitchedOn).getD true)
  /-- An empty path of the command line hides that of the file, and then neither is asked for. -/
  reportPath : s.reportPath =
    ((o.reportFile.or ((Payload.find? es "report_file").map Found.text)).filter
      fun path => !path.isEmpty).getD (Path.join s.buildDirectory (s.projectName ++ "-security.csv"))

/-- What holds for flawed sources if only the environment says anything about them. -/
lemma strictByEnvironment_eq (environment : Option String) :
    strictByEnvironment environment = (environment.map isSwitchedOn).getD true := by
  cases environment with
  | none => rfl
  | some value => rw [strictByEnvironment, Option.map_some, Option.getD_some]

/-- A setting that was read over what is usual and is then replaced has its layers. -/
lemma getD_getD {α : Type} (flag entry : Option α) (usual : α) :
    flag.getD (entry.getD usual) = layered flag entry usual := by
  cases flag <;> rfl

/-- The path of the report is the one that was asked for, unless that is empty. -/
lemma Settings.reportPath_eq (s : Settings) :
    s.reportPath = (s.reportFile.filter fun path => !path.isEmpty).getD
      (Path.join s.buildDirectory (s.projectName ++ "-security.csv")) := by
  unfold Settings.reportPath
  rcases s.reportFile with _ | path
  · rfl
  · dsimp only
    rw [Option.filter_some]
    cases path.isEmpty <;> rfl

namespace Options

variable {o : Options} {d : Disk} {environment : Option String} {es : List (String × Found)}
  {s : Settings}

/-- Of two ways to ask for a report file that differ in empty paths only, both ask for the same. -/
lemma filter_or (flag : Option String) {entry entry' : Option String}
    (h : entry.getD "" = entry'.getD "") :
    (flag.or entry).filter (fun path => !path.isEmpty) =
      (flag.or entry').filter fun path => !path.isEmpty := by
  have hempty : (some "").filter (fun path : String => !path.isEmpty) = none := rfl
  cases flag with
  | some path => rfl
  | none =>
    rcases entry with _ | a <;> rcases entry' with _ | b
    · rfl
    · have hb : "" = b := h
      rw [← hb]
      exact hempty.symm
    · have ha : a = "" := h
      rw [ha]
      exact hempty
    · have hab : a = b := h
      rw [hab]

/-- **Each setting of a run comes from its own layers**, whatever the others are. -/
theorem settings_layered (h : (o.settings d environment).2 = .ok s)
    (hreads : Settings.Reads d o.config es) (htyped : Payload.Typed es) :
    o.Layered environment es s := by
  obtain ⟨es', hreads', hobjections, -, rfl⟩ := settings_eq_ok.1 h
  cases hreads.unique hreads'
  obtain ⟨path, hnone⟩ := hreads.exists_path hobjections
  simp only [Payload.objections, List.append_eq_nil_iff] at hnone
  obtain ⟨-, hroots, -, hmarkers, htruth, -⟩ := hnone
  have htext (key : String) (hkey : key ∈ textKeys) :
      (Payload.trueTextAt? es key).getD "" =
        ((Payload.find? es key).map Found.text).getD "" :=
    Payload.getD_trueTextAt? (htyped.texts key hkey)
  constructor
  · exact getD_getD ..
  · have hblank : (fun text : String => !text.isEmpty) ∘ Found.text =
        (fun text => !isBlankText text) ∘ Found.text := by
      funext found
      exact congrArg (!·) (Payload.isEmpty_written found.value)
    refine (getD_getD ..).trans ?_
    rw [Payload.textAt?_eq, Option.filter_map, Option.filter_map, hblank]
    rfl
  · have hpackage := htext "base_package" (by decide)
    change o.basePackage.getD ((Payload.trueTextAt? es "base_package").getD "") = _
    rw [hpackage]
    exact getD_getD ..
  · rw [← Payload.textsAt?_eq htyped.present hroots]
    exact getD_getD ..
  · rw [← Payload.textsAt?_eq htyped.present hmarkers]
    exact getD_getD ..
  · rw [← Payload.truthAt?_eq htruth, ← strictByEnvironment_eq]
    exact getD_getD ..
  · rw [Settings.reportPath_eq]
    have hpath := filter_or o.reportFile (htext "report_file" (by decide))
    rw [← hpath]
    rfl

/-! ### A command line over a file -/

/-- A command line that gives a name, an empty path for the report, and a file. -/
def overFile : Options where
  config := some "audit.json"
  reportFile := some ""
  projectName := some "billing"
  allJavaFiles := true

/-- A settings file with a blank build directory, and with a number among the source roots. -/
def fileText : String :=
  "\x7b\"build_dir\": \" \", \"report_file\": \"r.csv\", \"source_roots\": [\"a \", 1]\x7d"

/-- The entries of the file. -/
def fileEntries : List (String × Found) :=
  [("build_dir", ⟨.text " ", []⟩), ("report_file", ⟨.text "r.csv", []⟩),
    ("source_roots", ⟨.list [.text "a ", .int 1], [.text "a ", .int 1]⟩)]

/-- The disk with the file. -/
def fileDisk : Disk := .holding "audit.json" fileText.toUTF8.toList

/-- The settings that the command line and the file make. -/
def overFileSettings : Settings where
  projectName := "billing"
  reportFile := some ""
  sourceRoots := ["a", "1"]
  markers := []
  strict := false

lemma reads_fileDisk : Settings.Reads fileDisk overFile.config fileEntries :=
  Settings.reads_holding_json (by decide +kernel) (by decide +kernel) rfl

lemma typed_fileEntries : Payload.Typed fileEntries where
  present := by simp [fileEntries]
  texts := by
    simp only [textKeys, List.forall_mem_cons, List.not_mem_nil, false_imp_iff, implies_true,
      and_true]
    refine ⟨?_, ?_, ?_, ?_⟩
    · rintro found ⟨⟩
    · rintro found ⟨⟩
      exact ⟨_, rfl⟩
    · rintro found ⟨⟩
      exact ⟨_, rfl⟩
    · rintro found ⟨⟩

/-- The settings of a command line over a file: the usual build directory, since that of the file is
blank, and the usual path for the report, although the file has one. -/
theorem settings_layered_overFile :
    (overFile.settings fileDisk (some "off")).2 = .ok overFileSettings ∧
      Settings.Reads fileDisk overFile.config fileEntries ∧ Payload.Typed fileEntries ∧
      overFile.Layered (some "off") fileEntries overFileSettings := by
  have hsettings : (overFile.settings fileDisk (some "off")).2 = .ok overFileSettings := by
    refine settings_eq_ok.2 ⟨fileEntries, reads_fileDisk, ?_, by decide, by decide +kernel⟩
    rintro path ⟨⟩
    decide +kernel
  exact ⟨hsettings, reads_fileDisk, typed_fileEntries,
    settings_layered hsettings reads_fileDisk typed_fileEntries⟩

end Options

end RoleAudit
