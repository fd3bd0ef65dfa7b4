import RoleAudit.Proofs.Settings.Resolving

/-!
# Well-formed settings

Settings are well-formed if the texts that an audit relies on say something: the name of the project,
the build directory, at least one source root, and no marker that is blank, since a blank one selects
every file. A settings file is held to this. The command line is held to one part of it only: it must
not leave an audit without source roots. So whether the settings of a run are well-formed is up to
the command line.

* `Settings.WellFormed`, `Overrides.WellFormed`: settings, and replacements for them, that say
  something.
* `Payload.wellFormed_made`: a settings file that is not refused makes well-formed settings.
* `Settings.wellFormed_overridden`: replacing keeps settings well-formed exactly if the replacements
  are.
* `Options.settings_wellFormed_iff`: when the settings of a run are well-formed.
-/

namespace RoleAudit

open RoleAudit.Files RoleAudit.Text

/-- Settings whose texts say something. -/
structure Settings.WellFormed (s : Settings) : Prop where
  projectName : isBlankText s.projectName = false
  buildDirectory : isBlankText s.buildDirectory = false
  sourceRoots_ne_nil : s.sourceRoots ≠ []
  sourceRoots : ∀ root ∈ s.sourceRoots, isBlankText root = false
  markers : ∀ marker ∈ s.markers, isBlankText marker = false

/-- Replacements that say something, as far as they are given. -/
structure Overrides.WellFormed (o : Overrides) : Prop where
  projectName : ∀ name ∈ o.projectName, isBlankText name = false
  buildDirectory : ∀ directory ∈ o.buildDirectory, isBlankText directory = false
  sourceRoots : ∀ roots ∈ o.sourceRoots, ∀ root ∈ roots, isBlankText root = false
  markers : ∀ markers ∈ o.markers, ∀ marker ∈ markers, isBlankText marker = false

/-- What is usual has a property; so a setting has it if it does when it is given. -/
lemma forall_mem_getD {α : Type} {P : α → Prop} {usual : α} (h : P usual) (given : Option α) :
    P (given.getD usual) ↔ ∀ x ∈ given, P x := by
  cases given with
  | none => simpa using h
  | some x => simp

/-! ## Settings from a file -/

namespace Payload

variable {es : List (String × Found)} {key : String}

/-- A text that had to say something does. -/
lemma not_isBlankText_textAt? {x : SettingsObstacle} (h : keyObjections es key [x] = []) :
    ∀ text ∈ textAt? es key, isBlankText text = false := by
  unfold keyObjections at h
  unfold textAt?
  rintro text htext
  obtain ⟨found, hfound, rfl⟩ := Option.map_eq_some_iff.1 htext
  rw [hfound] at h
  exact not_isBlankText_written h

/-- So does every text of a list that was not objected to. -/
lemma not_isBlankText_textsAt? (h : listObjections es key = []) :
    ∀ texts ∈ textsAt? es key, ∀ text ∈ texts, isBlankText text = false := by
  unfold listObjections at h
  unfold textsAt?
  intro texts htexts text htext
  obtain ⟨⟨v, items⟩, hfound, hv⟩ := Option.bind_eq_some_iff.1 htexts
  rw [hfound] at h
  cases v with
  | text s =>
    rw [← Option.some.inj hv, List.mem_singleton] at htext
    rw [htext]
    exact not_isBlankText_written (v := .text s) h
  | list vs =>
    rw [← Option.some.inj hv] at htext
    obtain ⟨item, hitem, rfl⟩ := List.mem_map.1 htext
    exact not_isBlankText_written (List.flatMap_eq_nil_iff.1 h item hitem)
  | _ => exact nomatch hv

/-- **A settings file that is not objected to makes well-formed settings.** -/
theorem wellFormed_made {path : String} (h : objections path es = []) (strict : Bool) :
    (made strict es).WellFormed := by
  simp only [objections, List.append_eq_nil_iff] at h
  obtain ⟨hname, hroots, hempty, hmarkers, -⟩ := h
  constructor
  · exact (forall_mem_getD (P := fun name => isBlankText name = false) (by decide +kernel) _).2
      (not_isBlankText_textAt? hname)
  · refine (forall_mem_getD (P := fun directory => isBlankText directory = false)
      (by decide +kernel) _).2 fun directory hdirectory => ?_
    obtain ⟨htext, hvisible⟩ := Option.filter_eq_some_iff.1 hdirectory
    obtain ⟨found, -, rfl⟩ := Option.map_eq_some_iff.1 htext
    rw [isEmpty_written] at hvisible
    exact Bool.not_eq_true' _ ▸ hvisible
  · refine (forall_mem_getD (P := fun roots => roots ≠ []) (by simp) _).2 ?_
    rintro roots hroots rfl
    rw [Option.mem_def.1 hroots] at hempty
    exact nomatch hempty
  · exact (forall_mem_getD (P := fun roots => ∀ root ∈ roots, isBlankText root = false)
      (by decide +kernel) _).2 (not_isBlankText_textsAt? hroots)
  · exact (forall_mem_getD (P := fun markers => ∀ m ∈ markers, isBlankText m = false)
      (by decide +kernel) _).2 (not_isBlankText_textsAt? hmarkers)

end Payload

/-- Settings from no file, or from a file that is not refused, are well-formed. -/
lemma Settings.wellFormed_of_load {d : Disk} {environment file : Option String} {s : Settings}
    (h : (Settings.load d environment file).2 = .ok s) : s.WellFormed := by
  obtain ⟨es, hreads, hobjections, rfl⟩ := Settings.load_eq_ok.1 h
  obtain ⟨path, hnone⟩ := hreads.exists_path hobjections
  exact Payload.wellFormed_made hnone _

/-! ## Settings that are replaced -/

/-- Replacing leaves a source root if there was one. -/
lemma Settings.overridden_sourceRoots_ne_nil (s : Settings) (h : s.sourceRoots ≠ [])
    {o : Overrides} (hroots : o.sourceRoots ≠ some []) : (s.overridden o).sourceRoots ≠ [] := by
  refine (forall_mem_getD (P := fun roots => roots ≠ []) h o.sourceRoots).2 ?_
  rintro roots hmem rfl
  exact hroots hmem

/-- **Replacing keeps settings well-formed exactly if the replacements are.** -/
theorem Settings.wellFormed_overridden {s : Settings} (h : s.WellFormed) {o : Overrides}
    (hroots : o.sourceRoots ≠ some []) : (s.overridden o).WellFormed ↔ o.WellFormed := by
  have hname := forall_mem_getD (P := fun name => isBlankText name = false)
    h.projectName o.projectName
  have hdirectory := forall_mem_getD (P := fun directory => isBlankText directory = false)
    h.buildDirectory o.buildDirectory
  have hroot := forall_mem_getD (P := fun roots => ∀ root ∈ roots, isBlankText root = false)
    h.sourceRoots o.sourceRoots
  have hmarker := forall_mem_getD (P := fun markers => ∀ m ∈ markers, isBlankText m = false)
    h.markers o.markers
  have hsome := s.overridden_sourceRoots_ne_nil h.sourceRoots_ne_nil hroots
  constructor
  · intro hs
    exact ⟨hname.1 hs.projectName, hdirectory.1 hs.buildDirectory, hroot.1 hs.sourceRoots,
      hmarker.1 hs.markers⟩
  · intro ho
    exact ⟨hname.2 ho.projectName, hdirectory.2 ho.buildDirectory, hsome, hroot.2 ho.sourceRoots,
      hmarker.2 ho.markers⟩

namespace Options

/-- **The settings of a run always have a source root, and they are well-formed exactly if nothing
blank is given on the command line.** -/
theorem settings_wellFormed_iff {o : Options} {d : Disk} {environment : Option String}
    {s : Settings} (h : (o.settings d environment).2 = .ok s) :
    s.sourceRoots ≠ [] ∧ (s.WellFormed ↔ o.overrides.WellFormed) := by
  rw [settings_snd, bind_eq_ok] at h
  obtain ⟨t, hload, hs⟩ := h
  have ht : t.WellFormed := Settings.wellFormed_of_load hload
  obtain ⟨hroots, rfl⟩ := Settings.override_eq_ok.1 (mapError_eq_ok.1 hs)
  exact ⟨t.overridden_sourceRoots_ne_nil ht.sourceRoots_ne_nil hroots,
    Settings.wellFormed_overridden ht hroots⟩

/-- The settings of a run with a blank source root among others. -/
theorem settings_wellFormed_iff_blank_root :
    ((Options.settings { sourceRoots := some ["src", " "] } (Disk.empty "/") none).2 =
        .ok { sourceRoots := ["src", " "] }) ∧
      ({ sourceRoots := ["src", " "] } : Settings).sourceRoots ≠ [] ∧
      (({ sourceRoots := ["src", " "] } : Settings).WellFormed ↔
        (Options.overrides { sourceRoots := some ["src", " "] }).WellFormed) :=
  have h : (Options.settings { sourceRoots := some ["src", " "] } (Disk.empty "/") none).2 =
    .ok { sourceRoots := ["src", " "] } := rfl
  ⟨h, settings_wellFormed_iff h⟩

/-- A command line may leave the project without a name, which no settings file may. -/
theorem settings_blank_projectName :
    ∃ o s, Request.of ["--project-name", ""] = .ok (.audit o) ∧
      (o.settings (Disk.empty "/") none).2 = .ok s ∧ ¬ s.WellFormed := by
  refine ⟨{ projectName := some "" }, { projectName := "" }, by decide +kernel, rfl, ?_⟩
  intro h
  exact absurd h.projectName (by decide +kernel)

end Options

end RoleAudit
