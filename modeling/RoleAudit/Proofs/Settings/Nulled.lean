import RoleAudit.Proofs.Settings.Resolving

/-!
# Settings without a value

A key of a settings file may stand there without a value. For a list of texts, and for a text that
counts only if its value is true, that is as if the key did not stand there. The name of the project
and the build directory are written out whatever their value is, and one that is none is written out
as `None`. What is no truth value is refused, and that is one.

* `Payload.Nulled`: entries with a key that has no value, and entries without the key.
* `Settings.load_nulled`: what loading makes of such a key.
* `Settings.load_nulled_iff`: when it makes no difference that the key stands there.
* `Settings.load_null_projectName`: a project without a name gets one.
-/

namespace RoleAudit

open RoleAudit.Files RoleAudit.Text

namespace Payload

/-- Entries that differ in one key: in the first it does not stand, in the others it has no value. -/
structure Nulled (key : String) (es es' : List (String × Found)) : Prop where
  absent : find? es key = none
  null : ∃ items, find? es' key = some ⟨.null, items⟩
  others : ∀ k, k ≠ key → find? es' k = find? es k

/-- The entries without those of a key. -/
def without (key : String) (es : List (String × Found)) : List (String × Found) :=
  es.filter fun e => e.1 != key

/-- **Of any entries and any key there are such two**: the key can be taken out, and put in without a
value. -/
theorem nulled_without (key : String) (es : List (String × Found)) :
    Nulled key (without key es) (without key es ++ [(key, ⟨.null, []⟩)]) where
  absent := by
    unfold find? without
    rw [Option.map_eq_none_iff, List.find?_eq_none]
    intro e he
    simpa using (List.mem_filter.1 (List.mem_reverse.1 he)).2
  null := by
    refine ⟨[], ?_⟩
    unfold find?
    rw [List.reverse_append, List.reverse_singleton, List.singleton_append,
      List.find?_cons_of_pos (by simp)]
    rfl
  others k hk := by
    unfold find?
    rw [List.reverse_append, List.reverse_singleton, List.singleton_append,
      List.find?_cons_of_neg (by simpa using hk.symm)]

section

variable {key : String} {es es' : List (String × Found)}

/-- What is found under a key is the same, or nothing and no value. -/
lemma Nulled.find?_cases (h : Nulled key es es') (k : String) :
    find? es' k = find? es k ∨
      k = key ∧ find? es k = none ∧ ∃ items, find? es' k = some ⟨.null, items⟩ := by
  by_cases hk : k = key
  · subst hk
    exact .inr ⟨rfl, h.absent, h.null⟩
  · exact .inl (h.others k hk)

/-! ## What makes no difference -/

/-- A key is read alike from two lists of entries, but for a text that is written out whatever its
value is, and for what is wrong with a truth value. -/
structure ReadAlike (k : String) (es es' : List (String × Found)) : Prop where
  keyObjections : ∀ blank, keyObjections es' k blank = keyObjections es k blank
  trueKeyObjections : trueKeyObjections es' k = trueKeyObjections es k
  listObjections : listObjections es' k = listObjections es k
  textsAt? : textsAt? es' k = textsAt? es k
  trueTextAt? : trueTextAt? es' k = trueTextAt? es k
  truthAt? : truthAt? es' k = truthAt? es k

/-- What is written for a value that is none is not blank. -/
lemma textObjections_null (blank : List SettingsObstacle) : textObjections blank .null = [] := by
  have hshown : Value.null.shown = .ok "None" := rfl
  have hvisible : isBlankText "None" = false := by decide
  unfold textObjections
  rw [hshown]
  dsimp only
  rw [hvisible, if_neg Bool.false_ne_true]

/-- Every key is read alike, the one without a value as well. -/
theorem Nulled.readAlike (h : Nulled key es es') (k : String) : ReadAlike k es es' := by
  rcases h.find?_cases k with hk | ⟨-, hk, items, hk'⟩
  · constructor
    · intro blank
      rw [Payload.keyObjections, hk, Payload.keyObjections]
    · rw [Payload.trueKeyObjections, hk, Payload.trueKeyObjections]
    · rw [Payload.listObjections, hk, Payload.listObjections]
    · rw [Payload.textsAt?, hk, Payload.textsAt?]
    · rw [Payload.trueTextAt?, hk, Payload.trueTextAt?]
    · rw [Payload.truthAt?, hk, Payload.truthAt?]
  · constructor
    · intro blank
      rw [Payload.keyObjections, Payload.keyObjections, hk, hk']
      exact textObjections_null blank
    · rw [Payload.trueKeyObjections, Payload.trueKeyObjections, hk, hk']
      rfl
    · rw [Payload.listObjections, Payload.listObjections, hk, hk']
    · rw [Payload.textsAt?, Payload.textsAt?, hk, hk']
      rfl
    · rw [Payload.trueTextAt?, Payload.trueTextAt?, hk, hk']
      rfl
    · rw [Payload.truthAt?, Payload.truthAt?, hk, hk']
      rfl

lemma Nulled.earlyObjections_eq (h : Nulled key es es') (path : String) :
    earlyObjections path es' = earlyObjections path es := by
  unfold earlyObjections
  rw [(h.readAlike _).keyObjections, (h.readAlike _).listObjections, (h.readAlike _).textsAt?,
    (h.readAlike "file_name_markers").listObjections]

lemma Nulled.lateObjections_eq (h : Nulled key es es') : lateObjections es' = lateObjections es := by
  unfold lateObjections
  rw [(h.readAlike _).keyObjections, (h.readAlike _).trueKeyObjections,
    (h.readAlike "base_package").trueKeyObjections]

/-! ## What does -/

lemma Nulled.textAt?_eq_none (h : Nulled key es es') : textAt? es key = none := by
  unfold textAt?
  rw [h.absent, Option.map_none]

/-- A text that is written out whatever its value is. -/
lemma Nulled.textAt?_eq (h : Nulled key es es') (k : String) :
    textAt? es' k = if key = k then some "None" else textAt? es k := by
  unfold textAt?
  split
  · next hk =>
    subst hk
    obtain ⟨items, hnull⟩ := h.null
    have hwritten : written .null = "None" := by decide +kernel
    rw [hnull, Option.map_some, hwritten]
  · next hk => rw [h.others k (Ne.symm hk)]

lemma Nulled.truthObjections_eq (h : Nulled key es es') (k path : String) :
    truthObjections es' k path =
      if key = k then [.failure (.notTruth k path)] else truthObjections es k path := by
  by_cases hk : key = k
  · subst hk
    obtain ⟨items, hnull⟩ := h.null
    rw [if_pos rfl, truthObjections, hnull]
  · rw [if_neg hk, truthObjections, h.others k (Ne.symm hk), truthObjections]

/-- The settings that are made if a key has no value. -/
def nulled (key : String) (s : Settings) : Settings :=
  { s with
    projectName := if key = "project_name" then "None" else s.projectName
    buildDirectory := if key = "build_dir" then "None" else s.buildDirectory }

lemma Nulled.made_eq (h : Nulled key es es') (strict : Bool) :
    made strict es' = nulled key (made strict es) := by
  have hbuild : ((some "None").filter fun text => !text.isEmpty) = some "None" := by decide
  unfold made nulled
  rw [h.textAt?_eq "project_name", h.textAt?_eq "build_dir", (h.readAlike _).trueTextAt?,
    (h.readAlike "base_package").trueTextAt?, (h.readAlike "source_roots").textsAt?,
    (h.readAlike "file_name_markers").textsAt?, (h.readAlike _).truthAt?]
  congr 1
  · split <;> rfl
  · split
    · rw [hbuild]
      rfl
    · rfl

/-- **A key without a value is objected to just if it is the truth value.** -/
theorem Nulled.objections_eq (h : Nulled key es es') (hkey : key ≠ "strict_syntax")
    (path : String) : objections path es' = objections path es := by
  rw [Payload.objections_eq, Payload.objections_eq, h.earlyObjections_eq, h.lateObjections_eq,
    h.truthObjections_eq, if_neg hkey]

/-- What is reported then, unless something was wrong before. -/
lemma Nulled.objections_strict (h : Nulled "strict_syntax" es es') (path : String) :
    objections path es = earlyObjections path es ++ lateObjections es ∧
      objections path es' = earlyObjections path es ++
        .failure (.notTruth "strict_syntax" path) :: lateObjections es := by
  have hnone : truthObjections es "strict_syntax" path = [] := by
    unfold truthObjections
    rw [h.absent]
  constructor
  · rw [Payload.objections_eq, hnone, List.nil_append]
  · rw [Payload.objections_eq, h.earlyObjections_eq, h.lateObjections_eq, h.truthObjections_eq,
      if_pos rfl, List.singleton_append]

end

end Payload

/-! ## Loading -/

namespace Settings

open Payload

section

variable {d d' : Disk} {environment : Option String} {key path : String}
  {es es' : List (String × Found)}

/-- **What a key without a value makes of the settings**: nothing, or a name or a directory that is
called `None`, if the key is not that of the truth value. -/
theorem load_nulled (hreads : Reads d (some path) es) (hreads' : Reads d' (some path) es')
    (h : Nulled key es es') (hkey : key ≠ "strict_syntax") :
    (load d' environment (some path)).2 =
      (load d environment (some path)).2.map (Payload.nulled key) := by
  rw [hreads.load_eq, hreads'.load_eq, h.objections_eq hkey, h.made_eq, barring_map]

/-- Without the key, the settings are the usual ones, and no name is called `None`. -/
lemma nulled_made_iff (h : Nulled key es es') (strict : Bool) :
    Payload.nulled key (made strict es) = made strict es ↔
      key ≠ "project_name" ∧ key ≠ "build_dir" := by
  constructor
  · intro heq
    refine ⟨?_, ?_⟩
    · rintro rfl
      have hname : (made strict es).projectName = "project" := by
        unfold made
        rw [h.textAt?_eq_none]
        rfl
      have hnone : "None" = (made strict es).projectName := congrArg Settings.projectName heq
      rw [hname] at hnone
      exact absurd hnone (by decide)
    · rintro rfl
      have hbuild : (made strict es).buildDirectory = "target" := by
        unfold made
        rw [h.textAt?_eq_none]
        rfl
      have hnone : "None" = (made strict es).buildDirectory :=
        congrArg Settings.buildDirectory heq
      rw [hbuild] at hnone
      exact absurd hnone (by decide)
  · rintro ⟨hname, hbuild⟩
    rw [Payload.nulled, if_neg hname, if_neg hbuild]

/-- **No truth value**: it is refused, unless something was refused before. -/
lemma load_nulled_strict (hreads : Reads d (some path) es) (hreads' : Reads d' (some path) es')
    (h : Nulled "strict_syntax" es es') :
    (load d' environment (some path)).2 = (load d environment (some path)).2 ↔
      (load d' environment (some path)).2 ≠ .error (.failure (.notTruth "strict_syntax" path)) := by
  obtain ⟨hbefore, hafter⟩ := h.objections_strict path
  rw [hreads.load_eq, hreads'.load_eq, h.made_eq, hbefore, hafter]
  rcases hearly : earlyObjections path es with _ | ⟨x, xs⟩
  · -- nothing else is wrong before
    rw [List.nil_append, List.nil_append, barring_cons]
    refine iff_of_false (fun heq => ?_) (fun hne => hne rfl)
    obtain ⟨l, hl⟩ := mem_lateObjections (List.mem_of_head? (barring_eq_error.1 heq.symm))
    cases hl
  · rw [List.cons_append, List.cons_append, barring_cons, barring_cons]
    refine iff_of_true rfl (fun heq => ?_)
    have hmem : x ∈ earlyObjections path es := by
      rw [hearly]
      exact List.mem_cons_self
    rw [Except.error.inj heq] at hmem
    rcases mem_earlyObjections hmem with hname | hroots | ⟨k, -, htexts | hempty⟩ | ⟨l, hl⟩
    · cases hname
    · cases hroots
    · cases htexts
    · cases hempty
    · cases hl

/-- **It makes no difference that a key stands there without a value**, unless it is the key of the
project's name or of the build directory and there are settings without it, or it is the key of the
truth value and its value is what is refused. -/
theorem load_nulled_iff (hreads : Reads d (some path) es) (hreads' : Reads d' (some path) es')
    (h : Nulled key es es') :
    (load d' environment (some path)).2 = (load d environment (some path)).2 ↔
      (key = "project_name" ∨ key = "build_dir" →
        ∃ obstacle, (load d environment (some path)).2 = .error obstacle) ∧
      (key = "strict_syntax" →
        (load d' environment (some path)).2 ≠ .error (.failure (.notTruth key path))) := by
  by_cases hkey : key = "strict_syntax"
  · subst hkey
    rw [load_nulled_strict hreads hreads' h]
    have hothers : ¬ ("strict_syntax" = "project_name" ∨ "strict_syntax" = "build_dir") := by decide
    exact ⟨fun hne => ⟨fun hor => absurd hor hothers, fun _ => hne⟩, fun hboth => hboth.2 rfl⟩
  · rw [load_nulled hreads hreads' h hkey, hreads.load_eq]
    rcases hobjections : objections path es with _ | ⟨x, xs⟩
    · -- there are settings without the key
      have hmade := nulled_made_iff h (strictByEnvironment environment)
      rw [barring_nil, Except.map, Except.ok.injEq, hmade]
      simp [hkey]
    · refine iff_of_true rfl ⟨fun _ => ⟨x, rfl⟩, fun hstrict => absurd hstrict hkey⟩

end

/-! ### A report without a path, and a project without a name -/

/-- A settings file with a name for the project, and with no path for the report. -/
def reportText : String := "\x7b\"project_name\": \"billing\", \"report_file\": null\x7d"

/-- The settings file without the path. -/
def billingText : String := "\x7b\"project_name\": \"billing\"\x7d"

/-- The entries of a file without the path. -/
def billing : List (String × Found) := [("project_name", ⟨.text "billing", []⟩)]

/-- The disk with a settings file. -/
def settingsDisk (text : String) : Disk := .holding "audit.json" text.toUTF8.toList

lemma reads_billing : Reads (settingsDisk billingText) (some "audit.json") billing :=
  reads_holding_json (by decide +kernel) (by decide +kernel) rfl

lemma reads_reportText :
    Reads (settingsDisk reportText) (some "audit.json")
      (billing ++ [("report_file", ⟨.null, []⟩)]) :=
  reads_holding_json (by decide +kernel) (by decide +kernel) rfl

/-- A report without a path is a report at the usual path. -/
theorem load_nulled_iff_report :
    Nulled "report_file" billing (billing ++ [("report_file", ⟨.null, []⟩)]) ∧
      (load (settingsDisk reportText) none (some "audit.json")).2 =
        (load (settingsDisk billingText) none (some "audit.json")).2 := by
  have hnulled : Nulled "report_file" billing (billing ++ [("report_file", ⟨.null, []⟩)]) :=
    nulled_without "report_file" billing
  refine ⟨hnulled, (load_nulled_iff reads_billing reads_reportText hnulled).2 ⟨?_, ?_⟩⟩
  · intro hkey
    exact absurd hkey (by decide)
  · intro hkey
    exact absurd hkey (by decide)

/-- **A project without a name is called `None`**, and not as it is called without the key. -/
theorem load_null_projectName :
    (load (settingsDisk "\x7b\"project_name\": null\x7d") none (some "audit.json")).2 =
        .ok { projectName := "None", strict := true } ∧
      (load (settingsDisk "\x7b\x7d") none (some "audit.json")).2 =
        .ok { projectName := "project", strict := true } := by
  have hnull : Reads (settingsDisk "\x7b\"project_name\": null\x7d") (some "audit.json")
      [("project_name", ⟨.null, []⟩)] :=
    reads_holding_json (by decide +kernel) (by decide +kernel) rfl
  have hbare : Reads (settingsDisk "\x7b\x7d") (some "audit.json") [] :=
    reads_holding_json (by decide +kernel) (by decide +kernel) rfl
  rw [hnull.load_eq, hbare.load_eq]
  exact ⟨by decide +kernel, by decide +kernel⟩

end Settings

end RoleAudit
