import RoleAudit.Policy
import RoleAudit.Proofs.Walk.Visiting

/-!
# Accounts of what was read

An **account** lists the sources that were read, with what they declare, up to the first failure. It
says what a scan has brought without saying how: the walk, the counting and the writing are left out.

* `Account.ofFiles`: the account of files that are read one after another.
* `Account.ofFiles_append`, `Account.ofFiles_andThen`: the account of files behind others goes on
  where that of the others ends.
* `Account.mem_ofFiles`: what an account lists was read.
-/

namespace RoleAudit.Report

open RoleAudit.Walk

/-- A source that was read, with the types that it declares. -/
structure Reading where
  path : String
  declarations : List Declaration

/-- The rows of the types in a source, in order. -/
def Reading.rows (r : Reading) : List Row := r.declarations.flatMap Declaration.rows

/-- One source more has its rows behind those of the others. -/
lemma rows_concat (readings : List Reading) (r : Reading) :
    (readings ++ [r]).flatMap Reading.rows = readings.flatMap Reading.rows ++ r.rows := by
  rw [List.flatMap_append, List.flatMap_singleton]

/-- The sources that were read, in order, and the failure at which reading ended. -/
structure Account where
  readings : List Reading
  failure : Option Failure

namespace Account

/-- The rows of the sources that were read. -/
def rows (a : Account) : List Row := a.readings.flatMap Reading.rows

/-- How many types the sources declare. -/
def types (a : Account) : Nat := (a.readings.flatMap Reading.declarations).length

/-- Reads files one after another, up to the first failure, and fails at the end if it must. What a
file declares may depend on the rows that were found before it. -/
def ofFiles (read : List Row → String → Except Failure (List Declaration))
    (failure : Option Failure) : List Row → List String → Account
  | _, [] => ⟨[], failure⟩
  | done, path :: paths =>
    match read done path with
    | .error failure => ⟨[], some failure⟩
    | .ok declarations =>
      let reading : Reading := ⟨path, declarations⟩
      let rest := ofFiles read failure (done ++ reading.rows) paths
      ⟨reading :: rest.readings, rest.failure⟩

/-- Goes on with another account, if the first does not end in a failure. -/
def andThen (a b : Account) : Account :=
  match a.failure with
  | some _ => a
  | none => ⟨a.readings ++ b.readings, b.failure⟩

section Files

variable {read : List Row → String → Except Failure (List Declaration)} {done : List Row}
  {path : String}

lemma ofFiles_cons_error {f : Failure} (h : read done path = .error f)
    (failure : Option Failure) (paths : List String) :
    ofFiles read failure done (path :: paths) = ⟨[], some f⟩ := by
  unfold ofFiles
  rw [h]

lemma ofFiles_cons_ok {declarations : List Declaration} (h : read done path = .ok declarations)
    (failure : Option Failure) (paths : List String) :
    ofFiles read failure done (path :: paths) =
      (⟨[⟨path, declarations⟩], none⟩ : Account).andThen
        (ofFiles read failure (done ++ (⟨path, declarations⟩ : Reading).rows) paths) := by
  conv_lhs => unfold ofFiles
  rw [h]
  rfl

lemma andThen_assoc (a b c : Account) : (a.andThen b).andThen c = a.andThen (b.andThen c) := by
  obtain ⟨as, _ | fa⟩ := a
  · obtain ⟨bs, _ | fb⟩ := b
    · unfold andThen
      simp only [List.append_assoc]
    · rfl
  · rfl

/-- Files before a failure have an account that fails. -/
lemma failure_ofFiles_some (read : List Row → String → Except Failure (List Declaration))
    (failure : Failure) (done : List Row) (files : List String) :
    ∃ f, (ofFiles read (some failure) done files).failure = some f := by
  induction files generalizing done with
  | nil => exact ⟨failure, rfl⟩
  | cons path files ih =>
    rcases hread : read done path with f | declarations
    · rw [ofFiles_cons_error hread]
      exact ⟨f, rfl⟩
    · rw [ofFiles_cons_ok hread]
      exact ih _

/-- The account of more files goes on where that of the first ends without a failure. -/
lemma ofFiles_append (read : List Row → String → Except Failure (List Declaration))
    (failure : Option Failure) (done : List Row) (files more : List String) :
    ofFiles read failure done (files ++ more) =
      (ofFiles read none done files).andThen
        (ofFiles read failure (done ++ (ofFiles read none done files).rows) more) := by
  induction files generalizing done with
  | nil =>
    have hrows : done ++ (ofFiles read none done []).rows = done := List.append_nil done
    rw [hrows]
    rfl
  | cons path files ih =>
    rw [List.cons_append]
    rcases hread : read done path with f | declarations
    · rw [ofFiles_cons_error hread, ofFiles_cons_error hread]
      rfl
    · rw [ofFiles_cons_ok hread, ofFiles_cons_ok hread, ih, andThen_assoc, List.append_assoc]
      rfl

/-- The account of one trail after another. -/
lemma ofFiles_andThen (read : List Row → String → Except Failure (List Declaration))
    (done : List Row) (t u : Trail) :
    ofFiles read (t.andThen u).failure done (t.andThen u).files =
      (ofFiles read t.failure done t.files).andThen
        (ofFiles read u.failure (done ++ (ofFiles read t.failure done t.files).rows) u.files) := by
  obtain ⟨files, _ | failure⟩ := t
  · exact ofFiles_append read u.failure done files u.files
  · obtain ⟨f, hf⟩ := failure_ofFiles_some read failure done files
    unfold andThen
    rw [hf]
    rfl

/-- **What an account lists was read**, and declares what it was read to declare. -/
theorem mem_ofFiles {failure : Option Failure} {files : List String} {r : Reading} :
    ∀ {done : List Row}, r ∈ (ofFiles read failure done files).readings →
      ∃ rows, read rows r.path = .ok r.declarations := by
  induction files with
  | nil =>
    intro done hr
    cases hr
  | cons path files ih =>
    intro done hr
    rcases hread : read done path with f | declarations
    · rw [ofFiles_cons_error hread] at hr
      cases hr
    · rw [ofFiles_cons_ok hread] at hr
      rcases List.mem_cons.1 hr with rfl | hr
      · exact ⟨done, hread⟩
      · exact ih hr

end Files

end Account

end RoleAudit.Report
