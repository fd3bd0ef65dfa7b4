import RoleAudit.Proofs.Files.Keeping
import RoleAudit.Proofs.Report.Repeating
import RoleAudit.Proofs.Scan.Strictness
import RoleAudit.Proofs.Walk.Stations

/-!
# Which failure comes first

Several things may be wrong at once: the report cannot be opened, a root is missing, an entry cannot
be examined, a source cannot be read or has flaws. A report fails with one failure, and this file says
with which. Opening the report comes before everything else; behind it the stations of the walk come
one after another, and the first at which something is wrong decides. What stands behind it has no
influence.

* `Order.stations`: what the walk would come to if nothing failed.
* `Order.Passes`, `Order.firstTrouble`: nothing is wrong at some stations; the first thing that is.
* `Order.troubleAt_eq_some`: what can be wrong at a station.
* `Order.failure_account`: the account of a report ends with the first thing that is wrong.
* `Order.make_precedence`: a report fails with the failure that comes first.
-/

namespace RoleAudit.Report

open RoleAudit.Files RoleAudit.Walk

namespace Order

variable (order : Order) (d : Disk)

/-! ## The stations of a report -/

/-- What the walk for a report would come to if nothing failed, once the report is opened. -/
def stations : List Station :=
  order.sourceRoots.flatMap (Walk.stations (order.opened d).disk order.markers)

/-- What is wrong at a station when some rows have been written: what the walk can tell, or why the
source is not read. -/
def troubleAt (done : List Row) : Station → Option Failure
  | .source path =>
    match order.declarationsAt d done path with
    | .error failure => some failure
    | .ok _ => none
  | station => station.trouble (order.opened d).disk

/-- The rows that have been written behind a station. -/
def rowsBehind (done : List Row) : Station → List Row
  | .source path =>
    match order.declarationsAt d done path with
    | .error _ => done
    | .ok declarations => done ++ declarations.flatMap Declaration.rows
  | _ => done

/-- Nothing is wrong at some stations, one after another, when some rows were written before. -/
def Passes : List Row → List Station → Prop
  | _, [] => True
  | done, station :: rest =>
    order.troubleAt d done station = none ∧ Passes (order.rowsBehind d done station) rest

/-- The first thing that is wrong at some stations, when some rows were written before. -/
def firstTrouble : List Row → List Station → Option Failure
  | _, [] => none
  | done, station :: rest =>
    (order.troubleAt d done station).or
      (firstTrouble (order.rowsBehind d done station) rest)

variable {order d} {done : List Row} {station : Station} {failure : Failure}

/-- At a station that is no source the walk can tell what is wrong, and no rows are written. -/
lemma troubleAt_of_walk (h : station.source? = none) (order : Order) (d : Disk)
    (done : List Row) :
    order.troubleAt d done station = station.trouble (order.opened d).disk ∧
      order.rowsBehind d done station = done := by
  cases station with
  | source path => cases h
  | place path => exact ⟨rfl, rfl⟩
  | entry path kind => exact ⟨rfl, rfl⟩

lemma firstTrouble_of_trouble (h : order.troubleAt d done station = some failure)
    (rest : List Station) : order.firstTrouble d done (station :: rest) = some failure := by
  unfold firstTrouble
  rw [h, Option.some_or]

lemma firstTrouble_of_none (h : order.troubleAt d done station = none) (rest : List Station) :
    order.firstTrouble d done (station :: rest) =
      order.firstTrouble d (order.rowsBehind d done station) rest := by
  conv_lhs => unfold firstTrouble
  rw [h, Option.none_or]

/-- Nothing is wrong at any station if there is no first thing that is. -/
lemma firstTrouble_eq_none (stations : List Station) :
    order.firstTrouble d done stations = none ↔ order.Passes d done stations := by
  induction stations generalizing done with
  | nil => exact ⟨fun _ => trivial, fun _ => rfl⟩
  | cons station rest ih =>
    unfold firstTrouble Passes
    rw [Option.or_eq_none_iff, ih]

/-- **The first thing that is wrong** is wrong at a station before which nothing is. -/
theorem firstTrouble_eq_some (stations : List Station) :
    order.firstTrouble d done stations = some failure ↔
      ∃ before station after, stations = before ++ station :: after ∧
        order.Passes d done before ∧
        order.troubleAt d (before.foldl (order.rowsBehind d) done) station = some failure := by
  induction stations generalizing done with
  | nil =>
    constructor
    · intro h
      cases h
    · rintro ⟨before, station, after, hsplit, -⟩
      exact absurd hsplit.symm (List.append_ne_nil_of_right_ne_nil before (List.cons_ne_nil _ _))
  | cons first rest ih =>
    constructor
    · intro h
      rcases hfirst : order.troubleAt d done first with _ | f
      · rw [firstTrouble_of_none hfirst, ih] at h
        obtain ⟨before, station, after, rfl, hpasses, htrouble⟩ := h
        exact ⟨first :: before, station, after, rfl, ⟨hfirst, hpasses⟩, htrouble⟩
      · rw [firstTrouble_of_trouble hfirst] at h
        cases h
        exact ⟨[], first, rest, rfl, trivial, hfirst⟩
    · rintro ⟨before, station, after, hsplit, hpasses, htrouble⟩
      rcases before with _ | ⟨_, before⟩
      · cases hsplit
        exact firstTrouble_of_trouble htrouble rest
      · cases hsplit
        rw [firstTrouble_of_none hpasses.1, ih]
        exact ⟨before, station, after, rfl, hpasses.2, htrouble⟩

/-- What stands behind the first thing that is wrong does not matter. -/
lemma firstTrouble_append {stations : List Station}
    (h : order.firstTrouble d done stations = some failure) (more : List Station) :
    order.firstTrouble d done (stations ++ more) = some failure := by
  rw [firstTrouble_eq_some] at h ⊢
  obtain ⟨before, station, after, rfl, hfirst⟩ := h
  exact ⟨before, station, after ++ more, by rw [List.append_assoc, List.cons_append], hfirst⟩

/-- The account of some stations ends with the first thing that is wrong at them. -/
lemma failure_ofFiles_gather (done : List Row) (stations : List Station) :
    let trail := Trail.gather (order.opened d).disk stations
    (Account.ofFiles (order.declarationsAt d) trail.failure done trail.files).failure =
      order.firstTrouble d done stations := by
  induction stations generalizing done with
  | nil => rfl
  | cons station rest ih =>
    dsimp only
    rcases hsource : station.source? with _ | path
    · obtain ⟨htrouble, hrows⟩ := troubleAt_of_walk hsource order d done
      rcases hwalk : station.trouble (order.opened d).disk with _ | f
      · rw [gather_of_pass hwalk hsource, firstTrouble_of_none (htrouble.trans hwalk), hrows]
        exact ih done
      · rw [gather_of_trouble hwalk, firstTrouble_of_trouble (htrouble.trans hwalk)]
        rfl
    · cases station with
      | source path' =>
        rw [gather_source]
        rcases hread : order.declarationsAt d done path' with f | declarations
        · have htrouble : order.troubleAt d done (.source path') = some f := by
            simp only [troubleAt, hread]
          rw [Account.ofFiles_cons_error hread, firstTrouble_of_trouble htrouble]
        · have hnone : order.troubleAt d done (.source path') = none := by
            simp only [troubleAt, hread]
          have hrows : order.rowsBehind d done (.source path') =
              done ++ declarations.flatMap Declaration.rows := by
            simp only [rowsBehind, hread]
          rw [Account.ofFiles_cons_ok hread, firstTrouble_of_none hnone, hrows]
          exact ih _
      | place path' => cases hsource
      | entry path' kind => cases hsource

/-- **The account of a report ends with the first thing that is wrong.** -/
theorem failure_account (order : Order) (d : Disk) :
    (order.account d).failure = order.firstTrouble d [] (order.stations d) := by
  unfold account accountBelow
  rw [itinerary_eq_gather]
  exact failure_ofFiles_gather [] (order.stations d)

/-- What is wrong at some stations does not depend on the roots. -/
lemma firstTrouble_of_roots (order : Order) (d : Disk) (done : List Row) (roots : List String)
    (stations : List Station) :
    { order with sourceRoots := roots }.firstTrouble d done stations =
      order.firstTrouble d done stations := by
  induction stations generalizing done with
  | nil => rfl
  | cons station rest ih =>
    unfold firstTrouble
    rw [ih]
    rfl

/-! ## The failure of a report -/

/-- A report that could be opened fails where its account does. -/
lemma result_make_iff (h : (order.opened d).error = none) :
    (∀ failure, (order.make d).result = .error (.failure failure) ↔
        (order.account d).failure = some failure) ∧
      ((∃ s, (order.make d).result = .ok s) ↔ (order.account d).failure = none) := by
  have hresult := order.result_make d h
  rcases haccount : (order.account d).failure with _ | f <;> rw [haccount] at hresult
  · obtain ⟨s, hs, -⟩ := hresult
    rw [hs]
    simp
  · simp only at hresult
    rw [hresult]
    simp [eq_comm]

/-- Why a report fails whose file cannot be made. -/
def faultError (order : Order) : Fault → SinkError
  | .nul => .nul
  | .refused refusal => .failure (.sinkUnavailable order.reportFile refusal)

lemma opened_of_fault {fault : Fault} {e : Disk}
    (h : Sink.makeFile order.reportFile d = (.error fault, e)) :
    (order.opened d).disk = e ∧ (order.opened d).error = some (order.faultError fault) := by
  unfold opened Sink.openUp
  rw [h]
  cases fault with
  | nul => exact ⟨rfl, rfl⟩
  | refused refusal => exact ⟨rfl, rfl⟩

/-- A report whose file cannot be made fails at once, and leaves the disk as it is then. -/
lemma make_of_fault {fault : Fault} {e : Disk}
    (h : Sink.makeFile order.reportFile d = (.error fault, e)) :
    (order.make d).disk = e ∧ (order.make d).result = .error (order.faultError fault) := by
  obtain ⟨hdisk, herror⟩ := opened_of_fault h
  unfold make
  simp only [herror, hdisk, and_self]

/-- Opening a report that fails takes nothing away, and leaves every file as it was. -/
lemma kept_makeFile {path : String} {fault : Fault} {e : Disk}
    (h : Sink.makeFile path d = (.error fault, e)) : Kept d e := by
  have hkept := d.kept_makeDirectories (Path.split (d.absolute path)).1
  rcases Sink.makeFile_cases h with
    ⟨_, hmade, -⟩ | ⟨d', hmade, ⟨_, -, -, rfl⟩ | ⟨n, -, hno⟩⟩
  · rw [hmade] at hkept
    exact hkept
  · rw [hmade] at hkept
    exact hkept
  · cases hno

/-- **A report fails with the failure that comes first.** If the directories above it cannot be made,
or it cannot be opened, it says so, whatever the sources are, and every file on the disk is as it was.
If it can be opened, it fails exactly when something is wrong at a station of the walk, with what is
wrong at the first such station; and it fails in the same way with any further roots. -/
theorem make_precedence (order : Order) (d : Disk) :
    match Sink.makeFile order.reportFile d with
    | (.error (.refused refusal), _) =>
      (order.make d).result = .error (.failure (.sinkUnavailable order.reportFile refusal)) ∧
        ∀ path content, d.read path = .ok content → (order.make d).disk.read path = .ok content
    | (.error .nul, _) => (order.make d).result = .error .nul
    | (.ok _, _) =>
      (∀ failure, (order.make d).result = .error (.failure failure) ↔
        ∃ before station after, order.stations d = before ++ station :: after ∧
          order.Passes d [] before ∧
          order.troubleAt d (before.foldl (order.rowsBehind d) []) station = some failure) ∧
      ((∃ s, (order.make d).result = .ok s) ↔ order.Passes d [] (order.stations d)) ∧
      ∀ failure more, (order.make d).result = .error (.failure failure) →
        ({ order with sourceRoots := order.sourceRoots ++ more }.make d).result =
          .error (.failure failure) := by
  rcases hmake : Sink.makeFile order.reportFile d with ⟨(_ | refusal) | n, e⟩
  · exact (make_of_fault hmake).2
  · obtain ⟨hdisk, hresult⟩ := make_of_fault hmake
    refine ⟨hresult, ?_⟩
    intro path content hread
    rw [hdisk]
    exact (kept_makeFile hmake).read_eq hread
  · have hopened : (order.opened d).error = none := by
      have heq : order.opened d = _ := Sink.openUp_eq hmake
      rw [heq]
    obtain ⟨hfails, hends⟩ := result_make_iff hopened
    refine ⟨?_, ?_, ?_⟩
    · intro failure
      rw [hfails, failure_account, firstTrouble_eq_some]
    · rw [hends, failure_account, firstTrouble_eq_none]
    · intro failure more hfailure
      rw [hfails, failure_account] at hfailure
      obtain ⟨hmore, -⟩ :=
        @result_make_iff { order with sourceRoots := order.sourceRoots ++ more } d hopened
      rw [hmore, failure_account]
      have hstations : ({ order with sourceRoots := order.sourceRoots ++ more } : Order).stations d =
          order.stations d ++ more.flatMap (Walk.stations (order.opened d).disk order.markers) :=
        List.flatMap_append
      rw [hstations, firstTrouble_of_roots]
      exact firstTrouble_append hfailure _

end Order

end RoleAudit.Report
