import BringUp.Proofs.Iossm.Bookkeeping
import BringUp.Proofs.Iossm.Recalibration
import BringUp.Proofs.Iossm.Responder

/-! Checks of the calibration one after the other. Main statement: after a check the marks are its
results exactly if no instance with an older mark has failed it. -/
namespace BringUp.Iossm

open Sequence

variable {mailboxes : Nat} {timeouts : Timeouts} {before after : Subsystem} {trace : Trace}
  {results : List Bool}

/-- The marks tell the results exactly if no instance with an older mark has failed. -/
theorem zipWith_or_eq_iff {marks : List Bool} (count : results.length = marks.length) :
    List.zipWith or marks results = results ↔
      ∀ index : Nat, marks[index]? = some true → results[index]? = some true := by
  constructor
  · intro same index marked
    have inside : index < results.length := count ▸ (List.getElem?_eq_some_iff.1 marked).1
    have here := congrArg (fun list => list[index]?) same
    simpa [List.getElem?_zipWith, marked, inside] using here.symm
  · intro kept
    apply List.ext_getElem?
    intro index
    rw [List.getElem?_zipWith]
    by_cases inside : index < results.length
    · have here : index < marks.length := count ▸ inside
      cases mark : marks[index] with
      | false => simp [inside, here, mark]
      | true =>
        have passed := kept index (by simp [here, mark])
        simp [here, mark, passed]
    · simp [inside]

theorem zipWith_or_eq_false {marks : List Bool} {index : Nat}
    (missing : (List.zipWith or marks results)[index]? = some false) :
    marks[index]? = some false ∧ results[index]? = some false := by
  obtain ⟨mark, result, marked, found, neither⟩ := List.getElem?_zipWith_eq_some.1 missing
  obtain ⟨rfl, rfl⟩ := Bool.or_eq_false_iff.1 neither
  exact ⟨marked, found⟩

/-- If all instances have marks, a recalibration sends nothing at all and succeeds. -/
theorem recalibrate_nothing {result : Except Error Unit}
    (all : ∀ index < before.instances.length, before.passed[index]? = some true)
    (run : (recalibrate mailboxes timeouts).Performs before trace result after) :
    trace = [] ∧ result = .ok () ∧ after = { before with calibrated := true } := by
  have marked (index : Nat) (failing : before.passed[index]? = some false) : False := by
    have inside : index < before.instances.length := by
      simpa [Subsystem.passed] using (List.getElem?_eq_some_iff.1 failing).1
    cases failing.symm.trans (all index inside)
  cases recalibrate_cases run with
  | completed handled =>
    have none : before.pending before.instances.length = [] := by
      rw [Subsystem.pending, placesOf, List.flatMap_eq_nil_iff]
      intro item member
      have inside : item.2 < before.instances.length := by
        have bound := (List.mem_zipIdx_iff_getElem?.1 member)
        simpa [Subsystem.targets] using (List.getElem?_eq_some_iff.1 bound).1
      simp [all item.2 inside]
    rw [none] at handled
    cases handled
    have same : before.markFirst before.instances.length = before := by
      refine (Subsystem.markWhere_congr fun index record found => ?_).trans
        Subsystem.markWhere_false
      have mark := all index (List.getElem?_eq_some_iff.1 found).1
      rw [Subsystem.passed, List.getElem?_map, found] at mark
      simp [Option.some.inj mark]
    rw [same]
    exact ⟨rfl, rfl, rfl⟩
  | @missing unit _ failing => exact (marked unit failing).elim
  | @stopped unit record _ _ _ found failing =>
    exact (marked unit (by simp [Subsystem.passed, found, failing])).elim

/-- A check comes to a result. If it is successful, it has looked at every instance, and the overall
mark says whether all of them passed. An instance is marked if it passed this check or had a mark
before, so the marks are the results of this check exactly if no instance with an older mark failed.
A recalibration after it sends nothing to instances with an older mark. -/
theorem check_recorded_iff {outcome : Option (Except Error Unit × Subsystem)}
    (run : Runs ((checkCalibration mailboxes timeouts).perform before) trace outcome) :
    ∃ result after, outcome = some (result, after) ∧ (result = .ok () → ∃ results,
      results.length = before.instances.length ∧
      Inspections before.awaitClock timeouts results trace ∧
      after.calibrated = results.all id ∧
      after.passed = List.zipWith or before.passed results ∧
      (after.passed = results ↔
        ∀ unit : Nat, before.passed[unit]? = some true → results[unit]? = some true) ∧
      ∀ mailboxes timeouts again verdict final,
        (recalibrate mailboxes timeouts).Performs after again verdict final →
          (∀ request ∈ again.requests,
            before.passed[request.1]? = some false ∧ results[request.1]? = some false) ∧
          (verdict = .ok () → RecalibratedAll
            (placesOf before.targets fun unit => after.passed[unit]? != some true) again.requests)) := by
  obtain ⟨result, after, rfl, performed⟩ := performs_of_returns run (checkCalibration_ends before)
  refine ⟨result, after, rfl, ?_⟩
  rintro rfl
  obtain ⟨results, count, inspections, rfl⟩ := checkCalibration_inspected performed
  have marks := Subsystem.passed_recordResults count
  have size : results.length = before.passed.length := by simpa [Subsystem.passed] using count
  refine ⟨results, count, inspections, rfl, marks, ?_, fun mailboxes timeouts again verdict final
    recalibrated => ⟨fun request member => ?_, ?_⟩⟩
  · rw [marks]
    exact zipWith_or_eq_iff size
  · have failing := recalibrate_requests recalibrated request member
    rw [marks] at failing
    exact zipWith_or_eq_false failing
  · rintro rfl
    have kept : (before.recordResults results).targets = before.targets :=
      Subsystem.targets_markWhere
    rw [← kept]
    exact recalibrate_ok recalibrated

/-- An IOSSM whose status stays the same. It is asked for nothing else. -/
def answerStatus (status : Word) : (op : Op) → Unit → op.Answer × Unit
  | .status _, state => (status, state)
  | op, state => (Responder.blank op, state)

/-- The bookkeeping for one calibrated instance with these interfaces. -/
def calibrated (interfaces : List Target) : Subsystem :=
  { failing interfaces with
    calibrated := true
    instances := [{ calibrated := true, interfaces := interfaces }] }

theorem performs_first_check (interfaces : List Target) : ∃ trace,
    (checkCalibration 1 {}).Performs (failing interfaces) trace (.ok ()) (calibrated interfaces) :=
  ⟨_, Runs.of_run_eq (answerStatus 1) () (by with_unfolding_all rfl)⟩

theorem performs_second_check (interfaces : List Target) : ∃ trace,
    (checkCalibration 1 {}).Performs (calibrated interfaces) trace (.ok ())
      { calibrated interfaces with calibrated := false } :=
  ⟨_, Runs.of_run_eq (answerStatus 2) () (by with_unfolding_all rfl)⟩

theorem reachable_failing : Reachable 1 1 0 (failing [⟨1, 0⟩]) :=
  .call (.discoverInterfaces 1) .fresh
    (Runs.of_run_eq (answerHalfCalibrated ⟨1, #v[0x20000000, 0, 0]⟩) () rfl)

theorem check_recorded_iff_passed : ∃ trace after,
    Runs ((checkCalibration 1 {}).perform (failing [⟨1, 0⟩])) trace (some (.ok (), after)) ∧
      Inspections false {} [true] trace ∧ after.passed = [true] := by
  obtain ⟨trace, run⟩ := performs_first_check [⟨1, 0⟩]
  obtain ⟨_, _, same, recorded⟩ := check_recorded_iff run
  cases same
  obtain ⟨results, count, inspections, -, marks, -⟩ := recorded rfl
  obtain ⟨passed, rfl⟩ := List.length_eq_one_iff.1 count
  obtain rfl : passed = true := by simpa [Subsystem.passed, calibrated, failing] using marks.symm
  exact ⟨trace, _, run, inspections, rfl⟩

/-- An instance has passed a first check and fails the second one. The second check returns with the
instance still marked, and a recalibration does nothing about it. -/
theorem failed_check_unrecorded :
    Reachable 1 1 0 (calibrated [⟨1, 0⟩]) ∧
      (∃ trace, (checkCalibration 1 {}).Performs (calibrated [⟨1, 0⟩]) trace (.ok ())
          { calibrated [⟨1, 0⟩] with calibrated := false } ∧ Inspections false {} [false] trace) ∧
      { calibrated [⟨1, 0⟩] with calibrated := false }.passed = [true] ∧
      ∀ mailboxes timeouts again result final, (recalibrate mailboxes timeouts).Performs
          { calibrated [⟨1, 0⟩] with calibrated := false } again result final →
        again = [] ∧ result = .ok () ∧ final.calibrated = true := by
  obtain ⟨_, first⟩ := performs_first_check [⟨1, 0⟩]
  obtain ⟨trace, second⟩ := performs_second_check [⟨1, 0⟩]
  refine ⟨.call (.checkCalibration 1 {}) reachable_failing first, ⟨trace, second, ?_⟩, rfl,
    fun _ _ _ _ _ recalibrated => ?_⟩
  · obtain ⟨results, count, inspections, recorded⟩ := checkCalibration_inspected second
    obtain ⟨passed, rfl⟩ := List.length_eq_one_iff.1 count
    have overall := congrArg Subsystem.calibrated recorded
    obtain rfl : false = passed := by simpa [Subsystem.recordResults] using overall
    exact inspections
  · obtain ⟨rfl, rfl, rfl⟩ := recalibrate_nothing (by decide) recalibrated
    exact ⟨rfl, rfl, rfl⟩

end BringUp.Iossm
