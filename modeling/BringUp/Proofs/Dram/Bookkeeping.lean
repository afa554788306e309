import Mathlib.Algebra.Ring.Nat
import BringUp.Proofs.Dram.Inventory
import BringUp.Proofs.Dram.Rehearsal
import BringUp.Proofs.Iossm.Bookkeeping

/-! The bookkeeping of a bring-up. Main statement: what a survey leaves is bookkeeping that calls of
the supervision lead to, so it is consistent and has an exact size. -/
namespace BringUp.Dram

open Iossm (Subsystem Sequence Reachable Consistent readSizes readSizesBy)
open Iossm.Sequence (performs_bind performs_get_bind performs_modify performs_modify_bind
  performs_program)

variable {mailboxes : Nat} {table : List Word} {blob : DeviceTree.Bytes} {options : Options}
  {trace : Trace} {requested portCount : Nat} {plls : BitVec 4} {before after : Subsystem}

/-- To calibrate again is to invalidate the calibration, if there was an error, and to recalibrate,
if it is not valid. -/
theorem recoverCalibration_reachable {timeouts : Iossm.Timeouts} {result : Except Iossm.Error Unit}
    (reached : Reachable requested portCount plls before)
    (run : (recoverCalibration mailboxes timeouts).Performs before trace result after) :
    Reachable requested portCount plls after := by
  have recalibration {before : Subsystem} {trace : Trace}
      (reached : Reachable requested portCount plls before)
      (run : Sequence.Performs (do
        if !(← get).calibrated then
          Program.log .info "DDR: re-calibration in progress"
          Iossm.recalibrate mailboxes timeouts) before trace result after) :
      Reachable requested portCount plls after := by
    have run₁ := performs_get_bind.1 run
    split at run₁
    · obtain ⟨_, _, _, middle, -, told, recalibrated⟩ | ⟨_, -, told⟩ := performs_bind.1 run₁
      · obtain ⟨-, -, rfl⟩ := Sequence.performs_log.1 told
        exact reached.call (.recalibrate mailboxes timeouts) recalibrated
      · obtain ⟨-, -, rfl⟩ := Sequence.performs_log.1 told
        exact reached
    · obtain ⟨-, -, rfl⟩ := Sequence.performs_pure.1 run₁
      exact reached
  obtain ⟨_, _, failed, middle, -, looked, run₁⟩ | ⟨_, -, looked⟩ := performs_bind.1 run
  · obtain ⟨_, -, -, unchanged⟩ := performs_program.1 looked
    rw [unchanged] at run₁
    dsimp only at run₁
    split at run₁
    · have invalidated : Reachable requested portCount plls before.invalidateCalibration :=
        reached.call .invalidateCalibration (performs_modify.2 ⟨rfl, rfl, rfl⟩)
      exact recalibration invalidated (performs_modify_bind.1 run₁)
    · exact recalibration reached run₁
  · obtain ⟨_, -, -, rfl⟩ := performs_program.1 looked
    exact reached

/-- The bookkeeping of a survey that succeeds is the outcome of calls. -/
theorem survey_reachable {layout : Layout} {surveyed : Subsystem}
    (run : Runs (survey mailboxes table blob options).run trace (some (.ok (layout, surveyed)))) :
    ∃ word, table[Configuration.tableIndex]? = some word ∧
      Reachable (Configuration.ofWord word).instanceCount (Configuration.ofWord word).portCount
        (Configuration.ofWord word).plls surveyed := by
  cases survey_course run with
  | @mk decoding announcing setting measuring resolving asking configuration fresh measured _ _
      decoded announced interleaved measurement resolved asked =>
    obtain ⟨word, found, rfl, rfl⟩ := decodeHandoff_ok decoded
    refine ⟨word, found, ?_⟩
    cases measurement with
    | @mk checking discovering recovering technology sizing _ checked discovered recovered known _
        check discovery recovery inquiry measurement =>
      have waiting : Reachable _ _ _ { Subsystem.fresh (Configuration.ofWord word).instanceCount
          (Configuration.ofWord word).portCount (Configuration.ofWord word).plls with
            awaitClock := true } :=
        Reachable.fresh.call (.awaitClock true) (performs_modify.2 ⟨rfl, rfl, rfl⟩)
      have listed := (waiting.call (.checkCalibration _ _) check).call (.discoverInterfaces _) discovery
      have sized := ((recoverCalibration_reachable listed recovery).call (.readTechnology _)
        inquiry).call (.readSizes _) measurement
      exact sized.call (.readEcc _) asked

/-- After every history of calls, in any order and with any answers, the bookkeeping is consistent:
it counts as calibrated only if each instance does, the number of instances, the ports and the PLLs
are what they were at the start, and the interfaces and sizes are bounded. So the sums of the sizes
never stop at the largest size, and the size in bytes is exact and fits into 64 bits. -/
theorem bookkeeping_consistent {subsystem : Subsystem}
    (reachable : Reachable requested portCount plls subsystem) :
    Consistent requested portCount plls subsystem ∧
      (readSizes = readSizesBy Subsystem.addGigabits ∧ ∀ mailboxes,
        (readSizes mailboxes).perform subsystem = (readSizesBy (· + ·) mailboxes).perform subsystem) ∧
      8 * hardwareBytes subsystem.gigabits = subsystem.gigabits * gibibyte ∧
      subsystem.gigabits * gibibyte < 2 ^ 64 := by
  have consistent := reachable.consistent
  have small := consistent.small
  refine ⟨consistent, ⟨Iossm.readSizes_eq, fun _ => Iossm.readSizes_exact consistent⟩, ?_, ?_⟩
  · simp only [hardwareBytes, gibibyte]
    omega
  · simp only [gibibyte]
    omega

/-- On the board a survey finds one instance with 8 gigabits, which are a gibibyte. -/
theorem bookkeeping_consistent_after_hang :
    Reachable 1 1 0 Rehearsal.described ∧ Consistent 1 1 0 Rehearsal.described ∧
      8 * hardwareBytes 8 = 8 * gibibyte := by
  have run := Runs.of_run (Rehearsal.serve id) (survey 1 Rehearsal.table Rehearsal.blob {}).run
    (start.run (Rehearsal.serve id) Rehearsal.afterHang).2
  rw [Rehearsal.survey_afterHang] at run
  obtain ⟨word, found, reached⟩ := survey_reachable run
  have single : (0 : Word) = word := Option.some.inj found
  subst single
  obtain ⟨consistent, -, bytes, -⟩ := bookkeeping_consistent reached
  exact ⟨reached, consistent, bytes⟩

end BringUp.Dram
