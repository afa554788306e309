import BringUp.Proofs.Dram.Closed
import BringUp.Proofs.Dram.Rehearsal
import BringUp.Proofs.Iossm.Recalibration

/-! The calibration of the memory that is brought up. Main statement: at the size check every
instance in use has passed its check without a double bit error, or all of its interfaces were
calibrated again. -/
namespace BringUp.Dram

open Iossm (Subsystem Sequence Supervision Target Checks Place placesOf RecalibratedAll interfacesOf)
open SystemManager (resetRecord)

variable {mailboxes : Nat} {table : List Word} {blob : DeviceTree.Bytes} {options : Options}
  {trace before first second : Trace} {targets : List (List Target)}

/-- Commands of the calibration. -/
def calibrationOpcodes : List Iossm.Opcode := [.calibrationStatus, .calibrate]

/-- An instance is calibrated again if the reset record tells about a double bit error, or if the
instance did not pass the check. -/
def handled (record : Word) (results : List Bool) (unit : Nat) : Bool :=
  SystemManager.ResetRecord.ddrError.read record || results[unit]? != some true

/-- The calibration of these interfaces: after the check of all instances the reset record is read,
and from then on every interface of each instance that is handled has its dialogue. There are no
other commands of the calibration. -/
inductive Calibrated (timeouts : Iossm.Timeouts) (targets : List (List Target)) : Trace → Prop
  | mk {early checking discovering later : Trace} {results : List Bool} {record : Word}
      (checks : Checks timeouts results checking) (complete : results.length = targets.length)
      (populated : ∀ interfaces ∈ targets, interfaces ≠ [])
      (silent : Trace.requestsOf calibrationOpcodes (early ++ (checking ++ discovering)) = [])
      (recalibrated : RecalibratedAll (placesOf targets (handled record results))
        (Trace.requestsOf calibrationOpcodes later)) :
      Calibrated timeouts targets
        (early ++ (checking ++ (discovering ++ ⟨.load resetRecord, record⟩ :: later)))

theorem Calibrated.frame {timeouts : Iossm.Timeouts} (h : Calibrated timeouts targets trace)
    (early : first.requestsOf calibrationOpcodes = [])
    (late : second.requestsOf calibrationOpcodes = []) :
    Calibrated timeouts targets (first ++ (trace ++ second)) := by
  cases h with
  | @mk before checking discovering later results record checks complete populated silent
      recalibrated =>
    have whole : first ++ ((before ++ (checking ++
        (discovering ++ ⟨.load resetRecord, record⟩ :: later))) ++ second) =
          (first ++ before) ++ (checking ++
            (discovering ++ ⟨.load resetRecord, record⟩ :: (later ++ second))) := by
      simp
    rw [whole]
    refine .mk checks complete populated ?_ ?_
    · rw [List.append_assoc, Trace.requestsOf_append, early, silent]
      rfl
    · rw [Trace.requestsOf_append, late, List.append_nil]
      exact recalibrated

theorem placesOf_eq_nil {handled : Nat → Bool} (h : ∀ unit < targets.length, handled unit = false) :
    placesOf targets handled = [] := by
  rw [placesOf, List.flatMap_eq_nil_iff]
  intro item member
  have inside : item.2 < targets.length := List.snd_lt_of_mem_zipIdx member
  rw [h item.2 inside]
  rfl

/-- Calibrating again begins with the reset record. Instances that are recorded as calibrated are
passed over, but after a double bit error there is none. -/
theorem recoverCalibration_ok {timeouts : Iossm.Timeouts} {checked after : Subsystem}
    (overall : checked.calibrated = checked.passed.all id)
    (run : (recoverCalibration mailboxes timeouts).Performs checked trace (.ok ()) after) :
    ∃ (record : Word) (later : Trace), trace = ⟨.load resetRecord, record⟩ :: later ∧
      RecalibratedAll (placesOf checked.targets (handled record checked.passed))
        later.requests := by
  obtain ⟨_, rest, _, flagged, rfl, read, run₁⟩ := Sequence.performs_bind_ok.1 run
  have ⟨_, asked, same, kept⟩ := Sequence.performs_program.1 read
  cases same
  rw [kept] at run₁
  have ⟨record, later, single, ended⟩ := Runs.ask_iff.1 asked
  have ⟨nothing, found⟩ := Runs.done_iff.1 ended
  have flag : flagged = SystemManager.ResetRecord.ddrError.read record := Option.some.inj found
  have recalibration {marked left : Subsystem} {part : Trace}
      (unmarked : marked.calibrated = false)
      (run : Sequence.Performs (do
        if !(← get).calibrated then
          Program.log .info "DDR: re-calibration in progress"
          Iossm.recalibrate mailboxes timeouts) marked part (.ok ()) left) :
      RecalibratedAll (placesOf marked.targets fun unit => marked.passed[unit]? != some true)
        part.requests := by
    obtain ⟨_, _, _, _, rfl, got, run₂⟩ := Sequence.performs_bind_ok.1 run
    obtain ⟨rfl, same, kept⟩ := Sequence.performs_get.1 got
    cases same
    rw [kept, unmarked, Bool.not_false, if_pos rfl] at run₂
    obtain ⟨_, _, _, _, rfl, told, again⟩ := Sequence.performs_bind_ok.1 run₂
    obtain ⟨rfl, -, rfl⟩ := Sequence.performs_log.1 told
    rw [List.nil_append, Trace.requests_append]
    exact Iossm.recalibrate_ok again
  refine ⟨record, rest, by rw [single, nothing]; rfl, ?_⟩
  cases flagged with
  | true =>
    obtain ⟨_, _, _, _, rfl, changed, run₂⟩ := Sequence.performs_bind_ok.1 run₁
    obtain ⟨rfl, -, rfl⟩ := Sequence.performs_modify.1 changed
    have all := recalibration rfl run₂
    have everywhere : (fun unit => (checked.invalidateCalibration.passed[unit]? != some true)) =
        handled record checked.passed := by
      funext unit
      rw [Subsystem.passed_invalidateCalibration, handled, ← flag, Bool.true_or,
        List.getElem?_replicate]
      split <;> rfl
    rw [Subsystem.targets_invalidateCalibration, everywhere] at all
    exact all
  | false =>
    have same : (fun unit => (checked.passed[unit]? != some true)) =
        handled record checked.passed := by
      funext unit
      rw [handled, ← flag, Bool.false_or]
    cases marked : checked.calibrated with
    | false =>
      have all := recalibration marked run₁
      rwa [same] at all
    | true =>
      obtain ⟨_, _, _, _, rfl, got, run₂⟩ := Sequence.performs_bind_ok.1 run₁
      obtain ⟨rfl, known, kept⟩ := Sequence.performs_get.1 got
      cases known
      rw [kept, marked, if_neg (by simp)] at run₂
      obtain ⟨rfl, -, -⟩ := Sequence.performs_pure.1 run₂
      rw [marked] at overall
      have none : placesOf checked.targets (handled record checked.passed) = [] := by
        apply placesOf_eq_nil
        intro unit inside
        have size : unit < checked.passed.length := by
          simpa [Subsystem.targets, Subsystem.passed] using inside
        have good := List.all_eq_true.1 overall.symm _ (List.getElem_mem size)
        rw [← same]
        dsimp only
        rw [List.getElem?_eq_getElem size]
        simpa using good
      rw [none]
      exact Iossm.recalibratedAll_nil

theorem silent_of_supervision {opcodes : List Iossm.Opcode} {sequence : Sequence Unit}
    {start after : Subsystem} {result : Except Iossm.Error Unit}
    (run : sequence.Performs start trace result after) (uses : sequence.Uses (Supervision opcodes))
    (h : ∀ code ∈ opcodes, code ∉ calibrationOpcodes) :
    trace.requestsOf calibrationOpcodes = [] :=
  Trace.requestsOf_of_allowed (Runs.uses run (uses start)) fun _ _ sent => h _ sent

theorem measurement_calibrated {timeouts : Iossm.Timeouts} {unmeasured after : Subsystem}
    (awaits : unmeasured.awaitClock = true)
    (fresh : unmeasured.passed = List.replicate unmeasured.instances.length false)
    (course : MeasurementCourse mailboxes timeouts unmeasured trace after) :
    Calibrated timeouts after.targets trace := by
  cases course with
  | @mk checking discovering recovering technology sizing _ checked discovered recovered known _
      check discovery recovery inquiry measurement =>
    have ⟨results, count, checks, passed, overall⟩ := Iossm.checkCalibration_ok awaits fresh check
    have kept := Iossm.discoverInterfaces_keeps_passed _ _ _ _ discovery
    have passedKept : discovered.passed = results := (Prod.mk.inj kept).1.trans passed
    have overallKept : discovered.calibrated = discovered.passed.all id := by
      rw [passedKept, ← overall]
      exact (Prod.mk.inj kept).2
    have knownTargets : known.targets = discovered.targets :=
      (Iossm.readTechnology_keeps_targets _ _ _ _ inquiry).trans
        (recoverCalibration_keeps_targets _ _ _ _ recovery)
    have targets : after.targets = discovered.targets :=
      (Iossm.readSizes_keeps_targets _ _ _ _ measurement).trans knownTargets
    have populated := Iossm.readSizes_described measurement
    have ⟨record, later, split, recalibrated⟩ := recoverCalibration_ok overallKept recovery
    have only : Trace.requestsOf calibrationOpcodes later = Trace.requests later := by
      apply Trace.requestsOf_eq_requests
      rintro ⟨unit, command, answer⟩ member
      have inside : ⟨.request unit command, answer⟩ ∈ recovering := by
        rw [split]
        exact List.mem_cons_of_mem _ (Trace.mem_requests.1 member)
      exact Runs.uses recovery (recoverCalibration_uses discovered) _ inside
    have quiet : Trace.requestsOf calibrationOpcodes
        (⟨.log .info "DDR: calibration success", ()⟩ :: (technology ++ sizing)) = [] := by
      rw [← List.singleton_append, Trace.requestsOf_append, Trace.requestsOf_append,
        silent_of_supervision inquiry Iossm.readTechnology_uses (by decide),
        silent_of_supervision measurement Iossm.readSizes_uses (by decide)]
      rfl
    rw [split, targets]
    change Calibrated timeouts discovered.targets ([] ++ (checking ++ (discovering ++
      ⟨.load resetRecord, record⟩ :: (later ++
        ⟨.log .info "DDR: calibration success", ()⟩ :: (technology ++ sizing)))))
    refine .mk checks ?_ ?_ ?_ ?_
    · rw [← passedKept, Subsystem.passed, Subsystem.targets, List.length_map, List.length_map]
    · rw [← knownTargets]
      exact populated
    · rw [List.nil_append, Trace.requestsOf_append,
        silent_of_supervision check Iossm.checkCalibration_uses (by decide),
        silent_of_supervision discovery Iossm.discoverInterfaces_uses (by decide)]
      rfl
    · rw [passedKept] at recalibrated
      rw [Trace.requestsOf_append, quiet, List.append_nil, only]
      exact recalibrated

theorem survey_calibrated {layout : Layout} {surveyed : Subsystem}
    (run : Runs (survey mailboxes table blob options).run trace (some (.ok (layout, surveyed)))) :
    Calibrated options.timeouts surveyed.targets trace := by
  cases survey_course run with
  | @mk decoding announcing setting measuring resolving asking configuration fresh measured _ _
      decoded announced interleaved measurement resolved asked =>
    obtain ⟨word, found, same, start⟩ := decodeHandoff_ok decoded
    have unpassed : { fresh with awaitClock := true }.passed =
        List.replicate fresh.instances.length false := by
      rw [start]
      simp [Subsystem.passed, Subsystem.fresh]
    have calibrated := measurement_calibrated rfl unpassed measurement
    obtain ⟨_, targets, _⟩ := Iossm.readEcc_ok asked
    have quiet {allowed : Op → Prop} {part : Trace} (h : ∀ event ∈ part, allowed event.op)
        (silent : ∀ unit command, ¬ allowed (.request unit command)) :
        part.requestsOf calibrationOpcodes = [] :=
      Trace.requestsOf_of_allowed h fun unit command sent => absurd sent (silent unit command)
    have early : Trace.requestsOf calibrationOpcodes (decoding ++ (announcing ++ setting)) = [] := by
      have announcingUses : (announceModes configuration).Uses (Configuring blob) :=
        announceModes_uses
      rw [Trace.requestsOf_append, Trace.requestsOf_append,
        quiet (decoded.uses decodeHandoff_uses) fun _ _ h => h,
        quiet (announced.uses announcingUses) fun _ _ h => h,
        quiet (interleaved.uses setInterleaving_uses) fun _ _ h => h]
      rfl
    have late (text : String) : Trace.requestsOf calibrationOpcodes
        (resolving ++ (⟨.log .info text, ()⟩ :: asking)) = [] := by
      rw [← List.singleton_append, Trace.requestsOf_append, Trace.requestsOf_append,
        quiet (resolved.uses resolveLayout_uses) fun _ _ h => h,
        silent_of_supervision asked Iossm.readEcc_uses (by decide)]
      rfl
    rw [targets]
    simpa only [List.append_assoc] using calibrated.frame early (late _)

/-- When a bring-up comes to its size check, as every one does that succeeds, the interfaces of all
instances in use are calibrated. -/
theorem calibration_sound :
    (∀ surveyed before, ReachesSizeCheck mailboxes table blob options surveyed before →
      ∃ word targets, table[Configuration.tableIndex]? = some word ∧
        targets.length = (Configuration.ofWord word).instanceCount ∧
        before.listed = List.range targets.length ∧ before.interfaces = interfacesOf targets ∧
        Calibrated options.timeouts targets before) ∧
    ∀ trace ram, Runs (bringUp mailboxes table blob options).run trace (some (.ok ram)) →
      ∃ surveyed before rest, trace = before ++ rest ∧
        ReachesSizeCheck mailboxes table blob options surveyed before := by
  constructor
  · intro surveyed before reached
    cases reached with
    | @mk opening surveying preparing found layout _ prepared started passed ready =>
      obtain ⟨⟨word, handoff, inventory, size⟩, _⟩ := survey_inventoried passed
      have inventoried := inventory.frame (start_quiet started).1
        (supervision_uninformed ready prepareEcc_uses (by decide))
      have count : surveyed.targets.length = (Configuration.ofWord word).instanceCount := by
        rw [Subsystem.targets, List.length_map, size]
      have openingSilent : Trace.requestsOf calibrationOpcodes opening = [] := by
        obtain ⟨_, _, _, steps, _⟩ := runs_start started
        rw [steps]
        rfl
      have preparingSilent : Trace.requestsOf calibrationOpcodes preparing = [] :=
        silent_of_supervision ready prepareEcc_uses (by decide)
      refine ⟨word, surveyed.targets, handoff, count, ?_, inventoried.interfaces, ?_⟩
      · rw [count]
        exact inventoried.listed
      · exact (survey_calibrated passed).frame openingSilent preparingSilent
  · intro trace ram run
    cases bringUp_course run with
    | @completes opening surveying preparing checking finishing _ _ surveyed _ _ started passed ready
        verified finished =>
      refine ⟨surveyed, opening ++ (surveying ++ preparing), checking ++ finishing, ?_,
        .mk started passed ready⟩
      simp only [List.append_assoc]

/-- After a bring-up that did not complete, the board passes its check, and so it comes calibrated
to the size check. -/
theorem calibration_sound_after_hang : ∃ before rest : Trace,
    Rehearsal.bringUp.trace (Rehearsal.serve id) Rehearsal.afterHang = before ++ rest ∧
      ∃ targets, targets.length = 1 ∧ before.interfaces = interfacesOf targets ∧
        Calibrated {} targets before := by
  have result : (Rehearsal.bringUp.run (Rehearsal.serve id) Rehearsal.afterHang).1 =
      some (.ok ⟨0x80000000, 0x40000000, [⟨0x80000000, 0x40000000⟩], .ddr5, true⟩) := by
    decide +kernel
  have run := Runs.of_run (Rehearsal.serve id) Rehearsal.bringUp Rehearsal.afterHang
  rw [result] at run
  have ⟨surveyed, before, rest, split, reached⟩ := calibration_sound.2 _ _ run
  have ⟨word, targets, handoff, count, _, described, calibrated⟩ :=
    calibration_sound.1 surveyed before reached
  cases handoff
  exact ⟨before, rest, split, targets, count, described, calibrated⟩

end BringUp.Dram
