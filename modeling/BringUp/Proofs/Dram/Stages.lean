import BringUp.Dram.Init
import BringUp.Proofs.Iossm.Performs

/-! The course of a bring-up. Main statement: a bring-up that returns took one of four courses,
which differ in how far it came. -/
namespace BringUp.Dram

open Iossm (Subsystem Sequence)

variable {mailboxes : Nat} {table : List Word} {blob : DeviceTree.Bytes} {options : Options}
  {trace : Trace}

theorem run_stage {α : Type} (sequence : Sequence α) (before : Subsystem) :
    (stage sequence before).run = (sequence.perform before).bind fun
      | (.ok value, after) => .done (.ok (value, after))
      | (.error cause, _) => .done (.error (.iossm cause)) := by
  rw [stage, ExceptT.run_bind]
  change ((sequence.perform before).bind fun result => Program.done (Except.ok result)).bind _ = _
  rw [Program.bind_assoc]
  congr 1

theorem stage_ok_iff {α : Type} {sequence : Sequence α} {before after : Subsystem} {value : α} :
    Runs (stage sequence before).run trace (some (.ok (value, after))) ↔
      sequence.Performs before trace (.ok value) after := by
  rw [run_stage, Runs.bind_some_iff, Sequence.Performs]
  constructor
  · intro h
    obtain ⟨first, second, ⟨cause | value, after⟩, rfl, h, rest⟩ := h
    · cases (Runs.done_iff.1 rest).2
    · obtain ⟨rfl, same⟩ := Runs.done_iff.1 rest
      cases same
      simpa using h
  · exact fun h => ⟨trace, [], _, by simp, h, .done _⟩

theorem stage_error_iff {α : Type} {sequence : Sequence α} {before : Subsystem} {cause : Error} :
    Runs (stage sequence before).run trace (some (.error cause)) ↔
      ∃ failure after, cause = .iossm failure ∧
        sequence.Performs before trace (.error failure) after := by
  simp only [run_stage, Runs.bind_some_iff, Sequence.Performs]
  constructor
  · intro h
    obtain ⟨first, second, ⟨failure | value, after⟩, rfl, h, rest⟩ := h
    · obtain ⟨rfl, same⟩ := Runs.done_iff.1 rest
      cases same
      exact ⟨failure, after, rfl, by simpa using h⟩
    · cases (Runs.done_iff.1 rest).2
  · intro h
    obtain ⟨failure, after, rfl, h⟩ := h
    exact ⟨trace, [], _, by simp, h, .done _⟩

/-- A bring-up asks for earlier boots and marks the progress before anything else. -/
theorem runs_start {found : Option Start} (run : Runs start trace found) :
    ∃ record sample current,
      trace = [⟨.load SystemManager.resetRecord, record⟩, ⟨.load SystemManager.progress, sample⟩,
        ⟨.log .debug ("DDR: SDRAM init in progress, reset type "
          ++ ResetType.describe (ResetType.ofRecord? record)), ()⟩,
        ⟨.load SystemManager.progress, current⟩,
        ⟨.store SystemManager.progress (SystemManager.inProgress.put true current), ()⟩] ∧
      found = some ⟨ResetType.ofRecord? record, SystemManager.inProgress.read sample⟩ := by
  obtain ⟨record, _, rfl, run₁⟩ := Runs.ask_iff.1 run
  obtain ⟨sample, _, rfl, run₂⟩ := Runs.ask_iff.1 run₁
  obtain ⟨_, _, rfl, run₃⟩ := Runs.ask_iff.1 run₂
  obtain ⟨current, _, rfl, run₄⟩ := Runs.ask_iff.1 run₃
  obtain ⟨_, _, rfl, run₅⟩ := Runs.ask_iff.1 run₄
  obtain ⟨rfl, rfl⟩ := Runs.done_iff.1 run₅
  exact ⟨record, sample, current, rfl, rfl⟩

theorem start_returns : start.Returns := fun _ _ _ _ _ => trivial

/-- The courses of a bring-up that returns. -/
inductive Course (mailboxes : Nat) (table : List Word) (blob : DeviceTree.Bytes)
    (options : Options) : Trace → Except Error Ram → Prop
  | surveyFails {opening surveying : Trace} {found : Start} {cause : Error}
      (started : Runs start opening (some found))
      (failed : Runs (survey mailboxes table blob options).run surveying (some (.error cause))) :
      Course mailboxes table blob options (opening ++ surveying) (.error cause)
  | eccFails {opening surveying preparing : Trace} {found : Start} {layout : Layout}
      {surveyed prepared : Subsystem} {cause : Iossm.Error}
      (started : Runs start opening (some found))
      (passed : Runs (survey mailboxes table blob options).run surveying
        (some (.ok (layout, surveyed))))
      (failed : (prepareEcc mailboxes options.timeouts found).Performs surveyed preparing
        (.error cause) prepared) :
      Course mailboxes table blob options (opening ++ (surveying ++ preparing))
        (.error (.iossm cause))
  | sizeFails {opening surveying preparing checking : Trace} {found : Start} {layout : Layout}
      {surveyed prepared : Subsystem} {cause : SizeError}
      (started : Runs start opening (some found))
      (passed : Runs (survey mailboxes table blob options).run surveying
        (some (.ok (layout, surveyed))))
      (ready : (prepareEcc mailboxes options.timeouts found).Performs surveyed preparing
        (.ok ()) prepared)
      (failed : Runs (verifySize layout.banks layout.size) checking (some (.error cause))) :
      Course mailboxes table blob options (opening ++ (surveying ++ (preparing ++ checking)))
        (.error (.sizeCheck cause))
  | completes {opening surveying preparing checking finishing : Trace} {found : Start}
      {layout : Layout} {surveyed prepared : Subsystem} {total : Nat}
      (started : Runs start opening (some found))
      (passed : Runs (survey mailboxes table blob options).run surveying
        (some (.ok (layout, surveyed))))
      (ready : (prepareEcc mailboxes options.timeouts found).Performs surveyed preparing
        (.ok ()) prepared)
      (verified : Runs (verifySize layout.banks layout.size) checking (some (.ok total)))
      (finished : Runs (finish options layout) finishing (some ())) :
      Course mailboxes table blob options
        (opening ++ (surveying ++ (preparing ++ (checking ++ finishing))))
        (.ok ⟨(layout.banks.head?.map Bank.start).getD 0, layout.size, layout.banks,
          prepared.technology, prepared.ecc⟩)

theorem bringUp_starts {result : Option (Except Error Ram)}
    (run : Runs (bringUp mailboxes table blob options).run trace result) :
    ∃ opening rest found, trace = opening ++ rest ∧ Runs start opening (some found) ∧
      Runs (do
        let (layout, surveyed) ← survey mailboxes table blob options
        complete mailboxes options found layout surveyed : ExceptT Error Program Ram).run
        rest result :=
  run.run_program_returned start_returns

theorem bringUp_course {result : Except Error Ram}
    (run : Runs (bringUp mailboxes table blob options).run trace (some result)) :
    Course mailboxes table blob options trace result := by
  obtain ⟨opening, rest, found, rfl, started, run⟩ := bringUp_starts run
  obtain ⟨surveying, rest, ⟨layout, surveyed⟩, rfl, passed, run⟩ | ⟨cause, same, failed⟩ | ⟨h, -⟩ :=
    Runs.run_bind_iff.1 run
  · obtain ⟨preparing, rest, ⟨_, prepared⟩, rfl, ready, run⟩ | ⟨cause, same, failed⟩ | ⟨h, -⟩ :=
      Runs.run_bind_iff.1 run
    · rw [stage_ok_iff] at ready
      obtain ⟨checking, rest, total, rfl, verified, run⟩ | ⟨cause, same, failed⟩ | ⟨h, -⟩ :=
        Runs.run_bind_iff.1 run
      · obtain ⟨_ | total, same, verified⟩ := Runs.run_adapt_iff.1 verified <;> cases same
        obtain ⟨finishing, rest, _, rfl, finished, run⟩ | ⟨cause, -, h⟩ | ⟨h, -⟩ :=
          Runs.run_bind_iff.1 run
        · obtain ⟨_ | _, finished, same⟩ := Runs.run_program_iff.1 finished <;> cases same
          obtain ⟨rfl, same⟩ := Runs.done_iff.1 run
          cases same
          rw [List.append_nil]
          exact .completes started passed ready verified finished
        · obtain ⟨_ | _, -, same⟩ := Runs.run_program_iff.1 h <;> cases same
        · cases h
      · cases same
        obtain ⟨cause | _, same, h⟩ := Runs.run_adapt_iff.1 failed <;> cases same
        exact .sizeFails started passed ready h
      · cases h
    · cases same
      obtain ⟨failure, after, rfl, h⟩ := stage_error_iff.1 failed
      exact .eccFails started passed h
    · cases h
  · cases same
    exact .surveyFails started failed
  · cases h

/-- The course of a measurement that succeeds. -/
inductive MeasurementCourse (mailboxes : Nat) (timeouts : Iossm.Timeouts) :
    Subsystem → Trace → Subsystem → Prop
  | mk {checking discovering recovering technology sizing : Trace}
      {before checked discovered recovered known after : Subsystem}
      (check : (Iossm.checkCalibration mailboxes timeouts).Performs before checking (.ok ()) checked)
      (discovery : (Iossm.discoverInterfaces mailboxes).Performs checked discovering (.ok ())
        discovered)
      (recovery : (recoverCalibration mailboxes timeouts).Performs discovered recovering (.ok ())
        recovered)
      (inquiry : (Iossm.readTechnology mailboxes).Performs recovered technology (.ok ()) known)
      (measurement : (Iossm.readSizes mailboxes).Performs known sizing (.ok ()) after) :
      MeasurementCourse mailboxes timeouts before
        (checking ++ (discovering ++ (recovering ++
          (⟨.log .info "DDR: calibration success", ()⟩ :: (technology ++ sizing))))) after

theorem measurement_course {timeouts : Iossm.Timeouts} {before after : Subsystem}
    (run : (calibrateAndMeasure mailboxes timeouts).Performs before trace (.ok ()) after) :
    MeasurementCourse mailboxes timeouts before trace after := by
  obtain ⟨checking, _, checked, _, rfl, check, run₁⟩ := Sequence.performs_bind_ok.1 run
  obtain ⟨discovering, _, discovered, _, rfl, discovery, run₂⟩ := Sequence.performs_bind_ok.1 run₁
  obtain ⟨recovering, _, recovered, _, rfl, recovery, run₃⟩ := Sequence.performs_bind_ok.1 run₂
  obtain ⟨_, _, _, _, rfl, told, run₄⟩ := Sequence.performs_bind_ok.1 run₃
  obtain ⟨rfl, -, rfl⟩ := Sequence.performs_log.1 told
  obtain ⟨technology, sizing, known, _, rfl, inquiry, measurement⟩ :=
    Sequence.performs_bind_ok.1 run₄
  rw [List.singleton_append]
  exact .mk check discovery recovery inquiry measurement

/-- The course of a survey that succeeds. -/
inductive SurveyCourse (mailboxes : Nat) (table : List Word) (blob : DeviceTree.Bytes)
    (options : Options) : Trace → Layout → Subsystem → Prop
  | mk {decoding announcing setting measuring resolving asking : Trace}
      {configuration : Configuration} {fresh measured surveyed : Subsystem} {layout : Layout}
      (decoded : Runs (decodeHandoff table) decoding (some (.ok (configuration, fresh))))
      (announced : Runs (announceModes configuration) announcing (some ()))
      (interleaved : Runs (setInterleaving blob configuration) setting (some (.ok ())))
      (measurement : MeasurementCourse mailboxes options.timeouts
        { fresh with awaitClock := true } measuring measured)
      (resolved : Runs (resolveLayout blob (hardwareBytes measured.gigabits) options.bankCount)
        resolving (some (.ok layout)))
      (asked : (Iossm.readEcc mailboxes).Performs measured asking (.ok ()) surveyed) :
      SurveyCourse mailboxes table blob options
        (decoding ++ (announcing ++ (setting ++ (measuring ++ (resolving ++
          (⟨.log .info (measured.technology.name ++ ": " ++ mebibytes layout.size), ()⟩ ::
            asking)))))) layout surveyed

theorem survey_course {layout : Layout} {surveyed : Subsystem}
    (run : Runs (survey mailboxes table blob options).run trace (some (.ok (layout, surveyed)))) :
    SurveyCourse mailboxes table blob options trace layout surveyed := by
  obtain ⟨decoding, _, ⟨configuration, fresh⟩, rfl, decoded, run₁⟩ := Runs.run_bind_ok_iff.1 run
  obtain ⟨announcing, _, _, rfl, announced, run₂⟩ := Runs.run_bind_ok_iff.1 run₁
  obtain ⟨_ | _, announced, same⟩ := Runs.run_program_iff.1 announced <;> cases same
  obtain ⟨setting, _, _, rfl, interleaved, run₃⟩ := Runs.run_bind_ok_iff.1 run₂
  obtain ⟨measuring, _, ⟨_, measured⟩, rfl, measurement, run₄⟩ := Runs.run_bind_ok_iff.1 run₃
  obtain ⟨resolving, _, resolved, rfl, resolution, run₅⟩ := Runs.run_bind_ok_iff.1 run₄
  obtain ⟨_, _, _, rfl, told, run₆⟩ := Runs.run_bind_ok_iff.1 run₅
  obtain ⟨_ | _, told, same⟩ := Runs.run_program_iff.1 told <;> cases same
  obtain ⟨asking, _, ⟨_, asked⟩, rfl, inquiry, run₇⟩ := Runs.run_bind_ok_iff.1 run₆
  obtain ⟨rfl, same⟩ := Runs.done_iff.1 run₇
  cases same
  obtain ⟨rfl, -⟩ := Runs.log_iff.1 told
  rw [List.append_nil, List.singleton_append]
  exact .mk decoded announced interleaved (measurement_course (stage_ok_iff.1 measurement))
    resolution (stage_ok_iff.1 inquiry)

theorem perform_prepareEcc_of_not_ecc {timeouts : Iossm.Timeouts} {found : Start}
    {surveyed : Subsystem} (h : surveyed.ecc = false) :
    (prepareEcc mailboxes timeouts found).perform surveyed = .done (.ok (), surveyed) := by
  rw [prepareEcc, Sequence.perform_bind, Sequence.perform_get, Program.done_bind]
  simp only [h, Bool.false_eq_true, if_false]
  rfl

/-- With error correction the reset record is read once for each kind of error, and decides
together with what the start has found. -/
theorem perform_prepareEcc {timeouts : Iossm.Timeouts} {found : Start} {surveyed : Subsystem}
    (h : surveyed.ecc = true) : (prepareEcc mailboxes timeouts found).perform surveyed =
      .ask (.load SystemManager.resetRecord) fun first =>
        .ask (.load SystemManager.resetRecord) fun second =>
          (if contentLost found.resetType (SystemManager.ResetRecord.ocramError.read first)
              (SystemManager.ResetRecord.ddrError.read second) found.hung then do
            Iossm.initializeMemory mailboxes timeouts
            Program.log .info "SDRAM-ECC: initialized success"
          else
            Program.log .info "SDRAM-ECC: initialized success" : Sequence Unit).perform surveyed := by
  rw [prepareEcc, Sequence.perform_bind, Sequence.perform_get, Program.done_bind]
  simp only [h, if_true]
  rfl

/-- The run begins with a start that finds this. -/
def Started (trace : Trace) (found : Start) : Prop :=
  ∃ opening rest, trace = opening ++ rest ∧ Runs start opening (some found)

/-- The run has come from its start through a survey with this outcome to the rest. -/
inductive Surveyed (mailboxes : Nat) (table : List Word) (blob : DeviceTree.Bytes)
    (options : Options) : Start → Layout → Subsystem → Trace → Trace → Prop
  | mk {opening surveying rest : Trace} {found : Start} {layout : Layout} {surveyed : Subsystem}
      (started : Runs start opening (some found))
      (passed : Runs (survey mailboxes table blob options).run surveying
        (some (.ok (layout, surveyed)))) :
      Surveyed mailboxes table blob options found layout surveyed (opening ++ (surveying ++ rest))
        rest

theorem Surveyed.rest {result : Option (Except Error Ram)} {found : Start} {layout : Layout}
    {surveyed : Subsystem} {rest : Trace}
    (h : Surveyed mailboxes table blob options found layout surveyed trace rest)
    (run : Runs (bringUp mailboxes table blob options).run trace result) :
    Runs (complete mailboxes options found layout surveyed).run rest result := by
  cases h with
  | mk started passed =>
    have start : Runs (liftM start : ExceptT Error Program Start).run _ (some (.ok found)) :=
      Runs.run_program_iff.2 ⟨some found, started, rfl⟩
    exact (run.run_rest start).run_rest passed

/-- The part of a run up to the size check, with the bookkeeping after the survey. -/
inductive ReachesSizeCheck (mailboxes : Nat) (table : List Word) (blob : DeviceTree.Bytes)
    (options : Options) : Subsystem → Trace → Prop
  | mk {opening surveying preparing : Trace} {found : Start} {layout : Layout}
      {surveyed prepared : Subsystem} (started : Runs start opening (some found))
      (passed : Runs (survey mailboxes table blob options).run surveying
        (some (.ok (layout, surveyed))))
      (ready : (prepareEcc mailboxes options.timeouts found).Performs surveyed preparing
        (.ok ()) prepared) :
      ReachesSizeCheck mailboxes table blob options surveyed (opening ++ (surveying ++ preparing))

theorem run_bringUp : (bringUp mailboxes table blob options).run = start.bind fun found =>
    (survey mailboxes table blob options).run.bind fun
      | .ok (layout, surveyed) => (complete mailboxes options found layout surveyed).run
      | .error cause => .done (.error cause) := by
  change (start.bind fun found => Program.done (Except.ok found)).bind _ = _
  rw [Program.bind_assoc]
  congr 1
  funext found
  change (survey mailboxes table blob options).run.bind _ = _
  congr 1
  funext result
  cases result <;> rfl

theorem Surveyed.of_run {σ : Type} {handle : (op : Op) → σ → op.Answer × σ} {state : σ}
    {found : Start} {layout : Layout} {surveyed : Subsystem}
    (first : (start.run handle state).1 = some found)
    (second : ((survey mailboxes table blob options).run.run handle
      (start.run handle state).2).1 = some (.ok (layout, surveyed))) :
    ∃ rest, Surveyed mailboxes table blob options found layout surveyed
      ((bringUp mailboxes table blob options).run.trace handle state) rest := by
  have started := Runs.of_run_eq handle state first
  have passed := Runs.of_run_eq handle (start.run handle state).2 second
  rw [run_bringUp, Program.trace_bind _ _ _ _ first, Program.trace_bind _ _ _ _ second]
  exact ⟨_, .mk started passed⟩

/-- If the handler also lets the preparation of error correction succeed, the bring-up comes to its
size check. -/
theorem ReachesSizeCheck.of_run {σ : Type} {handle : (op : Op) → σ → op.Answer × σ} {state : σ}
    {found : Start} {layout : Layout} {surveyed prepared : Subsystem}
    (first : (start.run handle state).1 = some found)
    (second : ((survey mailboxes table blob options).run.run handle
      (start.run handle state).2).1 = some (.ok (layout, surveyed)))
    (third : (((prepareEcc mailboxes options.timeouts found).perform surveyed).run handle
      ((survey mailboxes table blob options).run.run handle (start.run handle state).2).2).1 =
        some (.ok (), prepared)) :
    ∃ before rest, (bringUp mailboxes table blob options).run.trace handle state = before ++ rest ∧
      ReachesSizeCheck mailboxes table blob options surveyed before := by
  have started := Runs.of_run_eq handle state first
  have passed := Runs.of_run_eq handle (start.run handle state).2 second
  have ready := Runs.of_run_eq handle
    ((survey mailboxes table blob options).run.run handle (start.run handle state).2).2 third
  rw [run_bringUp, Program.trace_bind _ _ _ _ first, Program.trace_bind _ _ _ _ second]
  dsimp only
  rw [complete, ExceptT.run_bind, run_stage, Program.bind_eq, Program.bind_assoc,
    Program.trace_bind _ _ _ _ third, ← List.append_assoc, ← List.append_assoc]
  refine ⟨_, _, rfl, ?_⟩
  rw [List.append_assoc]
  exact .mk started passed ready

end BringUp.Dram
