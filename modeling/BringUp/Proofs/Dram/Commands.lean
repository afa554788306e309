import BringUp.Proofs.Dram.Closed
import BringUp.Proofs.Dram.Inventory
import BringUp.Proofs.Dram.Rehearsal
import BringUp.Proofs.Dram.Verification
import BringUp.Proofs.Iossm.Addressing

/-! The commands of a bring-up. Main statement: an instance that gets a command is in use, is asked
for its interfaces first and only once, and gets its other commands for an interface that it has
described. -/
namespace BringUp.Dram

open Iossm (Subsystem Sequence Supervision Addressing Directs Directed Informed interfacesOf)

variable {mailboxes : Nat} {table : List Word} {blob : DeviceTree.Bytes} {options : Options}
  {past trace : Trace} {timeouts : Iossm.Timeouts} {before after : Subsystem}

/-- What a bring-up may ask after the past: the handoff says which instances may get commands. -/
def Directing (table : List Word) (past : Trace) : Op → Prop
  | .request unit command => ∃ word, table[Configuration.tableIndex]? = some word ∧
      Directed (Configuration.ofWord word).instanceCount past unit command
  | _ => True

theorem Directs.directing {word : Word} (found : table[Configuration.tableIndex]? = some word)
    (past : Trace) (op : Op) (h : Directs (Configuration.ofWord word).instanceCount past op) :
    Directing table past op := by
  cases op with
  | request _ _ => exact ⟨word, found, h⟩
  | _ => trivial

theorem Commandless.directing (op : Op) (h : Commandless op) : Directing table past op := by
  cases op with
  | request _ _ => exact h.elim
  | _ => trivial

theorem Logging.commandless (op : Op) (h : Program.Logging op) : Commandless op := by
  cases op with
  | log _ _ => trivial
  | _ => exact h.elim

theorem Configuring.commandless (op : Op) (h : Configuring blob op) : Commandless op := by
  cases op with
  | request _ _ => exact h.elim
  | _ => trivial

theorem decodeHandoff_commandless : (decodeHandoff table).Uses Commandless :=
  decodeHandoff_uses.mono Logging.commandless

theorem announceModes_commandless {configuration : Configuration} :
    (announceModes configuration).Uses Commandless :=
  have uses : (announceModes configuration).Uses (Configuring []) := announceModes_uses
  uses.mono Configuring.commandless

theorem setInterleaving_commandless {configuration : Configuration} :
    (setInterleaving blob configuration).Uses Commandless :=
  setInterleaving_uses.mono Configuring.commandless

theorem resolveLayout_commandless {available bankCount : Nat} :
    (resolveLayout blob available bankCount).Uses Commandless :=
  resolveLayout_uses.mono Logging.commandless

theorem obeys_of_commandless {α : Type} {p : Program α} (h : p.Uses Commandless) :
    p.Obeys (Directing table) past :=
  h.obeys fun _ => Commandless.directing

theorem requests_of_commandless {α : Type} {p : Program α} {result : Option α}
    (run : Runs p trace result) (h : p.Uses Commandless) : trace.requests = [] :=
  Trace.requests_eq_nil (run.uses h) fun _ _ asked => asked

theorem perform_recoverCalibration_addressing :
    ((recoverCalibration mailboxes timeouts).perform before).Uses (Addressing before.targets) := by
  have recalibration (middle : Subsystem) : Program.Uses (Addressing middle.targets)
      (Sequence.perform (do
        if !(← get).calibrated then
          Program.log .info "DDR: re-calibration in progress"
          Iossm.recalibrate mailboxes timeouts) middle) := by
    refine Sequence.perform_bind_uses (Sequence.uses_get middle) fun _ _ _ got => ?_
    obtain ⟨-, same, rfl⟩ := Sequence.performs_get.1 got
    split
    · refine Sequence.perform_bind_uses (Sequence.uses_log trivial _) fun _ _ _ told => ?_
      obtain ⟨-, -, rfl⟩ := Sequence.performs_log.1 told
      exact Iossm.perform_recalibrate_addressing
    · exact Sequence.uses_pure _
  have looked : ResetHistory.ddrError.Uses (Addressing before.targets) :=
    ⟨trivial, fun _ => trivial⟩
  refine Sequence.perform_bind_uses (Sequence.uses_program looked before) fun _ _ middle asked => ?_
  obtain ⟨_, -, -, rfl⟩ := Sequence.performs_program.1 asked
  dsimp only
  split
  · refine Sequence.perform_bind_uses (Sequence.uses_modify middle) fun _ _ _ changed => ?_
    obtain ⟨-, -, rfl⟩ := Sequence.performs_modify.1 changed
    rw [← middle.targets_invalidateCalibration]
    exact recalibration _
  · exact recalibration middle

/-- What comes after the discovery is about the discovered interfaces. -/
theorem calibrateAndMeasure_obeys (fresh : past.requests = []) :
    ((calibrateAndMeasure mailboxes timeouts).perform before).Obeys
      (Directs before.instances.length) past := by
  have checking : ((Iossm.checkCalibration mailboxes timeouts).perform before).Uses
    (Supervision []) := Iossm.checkCalibration_uses before
  refine Sequence.perform_bind_obeys (checking.obeys fun _ => Iossm.Supervision.directs)
    fun early _ checked check => ?_
  have quiet : early.requests = [] :=
    Trace.requests_eq_nil (Runs.uses check checking) fun _ _ asked => absurd asked List.not_mem_nil
  have size := congrArg List.length (Iossm.checkCalibration_keeps_targets _ _ _ _ check)
  simp only [Subsystem.targets, List.length_map] at size
  rw [← size]
  refine Sequence.perform_bind_obeys
    (Iossm.perform_discoverInterfaces_obeys (by simp [fresh, quiet])) fun listing _ discovered
      discovery => ?_
  have informed := Iossm.informed_of_discovered discovery
  have count := (Iossm.discoverInterfaces_ok discovery).2.2
  have addressing : Program.Uses (Addressing discovered.targets) (Sequence.perform (do
      recoverCalibration mailboxes timeouts
      Program.log .info "DDR: calibration success"
      Iossm.readTechnology mailboxes
      Iossm.readSizes mailboxes) discovered) := by
    refine Sequence.perform_bind_uses perform_recoverCalibration_addressing
      fun _ _ recovered recovery => ?_
    rw [← recoverCalibration_keeps_targets _ _ _ _ recovery]
    refine Sequence.perform_bind_uses (Sequence.uses_log trivial _) fun _ _ _ told => ?_
    obtain ⟨-, -, rfl⟩ := Sequence.performs_log.1 told
    refine Sequence.perform_bind_uses Iossm.perform_readTechnology_addressing fun _ _ _ inquiry => ?_
    rw [← Iossm.readTechnology_keeps_targets _ _ _ _ inquiry]
    exact Iossm.perform_readSizes_addressing
  have known : discovered.targets.length = checked.instances.length := by
    simpa [Subsystem.targets] using count
  refine addressing.obeys fun later op asked => ?_
  rw [← known]
  exact Iossm.Addressing.directs informed.frame op asked

theorem stage_obeys {α : Type} {permitted : Trace → Op → Prop} {sequence : Sequence α}
    (h : (sequence.perform before).Obeys permitted past) :
    (stage sequence before).run.Obeys permitted past := by
  rw [run_stage]
  refine Program.obeys_bind h fun _ result _ => ?_
  obtain ⟨_ | _, _⟩ := result <;> trivial

/-- A sequence that addresses recorded interfaces may be carried out once the instances have
described them. -/
theorem stage_obeys_of_addressing {α : Type} {sequence : Sequence α} {word : Word}
    (found : table[Configuration.tableIndex]? = some word)
    (count : before.targets.length = (Configuration.ofWord word).instanceCount)
    (informed : Informed before.targets past)
    (h : (sequence.perform before).Uses (Addressing before.targets)) :
    (stage sequence before).run.Obeys (Directing table) past := by
  refine stage_obeys (h.obeys fun later op asked => Directs.directing found _ op ?_)
  have still : Informed before.targets ([] ++ past ++ later) := informed.frame
  rw [← count]
  exact Iossm.Addressing.directs still op asked

theorem Inventoried.informed {count : Nat} {targets : List (List Iossm.Target)}
    (inventory : Inventoried count targets trace) (size : targets.length = count) :
    Informed targets trace := by
  refine ⟨fun unit inside => ?_, fun item member => inventory.interfaces ▸ member⟩
  rw [inventory.listed, List.mem_range, ← size]
  exact inside

/-- Without an earlier command, a survey obeys the rule. -/
theorem survey_obeys (fresh : past.requests = []) :
    (survey mailboxes table blob options).run.Obeys (Directing table) past := by
  refine Program.obeys_run_bind (obeys_of_commandless decodeHandoff_commandless)
    fun first ⟨configuration, handedOver⟩ decoded => ?_
  obtain ⟨word, found, rfl, rfl⟩ := decodeHandoff_ok decoded
  have announcing : (liftM (announceModes (.ofWord word)) : ExceptT Error Program Unit).run.Uses
      Commandless :=
    Program.uses_run_program announceModes_commandless
  refine Program.obeys_run_bind (obeys_of_commandless announcing) fun second _ announced => ?_
  refine Program.obeys_run_bind (obeys_of_commandless setInterleaving_commandless)
    fun third _ set => ?_
  have quiet : (past ++ first ++ second ++ third).requests = [] := by
    simp [fresh, requests_of_commandless decoded decodeHandoff_commandless,
      requests_of_commandless announced announcing,
      requests_of_commandless set setInterleaving_commandless]
  have size := length_fresh (.ofWord word)
  refine Program.obeys_run_bind (stage_obeys ?_) fun fourth ⟨_, measured⟩ measurement => ?_
  · refine (calibrateAndMeasure_obeys quiet).mono fun later op directed =>
      Directs.directing found later op ?_
    rw [← size]
    exact directed
  have course := measurement_course (stage_ok_iff.1 measurement)
  obtain ⟨inventory, -, -, count⟩ := measurement_inventoried course
  have known : measured.targets.length = (Configuration.ofWord word).instanceCount := by
    rw [← size]
    simpa [Subsystem.targets] using count
  have told {text : String} :
      (liftM (Program.log .info text) : ExceptT Error Program Unit).run.Uses Commandless :=
    Program.uses_run_program (Program.uses_log trivial)
  refine Program.obeys_run_bind (obeys_of_commandless resolveLayout_commandless)
    fun fifth layout _ => ?_
  refine Program.obeys_run_bind (obeys_of_commandless told) fun sixth _ _ => ?_
  have informed : Informed measured.targets
      (past ++ first ++ second ++ third ++ fourth ++ (fifth ++ sixth)) :=
    (inventory.informed (known.trans size.symm)).frame
  rw [List.append_assoc _ fifth]
  exact Program.obeys_run_bind (stage_obeys_of_addressing found known informed
    Iossm.perform_readEcc_addressing) fun _ _ _ => trivial

theorem perform_prepareEcc_addressing {found : Start} :
    ((prepareEcc mailboxes timeouts found).perform before).Uses (Addressing before.targets) := by
  cases ecc : before.ecc with
  | false =>
    rw [perform_prepareEcc_of_not_ecc ecc]
    trivial
  | true =>
    rw [perform_prepareEcc ecc]
    refine ⟨trivial, fun first => ⟨trivial, fun second => ?_⟩⟩
    dsimp only
    split
    · exact Sequence.perform_bind_uses Iossm.perform_initializeMemory_addressing
        fun _ _ _ _ => Sequence.uses_log trivial _
    · exact Sequence.uses_log trivial _

/-- Every run of a bring-up obeys the rule. -/
theorem bringUp_obeys : (bringUp mailboxes table blob options).run.Obeys (Directing table) [] := by
  have starting : (liftM start : ExceptT Error Program Start).run.Uses Commandless :=
    Program.uses_run_program start_commandless
  refine Program.obeys_run_bind (obeys_of_commandless starting) fun opening found started => ?_
  have quiet : ([] ++ opening : Trace).requests = [] := requests_of_commandless started starting
  refine Program.obeys_run_bind (survey_obeys quiet) fun surveying ⟨layout, surveyed⟩ passed => ?_
  obtain ⟨⟨word, handoff, inventory, size⟩, -, -⟩ := survey_inventoried passed
  have known : surveyed.targets.length = (Configuration.ofWord word).instanceCount := by
    simpa [Subsystem.targets] using size
  have informed : Informed surveyed.targets ([] ++ opening ++ surveying ++ []) :=
    (inventory.informed known).frame
  rw [List.append_nil] at informed
  refine Program.obeys_run_bind (stage_obeys_of_addressing handoff known informed
    perform_prepareEcc_addressing) fun _ _ _ => ?_
  have verifying : ((ExceptT.mk (verifySize layout.banks layout.size)).adapt
      Error.sizeCheck).run.Uses Commandless :=
    Program.uses_bind verifySize_commandless fun _ _ => trivial
  refine Program.obeys_run_bind (obeys_of_commandless verifying) fun _ _ _ => ?_
  have finishing : (liftM (finish options layout) : ExceptT Error Program Unit).run.Uses
      Commandless :=
    Program.uses_run_program finish_commandless
  exact Program.obeys_run_bind (obeys_of_commandless finishing) fun _ _ _ => trivial

section Inquiries

variable {code : Iossm.Opcode}

theorem unasked_of_supervision {opcodes : List Iossm.Opcode} {sequence : Sequence Unit}
    {result : Except Iossm.Error Unit} (run : sequence.Performs before trace result after)
    (uses : sequence.Uses (Supervision opcodes)) (other : code ∉ opcodes) :
    trace.asked code = [] :=
  Trace.asked_of_allowed (Runs.uses run (uses before)) fun _ _ own same => other (same ▸ own)

theorem unasked_of_commandless {α : Type} {p : Program α} {result : Option α}
    (run : Runs p trace result) (h : p.Uses Commandless) : trace.asked code = [] :=
  Trace.asked_of_allowed (run.uses h) fun _ _ asked => asked.elim

theorem measurement_asked (course : MeasurementCourse mailboxes timeouts before trace after) :
    trace.asked .technology = interfacesOf after.targets ∧ trace.asked .eccStatus = [] := by
  cases course with
  | @mk checking discovering recovering technology sizing _ checked discovered recovered known _
      check discovery recovery inquiry measurement =>
    have told {code : Iossm.Opcode} {text : String} :
        Trace.asked code [⟨.log .info text, ()⟩] = [] := rfl
    have same : after.targets = recovered.targets :=
      (Iossm.readSizes_keeps_targets _ _ _ _ measurement).trans
        (Iossm.readTechnology_keeps_targets _ _ _ _ inquiry)
    rw [← List.singleton_append]
    simp only [Trace.asked_append, told]
    constructor
    · rw [unasked_of_supervision check Iossm.checkCalibration_uses (by decide),
        unasked_of_supervision discovery Iossm.discoverInterfaces_uses (by decide),
        unasked_of_supervision recovery recoverCalibration_uses (by decide),
        Iossm.readTechnology_asked inquiry,
        unasked_of_supervision measurement Iossm.readSizes_uses (by decide), same]
      simp
    · rw [unasked_of_supervision check Iossm.checkCalibration_uses (by decide),
        unasked_of_supervision discovery Iossm.discoverInterfaces_uses (by decide),
        unasked_of_supervision recovery recoverCalibration_uses (by decide),
        unasked_of_supervision inquiry Iossm.readTechnology_uses (by decide),
        unasked_of_supervision measurement Iossm.readSizes_uses (by decide)]
      simp

/-- A survey that succeeds has asked each recorded interface once for its technology and for its
error correction. -/
theorem survey_asked {layout : Layout} {surveyed : Subsystem}
    (run : Runs (survey mailboxes table blob options).run trace (some (.ok (layout, surveyed)))) :
    trace.asked .technology = interfacesOf surveyed.targets ∧
      trace.asked .eccStatus = interfacesOf surveyed.targets := by
  cases survey_course run with
  | @mk decoding announcing setting measuring resolving asking configuration fresh measured _ _
      decoded announced interleaved measurement resolved asked =>
    obtain ⟨technology, unasked⟩ := measurement_asked measurement
    have same : surveyed.targets = measured.targets := (Iossm.readEcc_ok asked).2.1
    have told {code : Iossm.Opcode} {text : String} :
        Trace.asked code [⟨.log .info text, ()⟩] = [] := rfl
    rw [← List.singleton_append]
    simp only [Trace.asked_append, told, technology, unasked, same, Iossm.readEcc_asked asked,
      unasked_of_commandless decoded decodeHandoff_commandless,
      unasked_of_commandless announced announceModes_commandless,
      unasked_of_commandless interleaved setInterleaving_commandless,
      unasked_of_commandless resolved resolveLayout_commandless]
    rw [unasked_of_supervision asked Iossm.readEcc_uses (by decide)]
    simp

/-- A bring-up that succeeds has asked all instances in use for their interfaces, and each of these
once for its technology, its size and its error correction. -/
theorem bringUp_asked {ram : Ram}
    (run : Runs (bringUp mailboxes table blob options).run trace (some (.ok ram))) :
    ∃ word, table[Configuration.tableIndex]? = some word ∧
      trace.listed = List.range (Configuration.ofWord word).instanceCount ∧
      ∀ code ∈ [Iossm.Opcode.technology, .width, .eccStatus], trace.asked code = trace.interfaces := by
  cases bringUp_course run with
  | @completes opening surveying preparing checking finishing found layout surveyed prepared total
      started passed ready verified finished =>
    obtain ⟨startQuiet, -⟩ := start_quiet started
    obtain ⟨finishQuiet, -⟩ := finish_quiet finished
    have prepareQuiet := supervision_uninformed ready prepareEcc_uses (by decide)
    have checkQuiet : Uninformed checking :=
      uninformed_of_allowed (verified.uses verifySize_uses) fun _ _ h => h.elim
    have after := prepareQuiet.append (checkQuiet.append finishQuiet)
    obtain ⟨⟨word, handoff, surveyInventory, -⟩, -, -⟩ := survey_inventoried passed
    obtain ⟨technology, ecc⟩ := survey_asked passed
    have inventory := surveyInventory.frame startQuiet after
    have outside {code : Iossm.Opcode} (other : code ∉ initOpcodes) : Trace.asked code (opening ++
        (surveying ++ (preparing ++ (checking ++ finishing)))) = surveying.asked code := by
      simp only [Trace.asked_append, unasked_of_commandless started start_commandless,
        unasked_of_supervision ready prepareEcc_uses other,
        unasked_of_commandless verified verifySize_commandless,
        unasked_of_commandless finished finish_commandless, List.nil_append, List.append_nil]
    refine ⟨word, handoff, inventory.listed, fun code member => ?_⟩
    rcases List.mem_cons.1 member with rfl | member
    · rw [outside (by decide), technology, inventory.interfaces]
    rcases List.mem_cons.1 member with rfl | member
    · exact inventory.measured
    obtain rfl := List.mem_singleton.1 member
    rw [outside (by decide), ecc, inventory.interfaces]

end Inquiries

/-- Commands go to discovered interfaces only, and to all of them. Wherever a run is cut, failed and
broken runs included, the next command goes to an instance that the handoff puts to use. It lists
the interfaces exactly if the instance had no command before. It goes to the IOSSM itself if it lists
the interfaces or asks for the calibration status. Any other command has one of six opcodes and
goes to an interface that one of the two descriptors in the instance's own list names. If the
bring-up succeeds, all instances in use were asked for their interfaces, and each described interface
was asked once for its technology, its size and its error correction. -/
theorem commands_directed {result : Option (Except Error Ram)}
    (run : Runs (bringUp mailboxes table blob options).run trace result) :
    (∀ before unit command reply after, trace = before ++ ⟨.request unit command, reply⟩ :: after →
      ∃ word, table[Configuration.tableIndex]? = some word ∧
        Directed (Configuration.ofWord word).instanceCount before unit command) ∧
    ∀ ram, result = some (.ok ram) → ∃ word, table[Configuration.tableIndex]? = some word ∧
      trace.listed = List.range (Configuration.ofWord word).instanceCount ∧
      ∀ code ∈ [Iossm.Opcode.technology, .width, .eccStatus],
        trace.asked code = trace.interfaces := by
  refine ⟨fun before unit command reply after split => ?_, fun ram succeeded => ?_⟩
  · exact run.obeys bringUp_obeys before ⟨.request unit command, reply⟩ after split
  · subst succeeded
    exact bringUp_asked run

/-- On the board the only interface of the only instance is asked. -/
theorem commands_directed_after_hang :
    (Rehearsal.bringUp.run (Rehearsal.serve id) Rehearsal.afterHang).1 =
        some (.ok ⟨0x80000000, 0x40000000, [⟨0x80000000, 0x40000000⟩], .ddr5, true⟩) ∧
      (Rehearsal.bringUp.trace (Rehearsal.serve id) Rehearsal.afterHang).asked .eccStatus =
        [(0, ⟨1, 0⟩)] ∧
      ∀ before unit command reply after,
        Rehearsal.bringUp.trace (Rehearsal.serve id) Rehearsal.afterHang =
          before ++ ⟨.request unit command, reply⟩ :: after → Directed 1 before unit command := by
  have result : (Rehearsal.bringUp.run (Rehearsal.serve id) Rehearsal.afterHang).1 =
      some (.ok ⟨0x80000000, 0x40000000, [⟨0x80000000, 0x40000000⟩], .ddr5, true⟩) := by
    decide +kernel
  have described : (Rehearsal.bringUp.trace (Rehearsal.serve id) Rehearsal.afterHang).interfaces =
      [(0, ⟨1, 0⟩)] := by
    decide +kernel
  have run := Runs.of_run (Rehearsal.serve id) Rehearsal.bringUp Rehearsal.afterHang
  obtain ⟨directed, asked⟩ := commands_directed run
  obtain ⟨-, -, -, all⟩ := asked _ result
  refine ⟨result, (all .eccStatus (by simp)).trans described, fun before unit command reply after
    split => ?_⟩
  obtain ⟨word, found, here⟩ := directed before unit command reply after split
  have single : (0 : Word) = word := Option.some.inj found
  subst single
  exact here

end BringUp.Dram
