import BringUp.Proofs.Dram.Footprint
import BringUp.Proofs.Dram.Layout
import BringUp.Proofs.Dram.Stages
import BringUp.Proofs.Iossm.Inventory

/-! The inventory of a bring-up. Main statement: a survey that succeeds asks every instance in use
for its interfaces and every interface for its size, and the layout fits into what was reported. -/
namespace BringUp.Dram

open Iossm (Subsystem Sequence Supervision Target interfacesOf)

variable {mailboxes : Nat} {table : List Word} {blob : DeviceTree.Bytes} {options : Options}
  {trace first second : Trace} {count : Nat} {targets : List (List Target)}

/-- Commands of the inventory. -/
def inventoryOpcodes : List Iossm.Opcode := [.listInterfaces, .width]

/-- The trace asks `count` instances for their interfaces, which are `targets`, and asks each of
the interfaces for its size. -/
structure Inventoried (count : Nat) (targets : List (List Target)) (trace : Trace) : Prop where
  listed : trace.listed = List.range count
  interfaces : trace.interfaces = interfacesOf targets
  measured : trace.measured = trace.interfaces

/-- The trace has nothing to do with the inventory. -/
structure Uninformed (trace : Trace) : Prop where
  listings : trace.requestsOf [.listInterfaces] = []
  widths : trace.requestsOf [.width] = []

theorem uninformed_of_allowed {allowed : Op → Prop} (h : ∀ event ∈ trace, allowed event.op)
    (other : ∀ unit command, allowed (.request unit command) →
      command.opcode ∉ inventoryOpcodes) : Uninformed trace := by
  refine ⟨Trace.requestsOf_of_allowed h fun unit command asked => ?_,
    Trace.requestsOf_of_allowed h fun unit command asked => ?_⟩
  · have := other unit command asked
    simp_all [inventoryOpcodes]
  · have := other unit command asked
    simp_all [inventoryOpcodes]

@[simp] theorem Uninformed.listed (h : Uninformed trace) : trace.listed = [] := by
  simp [Trace.listed, h.listings]

@[simp] theorem Uninformed.interfaces (h : Uninformed trace) : trace.interfaces = [] := by
  simp [Trace.interfaces, h.listings]

@[simp] theorem Uninformed.measured (h : Uninformed trace) : trace.measured = [] := by
  simp [Trace.measured, h.widths]

@[simp] theorem Uninformed.gigabits (h : Uninformed trace) : trace.gigabits = 0 := by
  simp [Trace.gigabits, h.widths]

theorem Uninformed.append (h : Uninformed first) (h' : Uninformed second) :
    Uninformed (first ++ second) :=
  ⟨by simp [h.listings, h'.listings], by simp [h.widths, h'.widths]⟩

theorem Inventoried.frame (h : Inventoried count targets trace) (before : Uninformed first)
    (after : Uninformed second) : Inventoried count targets (first ++ (trace ++ second)) := by
  refine ⟨?_, ?_, ?_⟩
  · simpa [before, after] using h.listed
  · simpa [before, after] using h.interfaces
  · simpa [before, after] using h.measured

theorem gigabits_frame (before : Uninformed first) (after : Uninformed second) :
    Trace.gigabits (first ++ (trace ++ second)) = trace.gigabits := by
  simp [before, after]

theorem supervision_uninformed {opcodes : List Iossm.Opcode} {sequence : Sequence Unit}
    {before after : Subsystem} {result : Except Iossm.Error Unit}
    (run : sequence.Performs before trace result after) (uses : sequence.Uses (Supervision opcodes))
    (h : ∀ code ∈ opcodes, code ∉ inventoryOpcodes) : Uninformed trace :=
  uninformed_of_allowed (Runs.uses run (uses before)) fun _ _ member => h _ member

theorem logging_uninformed (h : ∀ event ∈ trace, Program.Logging event.op) : Uninformed trace :=
  uninformed_of_allowed h fun _ _ asked => asked.elim

theorem configuring_uninformed (blob : DeviceTree.Bytes)
    (h : ∀ event ∈ trace, Configuring blob event.op) : Uninformed trace :=
  uninformed_of_allowed h fun _ _ asked => asked.elim

theorem recoverCalibration_keeps_targets {timeouts : Iossm.Timeouts} :
    (recoverCalibration mailboxes timeouts).Keeps Subsystem.targets := by
  have recalibration : Sequence.Keeps Subsystem.targets (do
      if !(← get).calibrated then
        Program.log .info "DDR: re-calibration in progress"
        Iossm.recalibrate mailboxes timeouts) := by
    refine Sequence.keeps_bind Sequence.keeps_get fun _ => ?_
    split
    · exact Sequence.keeps_bind Sequence.keeps_program fun _ => Iossm.recalibrate_keeps_targets
    · exact Sequence.keeps_pure
  refine Sequence.keeps_bind Sequence.keeps_program fun _ => ?_
  dsimp only
  split
  · exact Sequence.keeps_bind
      (Sequence.keeps_modify fun subsystem => subsystem.targets_invalidateCalibration)
      fun _ => recalibration
  · exact recalibration

/-- What a measurement finds out. -/
theorem measurement_inventoried {timeouts : Iossm.Timeouts} {before after : Subsystem}
    (course : MeasurementCourse mailboxes timeouts before trace after) :
    Inventoried before.instances.length after.targets trace ∧
      after.gigabits = min trace.gigabits 0xFFFF ∧ after.gigabits ≠ 0 ∧
      after.instances.length = before.instances.length := by
  cases course with
  | @mk checking discovering recovering technology sizing _ checked discovered recovered known _
      check discovery recovery inquiry measurement =>
    have told (text : String) : Uninformed [⟨.log .info text, ()⟩] := ⟨rfl, rfl⟩
    have checkQuiet := supervision_uninformed check Iossm.checkCalibration_uses (by decide)
    have recoveryQuiet := supervision_uninformed recovery recoverCalibration_uses (by decide)
    have inquiryQuiet := supervision_uninformed inquiry Iossm.readTechnology_uses (by decide)
    have checkedSize := congrArg List.length
      (Iossm.checkCalibration_keeps_targets _ _ _ _ check)
    simp only [Subsystem.targets, List.length_map] at checkedSize
    have same : after.targets = discovered.targets :=
      (Iossm.readSizes_keeps_targets _ _ _ _ measurement).trans
        ((Iossm.readTechnology_keeps_targets _ _ _ _ inquiry).trans
          (recoverCalibration_keeps_targets _ _ _ _ recovery))
    have size := congrArg List.length same
    simp only [Subsystem.targets, List.length_map] at size
    obtain ⟨listed, interfaces, discoveredSize⟩ := Iossm.discoverInterfaces_ok discovery
    obtain ⟨gigabits, nonzero, measured⟩ := Iossm.readSizes_ok measurement
    have sizingOnly : sizing.requestsOf [.listInterfaces] = [] :=
      Trace.requestsOf_of_allowed (Runs.uses measurement (Iossm.readSizes_uses known))
        fun _ _ asked => by simp_all [Supervision]
    have discoveryOnly : discovering.requestsOf [.width] = [] :=
      Trace.requestsOf_of_allowed (Runs.uses discovery (Iossm.discoverInterfaces_uses checked))
        fun _ _ asked => by simp_all [Supervision]
    have unlisted : sizing.listed = [] := by simp [Trace.listed, sizingOnly]
    have undescribed : sizing.interfaces = [] := by simp [Trace.interfaces, sizingOnly]
    have unmeasured : discovering.measured = [] := by simp [Trace.measured, discoveryOnly]
    have unsized : discovering.gigabits = 0 := by simp [Trace.gigabits, discoveryOnly]
    have knownSame : known.targets = discovered.targets :=
      (Iossm.readTechnology_keeps_targets _ _ _ _ inquiry).trans
          (recoverCalibration_keeps_targets _ _ _ _ recovery)
    rw [← List.singleton_append]
    refine ⟨⟨?_, ?_, ?_⟩, ?_, nonzero, by omega⟩
    · simp only [Trace.listed_append, checkQuiet.listed, recoveryQuiet.listed, (told _).listed,
        inquiryQuiet.listed, unlisted, listed, checkedSize, List.nil_append, List.append_nil]
    · simp only [Trace.interfaces_append, checkQuiet.interfaces, recoveryQuiet.interfaces,
        (told _).interfaces, inquiryQuiet.interfaces, undescribed, interfaces, same,
        List.nil_append, List.append_nil]
    · simp only [Trace.interfaces_append, Trace.measured_append, checkQuiet.interfaces,
        checkQuiet.measured, recoveryQuiet.interfaces, recoveryQuiet.measured, (told _).interfaces,
        (told _).measured, inquiryQuiet.interfaces, inquiryQuiet.measured, undescribed, unmeasured,
        interfaces, measured, knownSame, List.nil_append, List.append_nil]
    · simp only [Trace.gigabits_append, checkQuiet.gigabits, recoveryQuiet.gigabits,
        (told _).gigabits, inquiryQuiet.gigabits, unsized, gigabits, Nat.zero_add]

theorem length_fresh (configuration : Configuration) :
    (Subsystem.fresh configuration.instanceCount configuration.portCount
      configuration.plls).instances.length = configuration.instanceCount := by
  simp only [Subsystem.fresh, List.length_replicate, Configuration.instanceCount,
    Io96b.maxInstances]
  split <;> rfl

/-- A decoded handoff comes from a word of the table, and nothing is recorded yet. -/
theorem decodeHandoff_ok {configuration : Configuration} {fresh : Subsystem}
    (run : Runs (decodeHandoff table) trace (some (.ok (configuration, fresh)))) :
    ∃ word, table[Configuration.tableIndex]? = some word ∧
      configuration = Configuration.ofWord word ∧
      fresh = Subsystem.fresh configuration.instanceCount configuration.portCount
        configuration.plls := by
  obtain ⟨_, _, _ | decoded, rfl, decoding, run₁⟩ := Runs.bind_some_iff.1 run
  · cases (Runs.done_iff.1 run₁).2
  · obtain ⟨_, _, _, rfl, -, run₂⟩ := Runs.bind_some_iff.1 run₁
    obtain ⟨-, same⟩ := Runs.done_iff.1 run₂
    cases same
    unfold Configuration.ofTable at decoding
    split at decoding
    · cases (Runs.done_iff.1 decoding).2
    · next word found =>
      obtain ⟨_, _, _, rfl, -, run₃⟩ := Runs.bind_some_iff.1 decoding
      obtain ⟨_, _, _, rfl, -, run₄⟩ := Runs.bind_some_iff.1 run₃
      obtain ⟨_, _, _, rfl, -, run₅⟩ := Runs.bind_some_iff.1 run₄
      obtain ⟨-, same⟩ := Runs.done_iff.1 run₅
      cases same
      exact ⟨word, found, rfl, rfl⟩

theorem start_quiet {found : Start} (run : Runs start trace (some found)) :
    Uninformed trace ∧ trace.probes = [] := by
  obtain ⟨record, sample, current, rfl, -⟩ := runs_start run
  exact ⟨⟨rfl, rfl⟩, rfl⟩

/-- What a survey finds out: all instances that the handoff puts to use and all of their interfaces
are asked, and the layout fits into the reported size, which is not zero. -/
theorem survey_inventoried {layout : Layout} {surveyed : Subsystem}
    (run : Runs (survey mailboxes table blob options).run trace (some (.ok (layout, surveyed)))) :
    (∃ word, table[Configuration.tableIndex]? = some word ∧
      Inventoried (Configuration.ofWord word).instanceCount surveyed.targets trace ∧
      surveyed.instances.length = (Configuration.ofWord word).instanceCount) ∧
    layout.Fits (hardwareBytes (min trace.gigabits 0xFFFF)) ∧ trace.gigabits ≠ 0 := by
  cases survey_course run with
  | @mk decoding announcing setting measuring resolving asking configuration fresh measured _ _
      decoded announced interleaved measurement resolved asked =>
    obtain ⟨word, found, rfl, rfl⟩ := decodeHandoff_ok decoded
    have size := length_fresh (Configuration.ofWord word)
    obtain ⟨inventory, gigabits, nonzero, measuredSize⟩ := measurement_inventoried measurement
    have fits := resolveLayout_ok resolved
    obtain ⟨enough, same, reason⟩ := Iossm.readEcc_ok asked
    have surveyedSize := congrArg List.length same
    simp only [Subsystem.targets, List.length_map] at surveyedSize
    have quietDecoding := logging_uninformed (decoded.uses decodeHandoff_uses)
    have quietAnnouncing := configuring_uninformed blob (announced.uses announceModes_uses)
    have quietSetting := configuring_uninformed blob (interleaved.uses setInterleaving_uses)
    have quietResolving := logging_uninformed (resolved.uses resolveLayout_uses)
    have quietAsking := supervision_uninformed asked Iossm.readEcc_uses (by decide)
    have told (text : String) : Uninformed [⟨.log .info text, ()⟩] := ⟨rfl, rfl⟩
    have before := (quietDecoding.append quietAnnouncing).append quietSetting
    have after (text : String) := quietResolving.append ((told text).append quietAsking)
    have parts (text : String) : decoding ++ (announcing ++ (setting ++ (measuring ++ (resolving ++
        (⟨.log .info text, ()⟩ :: asking))))) = decoding ++ announcing ++ setting ++
          (measuring ++ (resolving ++ ([⟨.log .info text, ()⟩] ++ asking))) := by
      simp
    rw [parts]
    rw [gigabits_frame before (after _)]
    rw [gigabits] at fits
    refine ⟨⟨word, found, ?_, ?_⟩, fits, by omega⟩
    · rw [same, ← size]
      exact inventory.frame before (after _)
    · exact surveyedSize.trans (measuredSize.trans size)

/-- A survey that succeeds knows of memory, in no more banks than can be tracked, and either from
the device tree or from the hardware. -/
theorem survey_layout {layout : Layout} {surveyed : Subsystem}
    (run : Runs (survey mailboxes table blob options).run trace (some (.ok (layout, surveyed)))) :
    0 < layout.size ∧ layout.banks.length ≤ maxBanks ∧
      ∃ available memory, (DeviceTree.Memory.ofBlob blob options.bankCount).Yields (.ok memory) ∧
        layout.Origin available options.bankCount memory := by
  obtain ⟨-, fits, nonzero⟩ := survey_inventoried run
  have positive : 0 < layout.size := by
    apply fits.positive
    simp only [hardwareBytes, gibibyte]
    omega
  cases survey_course run with
  | mk _ _ _ _ resolved _ =>
    exact ⟨positive, resolveLayout_length resolved, _, resolveLayout_origin resolved⟩

end BringUp.Dram
