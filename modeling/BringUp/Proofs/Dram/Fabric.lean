import BringUp.Proofs.Dram.Settings

/-! The fabric during a bring-up. Main statements: the announcement of the modes stores what the
handoff says, in a fixed order, and what comes after the interleaving writes the progress bit and
the firewalls only. -/
namespace BringUp.Dram

open Iossm (Subsystem Supervision)
open Program (Logging returns_bind uses_bind uses_log uses_run_bind uses_run_program)
open SystemManager (mpfeConfig)

variable {mailboxes : Nat} {table : List Word} {blob : DeviceTree.Bytes} {options : Options}
  {configuration : Configuration} {trace first second : Trace} {flags lite : Word}

/-- The handoff table is decoded into the configuration. -/
def Decodes (table : List Word) (configuration : Configuration) : Prop :=
  (Configuration.ofTable table).Yields (.ok configuration)

theorem Decodes.unique {other : Configuration} (h : Decodes table configuration)
    (h' : Decodes table other) : configuration = other :=
  Except.ok.inj (Program.Yields.unique ofTable_uses h h')

theorem ofTable_returns : (Configuration.ofTable table).Returns := by
  unfold Configuration.ofTable
  split
  · trivial
  · exact fun _ _ _ => trivial

/-- The table is decoded, or it is not and the decoding fails. -/
theorem runs_decodeHandoff {result : Option (Except Error (Configuration × Subsystem))}
    (run : Runs (decodeHandoff table) trace result) :
    (∃ configuration fresh, Decodes table configuration ∧
      result = some (.ok (configuration, fresh))) ∨
    (∀ configuration, ¬ Decodes table configuration) ∧ ∃ cause, result = some (.error cause) := by
  obtain ⟨_, _, cause | configuration, rfl, decoding, run₁⟩ := run.bind_returned ofTable_returns
  · refine .inr ⟨fun configuration decoded => ?_, _, (Runs.done_iff.1 run₁).2⟩
    cases Program.Yields.unique ofTable_uses decoded ⟨_, decoding⟩
  · have told : ((List.range (Subsystem.fresh configuration.instanceCount configuration.portCount
        configuration.plls).instances.length).forM fun unit =>
          Program.log .debug ("DDR: " ++ Iossm.unitName unit ++ " CSR enabled at "
            ++ Text.hex (Io96b.base unit))).Returns :=
      Program.returns_forM fun _ _ => trivial
    obtain ⟨_, _, _, rfl, -, run₂⟩ := run₁.bind_returned told
    exact .inl ⟨configuration, _, ⟨_, decoding⟩, (Runs.done_iff.1 run₂).2⟩

section Modes

/-- The stores of a trace that announce modes to the fabric. -/
def modeWrites (trace : Trace) : List (Nat × Word) :=
  trace.stores.filter fun store => store.1 == Sideband.flagSet || store.1 == mpfeConfig

@[simp] theorem modeWrites_append :
    modeWrites (first ++ second) = modeWrites first ++ modeWrites second := by
  rw [modeWrites, Trace.stores_append, List.filter_append]
  rfl

theorem modeWrites_eq_nil {allowed : Op → Prop} (h : ∀ event ∈ trace, allowed event.op)
    (other : ∀ address ∈ [Sideband.flagSet, mpfeConfig], ∀ value,
      ¬ allowed (.store address value)) : modeWrites trace = [] := by
  rw [modeWrites, List.filter_eq_nil_iff]
  rintro ⟨address, value⟩ member mode
  have stored := h _ (Trace.mem_stores.1 member)
  exact other address (by simpa using mode) value stored

theorem content_of_modeWrites {address : Nat} {initial : Word}
    (mode : address = Sideband.flagSet ∨ address = mpfeConfig) :
    trace.content address initial = Trace.written address initial (modeWrites trace) := by
  rw [Trace.content_eq_written, modeWrites, Trace.written_filter]
  intro value
  rcases mode with rfl | rfl <;> rfl

/-- The stores that announce the modes of a configuration, if the registers of the flags and of the
MPFE hold these words before. -/
def modeStores (configuration : Configuration) (flags lite : Word) : List (Nat × Word) :=
  let port := if configuration.dualPort then flags ||| 0x10 else flags
  (if configuration.dualPort then [(Sideband.flagSet, port)] else []) ++
    if configuration.dualEmif then
      [(mpfeConfig, lite ||| 0x4), (mpfeConfig, lite ||| 0x4 ||| 0x100),
        (Sideband.flagSet, port ||| 0x20)]
    else []

theorem mem_modeWrites {address : Nat} {value : Word}
    (mode : address = Sideband.flagSet ∨ address = mpfeConfig) :
    (address, value) ∈ modeWrites trace ↔ (address, value) ∈ trace.stores := by
  rw [modeWrites, List.mem_filter]
  rcases mode with rfl | rfl <;> simp

theorem modeStores_modes : ∀ store ∈ modeStores configuration flags lite,
    store.1 = Sideband.flagSet ∨ store.1 = mpfeConfig := by
  unfold modeStores
  cases configuration.dualPort <;> cases configuration.dualEmif <;> simp

theorem lite_mem_modeStores : (∃ value, (mpfeConfig, value) ∈ modeStores configuration flags lite) ↔
    configuration.dualEmif = true := by
  have other : mpfeConfig ≠ Sideband.flagSet := by decide
  unfold modeStores
  cases configuration.dualPort <;> cases configuration.dualEmif <;> simp [other]

theorem flag_mem_modeStores :
    (∃ value, (Sideband.flagSet, value) ∈ modeStores configuration flags lite) ↔
      configuration.dualPort = true ∨ configuration.dualEmif = true := by
  have other : Sideband.flagSet ≠ mpfeConfig := by decide
  unfold modeStores
  cases configuration.dualPort <;> cases configuration.dualEmif <;> simp [other]

theorem written_lite : Trace.written mpfeConfig lite (modeStores configuration flags lite) =
    if configuration.dualEmif then lite ||| 0x104 else lite := by
  unfold modeStores
  cases configuration.dualPort <;> cases configuration.dualEmif
  · rfl
  · exact BitVec.or_assoc lite 0x4 0x100
  · rfl
  · exact BitVec.or_assoc lite 0x4 0x100

theorem written_flags : Trace.written Sideband.flagSet flags (modeStores configuration flags lite) =
    flags ||| (if configuration.dualPort then 0x10 else 0) |||
      (if configuration.dualEmif then 0x20 else 0) := by
  unfold modeStores
  cases configuration.dualPort <;> cases configuration.dualEmif
  · simp
  · change flags ||| 0x20 = flags ||| 0#32 ||| 0x20
    rw [BitVec.or_zero]
  · change flags ||| 0x10 = flags ||| 0x10 ||| 0#32
    rw [BitVec.or_zero]
  · rfl

theorem runs_selectLite (run : Runs selectLite trace (some ()))
    (tracks : trace.Tracks mpfeConfig lite) :
    trace.stores = [(mpfeConfig, lite ||| 0x4), (mpfeConfig, lite ||| 0x4 ||| 0x100)] := by
  obtain ⟨selecting, _, _, rfl, selected, run₁⟩ := Runs.bind_some_iff.1 run
  have select := selected.update_tracked tracks.left
  have left := tracks.right
  rw [Trace.content_eq_written, select] at left
  obtain ⟨activating, _, _, rfl, activated, run₂⟩ := Runs.bind_some_iff.1 run₁
  have activate := activated.update_tracked left.left
  obtain ⟨_, _, rfl, told⟩ := Runs.ask_iff.1 run₂
  obtain ⟨rfl, -⟩ := Runs.log_iff.1 told
  rw [Trace.stores_append, Trace.stores_append, select, activate]
  rfl

/-- The announcement is one of the dual port mode and one of the dual EMIF mode, followed by a log
record of the flags. -/
theorem announceModes_eq : announceModes configuration =
    (if configuration.dualPort then Program.update Sideband.flagSet (Sideband.dualPort.put true)
      else .done ()).bind fun _ =>
    (if configuration.dualEmif then selectLite.bind fun _ =>
      Program.update Sideband.flagSet (Sideband.dualEmif.put true) else .done ()).bind fun _ =>
    (Program.load Sideband.flagStatus).bind fun word =>
      Program.log .debug ("DDR: sideband flagoutstatus0: " ++ Text.hex word.toNat) := by
  unfold announceModes
  cases configuration.dualPort <;> cases configuration.dualEmif <;> rfl

theorem announceModes_returns : (announceModes configuration).Returns := by
  have lite : selectLite.Returns := fun _ _ _ _ _ _ => trivial
  rw [announceModes_eq]
  refine returns_bind ?_ fun _ => returns_bind ?_ fun _ => fun _ _ => trivial
  · split
    · exact fun _ _ => trivial
    · trivial
  · split
    · exact returns_bind lite fun _ => fun _ _ => trivial
    · trivial

theorem runs_announcePort {dual : Bool} (run : Runs (if dual then
      Program.update Sideband.flagSet (Sideband.dualPort.put true) else .done ()) trace (some ()))
    (flag : trace.Tracks Sideband.flagSet flags) :
    trace.stores = if dual then [(Sideband.flagSet, flags ||| 0x10)] else [] := by
  cases dual with
  | true => exact run.update_tracked flag
  | false =>
    obtain ⟨rfl, -⟩ := Runs.done_iff.1 run
    rfl

/-- The flag of the dual EMIF mode is set after the lite interface is active. -/
theorem runs_announceEmif {dual : Bool} (run : Runs (if dual then selectLite.bind fun _ =>
      Program.update Sideband.flagSet (Sideband.dualEmif.put true) else .done ()) trace (some ()))
    (flag : trace.Tracks Sideband.flagSet flags) (mpfe : trace.Tracks mpfeConfig lite) :
    trace.stores = if dual then [(mpfeConfig, lite ||| 0x4), (mpfeConfig, lite ||| 0x4 ||| 0x100),
      (Sideband.flagSet, flags ||| 0x20)] else [] := by
  cases dual with
  | true =>
    obtain ⟨selecting, _, _, rfl, selected, flagged⟩ := Runs.bind_some_iff.1 run
    have select := runs_selectLite selected mpfe.left
    have left := flag.right
    rw [Trace.content_eq_written, select] at left
    rw [Trace.stores_append, select, flagged.update_tracked left]
    rfl
  | false =>
    obtain ⟨rfl, -⟩ := Runs.done_iff.1 run
    rfl

/-- The announcement stores the modes of the configuration. -/
theorem runs_announceModes (run : Runs (announceModes configuration) trace (some ()))
    (flag : trace.Tracks Sideband.flagSet flags) (mpfe : trace.Tracks mpfeConfig lite) :
    trace.stores = modeStores configuration flags lite := by
  rw [announceModes_eq] at run
  obtain ⟨port, _, _, rfl, first, run₁⟩ := Runs.bind_some_iff.1 run
  obtain ⟨emif, _, _, rfl, second, run₂⟩ := Runs.bind_some_iff.1 run₁
  obtain ⟨_, _, rfl, told⟩ := Runs.ask_iff.1 run₂
  obtain ⟨rfl, -⟩ := Runs.log_iff.1 told
  have portStores := runs_announcePort first flag.left
  have emifStores := runs_announceEmif second flag.right.left mpfe.right.left
  have kept : port.content mpfeConfig lite = lite := by
    rw [Trace.content_eq_written, portStores]
    split <;> rfl
  have quiet (word : Word) (text : String) : Trace.stores
      [⟨.load Sideband.flagStatus, word⟩, ⟨.log .debug text, ()⟩] = [] := rfl
  rw [Trace.stores_append, Trace.stores_append, quiet, List.append_nil, emifStores, kept,
    Trace.content_eq_written, portStores, modeStores]
  cases configuration.dualPort <;> rfl

end Modes

section Course

/-- The part of a survey after the configuration of the fabric. -/
def examine (mailboxes : Nat) (blob : DeviceTree.Bytes) (options : Options)
    (subsystem : Subsystem) : ExceptT Error Program (Layout × Subsystem) := do
  let (_, subsystem) ← stage (calibrateAndMeasure mailboxes options.timeouts)
    { subsystem with awaitClock := true }
  let layout ← ExceptT.mk
    (resolveLayout blob (hardwareBytes subsystem.gigabits) options.bankCount)
  Program.log .info (subsystem.technology.name ++ ": " ++ mebibytes layout.size)
  let (_, subsystem) ← stage (Iossm.readEcc mailboxes) subsystem
  return (layout, subsystem)

/-- What a bring-up does after the configuration of the fabric. It begins with the calibration
check. -/
def advance (mailboxes : Nat) (blob : DeviceTree.Bytes) (options : Options) (found : Start)
    (subsystem : Subsystem) : ExceptT Error Program Ram := do
  let (layout, surveyed) ← examine mailboxes blob options subsystem
  complete mailboxes options found layout surveyed

theorem survey_eq : survey mailboxes table blob options = (do
    let (configuration, subsystem) ← ExceptT.mk (decodeHandoff table)
    announceModes configuration
    ExceptT.mk (setInterleaving blob configuration)
    examine mailboxes blob options subsystem) := rfl

/-- Questions after the configuration of the fabric. -/
def Advancing : Op → Prop
  | .store address _ => address = SystemManager.progress ∨ IsFirewall address ∨ IsMpfeFirewall address
  | _ => True

theorem Supervision.advancing {opcodes : List Iossm.Opcode} (op : Op)
    (allowed : Supervision opcodes op) : Advancing op := by
  cases op with
  | store _ _ => exact allowed.elim
  | _ => trivial

theorem Logging.advancing (op : Op) (allowed : Logging op) : Advancing op := by
  cases op with
  | store _ _ => exact allowed.elim
  | _ => trivial

theorem Probing.advancing (op : Op) (allowed : Probing op) : Advancing op := by
  cases op with
  | store _ _ => exact allowed.elim
  | _ => trivial

theorem Opening.advancing (op : Op) (allowed : Opening op) : Advancing op := by
  cases op with
  | store _ _ => exact .inr allowed
  | _ => trivial

theorem examine_uses {subsystem : Subsystem} :
    (examine mailboxes blob options subsystem).run.Uses Advancing := by
  refine uses_run_bind (stage_uses fun before => (calibrateAndMeasure_uses before).mono
    Supervision.advancing) fun ⟨_, measured⟩ _ => ?_
  refine uses_run_bind (resolveLayout_uses.mono Logging.advancing) fun layout _ => ?_
  refine uses_run_bind (uses_run_program (uses_log trivial)) fun _ _ => ?_
  exact uses_run_bind (stage_uses fun before => (Iossm.readEcc_uses before).mono
    Supervision.advancing) fun _ _ => trivial

theorem finish_advances {layout : Layout} : (finish options layout).Uses Advancing := by
  refine uses_bind (openBanks_uses.mono Opening.advancing) fun _ _ => ?_
  refine uses_bind (openRegisters_uses.mono Opening.advancing) fun _ _ => ?_
  refine uses_bind (uses_log trivial) fun _ _ => ?_
  exact uses_bind (Program.uses_update trivial fun _ => .inl rfl) fun _ _ => uses_log trivial

theorem advance_uses {found : Start} {subsystem : Subsystem} :
    (advance mailboxes blob options found subsystem).run.Uses Advancing := by
  refine uses_run_bind examine_uses fun ⟨layout, surveyed⟩ _ => ?_
  refine uses_run_bind (stage_uses fun before => (prepareEcc_uses before).mono
    Supervision.advancing) fun _ _ => ?_
  refine uses_run_bind ?_ fun _ _ => ?_
  · exact uses_bind (verifySize_uses.mono Probing.advancing) fun _ _ => trivial
  · exact uses_run_bind (uses_run_program finish_advances) fun _ _ => trivial

theorem not_advancing_mode : ∀ address ∈ [Sideband.flagSet, mpfeConfig], ∀ value,
    ¬ Advancing (.store address value) := by
  intro address mode value
  have listed := List.mem_cons_of_mem SystemManager.progress mode
  rintro (rfl | firewall | firewall)
  · revert mode
    decide
  · exact not_isFirewall address listed firewall
  · exact not_isMpfeFirewall address listed firewall

/-- The part of a run up to the interleaving. -/
inductive Announced (table : List Word) :
    Start → Configuration → Subsystem → Trace → Prop
  | mk {opening decoding announcing : Trace} {found : Start} {configuration : Configuration}
      {fresh : Subsystem} (started : Runs start opening (some found))
      (decoded : Runs (decodeHandoff table) decoding (some (.ok (configuration, fresh))))
      (announced : Runs (announceModes configuration) announcing (some ())) :
      Announced table found configuration fresh (opening ++ (decoding ++ announcing))

/-- The part of a run up to the calibration check. -/
inductive ReachesCalibration (table : List Word) (blob : DeviceTree.Bytes) :
    Start → Subsystem → Trace → Prop
  | mk {before setting : Trace} {found : Start} {configuration : Configuration} {fresh : Subsystem}
      (announced : Announced table found configuration fresh before)
      (interleaved : Runs (setInterleaving blob configuration) setting (some (.ok ()))) :
      ReachesCalibration table blob found fresh (before ++ setting)

/-- How far a bring-up comes with the configuration of the fabric. -/
inductive FabricCourse (mailboxes : Nat) (table : List Word) (blob : DeviceTree.Bytes)
    (options : Options) (result : Option (Except Error Ram)) : Trace → Prop
  | undecoded {opening decoding : Trace} {found : Start} {cause : Error}
      (started : Runs start opening (some found))
      (failed : Runs (decodeHandoff table) decoding (some (.error cause))) :
      FabricCourse mailboxes table blob options result (opening ++ decoding)
  | unset {before setting : Trace} {found : Start} {configuration : Configuration}
      {fresh : Subsystem} {outcome : Option (Except Error Unit)}
      (announced : Announced table found configuration fresh before)
      (failed : Runs (setInterleaving blob configuration) setting outcome)
      (unset : outcome ≠ some (.ok ())) :
      FabricCourse mailboxes table blob options result (before ++ setting)
  | set {before rest : Trace} {found : Start} {fresh : Subsystem}
      (reached : ReachesCalibration table blob found fresh before)
      (left : Runs (advance mailboxes blob options found fresh).run rest result) :
      FabricCourse mailboxes table blob options result (before ++ rest)

/-- A bring-up starts, decodes the handoff, announces the modes, sets the interleaving and
advances. -/
theorem bringUp_eq : bringUp mailboxes table blob options = (do
    let found ← start
    let (configuration, subsystem) ← ExceptT.mk (decodeHandoff table)
    announceModes configuration
    ExceptT.mk (setInterleaving blob configuration)
    advance mailboxes blob options found subsystem) := by
  simp only [bringUp, survey_eq, advance, bind_assoc]

theorem fabric_course {result : Option (Except Error Ram)}
    (run : Runs (bringUp mailboxes table blob options).run trace result) :
    FabricCourse mailboxes table blob options result trace := by
  rw [bringUp_eq] at run
  obtain ⟨opening, _, found, rfl, started, run₁⟩ := run.run_program_returned start_returns
  obtain ⟨decoding, _, ⟨configuration, fresh⟩, rfl, decoded, run₂⟩ | ⟨cause, -, failed⟩ |
    ⟨-, broken⟩ := Runs.run_bind_iff.1 run₁
  · obtain ⟨announcing, _, _, rfl, announced, run₃⟩ :=
      run₂.run_program_returned announceModes_returns
    have announced : Announced table found configuration fresh
        (opening ++ (decoding ++ announcing)) := .mk started decoded announced
    obtain ⟨setting, rest, _, rfl, interleaved, left⟩ | ⟨cause, -, failed⟩ | ⟨-, broken⟩ :=
      Runs.run_bind_iff.1 run₃
    · simpa using FabricCourse.set (.mk announced interleaved) left
    · simpa using FabricCourse.unset announced failed (by simp)
    · simpa using FabricCourse.unset announced broken (by simp)
  · exact .undecoded started failed
  · obtain ⟨_, _, -, same⟩ | ⟨-, _, same⟩ := runs_decodeHandoff broken <;> cases same

/-- A run that gets to the calibration check advances from there. -/
theorem ReachesCalibration.rest {before rest : Trace} {found : Start} {fresh : Subsystem}
    {result : Option (Except Error Ram)} (reached : ReachesCalibration table blob found fresh before)
    (run : Runs (bringUp mailboxes table blob options).run (before ++ rest) result) :
    Runs (advance mailboxes blob options found fresh).run rest result := by
  have plain {α : Type} {p : Program α} {trace : Trace} {value : α} (run : Runs p trace (some value)) :
      Runs (liftM p : ExceptT Error Program α).run trace (some (.ok value)) :=
    Runs.run_program_iff.2 ⟨some value, run, rfl⟩
  obtain ⟨⟨started, decoded, announced⟩, interleaved⟩ := reached
  simp only [bringUp_eq, List.append_assoc] at run
  exact (((run.run_rest (plain started)).run_rest decoded).run_rest (plain announced)).run_rest
    interleaved

end Course

end BringUp.Dram
