import BringUp.Dram.Init
import BringUp.Proofs.DeviceTree.Footprint
import BringUp.Proofs.Iossm.Footprint
import BringUp.Proofs.Program.Content
import BringUp.Proofs.Program.Runs

/-! What the stages of a bring-up ask for. Up to the size check it writes the progress bit, the
modes of the fabric and the registers that the device tree names, and at its end the firewalls. -/
namespace BringUp.Dram

open Iossm (Sequence Supervision)
open Program (uses_bind uses_log uses_update uses_forM uses_run_bind uses_run_program)

/-- A setting of the cache coherency unit in the device tree is about the register at the
address. -/
def NamedBySettings (blob : DeviceTree.Bytes) (address : Nat) : Prop :=
  ∃ node ∈ [interleavingOn, interleavingOff], ∃ settings,
    (DeviceTree.Settings.ofBlob blob node).Yields (.ok settings) ∧
      ∃ setting ∈ settings, setting.address = address

/-- Commands that initialize memory. -/
def initOpcodes : List Iossm.Opcode := [.startMemoryInit, .memoryInitStatus]

/-- Questions of the configuration of the fabric. -/
def Configuring (blob : DeviceTree.Bytes) : Op → Prop
  | .load _ => True
  | .store address _ =>
    address = Sideband.flagSet ∨ address = SystemManager.mpfeConfig ∨ NamedBySettings blob address
  | .log _ _ => True
  | _ => False

/-- Questions of the settings. -/
def Adjusting (blob : DeviceTree.Bytes) : Op → Prop
  | .load _ => True
  | .store address _ => NamedBySettings blob address
  | .log _ _ => True
  | _ => False

/-- Questions of a survey. -/
def Surveying (blob : DeviceTree.Bytes) : Op → Prop
  | .load _ => True
  | .store address _ =>
    address = Sideband.flagSet ∨ address = SystemManager.mpfeConfig ∨ NamedBySettings blob address
  | .status _ => True
  | .pause => True
  | .log _ _ => True
  | .request _ command => command.opcode ∉ initOpcodes
  | _ => False

/-- Questions of the size check. -/
def Probing : Op → Prop
  | .probe _ _ => True
  | .log _ _ => True
  | _ => False

/-- Questions of the size check, each of them about a whole chunk. -/
def ProbingChunks : Op → Prop
  | .probe _ size => Coverage.isPowerOfTwo size = true ∧ size ≤ Coverage.chunkBytes
  | .log _ _ => True
  | _ => False

theorem ProbingChunks.probing (op : Op) (allowed : ProbingChunks op) : Probing op := by
  cases op with
  | probe _ _ => trivial
  | log _ _ => trivial
  | _ => exact allowed

/-- Registers of the DDR firewalls. -/
def IsFirewall (address : Nat) : Prop :=
  ∃ dmi : Firewall.Dmi, dmi.base ≤ address ∧ address < dmi.base + 0xD0

theorem not_isFirewall : ∀ address ∈ [SystemManager.progress, Sideband.flagSet,
    SystemManager.mpfeConfig], ¬ IsFirewall address := by
  rintro address member ⟨dmi, h⟩
  revert h
  revert address
  cases dmi <;> decide

/-- Registers of the MPFE firewall. -/
def IsMpfeFirewall (address : Nat) : Prop :=
  Firewall.mpfeBase ≤ address ∧ address < Firewall.mpfeBase + 0xC

theorem not_isMpfeFirewall : ∀ address ∈ [SystemManager.progress, Sideband.flagSet,
    SystemManager.mpfeConfig], ¬ IsMpfeFirewall address := by
  unfold IsMpfeFirewall
  decide

/-- Questions that open the firewalls. -/
def Opening : Op → Prop
  | .store address _ => IsFirewall address ∨ IsMpfeFirewall address
  | .log _ _ => True
  | _ => False

/-- Questions that neither probe the memory nor open it. Only the device tree can name a register
of a firewall. -/
def LeavesClosed (blob : DeviceTree.Bytes) : Op → Prop
  | .store address _ => IsFirewall address ∨ IsMpfeFirewall address → NamedBySettings blob address
  | .probe _ _ => False
  | _ => True

theorem leavesClosed_store {blob : DeviceTree.Bytes} {address : Nat} {value : Word}
    (h : address ∈ [SystemManager.progress, Sideband.flagSet, SystemManager.mpfeConfig]) :
    LeavesClosed blob (.store address value) := by
  rintro (firewall | firewall)
  · exact absurd firewall (not_isFirewall address h)
  · exact absurd firewall (not_isMpfeFirewall address h)

theorem Supervision.leavesClosed {blob : DeviceTree.Bytes} {opcodes : List Iossm.Opcode} (op : Op)
    (allowed : Supervision opcodes op) : LeavesClosed blob op := by
  cases op with
  | store _ _ => exact allowed.elim
  | probe _ _ => exact allowed
  | _ => trivial

theorem Surveying.leavesClosed {blob : DeviceTree.Bytes} (op : Op)
    (allowed : Surveying blob op) : LeavesClosed blob op := by
  cases op with
  | store address value =>
    rcases allowed with rfl | rfl | named
    · exact leavesClosed_store (by simp)
    · exact leavesClosed_store (by simp)
    · exact fun _ => named
  | probe _ _ => exact allowed
  | _ => trivial

variable {mailboxes : Nat} {table : List Word} {blob : DeviceTree.Bytes} {options : Options}
  {configuration : Configuration} {allowed : Op → Prop}

theorem Supervision.surveying {opcodes : List Iossm.Opcode} (h : ∀ code ∈ opcodes, code ∉ initOpcodes)
    (op : Op) (allowed : Supervision opcodes op) : Surveying blob op := by
  cases op with
  | request _ command => exact h _ allowed
  | load _ => trivial
  | status _ => trivial
  | pause => trivial
  | log _ _ => trivial
  | _ => exact allowed.elim

theorem Logging.surveying (op : Op) (allowed : Program.Logging op) : Surveying blob op := by
  cases op with
  | log _ _ => trivial
  | _ => exact allowed.elim

theorem ofTable_uses : (Configuration.ofTable table).Uses Program.Logging := by
  unfold Configuration.ofTable
  split
  · trivial
  · exact uses_bind (uses_log trivial) fun _ _ => uses_bind (uses_log trivial) fun _ _ =>
      uses_bind (uses_log trivial) fun _ _ => trivial

theorem decodeHandoff_uses : (decodeHandoff table).Uses Program.Logging := by
  refine uses_bind ofTable_uses fun result _ => ?_
  cases result with
  | error _ => trivial
  | ok _ => exact uses_bind (uses_forM fun _ _ => uses_log trivial) fun _ _ => trivial

theorem Logging.adjusting (op : Op) (allowed : Program.Logging op) : Adjusting blob op := by
  cases op with
  | log _ _ => trivial
  | _ => exact allowed.elim

theorem Adjusting.configuring (op : Op) (allowed : Adjusting blob op) : Configuring blob op := by
  cases op with
  | load _ => trivial
  | store _ _ => exact .inr (.inr allowed)
  | log _ _ => trivial
  | _ => exact allowed.elim

theorem Configuring.surveying (op : Op) (allowed : Configuring blob op) : Surveying blob op := by
  cases op with
  | load _ => trivial
  | store _ _ => exact allowed
  | log _ _ => trivial
  | _ => exact allowed.elim

theorem announceModes_uses : (announceModes configuration).Uses (Configuring blob) := by
  have flag {change : Word → Word} :
      (Program.update Sideband.flagSet change).Uses (Configuring blob) :=
    uses_update trivial fun _ => .inl rfl
  have lite {change : Word → Word} :
      (Program.update SystemManager.mpfeConfig change).Uses (Configuring blob) :=
    uses_update trivial fun _ => .inr (.inl rfl)
  have told {address : Nat} {text : Word → String} :
      (Program.load address >>= fun word => Program.log .debug (text word)).Uses
        (Configuring blob) :=
    ⟨trivial, fun _ => uses_log trivial⟩
  unfold announceModes selectLite
  dsimp only
  split <;> split
  · exact uses_bind flag fun _ _ => uses_bind (uses_bind lite fun _ _ => uses_bind lite
      fun _ _ => told) fun _ _ => uses_bind flag fun _ _ => told
  · exact uses_bind flag fun _ _ => told
  · exact uses_bind (uses_bind lite fun _ _ => uses_bind lite fun _ _ => told) fun _ _ =>
      uses_bind flag fun _ _ => told
  · exact told

/-- Only registers that the settings name are written. -/
theorem setInterleaving_adjusts : (setInterleaving blob configuration).Uses (Adjusting blob) := by
  have carried (node : String) (h : node ∈ [interleavingOn, interleavingOff]) :
      (DeviceTree.Settings.apply blob node).Uses (Adjusting blob) := by
    refine uses_bind (DeviceTree.settings_ofBlob_uses.mono Logging.adjusting) fun result found => ?_
    cases result with
    | error _ => trivial
    | ok settings =>
      refine uses_bind (uses_forM fun setting member => ?_) fun _ _ => trivial
      exact uses_bind (uses_update trivial fun _ =>
        ⟨node, h, settings, found, setting, member, rfl⟩) fun _ _ => uses_log trivial
  have finished (cause : DeviceTree.Error) : (do
      Program.log .error ("DDR: interleaving on/off CCU settings init failed: " ++ cause.message)
      return .error (.settings cause) : Program (Except Error Unit)).Uses (Adjusting blob) :=
    uses_bind (uses_log trivial) fun _ _ => trivial
  unfold setInterleaving
  dsimp only
  split
  · refine uses_bind (uses_log trivial) fun _ _ => uses_bind (carried _ (by simp)) fun result _ => ?_
    cases result with
    | ok _ => trivial
    | error cause => exact finished cause
  · refine uses_bind (uses_log trivial) fun _ _ => uses_bind (carried _ (by simp)) fun result _ => ?_
    cases result with
    | ok _ => trivial
    | error cause => exact finished cause

theorem setInterleaving_uses : (setInterleaving blob configuration).Uses (Configuring blob) :=
  setInterleaving_adjusts.mono Adjusting.configuring

theorem hardwareLayout_uses {available bankCount : Nat} :
    (hardwareLayout available bankCount).Uses Program.Logging := by
  refine uses_bind ?_ fun _ _ => uses_bind (uses_forM fun _ _ => uses_log trivial)
    fun _ _ => trivial
  unfold banksOfSize
  dsimp only
  split <;> split
  · exact uses_bind (uses_log trivial) fun _ _ => uses_bind (uses_log trivial) fun _ _ => trivial
  · exact uses_bind (uses_log trivial) fun _ _ => trivial
  · exact uses_bind (uses_log trivial) fun _ _ => trivial
  · trivial

theorem resolveLayout_uses {available bankCount : Nat} :
    (resolveLayout blob available bankCount).Uses Program.Logging := by
  have reconciled (memory : DeviceTree.Memory) :
      (reconcile memory available bankCount).Uses Program.Logging := by
    unfold reconcile
    split
    · exact uses_bind (uses_log trivial) fun _ _ => trivial
    · split
      · exact uses_bind hardwareLayout_uses fun _ _ => trivial
      · trivial
  refine uses_bind DeviceTree.memory_ofBlob_uses fun result _ => ?_
  cases result with
  | error _ => exact uses_bind (uses_log trivial) fun _ _ => trivial
  | ok memory =>
    dsimp only
    split
    · exact uses_bind (uses_log trivial) fun _ _ => reconciled memory
    · exact reconciled memory

/-- Calibrating again reads the reset record and sends the commands of the calibration. -/
theorem recoverCalibration_uses {timeouts : Iossm.Timeouts} :
    (recoverCalibration mailboxes timeouts).Uses (Supervision [.calibrationStatus, .calibrate]) := by
  refine Sequence.uses_bind (Sequence.uses_program ⟨.inr rfl, fun _ => trivial⟩) fun _ => ?_
  have recalibration : Sequence.Uses (Supervision [.calibrationStatus, .calibrate]) (do
      if !(← get).calibrated then
        Program.log .info "DDR: re-calibration in progress"
        Iossm.recalibrate mailboxes timeouts) := by
    refine Sequence.uses_bind Sequence.uses_get fun _ => ?_
    split
    · exact Sequence.uses_bind (Sequence.uses_log trivial) fun _ => Iossm.recalibrate_uses
    · exact Sequence.uses_pure
  dsimp only
  split
  · exact Sequence.uses_bind Sequence.uses_modify fun _ => recalibration
  · exact recalibration

/-- Commands of a measurement. -/
def measurementOpcodes : List Iossm.Opcode :=
  [.listInterfaces, .calibrationStatus, .calibrate, .technology, .width]

theorem calibrateAndMeasure_uses {timeouts : Iossm.Timeouts} :
    (calibrateAndMeasure mailboxes timeouts).Uses (Supervision measurementOpcodes) := by
  have measuring {opcodes : List Iossm.Opcode} {sequence : Sequence Unit}
      (uses : sequence.Uses (Supervision opcodes)) (h : opcodes ⊆ measurementOpcodes) :
      sequence.Uses (Supervision measurementOpcodes) :=
    fun subsystem => (uses subsystem).mono (Iossm.Supervision.mono h)
  refine Sequence.uses_bind (measuring Iossm.checkCalibration_uses (by decide)) fun _ => ?_
  refine Sequence.uses_bind (measuring Iossm.discoverInterfaces_uses (by decide)) fun _ => ?_
  refine Sequence.uses_bind (measuring recoverCalibration_uses (by decide)) fun _ => ?_
  refine Sequence.uses_bind (Sequence.uses_log trivial) fun _ => ?_
  refine Sequence.uses_bind (measuring Iossm.readTechnology_uses (by decide)) fun _ => ?_
  exact measuring Iossm.readSizes_uses (by decide)

theorem prepareEcc_uses {timeouts : Iossm.Timeouts} {found : Start} :
    (prepareEcc mailboxes timeouts found).Uses (Supervision initOpcodes) := by
  refine Sequence.uses_bind Sequence.uses_get fun _ => ?_
  split
  · refine Sequence.uses_bind (Sequence.uses_program ⟨.inr rfl, fun _ => trivial⟩) fun _ => ?_
    refine Sequence.uses_bind (Sequence.uses_program ⟨.inr rfl, fun _ => trivial⟩) fun _ => ?_
    dsimp only
    split
    · exact Sequence.uses_bind Iossm.initializeMemory_uses fun _ => Sequence.uses_log trivial
    · exact Sequence.uses_log trivial
  · exact Sequence.uses_pure

theorem stage_uses {α : Type} {sequence : Sequence α} {subsystem : Iossm.Subsystem}
    (h : sequence.Uses allowed) : (stage sequence subsystem).run.Uses allowed := by
  refine uses_run_bind (uses_run_program (h subsystem)) fun ⟨result, _⟩ _ => ?_
  cases result <;> trivial

/-- A survey neither probes the DRAM nor initializes it, and writes only the modes of the fabric
and what the device tree names. -/
theorem survey_uses : (survey mailboxes table blob options).run.Uses (Surveying blob) := by
  refine uses_run_bind (decodeHandoff_uses.mono Logging.surveying) fun ⟨configuration, _⟩ _ => ?_
  refine uses_run_bind (uses_run_program (announceModes_uses.mono Configuring.surveying))
    fun _ _ => ?_
  refine uses_run_bind (setInterleaving_uses.mono Configuring.surveying) fun _ _ => ?_
  refine uses_run_bind (stage_uses fun subsystem =>
    (calibrateAndMeasure_uses subsystem).mono (Supervision.surveying (by decide)))
    fun ⟨_, measured⟩ _ => ?_
  refine uses_run_bind (resolveLayout_uses.mono Logging.surveying) fun layout _ => ?_
  refine uses_run_bind (uses_run_program (uses_log trivial)) fun _ _ => ?_
  refine uses_run_bind (stage_uses fun subsystem =>
    (Iossm.readEcc_uses subsystem).mono (Supervision.surveying (by decide))) fun _ _ => ?_
  trivial

/-- A survey leaves a register alone that is neither one of the fabric nor named by the device
tree. -/
theorem survey_keeps_content {address : Nat} {initial : Word} {trace : Trace}
    {result : Option (Except Error (Layout × Iossm.Subsystem))}
    (other : address ∉ [Sideband.flagSet, SystemManager.mpfeConfig])
    (unnamed : ¬ NamedBySettings blob address)
    (run : Runs (survey mailboxes table blob options).run trace result) :
    trace.content address initial = initial := by
  refine Trace.content_of_allowed (run.uses survey_uses) fun value => ?_
  rintro (h | h | h)
  · exact other (by simp [h])
  · exact other (by simp [h])
  · exact unnamed h

theorem probeChunksBy_uses {keep : Nat → Nat} {chunks start remaining total : Nat} :
    (Coverage.probeChunksBy keep chunks start remaining total).Uses ProbingChunks := by
  induction chunks generalizing start remaining total with
  | zero => trivial
  | succ chunks ih =>
    unfold Coverage.probeChunksBy
    split
    · trivial
    · dsimp only
      split
      · exact uses_bind (uses_log trivial) fun _ _ => trivial
      · next power =>
        refine ⟨⟨by simpa using power, Nat.min_le_right _ _⟩, fun confirmed => ?_⟩
        change Program.Uses _ (if _ then _ else _)
        split
        · trivial
        · exact ih

theorem probeBanksBy_uses {keep : Nat → Nat} {banks : List Bank} {total : Nat} :
    (Coverage.probeBanksBy keep banks total).Uses ProbingChunks := by
  induction banks generalizing total with
  | nil => trivial
  | cons bank rest ih =>
    unfold Coverage.probeBanksBy
    split
    · exact ih
    · refine uses_bind (uses_log trivial) fun _ _ => uses_bind probeChunksBy_uses fun result _ => ?_
      cases result with
      | error _ => trivial
      | ok _ => exact ih

theorem verifySize_uses_chunks {banks : List Bank} {size : Nat} :
    (verifySize banks size).Uses ProbingChunks := by
  refine uses_bind probeBanksBy_uses fun result _ => ?_
  cases result with
  | error _ => trivial
  | ok total =>
    dsimp only
    split
    · exact uses_bind (uses_log trivial) fun _ _ => trivial
    · exact uses_bind (uses_log trivial) fun _ _ => trivial

theorem verifySize_uses {banks : List Bank} {size : Nat} :
    (verifySize banks size).Uses Probing :=
  verifySize_uses_chunks.mono ProbingChunks.probing

theorem setWindow_uses {dmi : Firewall.Dmi} {masters : Firewall.Masters} {index first last : Nat}
    (h : index < Firewall.regionCount) :
    (setWindow dmi masters index first last).Uses Opening := by
  have inside (register : Nat) (small : register ≤ Firewall.Region.limitExtension) (value : Word) :
      (Program.store (Firewall.region dmi masters index + register) value).Uses Opening := by
    refine ⟨.inl ⟨dmi, ?_⟩, fun _ => trivial⟩
    simp only [Firewall.region, Firewall.regionCount, Firewall.Region.limitExtension] at *
    cases masters <;> simp only [Firewall.Masters.offset] <;> omega
  exact uses_bind (inside _ (by decide) _) fun _ _ => uses_bind (inside _ (by decide) _) fun _ _ =>
    uses_bind (inside _ (by decide) _) fun _ _ => inside _ (by decide) _

theorem openBanks_uses {banks : List Bank} {secureMonitor : Bool} :
    (openBanks Firewall.Dmi.all banks secureMonitor).Uses Opening := by
  have opened (index : Nat) (bank : Bank) (h : index < Firewall.regionCount) :
      (openBank Firewall.Dmi.all secureMonitor index bank).Uses Opening := by
    unfold openBank
    split
    · refine uses_bind (uses_forM fun dmi _ => ?_) fun _ _ => uses_log trivial
      refine uses_bind (setWindow_uses h) fun _ _ => uses_bind (setWindow_uses h) fun _ _ => ?_
      exact ⟨.inl ⟨dmi, by simp [Firewall.enableSet]⟩, fun _ => trivial⟩
    · trivial
  have all : ((banks.take Firewall.regionCount).zipIdx.forM fun item =>
      openBank Firewall.Dmi.all secureMonitor item.2 item.1).Uses Opening := by
    refine uses_forM fun item member => opened item.2 item.1 ?_
    have := (List.mem_zipIdx member).2.1
    simp only [List.length_take] at this
    omega
  unfold openBanks
  dsimp only
  split
  · exact uses_bind (uses_log trivial) fun _ _ => all
  · exact all

theorem openRegisters_uses : openRegisters.Uses Opening :=
  have inside {register : Nat} (h : Firewall.mpfeBase ≤ register ∧ register < Firewall.mpfeBase + 0xC) :
      (Program.store register 1).Uses Opening := ⟨.inr h, fun _ => trivial⟩
  uses_bind (inside (by decide)) fun _ _ => uses_bind (inside (by decide)) fun _ _ =>
    inside (by decide)

/-- Registers that a bring-up writes. -/
def IsWritten (blob : DeviceTree.Bytes) (address : Nat) : Prop :=
  address = SystemManager.progress ∨ address = Sideband.flagSet ∨
    address = SystemManager.mpfeConfig ∨ NamedBySettings blob address ∨ IsFirewall address ∨
      IsMpfeFirewall address

/-- Questions of a bring-up. -/
def BringingUp (blob : DeviceTree.Bytes) : Op → Prop
  | .load _ => True
  | .store address _ => IsWritten blob address
  | .pause => True
  | .log _ _ => True
  | .status _ => True
  | .request _ _ => True
  | .probe _ size => Coverage.isPowerOfTwo size = true ∧ size ≤ Coverage.chunkBytes
  | _ => False

theorem Surveying.bringingUp (op : Op) (allowed : Surveying blob op) : BringingUp blob op := by
  cases op with
  | store address _ =>
    obtain flag | lite | named := allowed
    · exact .inr (.inl flag)
    · exact .inr (.inr (.inl lite))
    · exact .inr (.inr (.inr (.inl named)))
  | load _ => trivial
  | pause => trivial
  | log _ _ => trivial
  | status _ => trivial
  | request _ _ => trivial
  | _ => exact allowed.elim

theorem Supervision.bringingUp {opcodes : List Iossm.Opcode} (op : Op)
    (allowed : Supervision opcodes op) : BringingUp blob op := by
  cases op with
  | load _ => trivial
  | pause => trivial
  | log _ _ => trivial
  | status _ => trivial
  | request _ _ => trivial
  | _ => exact allowed.elim

theorem ProbingChunks.bringingUp (op : Op) (allowed : ProbingChunks op) : BringingUp blob op := by
  cases op with
  | probe _ _ => exact allowed
  | log _ _ => trivial
  | _ => exact allowed.elim

theorem Opening.bringingUp (op : Op) (allowed : Opening op) : BringingUp blob op := by
  cases op with
  | store _ _ => exact .inr (.inr (.inr (.inr allowed)))
  | log _ _ => trivial
  | _ => exact allowed.elim

theorem markInProgress_uses {value : Bool} :
    (ResetHistory.markInProgress value).Uses (BringingUp blob) :=
  uses_update trivial fun _ => .inl rfl

theorem start_uses : start.Uses (BringingUp blob) := by
  refine uses_bind ⟨trivial, fun _ => trivial⟩ fun _ _ => ?_
  refine uses_bind ⟨trivial, fun _ => trivial⟩ fun _ _ => uses_bind (uses_log trivial) fun _ _ => ?_
  exact uses_bind markInProgress_uses fun _ _ => trivial

theorem finish_uses {layout : Layout} : (finish options layout).Uses (BringingUp blob) := by
  refine uses_bind (openBanks_uses.mono Opening.bringingUp) fun _ _ => ?_
  refine uses_bind (openRegisters_uses.mono Opening.bringingUp) fun _ _ => ?_
  refine uses_bind (uses_log trivial) fun _ _ => ?_
  exact uses_bind markInProgress_uses fun _ _ => uses_log trivial

/-- A bring-up does not access cells, and probes whole chunks. -/
theorem bringUp_uses : (bringUp mailboxes table blob options).run.Uses (BringingUp blob) := by
  refine uses_run_bind (uses_run_program start_uses) fun found _ => ?_
  refine uses_run_bind (survey_uses.mono Surveying.bringingUp) fun ⟨layout, surveyed⟩ _ => ?_
  refine uses_run_bind ((stage_uses prepareEcc_uses).mono Supervision.bringingUp) fun _ _ => ?_
  refine uses_run_bind ?_ fun _ _ => ?_
  · exact uses_bind (verifySize_uses_chunks.mono ProbingChunks.bringingUp) fun _ _ => trivial
  · exact uses_run_bind (uses_run_program finish_uses) fun _ _ => trivial

/-- At the end the firewalls are opened, and only then the progress bit is cleared. -/
theorem runs_finish {layout : Layout} {trace : Trace}
    (run : Runs (finish options layout) trace (some ())) :
    ∃ opening current, trace = opening ++ [⟨.load SystemManager.progress, current⟩,
        ⟨.store SystemManager.progress (SystemManager.inProgress.put false current), ()⟩,
        ⟨.log .info "DDR: init success", ()⟩] ∧
      ∀ event ∈ opening, Opening event.op := by
  obtain ⟨banks, _, _, rfl, banksRun, run₁⟩ := Runs.bind_some_iff.1 run
  obtain ⟨registers, _, _, rfl, registersRun, run₂⟩ := Runs.bind_some_iff.1 run₁
  obtain ⟨_, _, _, rfl, told, run₃⟩ := Runs.bind_some_iff.1 run₂
  obtain ⟨_, _, _, rfl, marked, run₄⟩ := Runs.bind_some_iff.1 run₃
  obtain ⟨rfl, -⟩ := Runs.log_iff.1 told
  obtain ⟨current, rfl, -⟩ := Runs.update_iff.1 marked
  obtain ⟨rfl, -⟩ := Runs.log_iff.1 run₄
  refine ⟨banks ++ (registers ++ [⟨.log .info "DDR: firewall init success", ()⟩]), current,
    by simp, ?_⟩
  simp only [List.mem_append, List.mem_singleton]
  rintro event (h | h | rfl)
  · exact banksRun.uses openBanks_uses event h
  · exact registersRun.uses openRegisters_uses event h
  · trivial

end BringUp.Dram
