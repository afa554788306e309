import BringUp.Iossm.Calibration
import BringUp.Iossm.Inventory
import BringUp.Iossm.MemoryInit
import BringUp.Proofs.Iossm.Performs

/-! What the sequences ask for. They read a few registers and send commands of their own few
opcodes, to the recorded interfaces or to the IOSSM itself. -/
namespace BringUp.Iossm

/-- Questions of the supervision that sends commands with the given opcodes. -/
def Supervision (opcodes : List Opcode) : Op → Prop
  | .load address => address = SystemManager.clockStatus ∨ address = SystemManager.resetRecord
  | .status _ => True
  | .pause => True
  | .log _ _ => True
  | .request _ command => command.opcode ∈ opcodes
  | _ => False

theorem Supervision.mono {opcodes others : List Opcode} (h : opcodes ⊆ others) (op : Op)
    (allowed : Supervision opcodes op) : Supervision others op := by
  cases op with
  | request _ command => exact h allowed
  | _ => exact allowed

namespace Sequence

variable {α β ι : Type} {allowed : Op → Prop} {before : Subsystem}

/-- The sequence asks only allowed questions, whatever is in the bookkeeping. -/
def Uses (allowed : Op → Prop) (sequence : Sequence α) : Prop :=
  ∀ subsystem, (sequence.perform subsystem).Uses allowed

theorem uses_pure {value : α} : (pure value : Sequence α).Uses allowed := fun _ => trivial

theorem uses_throw {cause : Error} : (throw cause : Sequence α).Uses allowed := fun _ => trivial

theorem uses_get : (get : Sequence Subsystem).Uses allowed := fun _ => trivial

theorem uses_modify {change : Subsystem → Subsystem} :
    (modify change : Sequence Unit).Uses allowed := fun _ => trivial

theorem uses_bind {sequence : Sequence α} {f : α → Sequence β} (first : sequence.Uses allowed)
    (rest : ∀ value, (f value).Uses allowed) : (sequence >>= f).Uses allowed := by
  intro subsystem
  rw [perform_bind]
  refine Program.uses_bind (first subsystem) fun ⟨result, middle⟩ _ => ?_
  cases result with
  | ok value => exact rest value middle
  | error _ => trivial

theorem uses_program {program : Program α} (h : program.Uses allowed) :
    (liftM program : Sequence α).Uses allowed := by
  intro subsystem
  rw [perform_program]
  exact Program.uses_bind h fun _ _ => trivial

theorem uses_log {level : Level} {text : String} (h : allowed (.log level text)) :
    (liftM (Program.log level text) : Sequence Unit).Uses allowed :=
  uses_program ⟨h, fun _ => trivial⟩

theorem uses_send {unit : Nat} {command : Command} (h : allowed (.request unit command)) :
    (send unit command).Uses allowed := by
  intro subsystem
  rw [perform_send]
  refine ⟨h, fun reply => ?_⟩
  cases reply <;> trivial

theorem uses_requireMailbox {mailboxes unit : Nat} :
    (requireMailbox mailboxes unit).Uses allowed := by
  unfold requireMailbox
  split
  · exact uses_pure
  · exact uses_throw

theorem uses_modifyInstance {index : Nat} {change : Instance → Instance} :
    (modifyInstance index change).Uses allowed := uses_modify

theorem uses_mapM {items : List ι} {visit : ι → Sequence α}
    (h : ∀ item ∈ items, (visit item).Uses allowed) : (items.mapM visit).Uses allowed := by
  induction items with
  | nil => exact uses_pure
  | cons item rest ih =>
    have others := ih fun item member => h item (List.mem_cons_of_mem _ member)
    rw [List.mapM_cons]
    exact uses_bind (h item List.mem_cons_self) fun _ => uses_bind others fun _ => uses_pure

theorem uses_forM {items : List ι} {visit : ι → Sequence Unit}
    (h : ∀ item ∈ items, (visit item).Uses allowed) : (items.forM visit).Uses allowed := by
  induction items with
  | nil => exact uses_pure
  | cons item rest ih =>
    exact uses_bind (h item List.mem_cons_self)
      fun _ => ih fun item member => h item (List.mem_cons_of_mem _ member)

theorem uses_foldlM {items : List ι} {visit : β → ι → Sequence β} {start : β}
    (h : ∀ state, ∀ item ∈ items, (visit state item).Uses allowed) :
    (items.foldlM visit start).Uses allowed := by
  induction items generalizing start with
  | nil => exact uses_pure
  | cons item rest ih =>
    exact uses_bind (h start item List.mem_cons_self)
      fun _ => ih fun state item member => h state item (List.mem_cons_of_mem _ member)

theorem perform_bind_uses {sequence : Sequence α} {f : α → Sequence β}
    (first : (sequence.perform before).Uses allowed)
    (rest : ∀ trace value after, sequence.Performs before trace (.ok value) after →
      ((f value).perform after).Uses allowed) : ((sequence >>= f).perform before).Uses allowed := by
  rw [perform_bind]
  refine Program.uses_bind first fun ⟨result, after⟩ yields => ?_
  cases result with
  | ok value =>
    have ⟨trace, run⟩ := yields
    exact rest trace value after run
  | error _ => trivial

theorem perform_forInstances_uses {visit : Nat → Instance → Sequence α}
    (h : ∀ unit record, before.instances[unit]? = some record → (visit unit record).Uses allowed) :
    ((forInstances visit).perform before).Uses allowed := by
  change ((before.instances.zipIdx.mapM fun item => visit item.2 item.1).perform before).Uses allowed
  exact uses_mapM (fun item member => h item.2 item.1 (List.mk_mem_zipIdx_iff_getElem?.1 member)) _

theorem uses_forInstances {visit : Nat → Instance → Sequence α}
    (h : ∀ unit record, (visit unit record).Uses allowed) : (forInstances visit).Uses allowed :=
  fun _ => perform_forInstances_uses fun unit record _ => h unit record

end Sequence

open Sequence

theorem clockLocked_uses {unit : Nat} {opcodes : List Opcode} :
    (clockLocked unit).Uses (Supervision opcodes) :=
  ⟨.inl rfl, fun _ => trivial⟩

theorem idle_uses {unit : Nat} {opcodes : List Opcode} : (idle unit).Uses (Supervision opcodes) :=
  ⟨trivial, fun _ => trivial⟩

theorem checkInstance_uses {awaitClock : Bool} {timeouts : Timeouts} {unit : Nat} :
    (checkInstance awaitClock timeouts unit).Uses (Supervision []) := by
  unfold checkInstance
  extract_lets check
  have look : ∀ r, (check r).Uses (Supervision []) := by
    intro r
    refine uses_bind (uses_program (Program.uses_await idle_uses trivial)) fun _ => ?_
    refine uses_bind (uses_program ⟨trivial, fun _ => trivial⟩) fun _ => ?_
    split
    · exact uses_bind uses_modifyInstance fun _ => uses_pure
    · exact uses_bind (uses_log trivial) fun _ => uses_pure
  split
  · refine uses_bind (uses_program (Program.uses_await clockLocked_uses trivial)) fun _ => ?_
    split
    · exact uses_bind (uses_log trivial) fun _ => uses_bind uses_throw look
    · exact look ()
  · exact look ()

theorem checkCalibration_uses {mailboxes : Nat} {timeouts : Timeouts} :
    (checkCalibration mailboxes timeouts).Uses (Supervision []) := by
  unfold checkCalibration
  refine uses_bind uses_modify fun _ => uses_bind uses_get fun _ => ?_
  refine uses_bind (uses_forInstances fun _ _ => ?_) fun _ => ?_
  · exact uses_bind uses_requireMailbox fun _ => checkInstance_uses
  · split
    · exact uses_modify
    · exact uses_pure

theorem discoverInterfaces_uses {mailboxes : Nat} :
    (discoverInterfaces mailboxes).Uses (Supervision [.listInterfaces]) := by
  refine uses_bind (uses_forInstances fun _ _ => ?_) fun _ => uses_pure
  refine uses_bind uses_requireMailbox fun _ => uses_bind (uses_send (by simp [Supervision])) fun _ => ?_
  exact uses_bind uses_modifyInstance fun _ => uses_log trivial

section Commands

variable {mailboxes unit position : Nat} {timeouts : Timeouts} {target : Target}
  {allowed : Op → Prop} {before : Subsystem} (quiet : ∀ op, Supervision [] op → allowed op)

theorem interfaceStatus_uses (sent : allowed (.request unit
      { target := .manager, kind := .calibrationOperation, opcode := .calibrationStatus })) :
    (interfaceStatus unit position).Uses allowed := by
  refine uses_bind (uses_send sent) fun answer => ?_
  split
  · exact uses_pure
  · exact uses_program trivial

include quiet

theorem recalibrateInterface_uses
    (asked : allowed (.request unit
      { target := .manager, kind := .calibrationOperation, opcode := .calibrationStatus }))
    (retried : allowed (.request unit
      { target := target, kind := .calibrationOperation, opcode := .calibrate })) :
    (recalibrateInterface timeouts unit position target).Uses allowed := by
  have told {level : Level} {text : String} :
      Sequence.Uses allowed (liftM (Program.log level text) : Sequence Unit) :=
    uses_log (quiet (.log level text) trivial)
  refine uses_bind (interfaceStatus_uses asked) fun status => ?_
  generalize maxRetries = left
  induction left generalizing status with
  | zero =>
    unfold recalibrateInterface.go
    split
    · exact uses_pure
    · exact uses_bind told fun _ => uses_throw
  | succ left ih =>
    have waiting : (Program.await (idle unit) timeouts.calibration).Uses allowed :=
      Program.uses_await (idle_uses.mono quiet) (quiet .pause trivial)
    unfold recalibrateInterface.go
    split
    · exact uses_pure
    · refine uses_bind told fun _ => uses_bind (uses_send retried) fun _ => ?_
      refine uses_bind (uses_program waiting) fun _ => ?_
      split
      · exact uses_bind told fun _ => uses_bind (interfaceStatus_uses asked) ih
      · exact uses_bind (interfaceStatus_uses asked) ih

/-- Only instances that are not recorded as calibrated get commands. -/
theorem perform_recalibrate_uses
    (asked : ∀ unit record, before.instances[unit]? = some record → record.calibrated = false →
      allowed (.request unit
        { target := .manager, kind := .calibrationOperation, opcode := .calibrationStatus }))
    (retried : ∀ unit record, before.instances[unit]? = some record → record.calibrated = false →
      ∀ target ∈ record.interfaces, allowed (.request unit
        { target := target, kind := .calibrationOperation, opcode := .calibrate })) :
    ((recalibrate mailboxes timeouts).perform before).Uses allowed := by
  refine perform_bind_uses (perform_forInstances_uses fun unit record found => ?_)
    fun _ _ _ _ => uses_modify _
  cases failing : record.calibrated with
  | true => exact uses_pure
  | false =>
    refine uses_bind uses_requireMailbox fun _ => uses_bind (uses_forM fun item member => ?_)
      fun _ => uses_modifyInstance
    have inside : item.1 ∈ record.interfaces := List.fst_mem_of_mem_zipIdx member
    exact recalibrateInterface_uses quiet (asked unit record found failing)
      (retried unit record found failing item.1 inside)

theorem agreeOnTechnology_uses {technology : Technology} :
    (agreeOnTechnology unit technology).Uses allowed := by
  refine uses_bind uses_get fun _ => ?_
  dsimp only
  split
  · exact uses_modify
  · split
    · exact uses_bind (uses_log (quiet (.log _ _) trivial)) fun _ => uses_throw
    · exact uses_pure

theorem perform_readTechnology_uses
    (sent : ∀ unit record, before.instances[unit]? = some record → ∀ target ∈ record.interfaces,
      allowed (.request unit { target := target, kind := .memoryInfo, opcode := .technology })) :
    ((readTechnology mailboxes).perform before).Uses allowed := by
  refine perform_bind_uses (uses_modify before) fun _ _ cleared changed => ?_
  obtain ⟨-, -, rfl⟩ := performs_modify.1 changed
  refine perform_bind_uses (perform_forInstances_uses fun unit record found => ?_)
    fun _ _ _ _ => uses_pure _
  refine uses_bind uses_requireMailbox fun _ => uses_forM fun target member => ?_
  exact uses_bind (uses_send (sent unit record found target member)) fun _ =>
    agreeOnTechnology_uses quiet

theorem perform_readSizes_uses
    (sent : ∀ unit record, before.instances[unit]? = some record → ∀ target ∈ record.interfaces,
      allowed (.request unit { target := target, kind := .memoryInfo, opcode := .width })) :
    ((readSizes mailboxes).perform before).Uses allowed := by
  refine perform_bind_uses (perform_forInstances_uses fun unit record found => ?_)
    fun _ _ after _ => ?_
  · refine uses_bind uses_requireMailbox fun _ => uses_bind (uses_bind ?_ fun _ => ?_) fun _ =>
      uses_bind uses_modifyInstance fun _ => uses_pure
    · exact uses_foldlM fun _ target member =>
        uses_bind (uses_send (sent unit record found target member)) fun _ => uses_pure
    · dsimp only
      split
      · exact uses_bind (uses_log (quiet (.log _ _) trivial)) fun _ =>
          uses_bind uses_throw fun _ => uses_pure
      · exact uses_pure
  · dsimp only
    split
    · exact uses_bind uses_throw (fun _ => uses_modify) after
    · exact uses_modify after

theorem perform_readEcc_uses
    (sent : ∀ unit record, before.instances[unit]? = some record → ∀ target ∈ record.interfaces,
      allowed (.request unit
        { target := target, kind := .controllerOperation, opcode := .eccStatus })) :
    ((readEcc mailboxes).perform before).Uses allowed := by
  refine perform_bind_uses (uses_get before) fun _ _ _ got => ?_
  obtain ⟨-, same, rfl⟩ := performs_get.1 got
  cases same
  refine uses_bind (uses_foldlM fun _ item member => ?_) (fun _ =>
    uses_bind uses_modify fun _ => uses_log (quiet (.log _ _) trivial)) _
  have found := List.mk_mem_zipIdx_iff_getElem?.1 member
  refine uses_bind uses_requireMailbox fun _ => uses_foldlM fun common target inside => ?_
  refine uses_bind (uses_send (sent item.2 item.1 found target inside)) fun _ => ?_
  cases common with
  | none => exact uses_pure
  | some agreed =>
    dsimp only
    split
    · exact uses_bind (uses_log (quiet (.log _ _) trivial)) fun _ =>
        uses_bind uses_throw fun _ => uses_pure
    · exact uses_pure

omit quiet in
theorem memoryInitComplete_uses (polled : allowed (.request unit (statusCommand target))) :
    (memoryInitComplete unit target).Uses allowed := by
  refine ⟨polled, fun reply => ?_⟩
  cases reply with
  | error _ => trivial
  | ok answer =>
    change Program.Uses _ (if _ then _ else _)
    split <;> trivial

theorem initializeInterface_uses (started : allowed (.request unit (startCommand target)))
    (polled : allowed (.request unit (statusCommand target))) :
    (initializeInterface timeouts unit target).Uses allowed := by
  have told {level : Level} {text : String} :
      Sequence.Uses allowed (liftM (Program.log level text) : Sequence Unit) :=
    uses_log (quiet (.log level text) trivial)
  refine uses_bind (uses_send started) fun _ => ?_
  extract_lets wait
  have wait_uses : ∀ r, (wait r).Uses allowed := by
    intro r
    have waiting : (Program.poll (fun _ => memoryInitComplete unit target)
        (intervals timeouts.memoryInit)).Uses allowed :=
      Program.uses_poll (fun _ => memoryInitComplete_uses polled) (quiet .pause trivial)
    refine uses_bind (uses_program waiting) fun polled => ?_
    split
    · exact told
    · exact uses_throw
    · exact uses_bind told fun _ => uses_throw
  split
  · exact uses_bind told fun _ => uses_bind uses_throw wait_uses
  · exact wait_uses ()

theorem perform_initializeMemory_uses
    (sent : ∀ unit record, before.instances[unit]? = some record → ∀ target ∈ record.interfaces,
      allowed (.request unit (startCommand target)) ∧
        allowed (.request unit (statusCommand target))) :
    ((initializeMemory mailboxes timeouts).perform before).Uses allowed := by
  refine perform_bind_uses (perform_forInstances_uses fun unit record found => ?_)
    fun _ _ _ _ => uses_pure _
  refine uses_bind uses_requireMailbox fun _ => uses_forM fun target member => ?_
  have ⟨started, polled⟩ := sent unit record found target member
  exact initializeInterface_uses quiet started polled

end Commands

theorem recalibrate_uses {mailboxes : Nat} {timeouts : Timeouts} :
    (recalibrate mailboxes timeouts).Uses (Supervision [.calibrationStatus, .calibrate]) :=
  fun _ => perform_recalibrate_uses (Supervision.mono (List.nil_subset _)) (by simp [Supervision])
    (by simp [Supervision])

theorem readTechnology_uses {mailboxes : Nat} :
    (readTechnology mailboxes).Uses (Supervision [.technology]) :=
  fun _ => perform_readTechnology_uses (Supervision.mono (List.nil_subset _))
    (by simp [Supervision])

theorem readSizes_uses {mailboxes : Nat} :
    (readSizes mailboxes).Uses (Supervision [.width]) :=
  fun _ => perform_readSizes_uses (Supervision.mono (List.nil_subset _)) (by simp [Supervision])

theorem readEcc_uses {mailboxes : Nat} : (readEcc mailboxes).Uses (Supervision [.eccStatus]) :=
  fun _ => perform_readEcc_uses (Supervision.mono (List.nil_subset _)) (by simp [Supervision])

theorem initializeMemory_uses {mailboxes : Nat} {timeouts : Timeouts} :
    (initializeMemory mailboxes timeouts).Uses
      (Supervision [.startMemoryInit, .memoryInitStatus]) :=
  fun _ => perform_initializeMemory_uses (Supervision.mono (List.nil_subset _))
    (by simp [Supervision, startCommand, statusCommand, Command.withParameter])

end BringUp.Iossm
