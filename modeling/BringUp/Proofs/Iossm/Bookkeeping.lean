import BringUp.Iossm.MemoryInit
import BringUp.Proofs.Iossm.Addressing
import BringUp.Proofs.Iossm.Recalibration

/-! What is true of the bookkeeping at any time. Main statement: after every history of calls,
failed ones included, it is consistent, and its sizes are far below the largest one. -/
namespace BringUp.Iossm

open Sequence

/-- An operation on the bookkeeping, with what its caller chooses. -/
inductive Operation where
  | awaitClock (wait : Bool)
  | checkCalibration (mailboxes : Nat) (timeouts : Timeouts)
  | discoverInterfaces (mailboxes : Nat)
  | invalidateCalibration
  | recalibrate (mailboxes : Nat) (timeouts : Timeouts)
  | readTechnology (mailboxes : Nat)
  | readSizes (mailboxes : Nat)
  | readEcc (mailboxes : Nat)
  | initializeMemory (mailboxes : Nat) (timeouts : Timeouts)

def Operation.sequence : Operation → Sequence Unit
  | awaitClock wait => modify fun subsystem => { subsystem with awaitClock := wait }
  | checkCalibration mailboxes timeouts => Iossm.checkCalibration mailboxes timeouts
  | discoverInterfaces mailboxes => Iossm.discoverInterfaces mailboxes
  | invalidateCalibration => modify Subsystem.invalidateCalibration
  | recalibrate mailboxes timeouts => Iossm.recalibrate mailboxes timeouts
  | readTechnology mailboxes => Iossm.readTechnology mailboxes
  | readSizes mailboxes => Iossm.readSizes mailboxes
  | readEcc mailboxes => Iossm.readEcc mailboxes
  | initializeMemory mailboxes timeouts => Iossm.initializeMemory mailboxes timeouts

/-- Bookkeeping that calls of the operations lead to, whatever the answers are and whether or not
the calls succeed. -/
inductive Reachable (requested portCount : Nat) (plls : BitVec 4) : Subsystem → Prop
  | fresh : Reachable requested portCount plls (.fresh requested portCount plls)
  | call {before after : Subsystem} {trace : Trace} {result : Except Error Unit}
      (operation : Operation) (earlier : Reachable requested portCount plls before)
      (run : operation.sequence.Performs before trace result after) :
      Reachable requested portCount plls after

/-- An instance has at most two interfaces, each of up to 255 gigabits. -/
structure Instance.Bounded (record : Instance) : Prop where
  few : record.interfaces.length ≤ 2
  used : ∀ target ∈ record.interfaces, target.ipType ≠ 0
  small : record.gigabits ≤ 510

/-- What holds of the bookkeeping for the requested instances at any time. -/
structure Consistent (requested portCount : Nat) (plls : BitVec 4) (subsystem : Subsystem) :
    Prop where
  calibrated : subsystem.calibrated = true → ∀ record ∈ subsystem.instances,
    record.calibrated = true
  count : subsystem.instances.length = min requested 2
  portCount : subsystem.portCount = portCount
  plls : subsystem.plls = plls
  bounded : ∀ record ∈ subsystem.instances, record.Bounded
  small : subsystem.gigabits ≤ 1020

variable {requested portCount : Nat} {plls : BitVec 4} {mailboxes unit : Nat} {timeouts : Timeouts}
  {before after : Subsystem} {trace : Trace} {result : Except Error Unit}

theorem consistent_fresh : Consistent requested portCount plls (.fresh requested portCount plls) := by
  refine ⟨fun calibrated => ?_, List.length_replicate, rfl, rfl, fun record member => ?_,
    Nat.zero_le _⟩
  · cases calibrated
  · obtain rfl := List.eq_of_mem_replicate member
    exact ⟨Nat.zero_le _, by simp, Nat.zero_le _⟩

theorem mem_modifyInstance {subsystem : Subsystem} {change : Instance → Instance}
    {record : Instance} (h : record ∈ (subsystem.modifyInstance unit change).instances) :
    record ∈ subsystem.instances ∨ ∃ earlier ∈ subsystem.instances, record = change earlier := by
  obtain ⟨index, found⟩ := List.mem_iff_getElem?.1 h
  rw [Subsystem.modifyInstance, List.getElem?_modify] at found
  obtain ⟨earlier, there, same⟩ := Option.map_eq_some_iff.1 found
  have member := List.mem_of_getElem? there
  split at same
  · exact .inr ⟨earlier, member, same.symm⟩
  · exact .inl (same ▸ member)

/-- A change of an instance that loses neither its bounds nor its mark keeps the bookkeeping
consistent. -/
theorem Consistent.modifyInstance {subsystem : Subsystem} {change : Instance → Instance}
    (consistent : Consistent requested portCount plls subsystem)
    (bounded : ∀ record : Instance, record.Bounded → (change record).Bounded)
    (marked : ∀ record, record.calibrated = true → (change record).calibrated = true) :
    Consistent requested portCount plls (subsystem.modifyInstance unit change) := by
  refine ⟨fun calibrated record member => ?_, ?_, consistent.portCount, consistent.plls,
    fun record member => ?_, consistent.small⟩
  · obtain there | ⟨earlier, there, rfl⟩ := mem_modifyInstance member
    · exact consistent.calibrated calibrated record there
    · exact marked earlier (consistent.calibrated calibrated earlier there)
  · rw [← consistent.count]
    exact List.length_modify _ _ _
  · obtain there | ⟨earlier, there, rfl⟩ := mem_modifyInstance member
    · exact consistent.bounded record there
    · exact bounded earlier (consistent.bounded earlier there)

theorem Consistent.mark {subsystem : Subsystem}
    (consistent : Consistent requested portCount plls subsystem) :
    Consistent requested portCount plls
      (subsystem.modifyInstance unit fun record => { record with calibrated := true }) :=
  consistent.modifyInstance (fun _ bounded => ⟨bounded.few, bounded.used, bounded.small⟩)
    fun _ _ => rfl

theorem Answer.interfaces_bounded (answer : Answer) :
    answer.interfaces.length ≤ 2 ∧ ∀ target ∈ answer.interfaces, target.ipType ≠ 0 := by
  constructor
  · exact (List.length_filterMap_le _ _).trans (List.length_take_le _ _)
  · exact fun target member => (Answer.describes_of_mem member).1

theorem discoverInterfaces_maintains :
    (discoverInterfaces mailboxes).Maintains (Consistent requested portCount plls) := by
  refine maintains_bind (maintains_forInstances fun unit _ => ?_) fun _ => keeps_pure.maintains
  refine maintains_bind keeps_requireMailbox.maintains fun _ =>
    maintains_bind keeps_send.maintains fun answer => ?_
  have ⟨few, used⟩ := answer.interfaces_bounded
  have recorded : ∀ subsystem : Subsystem, Consistent requested portCount plls subsystem →
      Consistent requested portCount plls (subsystem.modifyInstance unit fun record =>
        { record with interfaces := answer.interfaces }) :=
    fun subsystem consistent => consistent.modifyInstance
      (fun _ bounded => ⟨few, used, bounded.small⟩) fun _ marked => marked
  exact maintains_bind (maintains_modify recorded) fun _ => keeps_program.maintains

theorem invalidateCalibration_consistent {subsystem : Subsystem}
    (consistent : Consistent requested portCount plls subsystem) :
    Consistent requested portCount plls subsystem.invalidateCalibration := by
  refine ⟨fun calibrated => ?_, ?_, consistent.portCount, consistent.plls, fun record member => ?_,
    consistent.small⟩
  · cases calibrated
  · rw [← consistent.count]
    exact List.length_map _
  · obtain ⟨earlier, there, rfl⟩ := List.mem_map.1 member
    have ⟨few, used, small⟩ := consistent.bounded earlier there
    exact ⟨few, used, small⟩

theorem readTechnology_maintains :
    (readTechnology mailboxes).Maintains (Consistent requested portCount plls) := by
  have noted (technology : Technology) : ∀ subsystem : Subsystem,
      Consistent requested portCount plls subsystem →
        Consistent requested portCount plls { subsystem with technology := technology } :=
    fun _ ⟨calibrated, count, ports, mask, bounded, small⟩ =>
      ⟨calibrated, count, ports, mask, bounded, small⟩
  refine maintains_bind (maintains_modify (noted .unknown)) fun _ =>
    maintains_bind (maintains_forInstances fun _ _ => ?_) fun _ => keeps_pure.maintains
  refine maintains_bind keeps_requireMailbox.maintains fun _ => maintains_forM fun _ _ => ?_
  refine maintains_bind keeps_send.maintains fun _ => maintains_bind keeps_get.maintains fun _ => ?_
  dsimp only
  split
  · exact maintains_modify (noted _)
  · split
    · exact maintains_bind keeps_program.maintains fun _ => keeps_throw.maintains
    · exact keeps_pure.maintains

theorem readEcc_maintains :
    (readEcc mailboxes).Maintains (Consistent requested portCount plls) := by
  have noted (ecc : Bool) : ∀ subsystem : Subsystem,
      Consistent requested portCount plls subsystem →
        Consistent requested portCount plls { subsystem with ecc := ecc } :=
    fun _ ⟨calibrated, count, ports, mask, bounded, small⟩ =>
      ⟨calibrated, count, ports, mask, bounded, small⟩
  refine maintains_bind keeps_get.maintains fun _ => maintains_bind (maintains_foldlM fun _ _ _ => ?_)
    fun _ => maintains_bind (maintains_modify (noted _)) fun _ => keeps_program.maintains
  exact maintains_bind keeps_requireMailbox.maintains fun _ => agreeOnEcc_keeps.maintains

theorem initializeInterface_keeps {γ : Type} {view : Subsystem → γ} {target : Target} :
    (initializeInterface timeouts unit target).Keeps view := by
  refine keeps_bind keeps_send fun _ => ?_
  extract_lets wait
  have waits : ∀ r, (wait r).Keeps view := by
    intro r
    refine keeps_bind keeps_program fun polled => ?_
    split
    · exact keeps_program
    · exact keeps_throw
    · exact keeps_bind keeps_program fun _ => keeps_throw
  split
  · exact keeps_bind keeps_program fun _ => keeps_bind keeps_throw waits
  · exact waits ()

theorem initializeMemory_keeps {γ : Type} {view : Subsystem → γ} :
    (initializeMemory mailboxes timeouts).Keeps view :=
  keeps_bind (keeps_forInstances fun _ _ => keeps_bind keeps_requireMailbox fun _ =>
    keeps_forM fun _ => initializeInterface_keeps) fun _ => keeps_pure

theorem checkCalibration_maintains :
    (checkCalibration mailboxes timeouts).Maintains (Consistent requested portCount plls) := by
  intro before trace result after run consistent
  have cleared : Consistent requested portCount plls { before with calibrated := false } :=
    ⟨fun calibrated => (nomatch calibrated), consistent.count, consistent.portCount,
      consistent.plls, consistent.bounded, consistent.small⟩
  have visiting {awaitClock : Bool} : (forInstances fun unit _ => do
      requireMailbox mailboxes unit
      checkInstance awaitClock timeouts unit).Maintains (Consistent requested portCount plls) :=
    maintains_forInstances fun _ _ => maintains_bind keeps_requireMailbox.maintains fun _ =>
      checkInstance_maintains fun _ consistent => consistent.mark
  have run₁ := performs_get_bind.1 (performs_modify_bind.1 run)
  obtain ⟨_, _, results, middle, rfl, visited, closing⟩ | ⟨_, rfl, failed⟩ := performs_bind.1 run₁
  · have kept := visiting _ _ _ _ visited cleared
    split at closing
    · next every =>
      obtain ⟨-, -, rfl⟩ := performs_modify.1 closing
      obtain ⟨size, -, rfl⟩ := checkInstances_ok visited
      have all : ∀ index < before.instances.length, results.getD index false = true := by
        intro index inside
        have within : index < results.length := size ▸ inside
        rw [List.getD_eq_getElem?_getD, List.getElem?_eq_getElem within]
        exact List.all_eq_true.1 every _ (List.getElem_mem within)
      exact ⟨fun _ => Subsystem.calibrated_markWhere all, kept.count, kept.portCount, kept.plls,
        kept.bounded, kept.small⟩
    · obtain ⟨-, -, rfl⟩ := performs_pure.1 closing
      exact kept
  · exact visiting _ _ _ _ failed cleared

theorem recalibrate_maintains :
    (recalibrate mailboxes timeouts).Maintains (Consistent requested portCount plls) := by
  intro before trace result after run consistent
  have visiting (unit : Nat) (record : Instance) :
      (recalibrateInstance mailboxes timeouts unit record).Maintains
        (Consistent requested portCount plls) := by
    unfold recalibrateInstance
    split
    · refine maintains_bind keeps_requireMailbox.maintains fun _ =>
        maintains_bind (maintains_forM fun _ _ => recalibrateInterface_keeps.maintains) fun _ => ?_
      exact maintains_modify fun _ consistent => consistent.mark
    · exact keeps_pure.maintains
  obtain ⟨_, _, results, middle, rfl, visited, closing⟩ | ⟨_, _, failed⟩ := performs_bind.1 run
  · have kept := maintains_forInstances visiting _ _ _ _ visited consistent
    obtain ⟨rfl, rfl, rfl⟩ := performs_modify.1 closing
    exact ⟨fun _ => (recalibrate_cases run).all_calibrated.2, kept.count, kept.portCount, kept.plls,
      kept.bounded, kept.small⟩
  · exact maintains_forInstances visiting _ _ _ _ failed consistent

/-- Each interface adds at most 255 gigabits. -/
theorem instanceSize_le {size : Nat} {interfaces : List Target}
    (run : (instanceSize unit interfaces).Performs before trace (.ok size) after) :
    size ≤ 255 * interfaces.length := by
  obtain ⟨_, _, _, total, rfl, asked, run₁⟩ := performs_bind_ok.1 run
  have bound := performs_foldlM (fun seen total _ _ => total ≤ 255 * seen.length) (Nat.zero_le _)
    (fun {seen target total next middle left first second} _ bound visit => by
      obtain ⟨_, _, _, answer, -, -, added⟩ := performs_bind_ok.1 visit
      obtain ⟨-, same, -⟩ := performs_pure.1 added
      cases same
      have low : (answer.data[1] &&& 0xFF).toNat ≤ 255 := by
        rw [BitVec.toNat_and]
        exact Nat.and_le_right
      rw [List.length_append, List.length_singleton, Subsystem.addGigabits]
      omega) asked
  dsimp only at run₁
  split at run₁
  · obtain ⟨_, _, _, _, -, -, run₂⟩ := performs_bind_ok.1 run₁
    obtain ⟨_, _, _, _, -, thrown, _⟩ := performs_bind_ok.1 run₂
    cases (performs_throw.1 thrown).2.1
  · obtain ⟨-, same, -⟩ := performs_pure.1 run₁
    cases same
    exact bound

/-- An instance with at most two interfaces has a small size, which may be recorded. -/
theorem measureInstance_maintains {interfaces : List Target} (few : interfaces.length ≤ 2) :
    (measureInstance mailboxes unit interfaces).Maintains
      (Consistent requested portCount plls) := by
  refine maintains_bind keeps_requireMailbox.maintains fun _ => ?_
  intro before trace result after run consistent
  obtain ⟨_, _, size, middle, -, asked, run₁⟩ | ⟨_, -, failed⟩ := performs_bind.1 run
  · have small : size ≤ 510 := (instanceSize_le asked).trans (by omega)
    have recorded : ∀ subsystem : Subsystem, Consistent requested portCount plls subsystem →
        Consistent requested portCount plls
          (subsystem.modifyInstance unit fun record => { record with gigabits := size }) :=
      fun subsystem consistent => consistent.modifyInstance
        (fun _ bounded => ⟨bounded.few, bounded.used, small⟩) fun _ marked => marked
    exact maintains_bind (maintains_modify recorded) (fun _ => keeps_pure.maintains) _ _ _ _ run₁
      (instanceSize_keeps.maintains _ _ _ _ asked consistent)
  · exact instanceSize_keeps.maintains _ _ _ _ failed consistent

theorem measureInstance_le {interfaces : List Target} {size : Nat} (few : interfaces.length ≤ 2)
    (run : (measureInstance mailboxes unit interfaces).Performs before trace (.ok size) after) :
    size ≤ 510 := by
  obtain ⟨_, _, _, _, -, -, run₁⟩ := performs_bind_ok.1 run
  obtain ⟨_, _, _, _, -, asked, run₂⟩ := performs_bind_ok.1 run₁
  obtain ⟨_, _, _, _, -, -, ended⟩ := performs_bind_ok.1 run₂
  obtain ⟨-, same, -⟩ := performs_pure.1 ended
  cases same
  exact (instanceSize_le asked).trans (by omega)

theorem measured_small {results : List Nat} (consistent : Consistent requested portCount plls before)
    (run : (forInstances fun unit record =>
      measureInstance mailboxes unit record.interfaces).Performs before trace (.ok results) after) :
    (∀ size ∈ results, size ≤ 510) ∧ results.length ≤ 2 := by
  have ⟨count, bound⟩ := performs_forInstances (fun seen _ _ => ∀ size ∈ seen, size ≤ 510) (by simp)
    (fun {seen record size middle left first second} found bound visit => by
      have few := (consistent.bounded record (List.mem_of_getElem? found)).few
      rw [List.forall_mem_append, List.forall_mem_singleton]
      exact ⟨bound, measureInstance_le few visit⟩) run
  refine ⟨bound, ?_⟩
  rw [count, consistent.count]
  exact Nat.min_le_right _ _

/-- Small sizes are added up without loss. -/
theorem foldl_addGigabits {sizes : List Nat} (small : ∀ size ∈ sizes, size ≤ 510) (start : Nat)
    (room : start + 510 * sizes.length ≤ 0xFFFF) :
    sizes.foldl Subsystem.addGigabits start = sizes.foldl (· + ·) start ∧
      sizes.foldl (· + ·) start ≤ start + 510 * sizes.length := by
  induction sizes generalizing start with
  | nil => exact ⟨rfl, Nat.le_refl _⟩
  | cons size rest ih =>
    obtain ⟨here, later⟩ := List.forall_mem_cons.1 small
    rw [List.length_cons] at room ⊢
    have exact : Subsystem.addGigabits start size = start + size := by
      rw [Subsystem.addGigabits]
      omega
    obtain ⟨same, bound⟩ := ih later (start + size) (by omega)
    rw [List.foldl_cons, List.foldl_cons, exact]
    exact ⟨same, by omega⟩

theorem readSizes_maintains :
    (readSizes mailboxes).Maintains (Consistent requested portCount plls) := by
  intro before trace result after run consistent
  have visiting {trace : Trace} {result : Except Error (List Nat)} {after : Subsystem}
      (run : (forInstances fun unit record =>
        measureInstance mailboxes unit record.interfaces).Performs before trace result after) :
      Consistent requested portCount plls after :=
    inv_forInstances (fun _ record found =>
      measureInstance_maintains (consistent.bounded record (List.mem_of_getElem? found)).few) run
      consistent
  obtain ⟨_, _, sizes, middle, -, visited, closing⟩ | ⟨_, -, failed⟩ := performs_bind.1 run
  · have kept := visiting visited
    have ⟨small, few⟩ := measured_small consistent visited
    have ⟨same, bound⟩ := foldl_addGigabits small 0 (by omega)
    dsimp only at closing
    split at closing
    · obtain ⟨_, _, _, _, -, thrown, -⟩ | ⟨_, -, thrown⟩ := performs_bind.1 closing
      · cases (performs_throw.1 thrown).2.1
      · obtain ⟨-, -, rfl⟩ := performs_throw.1 thrown
        exact kept
    · obtain ⟨-, -, rfl⟩ := performs_modify.1 closing
      have total : sizes.foldl Subsystem.addGigabits 0 ≤ 1020 := by
        rw [same]
        omega
      exact ⟨kept.calibrated, kept.count, kept.portCount, kept.plls, kept.bounded, total⟩
  · exact visiting failed

/-- Every call of an operation, also one that fails, keeps the bookkeeping consistent. -/
theorem Operation.maintains (operation : Operation) :
    operation.sequence.Maintains (Consistent requested portCount plls) := by
  cases operation with
  | awaitClock wait =>
    exact maintains_modify fun _ ⟨calibrated, count, ports, mask, bounded, small⟩ =>
      ⟨calibrated, count, ports, mask, bounded, small⟩
  | checkCalibration _ _ => exact checkCalibration_maintains
  | discoverInterfaces _ => exact discoverInterfaces_maintains
  | invalidateCalibration => exact maintains_modify fun _ => invalidateCalibration_consistent
  | recalibrate _ _ => exact recalibrate_maintains
  | readTechnology _ => exact readTechnology_maintains
  | readSizes _ => exact readSizes_maintains
  | readEcc _ => exact readEcc_maintains
  | initializeMemory _ _ => exact initializeMemory_keeps.maintains

theorem Reachable.consistent {subsystem : Subsystem}
    (reachable : Reachable requested portCount plls subsystem) :
    Consistent requested portCount plls subsystem := by
  induction reachable with
  | fresh => exact consistent_fresh
  | call operation _ run ih => exact operation.maintains _ _ _ _ run ih

section Exactness

/-- The size of an instance, added up with `add`. -/
def instanceSizeBy (add : Nat → Nat → Nat) (unit : Nat) (interfaces : List Target) :
    Sequence Nat := do
  let size ← interfaces.foldlM (fun size target => do
    let answer ← send unit { target := target, kind := .memoryInfo, opcode := .width }
    return add size (answer.data[1]?.getD 0 &&& 0xFF).toNat) 0
  if size = 0 then
    Program.log .error ("IOSSM: failed to get memory size of " ++ unitName unit)
    throw (.noMemorySize unit)
  return size

/-- Records the sizes, added up with `add`. -/
def readSizesBy (add : Nat → Nat → Nat) (mailboxes : Nat) : Sequence Unit := do
  let sizes ← forInstances fun unit record => do
    requireMailbox mailboxes unit
    let size ← instanceSizeBy add unit record.interfaces
    modifyInstance unit fun record => { record with gigabits := size }
    return size
  let total := sizes.foldl add 0
  if total = 0 then
    throw .noTotalSize
  modify fun subsystem => { subsystem with gigabits := total }

theorem readSizes_eq : readSizes = readSizesBy Subsystem.addGigabits := rfl

/-- A loop that adds up sizes of up to 255 gigabits may as well add them without a limit. -/
theorem foldlM_exact {rest : List Target} {total : Nat} (room : total + 255 * rest.length ≤ 0xFFFF) :
    rest.foldlM (fun size target => do
      let answer ← send unit { target := target, kind := .memoryInfo, opcode := .width }
      return Subsystem.addGigabits size (answer.data[1] &&& 0xFF).toNat : Nat → Target → Sequence Nat)
        total =
      rest.foldlM (fun size target => do
        let answer ← send unit { target := target, kind := .memoryInfo, opcode := .width }
        return size + (answer.data[1]?.getD 0 &&& 0xFF).toNat) total := by
  induction rest generalizing total with
  | nil => rfl
  | cons target rest ih =>
    rw [List.length_cons] at room
    simp only [List.foldlM_cons, bind_assoc, pure_bind]
    congr 1
    funext answer
    have word : answer.data[1] = answer.data[1]?.getD 0 := rfl
    have low : (answer.data[1]?.getD 0 &&& 0xFF).toNat ≤ 255 := by
      rw [BitVec.toNat_and]
      exact Nat.and_le_right
    have exact : Subsystem.addGigabits total (answer.data[1] &&& 0xFF).toNat =
        total + (answer.data[1]?.getD 0 &&& 0xFF).toNat := by
      rw [Subsystem.addGigabits, word]
      omega
    rw [exact]
    exact ih (by omega)

theorem instanceSize_exact {interfaces : List Target} (few : interfaces.length ≤ 2) :
    instanceSize unit interfaces = instanceSizeBy (· + ·) unit interfaces := by
  unfold instanceSize instanceSizeBy
  rw [foldlM_exact (by omega)]

/-- Visits that are the same for every recorded instance make the same of the bookkeeping. -/
theorem perform_forInstances_congr {α : Type} {visit visit' : Nat → Instance → Sequence α}
    (same : ∀ unit record, before.instances[unit]? = some record →
      visit unit record = visit' unit record) :
    (forInstances visit).perform before = (forInstances visit').perform before := by
  suffices ∀ items : List (Instance × Nat), (∀ item ∈ items, visit item.2 item.1 =
      visit' item.2 item.1) → (items.mapM fun item => visit item.2 item.1) =
        items.mapM fun item => visit' item.2 item.1 from
    congrArg (fun sequence => sequence.perform before) (this before.instances.zipIdx
      fun item member => same item.2 item.1 (List.mk_mem_zipIdx_iff_getElem?.1 member))
  intro items equal
  induction items with
  | nil => rfl
  | cons item rest ih =>
    have ⟨here, later⟩ := List.forall_mem_cons.1 equal
    rw [List.mapM_cons, List.mapM_cons, here, ih later]

/-- On consistent bookkeeping no sum of sizes comes to the largest size. -/
theorem readSizes_exact (consistent : Consistent requested portCount plls before) :
    (readSizes mailboxes).perform before = (readSizesBy (· + ·) mailboxes).perform before := by
  have visits : (forInstances fun unit record =>
      measureInstance mailboxes unit record.interfaces).perform before =
        (forInstances fun unit record => do
          requireMailbox mailboxes unit
          let size ← instanceSizeBy (· + ·) unit record.interfaces
          modifyInstance unit fun record => { record with gigabits := size }
          return size).perform before := by
    apply perform_forInstances_congr
    intro unit record found
    unfold measureInstance
    rw [instanceSize_exact (consistent.bounded record (List.mem_of_getElem? found)).few]
  rw [readSizes, readSizesBy, perform_bind, perform_bind, ← visits]
  apply Program.bind_congr
  intro (result, middle) yields
  cases result with
  | error _ => rfl
  | ok sizes =>
    have ⟨trace, visited⟩ := yields
    have ⟨small, few⟩ := measured_small consistent visited
    have ⟨same, _⟩ := foldl_addGigabits small 0 (by omega)
    dsimp only
    rw [same]

end Exactness

end BringUp.Iossm
