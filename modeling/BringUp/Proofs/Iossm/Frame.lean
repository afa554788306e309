import BringUp.Iossm.Calibration
import BringUp.Iossm.Inventory
import BringUp.Proofs.Iossm.Performs

/-! What sequences leave alone in the bookkeeping: `sequence.Maintains inv` for an invariant, and
`sequence.Keeps view` for a part that no run changes, not even one that fails. -/
namespace BringUp.Iossm

/-- The recorded interfaces of each instance. -/
def Subsystem.targets (subsystem : Subsystem) : List (List Target) :=
  subsystem.instances.map Instance.interfaces

theorem Subsystem.targets_modifyInstance {subsystem : Subsystem} {index : Nat}
    {change : Instance → Instance} (h : ∀ record, (change record).interfaces = record.interfaces) :
    (subsystem.modifyInstance index change).targets = subsystem.targets := by
  apply List.ext_getElem?
  intro i
  simp only [targets, modifyInstance, List.getElem?_map, List.getElem?_modify]
  cases subsystem.instances[i]? <;> simp [apply_ite, h]

theorem Subsystem.targets_invalidateCalibration (subsystem : Subsystem) :
    subsystem.invalidateCalibration.targets = subsystem.targets := by
  simp [targets, invalidateCalibration]

namespace Sequence

variable {α β γ ι : Type} {view : Subsystem → γ} {inv : Subsystem → Prop} {sequence : Sequence α}

/-- Every run of the sequence leads from bookkeeping that satisfies the invariant to such. -/
def Maintains (inv : Subsystem → Prop) (sequence : Sequence α) : Prop :=
  ∀ before trace result after, sequence.Performs before trace result after → inv before → inv after

/-- No run of the sequence changes this part of the bookkeeping. -/
def Keeps (view : Subsystem → γ) (sequence : Sequence α) : Prop :=
  ∀ before trace result after, sequence.Performs before trace result after →
    view after = view before

/-- To keep a part of the bookkeeping is to maintain each of its values. -/
theorem keeps_iff_maintains :
    sequence.Keeps view ↔ ∀ value, sequence.Maintains fun subsystem => view subsystem = value := by
  constructor
  · exact fun keeps _ before trace result after run same =>
      (keeps before trace result after run).trans same
  · exact fun maintains before trace result after run =>
      maintains _ before trace result after run rfl

theorem Keeps.maintains (keeps : sequence.Keeps id) : sequence.Maintains inv := by
  intro before trace result after run holds
  have same : after = before := keeps before trace result after run
  exact same ▸ holds

theorem maintains_modify {change : Subsystem → Subsystem}
    (h : ∀ subsystem, inv subsystem → inv (change subsystem)) :
    (modify change : Sequence Unit).Maintains inv := by
  intro before trace result after run
  obtain ⟨-, -, rfl⟩ := performs_modify.1 run
  exact h before

theorem maintains_bind {f : α → Sequence β} (first : sequence.Maintains inv)
    (rest : ∀ value, (f value).Maintains inv) : (sequence >>= f).Maintains inv := by
  intro before trace result after run holds
  obtain ⟨_, _, value, _, _, hs, hf⟩ | ⟨_, _, hs⟩ := performs_bind.1 run
  · exact rest value _ _ _ _ hf (first _ _ _ _ hs holds)
  · exact first _ _ _ _ hs holds

theorem maintains_forM {items : List ι} {visit : ι → Sequence Unit}
    (h : ∀ item ∈ items, (visit item).Maintains inv) : (items.forM visit).Maintains inv := by
  intro before trace result after run holds
  obtain ⟨-, kept⟩ | ⟨_, _, item, _, _, _, _, -, split, -, kept, failed⟩ :=
    performs_forM_cases (fun _ middle _ => inv middle) holds
      (fun member kept visit => h _ member _ _ _ _ visit kept) run
  · exact kept
  · exact h item (by simp [split]) _ _ _ _ failed kept

theorem maintains_foldlM {items : List ι} {visit : β → ι → Sequence β} {start : β}
    (h : ∀ state, ∀ item ∈ items, (visit state item).Maintains inv) :
    (items.foldlM visit start).Maintains inv := by
  intro before trace result after run holds
  obtain ⟨_, -, kept⟩ | ⟨_, _, item, _, _, _, _, _, -, split, -, kept, failed⟩ :=
    performs_foldlM_cases (fun _ _ middle _ => inv middle) holds
      (fun member kept visit => h _ _ member _ _ _ _ visit kept) run
  · exact kept
  · exact h _ item (by simp [split]) _ _ _ _ failed kept

theorem inv_forInstances {visit : Nat → Instance → Sequence α} {before after : Subsystem}
    {trace : Trace} {result : Except Error (List α)}
    (h : ∀ unit record, before.instances[unit]? = some record → (visit unit record).Maintains inv)
    (run : (forInstances visit).Performs before trace result after) (holds : inv before) :
    inv after := by
  obtain ⟨_, -, -, kept⟩ | ⟨_, _, _, _, _, _, -, -, found, kept, failed⟩ :=
    performs_forInstances_cases (fun _ middle _ => inv middle) holds
      (fun found kept visit => h _ _ found _ _ _ _ visit kept) run
  · exact kept
  · exact h _ _ found _ _ _ _ failed kept

theorem maintains_forInstances {visit : Nat → Instance → Sequence α}
    (h : ∀ unit record, (visit unit record).Maintains inv) : (forInstances visit).Maintains inv :=
  fun _ _ _ _ run => inv_forInstances (fun unit record _ => h unit record) run

theorem keeps_pure {value : α} : (pure value : Sequence α).Keeps view :=
  fun _ _ _ _ run => congrArg view (performs_pure.1 run).2.2

theorem keeps_throw {cause : Error} : (throw cause : Sequence α).Keeps view :=
  fun _ _ _ _ run => congrArg view (performs_throw.1 run).2.2

theorem keeps_get : (get : Sequence Subsystem).Keeps view :=
  fun _ _ _ _ run => congrArg view (performs_get.1 run).2.2

theorem keeps_modify {change : Subsystem → Subsystem}
    (h : ∀ subsystem, view (change subsystem) = view subsystem) :
    (modify change : Sequence Unit).Keeps view :=
  keeps_iff_maintains.2 fun _ => maintains_modify fun subsystem same => (h subsystem).trans same

theorem keeps_program {program : Program α} : (liftM program : Sequence α).Keeps view := by
  intro before trace result after run
  obtain ⟨_, _, _, rfl⟩ := performs_program.1 run
  rfl

theorem keeps_send {unit : Nat} {command : Command} : (send unit command).Keeps view := by
  intro before trace result after run
  obtain ⟨_, _, rfl, _⟩ := performs_send.1 run
  rfl

theorem keeps_requireMailbox {mailboxes unit : Nat} :
    (requireMailbox mailboxes unit).Keeps view :=
  fun _ _ _ _ run => congrArg view (performs_requireMailbox.1 run).2.1

theorem keeps_bind {f : α → Sequence β} (first : sequence.Keeps view)
    (rest : ∀ value, (f value).Keeps view) : (sequence >>= f).Keeps view :=
  keeps_iff_maintains.2 fun value => maintains_bind (keeps_iff_maintains.1 first value)
    fun next => keeps_iff_maintains.1 (rest next) value

theorem keeps_forM {items : List ι} {visit : ι → Sequence Unit}
    (h : ∀ item, (visit item).Keeps view) : (items.forM visit).Keeps view :=
  keeps_iff_maintains.2 fun value => maintains_forM fun item _ =>
    keeps_iff_maintains.1 (h item) value

theorem keeps_foldlM {items : List ι} {visit : β → ι → Sequence β} {start : β}
    (h : ∀ state item, (visit state item).Keeps view) :
    (items.foldlM visit start).Keeps view :=
  keeps_iff_maintains.2 fun value => maintains_foldlM fun state item _ =>
    keeps_iff_maintains.1 (h state item) value

theorem keeps_forInstances {visit : Nat → Instance → Sequence α}
    (h : ∀ unit record, (visit unit record).Keeps view) : (forInstances visit).Keeps view :=
  keeps_iff_maintains.2 fun value => maintains_forInstances fun unit record =>
    keeps_iff_maintains.1 (h unit record) value

end Sequence

open Sequence

variable {mailboxes : Nat} {γ : Type} {view : Subsystem → γ}

/-- Calibrating an interface changes nothing in the bookkeeping. -/
theorem recalibrateInterface_keeps {timeouts : Timeouts} {unit position : Nat} {target : Target} :
    (recalibrateInterface timeouts unit position target).Keeps view := by
  have status : (interfaceStatus unit position).Keeps view := by
    refine keeps_bind keeps_send fun answer => ?_
    split
    · exact keeps_pure
    · exact keeps_program
  refine keeps_bind status fun found => ?_
  generalize maxRetries = left
  induction left generalizing found with
  | zero =>
    unfold recalibrateInterface.go
    split
    · exact keeps_pure
    · exact keeps_bind keeps_program fun _ => keeps_throw
  | succ left ih =>
    unfold recalibrateInterface.go
    split
    · exact keeps_pure
    · refine keeps_bind keeps_program fun _ => keeps_bind keeps_send fun _ => ?_
      refine keeps_bind keeps_program fun _ => ?_
      split
      · exact keeps_bind keeps_program fun _ => keeps_bind status ih
      · exact keeps_bind status ih

/-- The check of an instance changes nothing but that it may mark the instance. -/
theorem checkInstance_maintains {inv : Subsystem → Prop} {awaitClock : Bool} {timeouts : Timeouts}
    {unit : Nat} (mark : ∀ subsystem : Subsystem, inv subsystem →
      inv (subsystem.modifyInstance unit fun record => { record with calibrated := true })) :
    (checkInstance awaitClock timeouts unit).Maintains inv := by
  unfold checkInstance
  extract_lets check
  have look : ∀ r, (check r).Maintains inv := by
    intro r
    refine maintains_bind keeps_program.maintains fun _ =>
      maintains_bind keeps_program.maintains fun _ => ?_
    split
    · exact maintains_bind (maintains_modify mark) fun _ => keeps_pure.maintains
    · exact maintains_bind keeps_program.maintains fun _ => keeps_pure.maintains
  split
  · refine maintains_bind keeps_program.maintains fun _ => ?_
    split
    · exact maintains_bind keeps_program.maintains fun _ =>
        maintains_bind keeps_throw.maintains look
    · exact look ()
  · exact look ()

theorem checkInstance_keeps_targets {awaitClock : Bool} {timeouts : Timeouts} {unit : Nat} :
    (checkInstance awaitClock timeouts unit).Keeps Subsystem.targets :=
  keeps_iff_maintains.2 fun _ => checkInstance_maintains fun _ same =>
    Eq.trans (Subsystem.targets_modifyInstance fun _ => rfl) same

theorem checkCalibration_keeps_targets {timeouts : Timeouts} :
    (checkCalibration mailboxes timeouts).Keeps Subsystem.targets := by
  refine keeps_bind (keeps_modify fun _ => rfl) fun _ => keeps_bind keeps_get fun _ =>
    keeps_bind (keeps_forInstances fun _ _ => ?_) fun _ => ?_
  · exact keeps_bind keeps_requireMailbox fun _ => checkInstance_keeps_targets
  · split
    · exact keeps_modify fun _ => rfl
    · exact keeps_pure

theorem recalibrate_keeps_targets {timeouts : Timeouts} :
    (recalibrate mailboxes timeouts).Keeps Subsystem.targets := by
  refine keeps_bind (keeps_forInstances fun _ record => ?_) fun _ => keeps_modify fun _ => rfl
  split
  · refine keeps_bind keeps_requireMailbox fun _ => ?_
    refine keeps_bind (keeps_forM fun _ => recalibrateInterface_keeps) fun _ => ?_
    exact keeps_modify fun _ => Subsystem.targets_modifyInstance fun _ => rfl
  · exact keeps_pure

theorem readTechnology_keeps_targets : (readTechnology mailboxes).Keeps Subsystem.targets := by
  refine keeps_bind (keeps_modify fun _ => rfl) fun _ =>
    keeps_bind (keeps_forInstances fun _ _ => ?_) fun _ => keeps_pure
  refine keeps_bind keeps_requireMailbox fun _ => keeps_forM fun _ => ?_
  refine keeps_bind keeps_send fun _ => keeps_bind keeps_get fun _ => ?_
  dsimp only
  split
  · exact keeps_modify fun _ => rfl
  · split
    · exact keeps_bind keeps_program fun _ => keeps_throw
    · exact keeps_pure

theorem instanceSize_keeps {unit : Nat} {interfaces : List Target} :
    (instanceSize unit interfaces).Keeps view := by
  refine keeps_bind (keeps_foldlM fun _ _ => keeps_bind keeps_send fun _ => keeps_pure) fun _ => ?_
  dsimp only
  split
  · exact keeps_bind keeps_program fun _ => keeps_bind keeps_throw fun _ => keeps_pure
  · exact keeps_pure

theorem readSizes_keeps_targets : (readSizes mailboxes).Keeps Subsystem.targets := by
  refine keeps_bind (keeps_forInstances fun _ _ => ?_) fun _ => ?_
  · refine keeps_bind keeps_requireMailbox fun _ => keeps_bind instanceSize_keeps fun _ =>
      keeps_bind (keeps_modify fun _ => Subsystem.targets_modifyInstance fun _ => rfl) fun _ =>
        keeps_pure
  · dsimp only
    split
    · exact keeps_bind keeps_throw fun _ => keeps_modify fun _ => rfl
    · exact keeps_modify fun _ => rfl

/-- Asking the interfaces of an instance for their error correction changes nothing in the
bookkeeping. -/
theorem agreeOnEcc_keeps {unit : Nat} {interfaces : List Target} {common : Option Bool} :
    (agreeOnEcc unit interfaces common).Keeps view := by
  refine keeps_foldlM fun common _ => keeps_bind keeps_send fun _ => ?_
  cases common with
  | none => exact keeps_pure
  | some agreed =>
    dsimp only
    split
    · exact keeps_bind keeps_program fun _ => keeps_bind keeps_throw fun _ => keeps_pure
    · exact keeps_pure

end BringUp.Iossm
