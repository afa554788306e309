import BringUp.Proofs.Iossm.Frame

/-! Sequences that come to a result. `sequence.Ends` says that no run of the sequence breaks off.
Each way to build a sequence has a rule. -/
namespace BringUp.Iossm.Sequence

variable {α β ι : Type} {sequence : Sequence α} {before : Subsystem} {trace : Trace}

/-- No run of the sequence breaks off. -/
def Ends (sequence : Sequence α) : Prop :=
  ∀ before, (sequence.perform before).Returns

theorem performs_of_returns {outcome : Option (Except Error α × Subsystem)}
    (run : Runs (sequence.perform before) trace outcome) (h : (sequence.perform before).Returns) :
    ∃ result after, outcome = some (result, after) ∧ sequence.Performs before trace result after := by
  obtain ⟨⟨result, after⟩, rfl⟩ := run.returned h
  exact ⟨result, after, rfl, run⟩

theorem returns_perform_bind {f : α → Sequence β} (first : (sequence.perform before).Returns)
    (rest : ∀ value, (f value).Ends) : ((sequence >>= f).perform before).Returns := by
  rw [perform_bind]
  refine Program.returns_bind first fun (result, middle) => ?_
  cases result with
  | ok value => exact rest value middle
  | error _ => trivial

theorem ends_bind {f : α → Sequence β} (first : sequence.Ends) (rest : ∀ value, (f value).Ends) :
    (sequence >>= f).Ends :=
  fun before => returns_perform_bind (first before) rest

theorem ends_pure {value : α} : (pure value : Sequence α).Ends := fun _ => trivial

theorem ends_throw {cause : Error} : (throw cause : Sequence α).Ends := fun _ => trivial

theorem ends_get : (get : Sequence Subsystem).Ends := fun _ => trivial

theorem ends_modify {change : Subsystem → Subsystem} : (modify change : Sequence Unit).Ends :=
  fun _ => trivial

theorem ends_program {program : Program α} (h : program.Returns) :
    (liftM program : Sequence α).Ends := by
  intro before
  rw [perform_program]
  exact Program.returns_bind h fun _ => trivial

theorem ends_log {level : Level} {text : String} :
    (liftM (Program.log level text) : Sequence Unit).Ends :=
  ends_program fun _ => trivial

theorem ends_send {unit : Nat} {command : Command} : (send unit command).Ends := by
  intro before
  rw [perform_send]
  intro answer
  cases answer <;> trivial

theorem ends_requireMailbox {mailboxes unit : Nat} : (requireMailbox mailboxes unit).Ends := by
  unfold requireMailbox
  split
  · exact ends_pure
  · exact ends_throw

theorem ends_foldlM {items : List ι} {visit : β → ι → Sequence β}
    (h : ∀ state, ∀ item ∈ items, (visit state item).Ends) {start : β} :
    (items.foldlM visit start).Ends := by
  induction items generalizing start with
  | nil => exact ends_pure
  | cons item rest ih =>
    exact ends_bind (h start item List.mem_cons_self) fun _ =>
      ih fun state item member => h state item (List.mem_cons_of_mem _ member)

theorem ends_forM {items : List ι} {visit : ι → Sequence Unit}
    (h : ∀ item ∈ items, (visit item).Ends) : (items.forM visit).Ends := by
  rw [forM_eq_foldlM]
  exact ends_foldlM fun _ => h

theorem ends_mapM {items : List ι} {visit : ι → Sequence α}
    (h : ∀ item ∈ items, (visit item).Ends) : (items.mapM visit).Ends := by
  induction items with
  | nil => exact ends_pure
  | cons item rest ih =>
    rw [List.mapM_cons]
    exact ends_bind (h item List.mem_cons_self) fun _ =>
      ends_bind (ih fun item member => h item (List.mem_cons_of_mem _ member)) fun _ => ends_pure

theorem returns_forInstances {visit : Nat → Instance → Sequence α}
    (h : ∀ unit record, before.instances[unit]? = some record → (visit unit record).Ends) :
    ((forInstances visit).perform before).Returns := by
  have visits : (before.instances.zipIdx.mapM fun item => visit item.2 item.1).Ends :=
    ends_mapM fun item member => h item.2 item.1 (List.mk_mem_zipIdx_iff_getElem?.1 member)
  exact visits before

theorem ends_forInstances {visit : Nat → Instance → Sequence α}
    (h : ∀ unit record, (visit unit record).Ends) : (forInstances visit).Ends :=
  fun _ => returns_forInstances fun unit record _ => h unit record

end BringUp.Iossm.Sequence
