import BringUp.Proofs.Iossm.Bookkeeping
import BringUp.Proofs.Iossm.Completion
import BringUp.Proofs.Iossm.Inventory
import BringUp.Proofs.Iossm.Replies

/-! The sizes of the memory. Main statement: the inquiry succeeds exactly if every instance has a
size, and else stops at the first one that has none. No sum is cut off. -/
namespace BringUp.Iossm

open Sequence

/-- The size that an answer reports. -/
def Answer.gigabits (answer : Answer) : Nat := (answer.data[1]?.getD 0 &&& 0xFF).toNat

/-- The question for the size of an interface. -/
def widthCommand (target : Target) : Command :=
  { target := target, kind := .memoryInfo, opcode := .width }

theorem Answer.gigabits_le (answer : Answer) : answer.gigabits ≤ 255 := by
  rw [gigabits, BitVec.toNat_and]
  exact Nat.and_le_right

section Answers

variable {answers : List Answer} {size other : Nat} {own : List (Except MailboxError Answer)}
  {told : List (List (Except MailboxError Answer))}

/-- All interfaces of an instance answer, and the sizes that they report add up to this one. -/
def Measured (own : List (Except MailboxError Answer)) (size : Nat) : Prop :=
  ∃ answers : List Answer, own = answers.map .ok ∧ size = (answers.map Answer.gigabits).sum

/-- The instance has a size. -/
def Sized (own : List (Except MailboxError Answer)) : Prop := ∃ size ≠ 0, Measured own size

/-- An interface of the instance fails to answer, the others before it do not. -/
def Silent (own : List (Except MailboxError Answer)) (failure : MailboxError) : Prop :=
  ∃ (answers : List Answer) (rest : List (Except MailboxError Answer)),
    own = answers.map .ok ++ .error failure :: rest

/-- The instance is the first one that has no size. -/
def FirstUnsized (told : List (List (Except MailboxError Answer))) (unit : Nat)
    (own : List (Except MailboxError Answer)) : Prop :=
  ¬ Sized own ∧ ∃ earlier later, told = earlier ++ own :: later ∧ earlier.length = unit ∧
    ∀ other ∈ earlier, Sized other

theorem Measured.unique (measured : Measured own size) (again : Measured own other) :
    size = other := by
  obtain ⟨answers, rfl, rfl⟩ := measured
  obtain ⟨others, same, rfl⟩ := again
  obtain rfl := List.map_injective_iff.2 (fun _ _ => Except.ok.inj) same
  rfl

theorem Measured.le (measured : Measured own size) : size ≤ 255 * own.length := by
  obtain ⟨answers, rfl, rfl⟩ := measured
  induction answers with
  | nil => exact Nat.zero_le _
  | cons answer rest ih =>
    have here := answer.gigabits_le
    simp only [List.map_cons, List.sum_cons, List.length_cons, Nat.mul_add] at ih ⊢
    omega

theorem Silent.not_measured {failure : MailboxError} (silent : Silent own failure) :
    ¬ Measured own size := by
  obtain ⟨answers, rest, rfl⟩ := silent
  rintro ⟨others, same, -⟩
  have member : .error failure ∈ others.map Except.ok := same ▸ by simp
  obtain ⟨_, -, same⟩ := List.mem_map.1 member
  cases same

theorem measured_or_silent (own : List (Except MailboxError Answer)) :
    (∃ size, Measured own size) ∨ ∃ failure, Silent own failure := by
  induction own with
  | nil => exact .inl ⟨0, [], rfl, rfl⟩
  | cons reply rest ih =>
    cases reply with
    | error failure => exact .inr ⟨failure, [], rest, rfl⟩
    | ok answer =>
      obtain ⟨_, answers, rfl, rfl⟩ | ⟨failure, answers, later, rfl⟩ := ih
      · exact .inl ⟨_, answer :: answers, rfl, rfl⟩
      · exact .inr ⟨failure, answer :: answers, later, rfl⟩

theorem not_sized_iff : ¬ Sized own ↔ Measured own 0 ∨ ∃ failure, Silent own failure := by
  constructor
  · intro none
    obtain ⟨size, measured⟩ | silent := measured_or_silent own
    · obtain rfl : size = 0 := by_contra fun some => none ⟨size, some, measured⟩
      exact .inl measured
    · exact .inr silent
  · rintro (empty | ⟨failure, silent⟩) ⟨size, some, measured⟩
    · exact some (measured.unique empty)
    · exact silent.not_measured measured

theorem sized_or_firstUnsized (told : List (List (Except MailboxError Answer))) :
    (∀ own ∈ told, Sized own) ∨ ∃ unit own, FirstUnsized told unit own := by
  induction told with
  | nil => exact .inl fun _ member => by cases member
  | cons own rest ih =>
    by_cases here : Sized own
    · obtain all | ⟨unit, other, unsized, earlier, later, rfl, rfl, before⟩ := ih
      · exact .inl (List.forall_mem_cons.2 ⟨here, all⟩)
      · exact .inr ⟨_, other, unsized, own :: earlier, later, rfl, rfl,
          List.forall_mem_cons.2 ⟨here, before⟩⟩
    · exact .inr ⟨0, own, here, [], rest, rfl, rfl, fun _ member => by cases member⟩

theorem exists_sizes (all : ∀ own ∈ told, Sized own) :
    ∃ sizes, List.Forall₂ Measured told sizes ∧ ∀ size ∈ sizes, size ≠ 0 := by
  induction told with
  | nil => exact ⟨[], .nil, fun _ member => by cases member⟩
  | cons own rest ih =>
    obtain ⟨⟨size, some, measured⟩, later⟩ := List.forall_mem_cons.1 all
    obtain ⟨sizes, others, nonzero⟩ := ih later
    exact ⟨size :: sizes, .cons measured others, List.forall_mem_cons.2 ⟨some, nonzero⟩⟩

end Answers

section Instances

variable {mailboxes unit size start : Nat} {before after : Subsystem} {interfaces : List Target}
  {answers : List Answer} {own : List (Except MailboxError Answer)} {asked : List Request}
  {cause : Error} {failure : MailboxError}

/-- The part of the inquiry that is about one interface. -/
def addWidth (unit size : Nat) (target : Target) : Sequence Nat := do
  let answer ← send unit (widthCommand target)
  return Subsystem.addGigabits size answer.gigabits

theorem instanceSize_eq : instanceSize unit interfaces = (do
    let size ← interfaces.foldlM (addWidth unit) 0
    if size = 0 then
      Program.log .error ("IOSSM: failed to get memory size of " ++ unitName unit)
      throw (.noMemorySize unit)
    return size) := rfl

/-- Sizes of up to 255 gigabits are added up without loss, as long as there are not too many. -/
theorem comesTo_addWidths (unit start : Nat) (before : Subsystem)
    (count : interfaces.length = answers.length)
    (room : start + 255 * answers.length ≤ 0xFFFF) :
    ComesTo (interfaces.foldlM (addWidth unit) start) before
      (dialogue widthCommand (interfaces.map (unit, ·)) (answers.map .ok))
      (.ok (start + (answers.map Answer.gigabits).sum)) before := by
  induction answers generalizing interfaces start with
  | nil =>
    obtain rfl := List.length_eq_zero_iff.1 count
    exact comesTo_pure
  | cons answer rest ih =>
    obtain ⟨target, others, rfl⟩ := List.exists_cons_of_length_eq_add_one count
    rw [List.length_cons] at room
    have small := answer.gigabits_le
    have exact : Subsystem.addGigabits start answer.gigabits = start + answer.gigabits := by
      rw [Subsystem.addGigabits]
      omega
    rw [List.map_cons (f := Answer.gigabits), List.sum_cons, ← Nat.add_assoc]
    have added : ComesTo (addWidth unit start target) before
        [(unit, widthCommand target, .ok answer)] (.ok (start + answer.gigabits)) before := by
      rw [← exact]
      exact comesTo_send_ok comesTo_pure
    exact comesTo_bind added (ih _ (Nat.succ.inj count) (by omega))

theorem comesTo_instanceSize (unit : Nat) (before : Subsystem) (few : interfaces.length ≤ 2)
    (count : interfaces.length = own.length) (measured : Measured own size) :
    ComesTo (instanceSize unit interfaces) before
      (dialogue widthCommand (interfaces.map (unit, ·)) own)
      (if size = 0 then .error (.noMemorySize unit) else .ok size) before := by
  obtain ⟨answers, rfl, rfl⟩ := measured
  rw [List.length_map] at count
  have summed := comesTo_addWidths unit 0 before count (by omega)
  rw [Nat.zero_add] at summed
  rw [instanceSize_eq, ← List.append_nil (dialogue _ _ _)]
  refine comesTo_bind summed ?_
  split
  · exact comesTo_quiet_bind comesTo_log (comesTo_bind_error comesTo_throw)
  · exact comesTo_pure

/-- An interface that does not answer is the last one that is asked. -/
theorem comesTo_instanceSize_silent (few : interfaces.length ≤ 2)
    (count : interfaces.length = own.length) (silent : Silent own failure) :
    ∃ asked, asked <+: dialogue widthCommand (interfaces.map (unit, ·)) own ∧
      ComesTo (instanceSize unit interfaces) before asked (.error (.mailbox unit failure))
        before := by
  obtain ⟨answers, rest, rfl⟩ := silent
  obtain ⟨seen, target, others, rfl, size, -⟩ := exists_cut count
  rw [List.length_map] at size
  rw [List.length_append] at few
  have summed := comesTo_addWidths unit 0 before size (by omega)
  refine ⟨_, ?_, comesTo_bind_error (comesTo_foldlM_stop summed comesTo_send_error)⟩
  rw [List.map_append]
  exact dialogue_upTo (by simpa using size)

theorem comesTo_measureInstance (present : unit < mailboxes)
    (measured : ComesTo (instanceSize unit interfaces) before asked (.ok size) before) :
    ComesTo (measureInstance mailboxes unit interfaces) before asked (.ok size)
      (before.modifyInstance unit fun record => { record with gigabits := size }) := by
  rw [← List.append_nil asked]
  exact comesTo_quiet_bind (comesTo_requireMailbox present)
    (comesTo_bind measured (comesTo_quiet_bind comesTo_modify comesTo_pure))

theorem comesTo_measureInstance_error (present : unit < mailboxes)
    (failed : ComesTo (instanceSize unit interfaces) before asked (.error cause) before) :
    ComesTo (measureInstance mailboxes unit interfaces) before asked (.error cause) before :=
  comesTo_quiet_bind (comesTo_requireMailbox present) (comesTo_bind_error failed)

end Instances

section Recording

variable {sizes : List Nat} {size index : Nat} {subsystem : Subsystem}

/-- Gives these sizes to the first instances. The others keep theirs. -/
def Subsystem.recordSizes (sizes : List Nat) (subsystem : Subsystem) : Subsystem :=
  { subsystem with
    instances := subsystem.instances.mapIdx fun index record =>
      { record with gigabits := (sizes[index]?).getD record.gigabits } }

theorem Subsystem.getElem?_recordSizes (outside : sizes.length ≤ index) :
    (subsystem.recordSizes sizes).instances[index]? = subsystem.instances[index]? := by
  rw [recordSizes, List.getElem?_mapIdx]
  cases subsystem.instances[index]? with
  | none => rfl
  | some record => simp [outside]

theorem Subsystem.recordSizes_nil : subsystem.recordSizes [] = subsystem := by
  have instances : (subsystem.recordSizes []).instances = subsystem.instances :=
    List.ext_getElem? fun index => getElem?_recordSizes (Nat.zero_le index)
  calc subsystem.recordSizes []
      = { subsystem with instances := (subsystem.recordSizes []).instances } := rfl
    _ = subsystem := by rw [instances]

/-- Recording one more size. -/
theorem Subsystem.modifyInstance_recordSizes :
    (subsystem.recordSizes sizes).modifyInstance sizes.length
      (fun record => { record with gigabits := size }) =
        subsystem.recordSizes (sizes ++ [size]) := by
  have instances : ((subsystem.recordSizes sizes).modifyInstance sizes.length
      fun record => { record with gigabits := size }).instances =
        (subsystem.recordSizes (sizes ++ [size])).instances := by
    apply List.ext_getElem?
    intro index
    simp only [modifyInstance, recordSizes, List.getElem?_modify, List.getElem?_mapIdx,
      List.getElem?_append]
    cases subsystem.instances[index]? with
    | none => simp
    | some record =>
      obtain before | rfl | behind := Nat.lt_trichotomy index sizes.length
      · simp [before, Nat.ne_of_gt before]
      · simp
      · simp [Nat.not_lt_of_gt behind, Nat.ne_of_lt behind,
          Nat.sub_ne_zero_of_lt behind]
  calc (subsystem.recordSizes sizes).modifyInstance sizes.length
        (fun record => { record with gigabits := size })
      = { subsystem with instances := ((subsystem.recordSizes sizes).modifyInstance sizes.length
          fun record => { record with gigabits := size }).instances } := rfl
    _ = subsystem.recordSizes (sizes ++ [size]) := by rw [instances]; rfl

end Recording

section Inquiry

variable {mailboxes unit : Nat} {before after : Subsystem} {records : List Instance}
  {sizes done : List Nat} {own : List (Except MailboxError Answer)} {cause : Error}
  {told : List (List (Except MailboxError Answer))}

/-- At most two instances of at most two interfaces, and a mailbox for every instance. -/
structure Equipped (mailboxes : Nat) (subsystem : Subsystem) : Prop where
  two : subsystem.instances.length ≤ 2
  few : ∀ record ∈ subsystem.instances, record.interfaces.length ≤ 2
  present : subsystem.instances.length ≤ mailboxes

/-- The interfaces of these instances, the first of which has this index. -/
def placesFrom (index : Nat) (records : List Instance) : List (Nat × Target) :=
  (records.zipIdx index).flatMap fun visit => visit.1.interfaces.map (visit.2, ·)

/-- Every interface has an answer. -/
def Answered (records : List Instance) (told : List (List (Except MailboxError Answer))) : Prop :=
  told.map List.length = records.map fun record => record.interfaces.length

/-- Instances with sizes are measured one after the other. -/
theorem comesTo_measureInstances (before : Subsystem) (done : List Nat)
    (few : ∀ record ∈ records, record.interfaces.length ≤ 2)
    (present : done.length + records.length ≤ mailboxes) (answered : Answered records told)
    (measured : List.Forall₂ Measured told sizes) (nonzero : ∀ size ∈ sizes, size ≠ 0) :
    ComesTo ((records.zipIdx done.length).mapM fun visit =>
        measureInstance mailboxes visit.2 visit.1.interfaces) (before.recordSizes done)
      (dialogue widthCommand (placesFrom done.length records) told.flatten) (.ok sizes)
      (before.recordSizes (done ++ sizes)) := by
  -- The sizes of the instances before these are recorded already.
  induction measured generalizing records done with
  | nil =>
    obtain rfl := List.map_eq_nil_iff.1 answered.symm
    rw [List.append_nil]
    exact comesTo_pure
  | @cons own size told sizes here _ ih =>
    obtain ⟨record, rest, rfl, width, others⟩ := List.map_eq_cons_iff.1 answered.symm
    obtain ⟨fewHere, fewLater⟩ := List.forall_mem_cons.1 few
    obtain ⟨some, nonzero⟩ := List.forall_mem_cons.1 nonzero
    rw [List.length_cons] at present
    have sized := comesTo_instanceSize done.length (before.recordSizes done) fewHere width here
    rw [if_neg some] at sized
    have recorded := comesTo_measureInstance (show done.length < mailboxes by omega) sized
    rw [Subsystem.modifyInstance_recordSizes] at recorded
    have later := @ih rest (done ++ [size]) fewLater (by simp; omega) others.symm nonzero
    rw [List.length_append, List.length_singleton, List.append_assoc] at later
    rw [placesFrom, List.zipIdx_cons, List.flatMap_cons, List.flatten_cons,
      dialogue_append (by simpa using width)]
    exact comesTo_mapM_cons recorded later

theorem placesFrom_append {index : Nat} {first second : List Instance} :
    placesFrom index (first ++ second) =
      placesFrom index first ++ placesFrom (index + first.length) second := by
  rw [placesFrom, List.zipIdx_append, List.flatMap_append]
  rfl

theorem length_placesFrom_eq {index : Nat} : (placesFrom index records).length =
    (records.map fun record => record.interfaces.length).sum := by
  have widths : ((records.zipIdx index).map fun visit =>
      (visit.1.interfaces.map (visit.2, ·)).length) =
        ((records.zipIdx index).map Prod.fst).map fun record => record.interfaces.length := by
    rw [List.map_map]
    exact List.map_congr_left fun visit _ => List.length_map _
  rw [placesFrom, List.length_flatMap, widths, List.zipIdx_map_fst]

theorem length_placesFrom (answered : Answered records told) {index : Nat} :
    (placesFrom index records).length = told.flatten.length := by
  rw [length_placesFrom_eq, List.length_flatten, answered]

/-- Any answers can be grouped by instance. -/
theorem exists_answered (records : List Instance) {all : List (Except MailboxError Answer)}
    (count : all.length = (records.map fun record => record.interfaces.length).sum) :
    ∃ told, Answered records told ∧ told.flatten = all := by
  induction records generalizing all with
  | nil => exact ⟨[], rfl, (List.length_eq_zero_iff.1 count).symm⟩
  | cons record rest ih =>
    rw [List.map_cons, List.sum_cons] at count
    obtain ⟨told, answered, whole⟩ := @ih (all.drop record.interfaces.length)
      (by rw [List.length_drop]; omega)
    have here : (all.take record.interfaces.length).length = record.interfaces.length :=
      List.length_take_of_le (by omega)
    refine ⟨all.take record.interfaces.length :: told, congr (congrArg List.cons here) answered, ?_⟩
    rw [List.flatten_cons, whole, List.take_append_drop]

theorem measured_le (answered : Answered records told)
    (few : ∀ record ∈ records, record.interfaces.length ≤ 2)
    (measured : List.Forall₂ Measured told sizes) : ∀ size ∈ sizes, size ≤ 510 := by
  induction measured generalizing records with
  | nil => exact fun _ member => by cases member
  | @cons own size told sizes here _ ih =>
    obtain ⟨record, rest, rfl, width, others⟩ := List.map_eq_cons_iff.1 answered.symm
    obtain ⟨fewHere, fewLater⟩ := List.forall_mem_cons.1 few
    have small := here.le
    exact List.forall_mem_cons.2 ⟨by omega, ih others.symm fewLater⟩

theorem length_sizes (answered : Answered records told)
    (measured : List.Forall₂ Measured told sizes) : sizes.length = records.length := by
  rw [← measured.length_eq, ← List.length_map List.length, answered, List.length_map]

theorem foldl_sizes (equipped : Equipped mailboxes before)
    (answered : Answered before.instances told) (measured : List.Forall₂ Measured told sizes) :
    sizes.foldl Subsystem.addGigabits 0 = sizes.sum := by
  have count := length_sizes answered measured
  have two := equipped.two
  rw [(foldl_addGigabits (measured_le answered equipped.few measured) 0 (by omega)).1,
    List.sum_eq_foldl]

theorem comesTo_readSizes (equipped : Equipped mailboxes before)
    (answered : Answered before.instances told) (some : before.instances ≠ [])
    (measured : List.Forall₂ Measured told sizes) (nonzero : ∀ size ∈ sizes, size ≠ 0) :
    ComesTo (readSizes mailboxes) before
      (dialogue widthCommand (placesFrom 0 before.instances) told.flatten) (.ok ())
      { before.recordSizes sizes with gigabits := sizes.sum } := by
  have all := comesTo_measureInstances before [] equipped.few
    (show 0 + before.instances.length ≤ mailboxes by simpa using equipped.present) answered measured
    nonzero
  rw [Subsystem.recordSizes_nil] at all
  have positive : sizes.sum ≠ 0 := by
    cases sizes with
    | nil => exact absurd (List.length_eq_zero_iff.1 (length_sizes answered measured).symm) some
    | cons size rest =>
      have here := nonzero size List.mem_cons_self
      rw [List.sum_cons]
      omega
  rw [readSizes, ← List.append_nil (dialogue _ _ _)]
  refine comesTo_bind (comesTo_forInstances all) ?_
  rw [foldl_sizes equipped answered measured]
  dsimp only
  rw [if_neg positive]
  exact comesTo_modify

/-- The first instance without a size is the last one that is asked. -/
theorem comesTo_readSizes_stop (equipped : Equipped mailboxes before)
    (answered : Answered before.instances told) (first : FirstUnsized told unit own)
    (fails : ∀ (interfaces : List Target) (middle : Subsystem), interfaces.length ≤ 2 →
      interfaces.length = own.length →
      ∃ asked, asked <+: dialogue widthCommand (interfaces.map (unit, ·)) own ∧
        ComesTo (instanceSize unit interfaces) middle asked (.error cause) middle) :
    ∃ sizes asked, List.Forall₂ Measured (told.take unit) sizes ∧
      asked <+: dialogue widthCommand (placesFrom 0 before.instances) told.flatten ∧
      ComesTo (readSizes mailboxes) before asked (.error cause) (before.recordSizes sizes) := by
  obtain ⟨-, earlier, later, rfl, rfl, sized⟩ := first
  obtain ⟨sizes, measured, nonzero⟩ := exists_sizes sized
  have widths := answered.symm
  rw [List.map_append] at widths
  obtain ⟨front, back, split, frontAnswered, backWidths⟩ := List.map_eq_append_iff.1 widths
  obtain ⟨record, others, rfl, width, -⟩ := List.map_eq_cons_iff.1 backWidths
  have count : front.length = earlier.length := by
    rw [← length_sizes frontAnswered.symm measured, ← measured.length_eq]
  have present := equipped.present
  have few := equipped.few
  rw [split] at present few
  rw [List.length_append, List.length_cons] at present
  obtain ⟨fewFront, fewBack⟩ := List.forall_mem_append.1 few
  obtain ⟨asked, upTo, failed⟩ := fails record.interfaces (before.recordSizes sizes)
    (fewBack record List.mem_cons_self) width
  have all := comesTo_measureInstances before [] fewFront
    (show 0 + front.length ≤ mailboxes by omega) frontAnswered.symm measured nonzero
  rw [Subsystem.recordSizes_nil, List.length_nil, List.nil_append] at all
  have stopped := comesTo_measureInstance_error (show earlier.length < mailboxes by omega) failed
  have stops : ComesTo ((front.zipIdx ++ (record, earlier.length) ::
      others.zipIdx (earlier.length + 1)).mapM fun visit =>
        measureInstance mailboxes visit.2 visit.1.interfaces) before _ _ _ :=
    comesTo_mapM_stop all stopped
  have visits : front.zipIdx ++ (record, earlier.length) :: others.zipIdx (earlier.length + 1) =
      before.instances.zipIdx := by
    rw [split, List.zipIdx_append, Nat.zero_add, List.zipIdx_cons, count]
  have places : placesFrom 0 before.instances = placesFrom 0 front ++
      (record.interfaces.map (earlier.length, ·) ++ placesFrom (earlier.length + 1) others) := by
    rw [split, placesFrom_append, Nat.zero_add, count]
    rfl
  rw [visits] at stops
  refine ⟨sizes, _, ?_, ?_, comesTo_bind_error (comesTo_forInstances stops)⟩
  · rwa [List.take_left]
  · rw [places, List.flatten_append, List.flatten_cons,
      dialogue_append (length_placesFrom frontAnswered.symm),
      dialogue_append (by simpa using width)]
    exact (List.prefix_append_right_inj _).2 (upTo.trans (List.prefix_append _ _))

theorem comesTo_readSizes_empty (none : before.instances = []) :
    ComesTo (readSizes mailboxes) before [] (.error .noTotalSize) before := by
  have visited : ComesTo (before.instances.zipIdx.mapM fun visit =>
      measureInstance mailboxes visit.2 visit.1.interfaces) before [] (.ok []) before := by
    rw [none]
    exact comesTo_pure
  exact comesTo_quiet_bind (comesTo_forInstances visited) (comesTo_bind_error comesTo_throw)

theorem instanceSize_ends {interfaces : List Target} : (instanceSize unit interfaces).Ends := by
  rw [instanceSize_eq]
  refine ends_bind (ends_foldlM fun _ _ _ => ends_bind ends_send fun _ => ends_pure) fun size => ?_
  dsimp only
  split
  · exact ends_bind ends_log fun _ => ends_bind ends_throw fun _ => ends_pure
  · exact ends_pure

theorem readSizes_ends : (readSizes mailboxes).Ends := by
  refine ends_bind (ends_forInstances fun _ _ => ends_bind ends_requireMailbox fun _ =>
    ends_bind instanceSize_ends fun _ => ends_bind ends_modify fun _ => ends_pure) fun sizes => ?_
  dsimp only
  split
  · exact ends_bind ends_throw fun _ => ends_modify
  · exact ends_modify

/-- What an inquiry with these answers, which are grouped by instance, finds out. -/
structure SizeInquiry (before : Subsystem) (told : List (List (Except MailboxError Answer)))
    (trace : Trace) (result : Except Error Unit) (after : Subsystem) : Prop where
  asked : trace.requests <+: dialogue widthCommand (interfacesOf before.targets) told.flatten
  ok_iff : result = .ok () ↔ before.instances ≠ [] ∧ ∀ own ∈ told, Sized own
  recorded : result = .ok () → ∃ sizes, List.Forall₂ Measured told sizes ∧
    after = { before.recordSizes sizes with gigabits := sizes.sum }
  unsized_iff : ∀ unit, result = .error (.noMemorySize unit) ↔
    ∃ own, FirstUnsized told unit own ∧ Measured own 0
  unanswered_iff : ∀ unit failure, result = .error (.mailbox unit failure) ↔
    ∃ own, FirstUnsized told unit own ∧ Silent own failure
  none_iff : result = .error .noTotalSize ↔ before.instances = []
  unchanged : ∀ cause, result = .error cause → after.gigabits = before.gigabits
  /-- The instances before the failing one have their sizes, and the others are as they were. -/
  kept : ∀ unit own, FirstUnsized told unit own →
    (∃ sizes, List.Forall₂ Measured (told.take unit) sizes ∧ after = before.recordSizes sizes) ∧
      ∀ index, unit ≤ index → after.instances[index]? = before.instances[index]?

section Answered

variable {failure : MailboxError} {later : List (Except MailboxError Answer)}
  {result : Except Error Unit} {trace : Trace} (equipped : Equipped mailboxes before)
  (answered : Answered before.instances told) (heard : replies trace <+: told.flatten ++ later)
  (run : (readSizes mailboxes).Performs before trace result after)

include equipped answered heard run

theorem readSizes_sized (some : before.instances ≠ []) (all : ∀ own ∈ told, Sized own) :
    result = .ok () ∧ (∃ sizes, List.Forall₂ Measured told sizes ∧
      after = { before.recordSizes sizes with gigabits := sizes.sum }) ∧
      trace.requests = dialogue widthCommand (placesFrom 0 before.instances) told.flatten := by
  obtain ⟨sizes, measured, nonzero⟩ := exists_sizes all
  obtain ⟨ended, recorded, asked⟩ :=
    (comesTo_readSizes equipped answered some measured nonzero).result_eq (List.prefix_refl _)
      (length_placesFrom answered) run heard
  exact ⟨ended, ⟨sizes, measured, recorded⟩, asked⟩

theorem readSizes_stop (first : FirstUnsized told unit own)
    (fails : ∀ (interfaces : List Target) (middle : Subsystem), interfaces.length ≤ 2 →
      interfaces.length = own.length →
      ∃ asked, asked <+: dialogue widthCommand (interfaces.map (unit, ·)) own ∧
        ComesTo (instanceSize unit interfaces) middle asked (.error cause) middle) :
    result = .error cause ∧ (∃ sizes, List.Forall₂ Measured (told.take unit) sizes ∧
      after = before.recordSizes sizes) ∧
      trace.requests <+: dialogue widthCommand (placesFrom 0 before.instances) told.flatten := by
  obtain ⟨sizes, asked, measured, upTo, stopped⟩ :=
    comesTo_readSizes_stop equipped answered first fails
  obtain ⟨ended, recorded, same⟩ :=
    stopped.result_eq upTo (length_placesFrom answered) run heard
  exact ⟨ended, ⟨sizes, measured, recorded⟩, same ▸ upTo⟩

theorem readSizes_unsized (first : FirstUnsized told unit own) (empty : Measured own 0) :
    result = .error (.noMemorySize unit) ∧
      (∃ sizes, List.Forall₂ Measured (told.take unit) sizes ∧ after = before.recordSizes sizes) ∧
      trace.requests <+: dialogue widthCommand (placesFrom 0 before.instances) told.flatten :=
  readSizes_stop equipped answered heard run first fun _ _ few count =>
    ⟨_, List.prefix_refl _, comesTo_instanceSize _ _ few count empty⟩

theorem readSizes_silent (first : FirstUnsized told unit own) (silent : Silent own failure) :
    result = .error (.mailbox unit failure) ∧
      (∃ sizes, List.Forall₂ Measured (told.take unit) sizes ∧ after = before.recordSizes sizes) ∧
      trace.requests <+: dialogue widthCommand (placesFrom 0 before.instances) told.flatten :=
  readSizes_stop equipped answered heard run first fun _ _ few count =>
    comesTo_instanceSize_silent few count silent

/-- An inquiry ends well, has no instances, or stops at the first instance without a size. -/
theorem readSizes_cases :
    (result = .ok () ∧ before.instances ≠ [] ∧ ∀ own ∈ told, Sized own) ∨
      (result = .error .noTotalSize ∧ before.instances = []) ∨
      ∃ unit own, FirstUnsized told unit own ∧
        ((result = .error (.noMemorySize unit) ∧ Measured own 0) ∨
          ∃ failure, result = .error (.mailbox unit failure) ∧ Silent own failure) := by
  by_cases none : before.instances = []
  · exact .inr (.inl ⟨(comesTo_readSizes_empty none _ _ _ _ run heard).1, none⟩)
  · obtain all | ⟨unit, own, first⟩ := sized_or_firstUnsized told
    · exact .inl ⟨(readSizes_sized equipped answered heard run none all).1, none, all⟩
    · refine .inr (.inr ⟨unit, own, first, ?_⟩)
      obtain empty | ⟨failure, silent⟩ := not_sized_iff.1 first.1
      · exact .inl ⟨(readSizes_unsized equipped answered heard run first empty).1, empty⟩
      · exact .inr ⟨failure, (readSizes_silent equipped answered heard run first silent).1, silent⟩

theorem readSizes_first (first : FirstUnsized told unit own) :
    (∃ sizes, List.Forall₂ Measured (told.take unit) sizes ∧ after = before.recordSizes sizes) ∧
      trace.requests <+: dialogue widthCommand (placesFrom 0 before.instances) told.flatten := by
  obtain empty | ⟨failure, silent⟩ := not_sized_iff.1 first.1
  · exact (readSizes_unsized equipped answered heard run first empty).2
  · exact (readSizes_silent equipped answered heard run first silent).2

theorem size_inquiry : SizeInquiry before told trace result after := by
  have known := readSizes_cases equipped answered heard run
  have places : placesFrom 0 before.instances = interfacesOf before.targets := flatMap_interfaces
  refine ⟨?_, ⟨fun same => ?_, fun whole => ?_⟩, fun same => ?_, fun unit => ⟨fun same => ?_, ?_⟩,
    fun unit failure => ⟨fun same => ?_, ?_⟩, ⟨fun same => ?_, fun none => ?_⟩,
    fun cause same => ?_, fun unit own first => ?_⟩
  · rw [← places]
    obtain ⟨-, some, all⟩ | ⟨-, none⟩ | ⟨unit, own, first, -⟩ := known
    · exact (readSizes_sized equipped answered heard run some all).2.2 ▸ List.prefix_refl _
    · rw [(comesTo_readSizes_empty none _ _ _ _ run heard).2.2]
      exact List.nil_prefix
    · exact (readSizes_first equipped answered heard run first).2
  · rcases known with ⟨ended, whole⟩ | ⟨ended, -⟩ | ⟨_, _, -, ⟨ended, -⟩ | ⟨_, ended, -⟩⟩ <;>
      cases ended.symm.trans same
    exact whole
  · exact (readSizes_sized equipped answered heard run whole.1 whole.2).1
  · rcases known with ⟨ended, some, all⟩ | ⟨ended, -⟩ | ⟨_, _, -, ⟨ended, -⟩ | ⟨_, ended, -⟩⟩ <;>
      cases ended.symm.trans same
    exact (readSizes_sized equipped answered heard run some all).2.1
  · rcases known with ⟨ended, -⟩ | ⟨ended, -⟩ | ⟨_, own, first, ⟨ended, empty⟩ | ⟨_, ended, -⟩⟩ <;>
      cases ended.symm.trans same
    exact ⟨own, first, empty⟩
  · rintro ⟨own, first, empty⟩
    exact (readSizes_unsized equipped answered heard run first empty).1
  · rcases known with ⟨ended, -⟩ | ⟨ended, -⟩ | ⟨_, own, first, ⟨ended, -⟩ | ⟨_, ended, silent⟩⟩ <;>
      cases ended.symm.trans same
    exact ⟨own, first, silent⟩
  · rintro ⟨own, first, silent⟩
    exact (readSizes_silent equipped answered heard run first silent).1
  · rcases known with ⟨ended, -⟩ | ⟨ended, none⟩ | ⟨_, _, -, ⟨ended, -⟩ | ⟨_, ended, -⟩⟩ <;>
      cases ended.symm.trans same
    exact none
  · exact (comesTo_readSizes_empty none _ _ _ _ run heard).1
  · obtain ⟨ended, -⟩ | ⟨-, none⟩ | ⟨_, _, first, -⟩ := known
    · cases ended.symm.trans same
    · rw [(comesTo_readSizes_empty none _ _ _ _ run heard).2.1]
    · obtain ⟨⟨sizes, -, rfl⟩, -⟩ := readSizes_first equipped answered heard run first
      rfl
  · obtain ⟨⟨sizes, measured, rfl⟩, -⟩ := readSizes_first equipped answered heard run first
    refine ⟨⟨sizes, measured, rfl⟩, fun index behind => Subsystem.getElem?_recordSizes ?_⟩
    rw [← measured.length_eq]
    exact (List.length_take_le _ _).trans behind

end Answered

/-- With at most two instances of at most two interfaces, and a mailbox for each, an inquiry comes
to a result after at most one question to each interface. The answers that the interfaces have given,
and those that the others would have given, decide on it as described. -/
theorem sizes_measured {trace : Trace} {outcome : Option (Except Error Unit × Subsystem)}
    (equipped : Equipped mailboxes before)
    (run : Runs ((readSizes mailboxes).perform before) trace outcome) :
    ∃ result after, outcome = some (result, after) ∧
      (replies trace).length ≤ (interfacesOf before.targets).length ∧
      ∀ told : List (List (Except MailboxError Answer)), Answered before.instances told →
        replies trace <+: told.flatten → SizeInquiry before told trace result after := by
  obtain ⟨result, after, rfl, performed⟩ := performs_of_returns run (readSizes_ends before)
  have places : placesFrom 0 before.instances = interfacesOf before.targets := flatMap_interfaces
  refine ⟨result, after, rfl, ?_, fun told answered heard => ?_⟩
  · refine length_replies_le widthCommand fun all later count heard => ?_
    obtain ⟨told, answered, rfl⟩ := exists_answered before.instances
      (by rw [count, ← places, length_placesFrom_eq])
    exact (size_inquiry equipped answered heard performed).asked
  · rw [← List.append_nil told.flatten] at heard
    exact size_inquiry equipped answered heard performed

end Inquiry

/-- An answer that reports this size. -/
def widthAnswer (size : Word) : Answer := ⟨1, Vector.replicate 3 size⟩

/-- Three interfaces of two instances have 28 gigabits, of which the first instance has 12. -/
theorem sizes_measured_three : ∃ trace after,
    Runs ((readSizes 2).perform threeInterfaces) trace (some (.ok (), after)) ∧
      after.gigabits = 28 ∧ after.instances.map Instance.gigabits = [12, 16] ∧
      ∀ own ∈ [[.ok (widthAnswer 8), .ok (widthAnswer 4)], [.ok (widthAnswer 16)]], Sized own := by
  have run : Runs ((readSizes 2).perform threeInterfaces) _
      (some (.ok (), { threeInterfaces.recordSizes [12, 16] with gigabits := 28 })) :=
    Runs.of_run_eq answerInTurn [widthAnswer 8, widthAnswer 4, widthAnswer 16]
      (by with_unfolding_all rfl)
  obtain ⟨_, _, same, -, decides⟩ := sizes_measured ⟨by decide, by decide, by decide⟩ run
  cases same
  have inquiry := decides [[.ok (widthAnswer 8), .ok (widthAnswer 4)], [.ok (widthAnswer 16)]] rfl
    ⟨[], by with_unfolding_all rfl⟩
  exact ⟨_, _, run, rfl, rfl, (inquiry.ok_iff.1 rfl).2⟩

end BringUp.Iossm
