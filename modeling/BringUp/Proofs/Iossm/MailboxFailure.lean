import BringUp.Proofs.Iossm.Footprint

/-! Commands that fail. A program stops at failures if each command that fails is its last question,
and is named by its value. Main statement: every sequence stops at failures. -/
namespace BringUp

open Iossm (MailboxError)

/-- A command to the mailbox got no answer. -/
def Event.Fails (unit : Nat) (cause : MailboxError) (event : Event) : Prop :=
  ∃ command, event = ⟨.request unit command, .error cause⟩

namespace Program

variable {α β ε ι : Type} {names : Nat → MailboxError → α → Prop} {p : Program α}

/-- Nothing is asked after a command that fails, and `names` relates its mailbox and the cause to
the value. -/
def StopsAtFailure (names : Nat → MailboxError → α → Prop) : Program α → Prop
  | done _ => True
  | fault => True
  | ask op next => ∀ answer, (next answer).StopsAtFailure names ∧
      ∀ unit cause, Event.Fails unit cause ⟨op, answer⟩ →
        ∃ value, next answer = done value ∧ names unit cause value

theorem stops_done {value : α} : (done value).StopsAtFailure names := trivial

theorem stops_of_uses {allowed : Op → Prop} (uses : p.Uses allowed)
    (silent : ∀ unit command, ¬ allowed (.request unit command)) : p.StopsAtFailure names := by
  induction p with
  | done _ => trivial
  | fault => trivial
  | ask op next ih =>
    intro answer
    refine ⟨ih answer (uses.2 answer), fun unit cause fails => ?_⟩
    have ⟨command, same⟩ := fails
    cases same
    exact absurd uses.1 (silent unit command)

/-- After a failure in the first part, nothing may be left to do with the value that names it. -/
theorem stops_bind {f : α → Program β} {names' : Nat → MailboxError → β → Prop}
    (first : p.StopsAtFailure names) (rest : ∀ value, (f value).StopsAtFailure names')
    (ends : ∀ unit cause value, names unit cause value →
      ∃ last, f value = done last ∧ names' unit cause last) :
    (p.bind f).StopsAtFailure names' := by
  induction p with
  | done value => exact rest value
  | fault => trivial
  | ask op next ih =>
    intro answer
    refine ⟨ih answer (first answer).1, fun unit cause fails => ?_⟩
    have ⟨value, same, named⟩ := (first answer).2 unit cause fails
    have ⟨last, finished, named'⟩ := ends unit cause value named
    have remains : (next answer).bind f = done last := by rw [same, done_bind, finished]
    exact ⟨last, remains, named'⟩

/-- Waiting stops at failures if a look does, and if a failure settles it. -/
theorem stops_poll {look : Nat → Program (Look α β)} {pauses : Nat}
    {names : Nat → MailboxError → Look α β → Prop} (h : ∀ index, (look index).StopsAtFailure names)
    (settles : ∀ unit cause seen, names unit cause seen → ∃ result, seen = .settled result) :
    (poll look pauses).StopsAtFailure fun unit cause polled => names unit cause polled.last := by
  suffices ∀ index, (poll.go look index pauses).StopsAtFailure
    fun unit cause polled => names unit cause polled.last from this 0
  induction pauses with
  | zero =>
    intro index
    rw [poll_go_zero]
    exact stops_bind (h index) (fun _ => stops_done) fun _ _ seen named => ⟨_, rfl, named⟩
  | succ pauses ih =>
    intro index
    rw [poll_go_succ]
    apply stops_bind (h index)
    · intro seen
      cases seen with
      | settled _ => exact stops_done
      | pending _ =>
        intro answer
        refine ⟨ih (index + 1), fun unit cause fails => ?_⟩
        have ⟨command, same⟩ := fails
        cases same
    · intro unit cause seen named
      have ⟨result, same⟩ := settles unit cause seen named
      subst same
      exact ⟨_, rfl, named⟩

/-- A step that may fail passes its failure on. -/
theorem stops_run_bind {m : ExceptT ε Program α} {f : α → ExceptT ε Program β}
    {cause : Nat → MailboxError → ε}
    (first : m.run.StopsAtFailure fun unit failure result => result = .error (cause unit failure))
    (rest : ∀ value, (f value).run.StopsAtFailure
      fun unit failure result => result = .error (cause unit failure)) :
    (m >>= f).run.StopsAtFailure fun unit failure result => result = .error (cause unit failure) := by
  rw [ExceptT.run_bind]
  apply stops_bind first
  · intro result
    cases result with
    | error _ => exact stops_done
    | ok value => exact rest value
  · intro unit failure result same
    subst same
    exact ⟨_, rfl, rfl⟩

end Program

/-- A command that fails is the last question of every run, and the result names it. -/
theorem Runs.ends_at_failure {α : Type} {names : Nat → MailboxError → α → Prop} {p : Program α}
    {trace : Trace} {result : Option α} (run : Runs p trace result) (stops : p.StopsAtFailure names)
    {before after : Trace} {unit : Nat} {command : Iossm.Command} {cause : MailboxError}
    (split : trace = before ++ ⟨.request unit command, .error cause⟩ :: after) :
    after = [] ∧ ∃ value, result = some value ∧ names unit cause value := by
  induction run generalizing before with
  | done _ => simp at split
  | fault => simp at split
  | @ask op next rest result answer tail ih =>
    cases before with
    | cons event before =>
      injection split with _ later
      exact ih (stops answer).1 later
    | nil =>
      injection split with same later
      have ⟨value, finished, named⟩ := (stops answer).2 unit cause ⟨command, same⟩
      rw [finished] at tail
      have ⟨ended, known⟩ := done_iff.1 tail
      exact ⟨later.symm.trans ended, value, known, named⟩

namespace Iossm

namespace Sequence

variable {α β ι : Type}

/-- A command that fails ends the sequence with an error that names the mailbox and the cause. -/
def StopsAtFailure (sequence : Sequence α) : Prop :=
  ∀ subsystem, (sequence.perform subsystem).StopsAtFailure
    fun unit cause outcome => outcome.1 = .error (.mailbox unit cause)

theorem stops_pure {value : α} : (pure value : Sequence α).StopsAtFailure := fun _ => trivial

theorem stops_throw {cause : Error} : (throw cause : Sequence α).StopsAtFailure := fun _ => trivial

theorem stops_get : (get : Sequence Subsystem).StopsAtFailure := fun _ => trivial

theorem stops_modify {change : Subsystem → Subsystem} :
    (modify change : Sequence Unit).StopsAtFailure := fun _ => trivial

theorem stops_of_uses {sequence : Sequence α} (uses : sequence.Uses (Supervision [])) :
    sequence.StopsAtFailure :=
  fun subsystem => Program.stops_of_uses (uses subsystem) fun _ _ sent => by
    simp [Supervision] at sent

theorem stops_bind {sequence : Sequence α} {f : α → Sequence β} (first : sequence.StopsAtFailure)
    (rest : ∀ value, (f value).StopsAtFailure) : (sequence >>= f).StopsAtFailure := by
  intro subsystem
  rw [perform_bind]
  apply Program.stops_bind (first subsystem)
  · rintro ⟨result, middle⟩
    cases result with
    | ok value => exact rest value middle
    | error _ => exact Program.stops_done
  · rintro unit cause ⟨result, after⟩ same
    obtain rfl : result = _ := same
    exact ⟨_, rfl, rfl⟩

theorem stops_log {level : Level} {text : String} :
    (liftM (Program.log level text) : Sequence Unit).StopsAtFailure :=
  stops_of_uses (uses_log trivial)

theorem stops_send {unit : Nat} {command : Command} : (send unit command).StopsAtFailure := by
  intro subsystem
  rw [perform_send]
  intro reply
  refine ⟨by cases reply <;> trivial, fun mailbox cause fails => ?_⟩
  have ⟨_, same⟩ := fails
  cases same
  exact ⟨_, rfl, rfl⟩

theorem stops_mapM {items : List ι} {visit : ι → Sequence α}
    (h : ∀ item, (visit item).StopsAtFailure) : (items.mapM visit).StopsAtFailure := by
  induction items with
  | nil => exact stops_pure
  | cons item rest ih =>
    rw [List.mapM_cons]
    exact stops_bind (h item) fun _ => stops_bind ih fun _ => stops_pure

theorem stops_forM {items : List ι} {visit : ι → Sequence Unit}
    (h : ∀ item, (visit item).StopsAtFailure) : (items.forM visit).StopsAtFailure := by
  induction items with
  | nil => exact stops_pure
  | cons item rest ih => exact stops_bind (h item) fun _ => ih

theorem stops_foldlM {items : List ι} {visit : β → ι → Sequence β} {start : β}
    (h : ∀ state item, (visit state item).StopsAtFailure) :
    (items.foldlM visit start).StopsAtFailure := by
  induction items generalizing start with
  | nil => exact stops_pure
  | cons item rest ih => exact stops_bind (h start item) fun _ => ih

theorem stops_forInstances {visit : Nat → Instance → Sequence α}
    (h : ∀ unit record, (visit unit record).StopsAtFailure) :
    (forInstances visit).StopsAtFailure :=
  stops_bind stops_get fun _ => stops_mapM fun _ => h _ _

end Sequence

open Sequence

variable {mailboxes : Nat} {timeouts : Timeouts}

theorem checkCalibration_stops : (checkCalibration mailboxes timeouts).StopsAtFailure :=
  stops_of_uses checkCalibration_uses

theorem discoverInterfaces_stops : (discoverInterfaces mailboxes).StopsAtFailure := by
  refine stops_bind (stops_forInstances fun unit _ => ?_) fun _ => stops_pure
  apply stops_bind (stops_of_uses uses_requireMailbox)
  intro _
  apply stops_bind stops_send
  intro answer
  exact stops_bind stops_modify fun _ => stops_log

theorem interfaceStatus_stops {unit position : Nat} :
    (interfaceStatus unit position).StopsAtFailure := by
  apply stops_bind stops_send
  intro answer
  split
  · exact stops_pure
  · exact stops_of_uses (uses_program trivial)

/-- A retry that meets a failure is the last one. -/
theorem recalibrateInterface_stops {unit position : Nat} {target : Target} :
    (recalibrateInterface timeouts unit position target).StopsAtFailure := by
  apply stops_bind interfaceStatus_stops
  intro status
  generalize maxRetries = left
  induction left generalizing status with
  | zero =>
    unfold recalibrateInterface.go
    split
    · exact stops_pure
    · exact stops_bind stops_log fun _ => stops_throw
  | succ left ih =>
    have waiting : Sequence.StopsAtFailure
        (liftM (Program.await (idle unit) timeouts.calibration)) :=
      stops_of_uses (uses_program (Program.uses_await idle_uses trivial))
    unfold recalibrateInterface.go
    split
    · exact stops_pure
    · apply stops_bind stops_log
      intro _
      apply stops_bind stops_send
      intro _
      apply stops_bind waiting
      intro becameIdle
      split
      · exact stops_bind stops_log fun _ => stops_bind interfaceStatus_stops ih
      · exact stops_bind interfaceStatus_stops ih

theorem recalibrate_stops : (recalibrate mailboxes timeouts).StopsAtFailure := by
  refine stops_bind (stops_forInstances fun unit record => ?_) fun _ => stops_modify
  split
  · apply stops_bind (stops_of_uses uses_requireMailbox)
    intro _
    apply stops_bind (stops_forM fun _ => recalibrateInterface_stops)
    exact fun _ => stops_modify
  · exact stops_pure

theorem readTechnology_stops : (readTechnology mailboxes).StopsAtFailure := by
  have agree (unit : Nat) (technology : Technology) :
      (agreeOnTechnology unit technology).StopsAtFailure := by
    apply stops_bind stops_get
    intro _
    dsimp only
    split
    · exact stops_modify
    · split
      · exact stops_bind stops_log fun _ => stops_throw
      · exact stops_pure
  refine stops_bind stops_modify fun _ => ?_
  refine stops_bind (stops_forInstances fun unit _ => ?_) fun _ => stops_pure
  apply stops_bind (stops_of_uses uses_requireMailbox)
  exact fun _ => stops_forM fun _ => stops_bind stops_send fun _ => agree unit _

theorem readSizes_stops : (readSizes mailboxes).StopsAtFailure := by
  have size (unit : Nat) (interfaces : List Target) :
      (instanceSize unit interfaces).StopsAtFailure := by
    apply stops_bind (stops_foldlM fun _ _ => stops_bind stops_send fun _ => stops_pure)
    intro _
    dsimp only
    split
    · exact stops_bind stops_log fun _ => stops_bind stops_throw fun _ => stops_pure
    · exact stops_pure
  apply stops_bind
  · apply stops_forInstances
    intro unit record
    refine stops_bind (stops_of_uses uses_requireMailbox) fun _ => ?_
    exact stops_bind (size unit _) fun _ => stops_bind stops_modify fun _ => stops_pure
  · intro _
    dsimp only
    split
    · exact stops_bind stops_throw fun _ => stops_modify
    · exact stops_modify

theorem readEcc_stops : (readEcc mailboxes).StopsAtFailure := by
  have agree (unit : Nat) (interfaces : List Target) (common : Option Bool) :
      (agreeOnEcc unit interfaces common).StopsAtFailure := by
    apply stops_foldlM
    intro common target
    apply stops_bind stops_send
    intro _
    cases common with
    | none => exact stops_pure
    | some agreed =>
      dsimp only
      split
      · exact stops_bind stops_log fun _ => stops_bind stops_throw fun _ => stops_pure
      · exact stops_pure
  refine stops_bind stops_get fun _ => ?_
  refine stops_bind (stops_foldlM fun _ visit => ?_) fun _ =>
    stops_bind stops_modify fun _ => stops_log
  exact stops_bind (stops_of_uses uses_requireMailbox) fun _ => agree _ _ _

/-- A failure settles a look at an initialization, so that the waiting is over. -/
theorem memoryInitComplete_stops {unit : Nat} {target : Target} :
    (memoryInitComplete unit target).StopsAtFailure
      fun mailbox cause seen => seen = .settled (.error (.mailbox mailbox cause)) := by
  intro reply
  refine ⟨?_, fun mailbox cause fails => ?_⟩
  · cases reply with
    | error _ => exact Program.stops_done
    | ok answer =>
      change Program.StopsAtFailure _ (if _ then _ else _)
      split <;> exact Program.stops_done
  · have ⟨_, same⟩ := fails
    cases same
    exact ⟨_, rfl, rfl⟩

theorem initializeInterface_stops {unit : Nat} {target : Target} :
    (initializeInterface timeouts unit target).StopsAtFailure := by
  refine stops_bind stops_send fun _ => ?_
  extract_lets wait
  have polling : (Program.poll (fun _ => memoryInitComplete unit target)
      (intervals timeouts.memoryInit)).StopsAtFailure fun mailbox cause polled =>
        polled.last = .settled (.error (.mailbox mailbox cause)) :=
    Program.stops_poll (fun _ => memoryInitComplete_stops) fun _ _ _ named => ⟨_, named⟩
  have waiting : ∀ r, (wait r).StopsAtFailure := by
    intro r subsystem
    rw [perform_bind, perform_program, Program.bind_assoc]
    apply Program.stops_bind polling
    · intro polled
      dsimp only [Program.done_bind]
      split
      · exact stops_log _
      · exact stops_throw _
      · exact stops_bind stops_log (fun _ => stops_throw) _
    · intro mailbox cause polled named
      have ⟨last, looks⟩ := polled
      obtain rfl : last = _ := named
      exact ⟨_, rfl, rfl⟩
  split
  · exact stops_bind stops_log fun _ => stops_bind stops_throw waiting
  · exact waiting ()

theorem initializeMemory_stops : (initializeMemory mailboxes timeouts).StopsAtFailure := by
  refine stops_bind (stops_forInstances fun unit _ => ?_) fun _ => stops_pure
  apply stops_bind (stops_of_uses uses_requireMailbox)
  exact fun _ => stops_forM fun _ => initializeInterface_stops

end Iossm
end BringUp
