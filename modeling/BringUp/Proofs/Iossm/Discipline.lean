import Mathlib.Data.List.Basic
import BringUp.Proofs.Iossm.Delivery
import BringUp.Proofs.Iossm.RequestCourse
import BringUp.Proofs.Program.Content

/-! The discipline of a request to the mailbox registers. Main statement: whatever the registers
read, a request comes to a result, which tells exactly what it has stored. -/
namespace BringUp

/-- Nanoseconds that pass in a trace. -/
def Trace.duration (trace : Trace) : Nat :=
  trace.pauses * Op.pauseLength

namespace Iossm.Mailbox

variable {unit timeout address pauses : Nat} {command : Command} {trace : Trace} {met : Bool}
  {test : Word → Bool} {result : Except MailboxError Answer}

section Watched

/-- A wait for a register to pass a test. The register is read before and after each pause. -/
structure Watched (address : Nat) (test : Word → Bool) (pauses : Nat) (met : Bool) (trace : Trace) :
    Prop where
  watching : ∀ event ∈ trace, Watching address event.op
  /-- The last read decides. All reads before it have failed the test. -/
  decided : ∃ waiting word, trace = waiting ++ [⟨.load address, word⟩] ∧ test word = met ∧
    ∀ other : Word, ⟨.load address, other⟩ ∈ waiting → test other = false
  within : trace.pauses ≤ pauses
  /-- A wait is given up when all pauses are used up, and not before. -/
  expired : met = false → trace.pauses = pauses

/-- A look at a register. -/
def look (address : Nat) (test : Word → Bool) : Program Bool :=
  (Program.load address).bind fun word => .done (test word)

theorem look_iff : Runs (look address test) trace (some met) ↔
    ∃ word, trace = [⟨.load address, word⟩] ∧ test word = met := by
  simp only [look, Program.load, Program.ask_bind, Program.done_bind, Runs.ask_iff, Runs.done_iff]
  constructor
  · rintro ⟨word, _, rfl, rfl, same⟩
    exact ⟨word, rfl, (Option.some.inj same).symm⟩
  · rintro ⟨word, rfl, rfl⟩
    exact ⟨word, [], rfl, rfl, rfl⟩

theorem watched_single {word : Word} (shown : test word = met)
    (last : met = false → pauses = 0) :
    Watched address test pauses met [⟨.load address, word⟩] where
  watching := by simp [Watching]
  decided := ⟨[], word, rfl, shown, by simp⟩
  within := Nat.zero_le _
  expired failed := (last failed).symm

/-- One more round in front of a wait. -/
theorem Watched.later {word : Word} (failed : test word = false)
    (watched : Watched address test pauses met trace) :
    Watched address test (pauses + 1) met (⟨.load address, word⟩ :: ⟨.pause, ()⟩ :: trace) := by
  have count : Trace.pauses (⟨.load address, word⟩ :: ⟨.pause, ()⟩ :: trace) =
      trace.pauses + 1 := by
    simp [Trace.pauses]
  obtain ⟨waiting, last, rfl, shown, before⟩ := watched.decided
  constructor
  case watching =>
    intro event member
    rcases List.mem_cons.1 member with rfl | member
    · rfl
    rcases List.mem_cons.1 member with rfl | member
    · trivial
    · exact watched.watching event member
  case decided =>
    refine ⟨⟨.load address, word⟩ :: ⟨.pause, ()⟩ :: waiting, last, rfl, shown, fun other seen => ?_⟩
    rcases List.mem_cons.1 seen with same | seen
    · cases same
      exact failed
    rcases List.mem_cons.1 seen with same | seen
    · cases same
    · exact before other seen
  case within => exact count ▸ Nat.succ_le_succ watched.within
  case expired => exact fun given => count ▸ congrArg (· + 1) (watched.expired given)

theorem watched_of_waited (waited : Waited (fun held shown =>
    Runs (look address test) shown (some held)) pauses met trace) :
    Watched address test pauses met trace := by
  induction waited with
  | met shown =>
    obtain ⟨word, rfl, passed⟩ := look_iff.1 shown
    exact watched_single passed nofun
  | expired shown =>
    obtain ⟨word, rfl, failed⟩ := look_iff.1 shown
    exact watched_single failed fun _ => rfl
  | later shown _ ih =>
    obtain ⟨word, rfl, failed⟩ := look_iff.1 shown
    exact ih.later failed

theorem Watched.timely {milliseconds : Nat}
    (watched : Watched address test (intervals milliseconds) met trace) :
    trace.duration ≤ milliseconds * 1000000 := by
  have within := watched.within
  have ten := intervals_le milliseconds
  simp only [Trace.duration, Op.pauseLength] at *
  omega

end Watched

section Stores

/-- The stores of the parameters that are not zero, in their order. -/
def parameterStores (unit : Nat) (command : Command) : List (Nat × Word) :=
  command.parameters.toList.zipIdx.flatMap fun item =>
    if item.1 = 0 then [] else [(Io96b.parameter unit item.2, item.1)]

/-- The stores of a request with this result. -/
def requestStores (unit : Nat) (command : Command) :
    Except MailboxError Answer → List (Nat × Word)
  | .error .notReady => []
  | .error (.noAnswer _) =>
    parameterStores unit command ++ [(Io96b.commandWord unit, command.word)]
  | .ok answer => parameterStores unit command ++ [(Io96b.commandWord unit, command.word),
      (Io96b.answerStatus unit, answer.status &&& ~~~1#32)]

theorem stores_writeParameters
    (run : Runs (writeParameters unit command.parameters) trace (some ())) :
    trace.stores = parameterStores unit command := by
  refine Runs.stores_of_forM (fun item trace visit => ?_) run
  dsimp only at visit
  split at visit
  · next unused =>
    rw [if_pos unused, (Runs.done_iff.1 visit).1]
    rfl
  · next used =>
    rw [if_neg used, (Runs.store_iff.1 visit).1]
    rfl

theorem parameter_injective {index index' : Nat} (inside : index < parameterCount)
    (inside' : index' < parameterCount)
    (same : Io96b.parameter unit index = Io96b.parameter unit index') : index = index' := by
  simp only [Io96b.parameter, parameterCount] at *
  omega

/-- A parameter that is zero is not among the stores. -/
theorem spared_requestStores (index : Fin parameterCount)
    (zero : command.parameters.get index = 0) (value : Word) :
    (Io96b.parameter unit index, value) ∉ requestStores unit command result := by
  have parameters : (Io96b.parameter unit index, value) ∉ parameterStores unit command := by
    intro member
    obtain ⟨⟨word, index'⟩, member, stored⟩ := List.mem_flatMap.1 member
    split at stored
    · cases stored
    · next used =>
      have same := List.mem_singleton.1 stored
      have found := List.mk_mem_zipIdx_iff_getElem?.1 member
      obtain ⟨inside, rfl⟩ := List.getElem?_eq_some_iff.1 found
      rw [Vector.length_toList] at inside
      have place := parameter_injective inside index.isLt (Prod.mk.inj same).1.symm
      subst place
      rw [Vector.getElem_toList] at used
      exact used zero
  have command_ne : Io96b.parameter unit index ≠ Io96b.commandWord unit :=
    Responder.parameter_ne_commandWord index
  have status_ne : Io96b.parameter unit index ≠ Io96b.answerStatus unit :=
    (Responder.parameter_ne_answerStatus index).symm
  rcases result with (_ | status) | answer
  · exact List.not_mem_nil
  · simp [requestStores, parameters, command_ne]
  · simp [requestStores, parameters, command_ne, status_ne]

end Stores

/-- What follows the wait for an answer: the status is read once more. If there is an answer, its data
is read as well, and the status is written back without the ready bit. -/
inductive Reported (unit : Nat) : Except MailboxError Answer → Trace → Prop
  | noAnswer {status : Word} {text : String} :
      Reported unit (.error (.noAnswer status))
        [⟨.load (Io96b.answerStatus unit), status⟩, ⟨.log .error text, ()⟩]
  | answered {answer : Answer} :
      Reported unit (.ok answer)
        [⟨.load (Io96b.answerStatus unit), answer.status⟩,
          ⟨.load (Io96b.answerData unit 0), answer.data.get 0⟩,
          ⟨.load (Io96b.answerData unit 1), answer.data.get 1⟩,
          ⟨.load (Io96b.answerData unit 2), answer.data.get 2⟩,
          ⟨.store (Io96b.answerStatus unit) (answer.status &&& ~~~1#32), ()⟩]

/-- What a request with this result has done, and when. -/
structure Disciplined (unit timeout : Nat) (command : Command) (trace : Trace)
    (result : Except MailboxError Answer) : Prop where
  stores : trace.stores = requestStores unit command result
  /-- The register of a parameter that is zero is left alone. -/
  spared : ∀ index : Fin parameterCount, command.parameters.get index = 0 →
    ∀ value, (Io96b.parameter unit index, value) ∉ trace.stores
  /-- Where a command is stored, the wait for its register has ended with a read of zero, and since
  then only parameters have been stored. -/
  free : ∀ (before : Trace) value after,
    trace = before ++ ⟨.store (Io96b.commandWord unit) value, ()⟩ :: after →
      ∃ freeing writing, before = freeing ++ writing ∧
        Watched (Io96b.commandWord unit) (· == 0) (intervals timeout) true freeing ∧
        ∀ event ∈ writing, Parameterizing unit event.op
  /-- After that comes the wait for the answer, whose end decides about the result. -/
  answering : ∀ (before : Trace) value after,
    trace = before ++ ⟨.store (Io96b.commandWord unit) value, ()⟩ :: after →
      ∃ answering reading, after = answering ++ reading ∧
        Watched (Io96b.answerStatus unit) (·.getLsbD 0) (intervals timeout) result.isOk answering ∧
        Reported unit result reading
  /-- If no command is stored, the command register has never read zero. -/
  refused : result = .error .notReady →
    ∃ freeing text, trace = freeing ++ [⟨.log .error text, ()⟩] ∧
      Watched (Io96b.commandWord unit) (· == 0) (intervals timeout) false freeing
  /-- Each of the two waits takes at most the timeout. -/
  timely : (result = .error .notReady → trace.duration ≤ timeout * 1000000) ∧
    ∀ (before : Trace) value (after : Trace),
      trace = before ++ ⟨.store (Io96b.commandWord unit) value, ()⟩ :: after →
        before.duration ≤ timeout * 1000000 ∧ after.duration ≤ timeout * 1000000

section Phases

variable {freeing writing answering reading : Trace}

theorem Reported.stores_eq (reported : Reported unit result reading) :
    requestStores unit command result = parameterStores unit command ++
      (Io96b.commandWord unit, command.word) :: reading.stores := by
  cases reported <;> rfl

theorem Reported.pauses_eq (reported : Reported unit result reading) : reading.pauses = 0 := by
  cases reported <;> rfl

theorem Reported.ne_command (reported : Reported unit result reading) :
    ∀ event ∈ reading, ∀ value, event.op ≠ .store (Io96b.commandWord unit) value := by
  have other : Io96b.answerStatus unit ≠ Io96b.commandWord unit :=
    Responder.answerStatus_ne_commandWord
  cases reported <;> simp [other]

theorem watching_ne_store (watching : ∀ event ∈ trace, Watching address event.op) :
    ∀ event ∈ trace, ∀ other value, event.op ≠ .store other value := by
  rintro ⟨op, answer⟩ member other value rfl
  exact watching _ member

theorem parameterizing_ne_command (writes : ∀ event ∈ trace, Parameterizing unit event.op) :
    ∀ event ∈ trace, ∀ value, event.op ≠ .store (Io96b.commandWord unit) value := by
  rintro ⟨op, answer⟩ member value rfl
  obtain ⟨index, same⟩ := writes _ member
  exact Responder.parameter_ne_commandWord index same.symm

theorem pauses_of_parameterizing (writes : ∀ event ∈ trace, Parameterizing unit event.op) :
    trace.pauses = 0 :=
  Trace.pauses_eq_zero fun event member same => by
    have kind := writes event member
    rw [same] at kind
    exact kind

/-- Only one question stores a command. -/
theorem sent_split (free : ∀ event ∈ freeing, Watching (Io96b.commandWord unit) event.op)
    (writes : ∀ event ∈ writing, Parameterizing unit event.op)
    (asks : ∀ event ∈ answering, Watching (Io96b.answerStatus unit) event.op)
    (reported : Reported unit result reading) {before after : Trace} {word value : Word}
    (split : freeing ++ (writing ++ ⟨.store (Io96b.commandWord unit) word, ()⟩ ::
      (answering ++ reading)) = before ++ ⟨.store (Io96b.commandWord unit) value, ()⟩ :: after) :
    before = freeing ++ writing ∧ after = answering ++ reading := by
  -- Neither the waits nor the parameters nor the acknowledgement store to the command register.
  have early : (⟨.store (Io96b.commandWord unit) value, ()⟩ : Event) ∉ freeing ++ writing := by
    intro member
    obtain member | member := List.mem_append.1 member
    · exact watching_ne_store free _ member _ _ rfl
    · exact parameterizing_ne_command writes _ member _ rfl
  have late : (⟨.store (Io96b.commandWord unit) value, ()⟩ : Event) ∉ answering ++ reading := by
    intro member
    obtain member | member := List.mem_append.1 member
    · exact watching_ne_store asks _ member _ _ rfl
    · exact reported.ne_command _ member _ rfl
  rw [← List.append_assoc] at split
  obtain ⟨same, -, same'⟩ := (List.append_cons_inj_of_notMem early late).1 split
  exact ⟨same.symm, same'.symm⟩

theorem disciplined_of_sent
    (free : Watched (Io96b.commandWord unit) (· == 0) (intervals timeout) true freeing)
    (written : Runs (writeParameters unit command.parameters) writing (some ()))
    (answered : Watched (Io96b.answerStatus unit) (·.getLsbD 0) (intervals timeout) result.isOk
      answering) (reported : Reported unit result reading) :
    Disciplined unit timeout command (freeing ++ (writing ++
      ⟨.store (Io96b.commandWord unit) command.word, ()⟩ :: (answering ++ reading))) result := by
  have writes := written.uses writeParameters_uses
  have unique {before after : Trace} {value : Word} (split : freeing ++ (writing ++
      ⟨.store (Io96b.commandWord unit) command.word, ()⟩ :: (answering ++ reading)) =
        before ++ ⟨.store (Io96b.commandWord unit) value, ()⟩ :: after) :=
    sent_split free.watching writes answered.watching reported split
  have sent : result ≠ .error .notReady := by
    rintro rfl
    cases reported
  have storing : Trace.stores (⟨.store (Io96b.commandWord unit) command.word, ()⟩ ::
      (answering ++ reading)) = (Io96b.commandWord unit, command.word) :: reading.stores := by
    rw [← List.singleton_append, Trace.stores_append, Trace.stores_append,
      Trace.stores_eq_nil answered.watching fun _ _ => id]
    rfl
  have stores : Trace.stores (freeing ++ (writing ++
      ⟨.store (Io96b.commandWord unit) command.word, ()⟩ :: (answering ++ reading))) =
        requestStores unit command result := by
    rw [Trace.stores_append, Trace.stores_append, storing, stores_writeParameters written,
      Trace.stores_eq_nil free.watching fun _ _ => id, reported.stores_eq]
    rfl
  constructor
  case stores => exact stores
  case spared => exact fun index zero value => stores ▸ spared_requestStores index zero value
  case free =>
    intro before value after split
    exact ⟨freeing, writing, (unique split).1, free, writes⟩
  case answering =>
    intro before value after split
    exact ⟨answering, reading, (unique split).2, answered, reported⟩
  case refused => exact fun none => absurd none sent
  case timely =>
    refine ⟨fun none => absurd none sent, fun before value after split => ?_⟩
    obtain ⟨rfl, rfl⟩ := unique split
    rw [Trace.duration, Trace.duration, Trace.pauses_append, Trace.pauses_append,
      pauses_of_parameterizing writes, reported.pauses_eq]
    exact ⟨free.timely, answered.timely⟩

theorem disciplined_of_refused {text : String}
    (busy : Watched (Io96b.commandWord unit) (· == 0) (intervals timeout) false freeing) :
    Disciplined unit timeout command (freeing ++ [⟨.log .error text, ()⟩]) (.error .notReady) := by
  have stores : Trace.stores (freeing ++ [⟨.log .error text, ()⟩]) = [] := by
    rw [Trace.stores_append, Trace.stores_eq_nil busy.watching fun _ _ => id]
    rfl
  have never {before after : Trace} {value : Word} {p : Prop} (split : freeing ++
      [⟨.log .error text, ()⟩] = before ++ ⟨.store (Io96b.commandWord unit) value, ()⟩ :: after) :
      p := by
    have member : (Io96b.commandWord unit, value) ∈
        Trace.stores (freeing ++ [⟨.log .error text, ()⟩]) :=
      Trace.mem_stores.2 (split ▸ List.mem_append_right _ List.mem_cons_self)
    rw [stores] at member
    cases member
  constructor
  case stores => exact stores
  case spared => exact fun _ _ _ => stores ▸ List.not_mem_nil
  case free => exact fun _ _ _ => never
  case answering => exact fun _ _ _ => never
  case refused => exact fun _ => ⟨freeing, text, rfl, busy⟩
  case timely =>
    refine ⟨fun _ => ?_, fun _ _ _ => never⟩
    rw [Trace.duration, Trace.pauses_append]
    exact busy.timely

end Phases

theorem returns_request : (request unit timeout command).Returns := by
  have writes : (writeParameters unit command.parameters).Returns :=
    Program.returns_forM fun item => by
      dsimp only
      split
      · trivial
      · exact fun _ => trivial
  have waits {address : Nat} {test : Word → Bool} :
      (Program.await (look address test) timeout).Returns :=
    Program.returns_await fun _ => trivial
  refine Program.returns_bind waits fun free => ?_
  cases free with
  | false => exact fun _ => trivial
  | true =>
    refine Program.returns_bind writes fun _ => ?_
    refine Program.returns_bind (fun _ => trivial) fun _ => ?_
    refine Program.returns_bind waits fun ready => ?_
    cases ready with
    | false => exact fun _ _ => trivial
    | true => exact fun _ _ _ _ _ => trivial

/-- Whatever the registers read, and whenever, a request comes to a result, has stored exactly what
belongs to it, and has waited before and after the command as it should. -/
theorem request_disciplined {outcome : Option (Except MailboxError Answer)}
    (run : Runs (request unit timeout command) trace outcome) :
    ∃ result, outcome = some result ∧ Disciplined unit timeout command trace result := by
  obtain ⟨result, rfl⟩ := run.returned returns_request
  refine ⟨result, rfl, ?_⟩
  cases request_course run with
  | notReady taken => exact disciplined_of_refused (watched_of_waited (Runs.await_iff.1 taken))
  | noAnswer free written silent =>
    exact disciplined_of_sent (watched_of_waited (Runs.await_iff.1 free)) written
      (watched_of_waited (Runs.await_iff.1 silent)) .noAnswer
  | answered free written ready =>
    exact disciplined_of_sent (watched_of_waited (Runs.await_iff.1 free)) written
      (watched_of_waited (Runs.await_iff.1 ready)) .answered

/-- A mailbox whose command register is busy for two pauses, and whose answer is there three pauses
later. -/
def answerLate : (op : Op) → Nat → op.Answer × Nat
  | .pause, past => ((), past + 1)
  | .load address, past =>
    if address = Io96b.commandWord 0 then (if past < 2 then 1 else 0, past)
    else if address = Io96b.answerStatus 0 then (if past < 5 then 0x50000 else 0x50001, past)
    else (7, past)
  | op, past => (Responder.blank op, past)

/-- The first and the last parameter are written, and the answer is acknowledged. -/
theorem request_disciplined_late :
    let command : Command :=
      { target := ⟨1, 0⟩, kind := .controllerOperation, opcode := .startMemoryInit,
        parameters := #v[0x40, 0, 0, 0, 0, 0, 0x66] }
    let answer : Answer := ⟨0x50001, #v[7, 7, 7]⟩
    let trace := (request 0 1 command).trace answerLate 0
    Runs (request 0 1 command) trace (some (.ok answer)) ∧
      Disciplined 0 1 command trace (.ok answer) ∧
      trace.stores = [(0x18400438, 0x40), (0x18400420, 0x66), (0x1840043C, command.word),
        (0x1840045C, 0x50000)] := by
  intro command answer trace
  have ended : ((request 0 1 command).run answerLate 0).1 = some (.ok answer) := by decide +kernel
  have run := Runs.of_run_eq answerLate 0 ended
  obtain ⟨_, same, disciplined⟩ := request_disciplined run
  cases same
  exact ⟨run, disciplined, disciplined.stores.trans (by decide +kernel)⟩

end Iossm.Mailbox
end BringUp
