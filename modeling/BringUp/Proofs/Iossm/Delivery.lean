import BringUp.Program.Lemmas
import BringUp.Proofs.Iossm.Responder

/-! Delivery of the answers of an IOSSM. Main statement: a program that sends commands through the
registers cannot tell an IOSSM that reacts in time from one that answers at once. -/
namespace BringUp.Iossm

open Program (run_bind_of_some)

variable {timeout : Nat}

/-- The parameters of a command are written to their registers, except for those that are zero. -/
def Command.write (unit : Nat) (command : Command) (registers : Nat → Word) : Nat → Word :=
  command.parameters.toList.zipIdx.foldl (fun registers parameter =>
    if parameter.1 = 0 then registers
    else Function.update registers (Io96b.parameter unit parameter.2) parameter.1) registers

/-- Every command has an opcode, so no command word is the word of a free command register. -/
theorem Command.word_ne_zero (command : Command) : command.word ≠ 0 := by
  intro zero
  have opcode : Io96b.CommandWord.opcode.read command.word = BitVec.ofNat _ command.opcode.code :=
    Field.read_put _ _ _ (by decide)
  rw [zero] at opcode
  revert opcode
  cases command.opcode <;> decide

/-- An IOSSM that answers at once. -/
structure Direct where
  registers : Nat → Word
  /-- The commands so far with their answers. -/
  served : List (Word × Answer) := []

namespace Direct

/-- The registers when a command has been stored. -/
def posted (unit : Nat) (command : Command) (direct : Direct) : Nat → Word :=
  Function.update (command.write unit direct.registers) (Io96b.commandWord unit) command.word

/-- The reaction to a command, of which only the answer counts. -/
def reaction (unit : Nat) (reactions : Reactions timeout) (command : Command) (direct : Direct) :
    Reaction timeout :=
  reactions direct.served.length command.word (direct.posted unit command)

/-- Answers a command. The answer stands in the registers, and is acknowledged. -/
def request (unit : Nat) (reactions : Reactions timeout) (command : Command) (direct : Direct) :
    Answer × Direct :=
  let answer := (direct.reaction unit reactions command).answer
  (answer,
    { registers := Function.update (answer.write unit (direct.posted unit command))
        (Io96b.answerStatus unit) (Io96b.AnswerStatus.ready.put false answer.status)
      served := direct.served ++ [(command.word, answer)] })

theorem request_answerStatus {unit : Nat} {reactions : Reactions timeout} {command : Command}
    {direct : Direct} :
    (direct.request unit reactions command).2.registers (Io96b.answerStatus unit) =
      Io96b.AnswerStatus.ready.put false (direct.request unit reactions command).1.status := by
  simp only [request, Function.update_self]

/-- Answers the questions of a program that knows the IOSSM by its requests alone. -/
def serve (unit : Nat) (reactions : Reactions timeout) : (op : Op) → Direct → op.Answer × Direct
  | .request _ command, direct =>
    (.ok (direct.request unit reactions command).1, (direct.request unit reactions command).2)
  | op, direct => (Responder.blank op, direct)

end Direct

namespace Responder

/-- Answers the same questions by a mailbox in front of the IOSSM. -/
def serve (unit : Nat) (reactions : Reactions timeout) :
    (op : Op) → Responder → op.Answer × Responder
  | .request _ command, responder =>
    let outcome := (Mailbox.request unit timeout command).run (handle unit reactions) responder
    (outcome.1.getD (.error .notReady), outcome.2)
  | op, responder => handle unit reactions op responder

/-- The state between two requests: but for the command register, which will be free in time, the
mailbox looks as if the IOSSM had answered at once. -/
structure Follows (unit timeout : Nat) (direct : Direct) (responder : Responder) : Prop where
  frees : CommandFrees unit (intervals timeout) responder
  quiet : Quiet unit direct.registers responder
  unready : readyBit unit direct.registers = false
  served : responder.served = direct.served

variable {unit : Nat} {reactions : Reactions timeout} {responder : Responder} {direct : Direct}
  {command : Command} {registers registers' : Nat → Word}

theorem parameter_ne_commandWord (index : Nat) :
    Io96b.parameter unit index ≠ Io96b.commandWord unit := by
  simp only [Io96b.parameter, Io96b.commandWord]
  omega

theorem parameter_ne_answerStatus (index : Nat) :
    Io96b.answerStatus unit ≠ Io96b.parameter unit index := by
  simp only [Io96b.parameter, Io96b.answerStatus]
  omega

theorem run_writeParameters :
    (Mailbox.writeParameters unit command.parameters).run (handle unit reactions) responder =
      (some (), { responder with registers := command.write unit responder.registers }) := by
  unfold Mailbox.writeParameters Command.write
  generalize command.parameters.toList.zipIdx = items
  induction items generalizing responder with
  | nil => rfl
  | cons item rest ih =>
    have ⟨value, index⟩ := item
    -- One round of the loop, so that both cases can rewrite its first part.
    change (Program.bind (if value = 0 then return () else
      Program.store (Io96b.parameter unit index) value) fun _ => rest.forM _).run _ _ = _
    by_cases unused : value = 0
    · rw [List.foldl_cons, if_pos unused, if_pos unused]
      exact ih
    · have stored : (Program.store (Io96b.parameter unit index) value).run (handle unit reactions)
          responder = (some (), { responder with
            registers :=
              Function.update responder.registers (Io96b.parameter unit index) value }) := by
        simp only [Program.store, Program.run, handle, store_of_ne (parameter_ne_commandWord index)]
      rw [List.foldl_cons, if_neg unused, if_neg unused, run_bind_of_some stored]
      exact ih

theorem Alike.parameters (h : Alike unit registers registers') :
    Alike unit (command.write unit registers) (command.write unit registers') := by
  unfold Command.write
  generalize command.parameters.toList.zipIdx = items
  induction items generalizing registers registers' with
  | nil => exact h
  | cons item rest ih =>
    rw [List.foldl_cons, List.foldl_cons]
    split
    · exact ih h
    · exact ih (h.update _ _)

theorem parameters_answerStatus :
    command.write unit registers (Io96b.answerStatus unit) =
      registers (Io96b.answerStatus unit) := by
  unfold Command.write
  generalize command.parameters.toList.zipIdx = items
  induction items generalizing registers with
  | nil => rfl
  | cons item rest ih =>
    rw [List.foldl_cons, ih]
    split
    · rfl
    · exact Function.update_of_ne (parameter_ne_answerStatus _) _ _

/-- The IOSSM when a command has been stored that `direct` answers at once. -/
def posting (unit : Nat) (reactions : Reactions timeout) (command : Command) (direct : Direct) :
    Responder where
  registers := direct.posted unit command
  freeing := some (direct.reaction unit reactions command).freed
  answering := some ((direct.reaction unit reactions command).answered,
    (direct.reaction unit reactions command).answer)
  served := direct.served ++ [(command.word, (direct.reaction unit reactions command).answer)]

/-- It makes no difference what was in the command register before. -/
theorem run_storeCommand (quiet : Quiet unit direct.registers responder)
    (served : responder.served = direct.served) :
    (Program.store (Io96b.commandWord unit) command.word).run (handle unit reactions)
        { responder with registers := command.write unit responder.registers } =
      (some (), settle unit (posting unit reactions command direct)) := by
  have same : Function.update (command.write unit responder.registers) (Io96b.commandWord unit)
      command.word = direct.posted unit command := quiet.alike.parameters.update_command _
  have reacts : ({ responder with registers := command.write unit responder.registers } :
      Responder).store unit reactions (Io96b.commandWord unit) command.word =
        settle unit (posting unit reactions command direct) := by
    simp only [store, same, served]
    exact if_pos rfl
  exact congrArg (fun after => (some (), after)) reacts

theorem settles_posting (reactions : Reactions timeout) (command : Command)
    (follows : Follows unit timeout direct responder) :
    ∃ later, Settles (fun state : Responder => readyBit unit state.registers) (tick unit)
        (intervals timeout) (settle unit (posting unit reactions command direct)) later ∧
      Quiet unit ((direct.reaction unit reactions command).answer.write unit
        (direct.posted unit command)) later ∧
      CommandFrees unit (intervals timeout) later ∧
      later.served = (direct.request unit reactions command).2.served := by
  have registers : (posting unit reactions command direct).registers = direct.posted unit command :=
    rfl
  have held : direct.posted unit command (Io96b.commandWord unit) ≠ 0 := by
    rw [Direct.posted, Function.update_self]
    exact command.word_ne_zero
  have unready : readyBit unit (direct.posted unit command) = false := by
    rw [Direct.posted, alike_update_command.readyBit, readyBit, parameters_answerStatus]
    exact follows.unready
  rw [← registers] at held unready
  exact settles_reaction rfl rfl held unready

theorem reads_answer {answer : Answer} {before : Nat → Word}
    (quiet : Quiet unit (answer.write unit before) responder) :
    (⟨responder.registers (Io96b.answerStatus unit),
      #v[responder.registers (Io96b.answerData unit 0),
        responder.registers (Io96b.answerData unit 1),
        responder.registers (Io96b.answerData unit 2)]⟩ : Answer) = answer := by
  have shows : Shows unit answer responder.registers := by
    refine ⟨?_, fun index => ?_⟩
    · rw [quiet.alike.answerStatus, write_status]
    · rw [quiet.alike _ (answerData_ne_commandWord _ index.isLt), write_data]
  exact shows.words

theorem CommandFrees.acknowledge {limit : Nat} (h : CommandFrees unit limit responder)
    (value : Word) : CommandFrees unit limit { responder with
      registers := Function.update responder.registers (Io96b.answerStatus unit) value } := by
  have same : Function.update responder.registers (Io96b.answerStatus unit) value
      (Io96b.commandWord unit) = responder.registers (Io96b.commandWord unit) :=
    Function.update_of_ne answerStatus_ne_commandWord.symm _ _
  cases h with
  | free nothing zero =>
    refine .free nothing ?_
    simp only [same]
    exact zero
  | pending freeing inTime held =>
    refine .pending freeing inTime ?_
    simp only [same]
    exact held

/-- Acknowledging an answer makes the mailbox ready for the next command. -/
theorem follows_acknowledged
    (quiet : Quiet unit ((direct.reaction unit reactions command).answer.write unit
      (direct.posted unit command)) responder)
    (frees : CommandFrees unit (intervals timeout) responder)
    (served : responder.served = (direct.request unit reactions command).2.served) :
    Follows unit timeout (direct.request unit reactions command).2
      (responder.store unit reactions (Io96b.answerStatus unit)
        (Io96b.AnswerStatus.ready.put false (responder.registers (Io96b.answerStatus unit)))) := by
  have status : responder.registers (Io96b.answerStatus unit) =
      (direct.reaction unit reactions command).answer.status := by
    rw [quiet.alike.answerStatus, write_status]
  rw [status, store_of_ne answerStatus_ne_commandWord]
  refine ⟨frees.acknowledge _, ⟨quiet.nothing, quiet.alike.update _ _⟩, ?_, served⟩
  rw [readyBit, Direct.request_answerStatus]
  exact Flag.read_put _ _ _ (by decide)

/-- A request returns the answer that `direct` gives, and the mailbox follows `direct` again. -/
theorem run_request (reactions : Reactions timeout) (command : Command)
    (follows : Follows unit timeout direct responder) :
    ∃ after, (Mailbox.request unit timeout command).run (handle unit reactions) responder =
        (some (.ok (direct.request unit reactions command).1), after) ∧
      Follows unit timeout (direct.request unit reactions command).2 after := by
  have ⟨waited, frees, quiet, served⟩ := settles_free follows.frees follows.quiet
  have free : (Program.await (Mailbox.commandFree unit) timeout).run (handle unit reactions)
      responder = (some true, waited) := Program.run_await (fun _ => rfl) (fun _ => rfl) frees
  have stored : (Program.store (Io96b.commandWord unit) command.word).run
      (handle unit reactions) _ = _ := run_storeCommand quiet (served.trans follows.served)
  have ⟨answered, settles, written, freeing, same⟩ := settles_posting reactions command follows
  have ready : (Program.await (Mailbox.answerReady unit) timeout).run (handle unit reactions)
      (settle unit (posting unit reactions command direct)) = (some true, answered) :=
    Program.run_await (fun _ => rfl) (fun _ => rfl) settles
  refine ⟨_, ?_, follows_acknowledged written freeing same⟩
  unfold Mailbox.request
  -- Both waits are successful, so the branches with an error are not taken.
  rw [Program.bind_eq, run_bind_of_some free]
  change (Program.bind (Mailbox.writeParameters _ _) _).run _ _ = _
  rw [run_bind_of_some run_writeParameters]
  refine (run_bind_of_some stored).trans ((run_bind_of_some ready).trans ?_)
  change (some (Except.ok _), _) = _
  rw [reads_answer written]
  rfl

/-- Time that passes between two requests only helps. -/
theorem Follows.tick (follows : Follows unit timeout direct responder) :
    Follows unit timeout direct (responder.tick unit) :=
  ⟨(tick_frees follows.frees).mono (Nat.sub_le _ _), tick_quiet follows.quiet, follows.unready,
    follows.served⟩

theorem Follows.ticks (follows : Follows unit timeout direct responder) (count : Nat) :
    Follows unit timeout direct ((Responder.tick unit)^[count] responder) := by
  induction count generalizing responder with
  | zero => exact follows
  | succ count ih => exact ih follows.tick

/-- What a request does. -/
structure Exchange (unit : Nat) (reactions : Reactions timeout) (before : Responder)
    (command : Command) (answer : Answer) (after : Responder) : Prop where
  returned : (Mailbox.request unit timeout command).run (handle unit reactions) before =
    (some (.ok answer), after)
  /-- The command and its answer come next in the record of the IOSSM. -/
  served : after.served = before.served ++ [(command.word, answer)]
  /-- The IOSSM saw the parameters when it reacted. -/
  produced : answer = (reactions before.served.length command.word (Function.update
    (command.write unit before.registers) (Io96b.commandWord unit) command.word)).answer
  acknowledged : readyBit unit after.registers = false
  unchanged : ∀ bit < 32, bit ≠ 0 →
    (after.registers (Io96b.answerStatus unit)).getLsbD bit = answer.status.getLsbD bit
  /-- The command register will be free before the next request gives up. -/
  freed : ∃ ticks ≤ intervals timeout,
    ((Responder.tick unit)^[ticks] after).registers (Io96b.commandWord unit) = 0

/-- Requests one after the other. Any number of intervals passes before each of them. -/
inductive Exchanges (unit : Nat) (reactions : Reactions timeout) :
    Responder → List (Nat × Command) → List Answer → Responder → Prop
  | none {responder : Responder} : Exchanges unit reactions responder [] [] responder
  | more {before middle after : Responder} {gap : Nat} {command : Command} {answer : Answer}
      {requests : List (Nat × Command)} {answers : List Answer}
      (first : Exchange unit reactions ((Responder.tick unit)^[gap] before) command answer middle)
      (rest : Exchanges unit reactions middle requests answers after) :
      Exchanges unit reactions before ((gap, command) :: requests) (answer :: answers) after

theorem exists_exchange (reactions : Reactions timeout) (command : Command)
    (follows : Follows unit timeout direct responder) :
    ∃ after, Exchange unit reactions responder command (direct.request unit reactions command).1
        after ∧
      Follows unit timeout (direct.request unit reactions command).2 after := by
  have ⟨after, run, next⟩ := run_request reactions command follows
  have status : after.registers (Io96b.answerStatus unit) = Io96b.AnswerStatus.ready.put false
      (direct.request unit reactions command).1.status := by
    rw [next.quiet.alike.answerStatus, Direct.request_answerStatus]
  refine ⟨after, ?_, next⟩
  exact {
    returned := run
    served := by rw [next.served, follows.served]; rfl
    produced := by
      rw [follows.served, follows.quiet.alike.parameters.update_command]
      rfl
    acknowledged := next.quiet.alike.readyBit.trans next.unready
    unchanged := fun bit small other => by
      rw [status, Flag.getLsbD_put _ _ _ _ small]
      exact if_neg other
    freed := next.frees.ticks }

theorem exists_exchanges (requests : List (Nat × Command))
    (follows : Follows unit timeout direct responder) :
    ∃ answers after, Exchanges unit reactions responder requests answers after := by
  induction requests generalizing direct responder with
  | nil => exact ⟨[], responder, .none⟩
  | cons request rest ih =>
    have ⟨gap, command⟩ := request
    have ⟨middle, exchange, next⟩ := exists_exchange reactions command (follows.ticks gap)
    have ⟨answers, after, exchanges⟩ := ih next
    exact ⟨_ :: answers, after, .more exchange exchanges⟩

/-- The questions of a program that uses the IOSSM by requests alone. -/
def Client (unit : Nat) : Op → Prop
  | .request mailbox _ => mailbox = unit
  | .pause => True
  | .log _ _ => True
  | _ => False

/-- Whatever question comes, the answer is the one that `direct` gives. -/
theorem serve_follows (reactions : Reactions timeout) {op : Op} (client : Client unit op)
    (follows : Follows unit timeout direct responder) :
    (serve unit reactions op responder).1 = (Direct.serve unit reactions op direct).1 ∧
      Follows unit timeout (Direct.serve unit reactions op direct).2
        (serve unit reactions op responder).2 := by
  cases op with
  | request mailbox command =>
    have ⟨after, run, next⟩ := run_request reactions command follows
    have outcome : serve unit reactions (.request mailbox command) responder =
        (.ok (direct.request unit reactions command).1, after) := by
      simp only [serve, run, Option.getD_some]
    rw [outcome]
    exact ⟨rfl, next⟩
  | pause => exact ⟨rfl, follows.tick⟩
  | log _ _ => exact ⟨rfl, follows⟩
  | _ => exact client.elim

/-- A client gets the same answers, question by question, and ends with the same result. -/
theorem client_follows {α : Type} {client : Program α} (uses : client.Uses (Client unit))
    (follows : Follows unit timeout direct responder) :
    (client.run (serve unit reactions) responder).1 =
        (client.run (Direct.serve unit reactions) direct).1 ∧
      client.trace (serve unit reactions) responder =
        client.trace (Direct.serve unit reactions) direct := by
  induction client generalizing direct responder with
  | done _ => exact ⟨rfl, rfl⟩
  | fault => exact ⟨rfl, rfl⟩
  | ask op next ih =>
    have ⟨answer, later⟩ := serve_follows reactions uses.1 follows
    have ⟨result, rest⟩ := ih (serve unit reactions op responder).1 (uses.2 _) later
    simp only [Program.run, Program.trace]
    rw [← answer]
    exact ⟨result, congrArg _ rest⟩

/-- If the mailbox is free at the start, every request gets the answer that the IOSSM produces for
its command, whenever the IOSSM acts within the timeout, and no program that uses requests alone can
tell the mailbox from an IOSSM that answers at once. The timeout has ten ticks in each millisecond,
unless its microseconds exceed the word in which the mailbox counts them. -/
theorem answers_delivered {start : Responder} (freeing : start.freeing = none)
    (answering : start.answering = none) (free : start.registers (Io96b.commandWord unit) = 0)
    (unready : readyBit unit start.registers = false) :
    (∀ requests : List (Nat × Command), ∃ answers after,
        Exchanges unit reactions start requests answers after) ∧
      (∀ (α : Type) (client : Program α), client.Uses (Client unit) →
        (client.run (serve unit reactions) start).1 =
            (client.run (Direct.serve unit reactions) ⟨start.registers, start.served⟩).1 ∧
          client.trace (serve unit reactions) start =
            client.trace (Direct.serve unit reactions) ⟨start.registers, start.served⟩) ∧
      (1000 * timeout < 0x100000000 → intervals timeout = 10 * timeout) := by
  have follows : Follows unit timeout ⟨start.registers, start.served⟩ start :=
    ⟨.free freeing free, ⟨answering, .refl⟩, unready, rfl⟩
  exact ⟨fun requests => exists_exchanges requests follows,
    fun _ _ uses => client_follows uses follows, intervals_eq⟩

/-- Numbers the commands in the first data word. An answer is written after one interval, when the
command register is still taken. -/
def numbering : Reactions 1 := fun count _ _ => {
  freed := 3
  answered := 1
  answer := ⟨Io96b.AnswerStatus.ready.put true 0, #v[BitVec.ofNat 32 count, 0, 0]⟩
  freedInTime := by decide
  answeredInTime := by decide
  ready := Flag.read_put _ _ _ (by decide) }

/-- Commands to an IOSSM that is slow to free its command register, and the second of two requests
without a gap. -/
theorem answers_delivered_before_freed :
    let start : Responder := { registers := fun _ => 0 }
    let command : Command := { target := .manager, kind := .memoryInfo, opcode := .listInterfaces }
    start.freeing = none ∧ start.answering = none ∧
      start.registers (Io96b.commandWord 0) = 0 ∧
      readyBit 0 start.registers = false ∧
      (∃ answers after,
        Exchanges 0 numbering start [(0, command), (0, command), (2, command)] answers after) ∧
      (((Program.request 0 command).bind fun _ => Program.request 0 command).run (serve 0 numbering)
        start).1 = some (.ok ⟨Io96b.AnswerStatus.ready.put true 0, #v[1, 0, 0]⟩) := by
  intro start command
  have delivered := @answers_delivered 1 0 numbering start rfl rfl rfl (by decide)
  refine ⟨rfl, rfl, rfl, by decide, delivered.1 _, ?_⟩
  have asks : ((Program.request 0 command).bind fun _ =>
      Program.request 0 command).Uses (Client 0) := ⟨rfl, fun _ => ⟨rfl, fun _ => trivial⟩⟩
  exact (delivered.2.1 _ _ asks).1

end Responder
end BringUp.Iossm
