import BringUp.Proofs.Iossm.Delivery
import BringUp.Proofs.Iossm.RequestCourse
import BringUp.Proofs.Program.Interleaving

/-! Answers of an IOSSM that takes its time. Main statement: a request is certain to return the
answer to its own command exactly if all commands before it are answered and acknowledged. -/
namespace BringUp.Iossm

open Program (run_bind_of_some)
open Responder (Shows answerData_ne_commandWord answerStatus_ne_commandWord parameter_ne_answerStatus
  parameter_ne_commandWord readyBit readyBit_write shows_write write_command)

/-- The mailbox registers, and what has passed through them. -/
structure Link where
  registers : Nat → Word
  /-- The command words that were stored, in order. -/
  commands : List Word := []
  /-- Number of commands that the IOSSM has accepted. -/
  accepted : Nat := 0
  /-- The answers of the IOSSM, in order. Each answers the command at its position. -/
  answers : List Answer := []

namespace Link

def store (unit : Nat) (link : Link) (address : Nat) (value : Word) : Link :=
  { link with
    registers := Function.update link.registers address value
    commands := if address = Io96b.commandWord unit then link.commands ++ [value]
      else link.commands }

/-- Answers the questions of the mailbox. There is nothing else behind its registers. -/
def serve (unit : Nat) : (op : Op) → Link → op.Answer × Link
  | .load address, link => (link.registers address, link)
  | .store address value, link => ((), link.store unit address value)
  | op, link => (Responder.blank op, link)

/-- What the IOSSM can do. It does so at any time. -/
inductive Acts (unit : Nat) (link : Link) : Link → Prop
  /-- Accepts the next command by clearing the command register. -/
  | accept (posted : link.accepted < link.commands.length) :
      Acts unit link { link with
        registers := Function.update link.registers (Io96b.commandWord unit) 0
        accepted := link.accepted + 1 }
  /-- Answers the next command that it has accepted. -/
  | answer {answer : Answer} (due : link.answers.length < link.accepted)
      (ready : Io96b.AnswerStatus.ready.read answer.status = true) :
      Acts unit link { link with
        registers := answer.write unit link.registers
        answers := link.answers ++ [answer] }

/-- A request with its result, while the IOSSM acts. -/
def Requested (unit timeout : Nat) (before : Link) (command : Command)
    (result : Except MailboxError Answer) (after : Link) : Prop :=
  ∃ trace, Runs (Mailbox.request unit timeout command) trace (some result) ∧
    Interleaves (serve unit) (Acts unit) before trace after

/-- Requests one after the other, with their results. -/
inductive Session (unit timeout : Nat) (start : Link) :
    List (Command × Except MailboxError Answer) → Link → Prop
  | none : Session unit timeout start [] start
  | more {requests : List (Command × Except MailboxError Answer)} {before after : Link}
      {command : Command} {result : Except MailboxError Answer}
      (earlier : Session unit timeout start requests before)
      (last : Requested unit timeout before command result after) :
      Session unit timeout start (requests ++ [(command, result)]) after

/-- The IOSSM has nothing left to do. -/
structure Idle (link : Link) : Prop where
  accepted : link.accepted = link.commands.length
  answered : link.answers.length = link.commands.length

/-- All commands are answered, and the last answer is acknowledged. -/
structure Settled (unit : Nat) (link : Link) : Prop extends Idle link where
  unready : readyBit unit link.registers = false

/-- The IOSSM keeps the order, and a command stays in the register until it is accepted. -/
structure Orderly (unit : Nat) (link : Link) : Prop where
  answered : link.answers.length ≤ link.accepted
  accepted : link.accepted ≤ link.commands.length
  free : link.accepted = link.commands.length → link.registers (Io96b.commandWord unit) = 0

/-- One command more than before is sent, and not answered yet. -/
structure Waiting (unit : Nat) (before : Link) (word : Word) (link : Link) : Prop where
  commands : link.commands = before.commands ++ [word]
  answers : link.answers = before.answers
  accepted : link.accepted ≤ link.commands.length
  unready : readyBit unit link.registers = false

/-- One command more than before is sent, and its answer stands in the registers. -/
structure Answered (unit : Nat) (before : Link) (word : Word) (answer : Answer) (link : Link) :
    Prop extends Idle link where
  commands : link.commands = before.commands ++ [word]
  answers : link.answers = before.answers ++ [answer]
  shows : Shows unit answer link.registers

variable {unit timeout : Nat} {link next before after start : Link} {command : Command}
  {word : Word} {answer : Answer} {trace : Trace}

theorem Requested.of_run {result : Except MailboxError Answer}
    (h : ((Mailbox.request unit timeout command).run (serve unit) before).1 = some result) :
    Requested unit timeout before command result
      ((Mailbox.request unit timeout command).run (serve unit) before).2 :=
  ⟨_, h ▸ .of_run (serve unit) (Mailbox.request unit timeout command) before, .of_run _ before⟩

theorem Requested.act {result : Except MailboxError Answer}
    (requested : Requested unit timeout before command result after)
    (act : Acts unit after next) : Requested unit timeout before command result next := by
  obtain ⟨trace, run, interleaved⟩ := requested
  have further := interleaved.append (.act act (.done next))
  rw [List.append_nil] at further
  exact ⟨trace, run, further⟩

theorem Requested.after_acts {result : Except MailboxError Answer}
    (acts : Interleaves (serve unit) (Acts unit) before [] link)
    (requested : Requested unit timeout link command result after) :
    Requested unit timeout before command result after := by
  obtain ⟨trace, run, interleaved⟩ := requested
  exact ⟨trace, run, acts.append interleaved⟩

section Steps

theorem Idle.still (idle : link.Idle) (next : Link) : ¬ Acts unit link next := by
  intro act
  cases act with
  | accept posted => exact absurd posted (by rw [idle.accepted]; exact Nat.lt_irrefl _)
  | answer due _ => exact absurd due (by rw [idle.accepted, idle.answered]; exact Nat.lt_irrefl _)

theorem readyBit_update_of_ne {registers : Nat → Word} {address : Nat} {value : Word}
    (h : Io96b.answerStatus unit ≠ address) :
    readyBit unit (Function.update registers address value) = readyBit unit registers := by
  rw [readyBit, Function.update_of_ne h]
  rfl

theorem store_of_ne {address : Nat} {value : Word} (h : address ≠ Io96b.commandWord unit) :
    link.store unit address value =
      { link with registers := Function.update link.registers address value } := by
  rw [store, if_neg h]

/-- The answer that comes next answers the command that was sent last. -/
theorem Waiting.act (idle : before.Idle) (waiting : Waiting unit before word link)
    (act : Acts unit link next) :
    Waiting unit before word next ∨ ∃ answer, Answered unit before word answer next := by
  have count : link.commands.length = before.commands.length + 1 := by simp [waiting.commands]
  cases act with
  | accept posted =>
    refine .inl ⟨waiting.commands, waiting.answers, posted, ?_⟩
    exact (readyBit_update_of_ne answerStatus_ne_commandWord).trans waiting.unready
  | @answer answer due _ =>
    have accepted := waiting.accepted
    rw [waiting.answers, idle.answered] at due
    refine .inr ⟨answer, ⟨by dsimp only; omega, ?_⟩, waiting.commands, ?_, shows_write⟩
    · simp [waiting.answers, idle.answered, count]
    · rw [waiting.answers]

theorem Orderly.act (orderly : link.Orderly unit) (act : Acts unit link next) :
    next.Orderly unit := by
  cases act with
  | accept posted =>
    refine ⟨Nat.le_succ_of_le orderly.answered, posted, fun _ => ?_⟩
    dsimp only
    rw [Function.update_self]
  | answer due _ =>
    refine ⟨?_, orderly.accepted, fun all => ?_⟩
    · rw [List.length_append, List.length_singleton]
      exact due
    · dsimp only
      rw [write_command]
      exact orderly.free all

/-- A command that is stored is not accepted yet, and other stores do not reach the register. -/
theorem Orderly.served (orderly : link.Orderly unit) (op : Op) :
    (serve unit op link).2.Orderly unit := by
  cases op with
  | store address value =>
    by_cases posts : address = Io96b.commandWord unit
    · have accepted := orderly.accepted
      refine ⟨orderly.answered, ?_, fun all => ?_⟩
      · simp only [Link.serve, Link.store, if_pos posts, List.length_append, List.length_singleton]
        omega
      · simp only [Link.serve, Link.store, if_pos posts, List.length_append,
          List.length_singleton] at all
        omega
    · simp only [Link.serve, store_of_ne posts]
      refine ⟨orderly.answered, orderly.accepted, fun all => ?_⟩
      dsimp only
      rw [Function.update_of_ne (Ne.symm posts)]
      exact orderly.free all
  | _ => exact orderly

theorem Orderly.session {requests : List (Command × Except MailboxError Answer)}
    (session : Session unit timeout start requests after) (orderly : start.Orderly unit) :
    after.Orderly unit := by
  induction session with
  | none => exact orderly
  | more _ last ih =>
    obtain ⟨trace, -, interleaved⟩ := last
    exact interleaved.inv (Orderly unit) (fun _ => True) Orderly.act
      (fun _ orderly => orderly.served _) (fun _ _ => trivial) ih

end Steps

section Request

/-- Questions that do not store anything. -/
def Reading : Op → Prop
  | .store _ _ => False
  | _ => True

theorem serve_of_reading {op : Op} (reading : Reading op) : (serve unit op link).2 = link := by
  cases op with
  | store _ _ => exact reading.elim
  | _ => rfl

theorem reading_of_watching {address : Nat} {op : Op} (watching : Mailbox.Watching address op) :
    Reading op := by
  cases op with
  | store _ _ => exact watching
  | _ => trivial

theorem Idle.reading (idle : link.Idle) (reads : ∀ event ∈ trace, Reading event.op)
    (interleaved : Interleaves (serve unit) (Acts unit) link trace next) : next = link :=
  interleaved.inv (· = link) Reading
    (fun same act => absurd act (same ▸ idle.still _))
    (fun reading same => (serve_of_reading reading).trans same) reads rfl

theorem Idle.watching {address : Nat} (idle : link.Idle)
    (watches : ∀ event ∈ trace, Mailbox.Watching address event.op)
    (interleaved : Interleaves (serve unit) (Acts unit) link trace next) : next = link :=
  idle.reading (fun event member => reading_of_watching (watches event member)) interleaved

theorem Settled.parameters (settled : before.Settled unit)
    (writes : ∀ event ∈ trace, Mailbox.Parameterizing unit event.op)
    (interleaved : Interleaves (serve unit) (Acts unit) before trace after) :
    after.Settled unit ∧ after.commands = before.commands ∧ after.answers = before.answers := by
  refine interleaved.inv (fun link => link.Settled unit ∧ link.commands = before.commands ∧
    link.answers = before.answers) (Mailbox.Parameterizing unit) ?_ ?_ writes ⟨settled, rfl, rfl⟩
  · exact fun kept act => absurd act (kept.1.still _)
  · intro op link writes kept
    obtain ⟨settled, commands, answers⟩ := kept
    cases op with
    | store address value =>
      obtain ⟨index, rfl⟩ := writes
      simp only [serve, store_of_ne (parameter_ne_commandWord index)]
      refine ⟨⟨⟨settled.accepted, settled.answered⟩, ?_⟩, commands, answers⟩
      exact (readyBit_update_of_ne (parameter_ne_answerStatus index)).trans settled.unready
    | _ => exact writes.elim

theorem Settled.sent (settled : link.Settled unit) (commands : link.commands = before.commands)
    (answers : link.answers = before.answers) :
    Waiting unit before word (link.store unit (Io96b.commandWord unit) word) := by
  refine ⟨?_, answers, ?_, ?_⟩
  · simp [store, commands]
  · simp [store, settled.accepted]
  · exact (readyBit_update_of_ne answerStatus_ne_commandWord).trans settled.unready

theorem Waiting.ready (idle : before.Idle) (waiting : Waiting unit before word link)
    (run : Runs (Program.await (Mailbox.answerReady unit) timeout) trace (some true))
    (interleaved : Interleaves (serve unit) (Acts unit) link trace next) :
    ∃ answer, Answered unit before word answer next := by
  have kept {link next : Link} (start : Waiting unit before word link ∨
      ∃ answer, Answered unit before word answer link) (act : Acts unit link next) :
      Waiting unit before word next ∨ ∃ answer, Answered unit before word answer next := by
    obtain waiting | ⟨answer, answered⟩ := start
    · exact waiting.act idle act
    · exact absurd act (answered.still _)
  obtain ⟨early, status, rfl, seen, watches⟩ := Mailbox.await_answerReady run
  obtain ⟨middle, earlier, look⟩ := Interleaves.append_iff.1 interleaved
  obtain ⟨moment, acted, rfl, ended⟩ := Interleaves.cons_iff.1 look
  have held := (earlier.append acted).inv (fun link => Waiting unit before word link ∨
    ∃ answer, Answered unit before word answer link) Reading kept
    (fun reading held => (serve_of_reading reading).symm ▸ held)
    (fun event member => reading_of_watching (watches event (by simpa using member)))
    (.inl waiting)
  obtain waiting | ⟨answer, answered⟩ := held
  · exact absurd (seen.symm.trans waiting.unready) (by decide)
  · have same : next = moment := ended.nil_of_still answered.still
    exact ⟨answer, same ▸ answered⟩

/-- The words of an answer are read as they stand, and acknowledging it settles the mailbox. -/
theorem Answered.collected {status data0 data1 data2 : Word}
    (answered : Answered unit before word answer link)
    (interleaved : Interleaves (serve unit) (Acts unit) link
      [⟨.load (Io96b.answerStatus unit), status⟩, ⟨.load (Io96b.answerData unit 0), data0⟩,
        ⟨.load (Io96b.answerData unit 1), data1⟩, ⟨.load (Io96b.answerData unit 2), data2⟩,
        ⟨.store (Io96b.answerStatus unit) (Io96b.AnswerStatus.ready.put false status), ()⟩] after) :
    (⟨status, #v[data0, data1, data2]⟩ : Answer) = answer ∧ after.Settled unit ∧
      after.commands = before.commands ++ [word] ∧ after.answers = before.answers ++ [answer] := by
  have still : ∀ next, ¬ Acts unit link next := answered.still
  obtain ⟨rfl, rest₁⟩ := (Interleaves.cons_iff_of_still still).1 interleaved
  obtain ⟨rfl, rest₂⟩ := (Interleaves.cons_iff_of_still still).1 rest₁
  obtain ⟨rfl, rest₃⟩ := (Interleaves.cons_iff_of_still still).1 rest₂
  obtain ⟨rfl, rest₄⟩ := (Interleaves.cons_iff_of_still still).1 rest₃
  obtain ⟨-, rest⟩ := (Interleaves.cons_iff_of_still still).1 rest₄
  have idle : (link.store unit (Io96b.answerStatus unit) (Io96b.AnswerStatus.ready.put false
      (link.registers (Io96b.answerStatus unit)))).Idle := by
    rw [store_of_ne answerStatus_ne_commandWord]
    exact ⟨answered.accepted, answered.answered⟩
  have same : after = link.store unit (Io96b.answerStatus unit) (Io96b.AnswerStatus.ready.put false
      (link.registers (Io96b.answerStatus unit))) := rest.nil_of_still idle.still
  rw [store_of_ne answerStatus_ne_commandWord] at same idle
  subst same
  refine ⟨answered.shows.words, ⟨idle, ?_⟩, answered.commands, answered.answers⟩
  dsimp only
  rw [readyBit, Function.update_self]
  exact Flag.read_put _ _ _ (by decide)

/-- What a request does to a settled mailbox. Only a missing answer leaves it unsettled. -/
inductive Settled.Outcome (unit : Nat) (before : Link) (command : Command) :
    Except MailboxError Answer → Link → Prop
  | notReady : Settled.Outcome unit before command (.error .notReady) before
  | noAnswer {after : Link} (status : Word) :
      Settled.Outcome unit before command (.error (.noAnswer status)) after
  | answered {after : Link} {answer : Answer} (settled : after.Settled unit)
      (commands : after.commands = before.commands ++ [command.word])
      (answers : after.answers = before.answers ++ [answer]) :
      Settled.Outcome unit before command (.ok answer) after

theorem Settled.request {result : Except MailboxError Answer} (settled : before.Settled unit)
    (requested : Requested unit timeout before command result after) :
    Settled.Outcome unit before command result after := by
  obtain ⟨trace, run, interleaved⟩ := requested
  cases Mailbox.request_course run with
  | @notReady freeing taken =>
    have watches := taken.uses (Mailbox.await_watching Mailbox.commandFree_uses)
    have same : after = before := settled.reading (fun event member => by
      obtain early | last := List.mem_append.1 member
      · exact reading_of_watching (watches event early)
      · rw [List.mem_singleton.1 last]
        trivial) interleaved
    exact same ▸ .notReady
  | noAnswer _ _ _ => exact .noAnswer _
  | answered free written ready =>
    obtain ⟨freed, watched, sending⟩ := Interleaves.append_iff.1 interleaved
    obtain rfl := settled.watching (free.uses (Mailbox.await_watching Mailbox.commandFree_uses)) watched
    obtain ⟨prepared, prepares, sends⟩ := Interleaves.append_iff.1 sending
    obtain ⟨quiet, commands, answers⟩ :=
      settled.parameters (written.uses Mailbox.writeParameters_uses) prepares
    obtain ⟨-, answering⟩ := (Interleaves.cons_iff_of_still quiet.still).1 sends
    obtain ⟨_, awaits, collecting⟩ := Interleaves.append_iff.1 answering
    obtain ⟨answer, answered⟩ :=
      (quiet.sent commands answers).ready settled.toIdle ready awaits
    obtain ⟨rfl, after', commands, answers⟩ := answered.collected collecting
    exact .answered after' commands answers

/-- As long as every request gets its answer in time, the mailbox is settled in between. -/
theorem Settled.session {requests : List (Command × Except MailboxError Answer)}
    (session : Session unit timeout start requests after) (settled : start.Settled unit)
    (inTime : ∀ request ∈ requests, ∀ status, request.2 ≠ .error (.noAnswer status)) :
    after.Settled unit := by
  induction session with
  | none => exact settled
  | @more requests _ _ command result _ last ih =>
    have before := ih fun request member => inTime request (List.mem_append_left _ member)
    have answered := inTime (command, result) (List.mem_append_right _ (List.mem_singleton_self _))
    cases before.request last with
    | notReady => exact before
    | noAnswer status => exact absurd rfl (answered status)
    | answered settled _ _ => exact settled

end Request

section Late

/-- An answer that says no more than that it is there. -/
def bare : Answer := ⟨Io96b.AnswerStatus.ready.mask, Vector.replicate 3 0⟩

theorem Orderly.accepts (orderly : link.Orderly unit) :
    ∃ next, Interleaves (serve unit) (Acts unit) link [] next ∧ next.Orderly unit ∧
      next.accepted = next.commands.length ∧ next.commands = link.commands ∧
      next.answers = link.answers ∧ readyBit unit next.registers = readyBit unit link.registers := by
  generalize outstanding : link.commands.length - link.accepted = count
  induction count generalizing link with
  | zero =>
    have accepted := orderly.accepted
    exact ⟨link, .done link, orderly, by omega, rfl, rfl, rfl⟩
  | succ count ih =>
    have first : Acts unit link _ := .accept (by omega)
    obtain ⟨next, rest, ordered, accepted, commands, answers, ready⟩ :=
      ih (orderly.act first) (by dsimp only; omega)
    exact ⟨next, .act first rest, ordered, accepted, commands, answers,
      ready.trans (readyBit_update_of_ne answerStatus_ne_commandWord)⟩

/-- If the mailbox is not settled, an earlier answer can be there before the next command is. -/
theorem Orderly.exposed (orderly : link.Orderly unit) (unsettled : ¬ link.Settled unit) :
    ∃ next, Interleaves (serve unit) (Acts unit) link [] next ∧
      next.registers (Io96b.commandWord unit) = 0 ∧ readyBit unit next.registers = true ∧
      next.commands = link.commands ∧ next.answers.length ≤ link.commands.length := by
  obtain ⟨next, acts, ordered, accepted, commands, answers, ready⟩ := orderly.accepts
  have answered := ordered.answered
  rw [accepted, commands] at answered
  cases shown : readyBit unit next.registers with
  | true => exact ⟨next, acts, ordered.free accepted, shown, commands, answered⟩
  | false =>
    have due : next.answers.length < next.accepted := by
      refine Nat.lt_of_le_of_ne ordered.answered fun all => unsettled ⟨⟨?_, ?_⟩, ready ▸ shown⟩
      · have early := orderly.answered
        have posted := orderly.accepted
        rw [accepted, commands, answers] at all
        omega
      · rw [← answers, ← commands, ← accepted, all]
    have act : Acts unit next { next with
        registers := bare.write unit next.registers
        answers := next.answers ++ [bare] } := .answer due rfl
    refine ⟨_, acts.append (.act act (.done _)), ?_, ?_, commands, ?_⟩
    · dsimp only
      rw [write_command]
      exact ordered.free accepted
    · exact readyBit_write.trans rfl
    · rw [accepted, commands] at due
      rw [List.length_append, List.length_singleton]
      exact due

theorem run_writeParameters (unit : Nat) (parameters : Vector Word parameterCount) (link : Link) :
    ∃ next, (Mailbox.writeParameters unit parameters).run (serve unit) link = (some (), next) ∧
      readyBit unit next.registers = readyBit unit link.registers ∧
      next.commands = link.commands ∧ next.answers = link.answers := by
  refine Program.run_forM (fun next : Link => readyBit unit next.registers = readyBit unit link.registers ∧
    next.commands = link.commands ∧ next.answers = link.answers) ?_ ⟨rfl, rfl, rfl⟩
  rintro ⟨value, index⟩ next ⟨ready, commands, answers⟩
  by_cases unused : value = 0
  · refine ⟨next, ?_, ready, commands, answers⟩
    dsimp only
    rw [if_pos unused]
    rfl
  · refine ⟨next.store unit (Io96b.parameter unit index) value, ?_, ?_⟩
    · dsimp only
      rw [if_neg unused]
      rfl
    rw [store_of_ne (parameter_ne_commandWord index)]
    exact ⟨(readyBit_update_of_ne (parameter_ne_answerStatus index)).trans ready, commands, answers⟩

/-- A request that finds the ready bit set returns at once, and the IOSSM does not take part. -/
theorem run_request (timeout : Nat) (command : Command)
    (free : link.registers (Io96b.commandWord unit) = 0)
    (ready : readyBit unit link.registers = true) :
    ∃ answer after, (Mailbox.request unit timeout command).run (serve unit) link =
        (some (.ok answer), after) ∧
      after.commands = link.commands ++ [command.word] ∧ after.answers = link.answers := by
  have now : Settles (fun link : Link => link.registers (Io96b.commandWord unit) == 0) id
      (intervals timeout) link link := .now (by simp [free])
  have freed : (Program.await (Mailbox.commandFree unit) timeout).run (serve unit) link =
      (some true, link) := Program.run_await (fun _ => rfl) (fun _ => rfl) now
  obtain ⟨prepared, written, kept, commands, answers⟩ :=
    run_writeParameters unit command.parameters link
  let sent := prepared.store unit (Io96b.commandWord unit) command.word
  have unchanged : readyBit unit sent.registers = true :=
    (readyBit_update_of_ne answerStatus_ne_commandWord).trans (kept.trans ready)
  have posted : (Program.store (Io96b.commandWord unit) command.word).run (serve unit) prepared =
      (some (), sent) := rfl
  have stands : Settles (fun link : Link => readyBit unit link.registers) id (intervals timeout)
      sent sent := .now unchanged
  have answered : (Program.await (Mailbox.answerReady unit) timeout).run (serve unit) sent =
      (some true, sent) := Program.run_await (fun _ => rfl) (fun _ => rfl) stands
  unfold Mailbox.request
  refine ⟨_, sent.store unit (Io96b.answerStatus unit) _,
    (run_bind_of_some freed).trans ((run_bind_of_some written).trans
      ((run_bind_of_some posted).trans ((run_bind_of_some answered).trans rfl))), ?_, ?_⟩
  · rw [store_of_ne answerStatus_ne_commandWord]
    simp only [sent, store, if_pos, commands]
  · exact answers

/-- From a mailbox that is not settled, a request may return an answer that is not its own. -/
theorem Orderly.mismatched (orderly : before.Orderly unit) (unsettled : ¬ before.Settled unit)
    (command : Command) : ∃ answer after, Requested unit timeout before command (.ok answer) after ∧
      after.commands = before.commands ++ [command.word] ∧
      after.answers.length ≤ before.commands.length := by
  obtain ⟨link, acts, free, ready, commands, few⟩ := orderly.exposed unsettled
  obtain ⟨answer, after, run, sent, answers⟩ := run_request timeout command free ready
  have requested : Requested unit timeout link command (.ok answer) after := by
    have alone := Requested.of_run (congrArg Prod.fst run)
    rw [run] at alone
    exact alone
  refine ⟨answer, after, requested.after_acts acts, ?_, ?_⟩
  · rw [sent, commands]
  · rw [answers]
    exact few

end Late

/-- After any number of requests, the next answer is certain to be that of the IOSSM to the command
just sent if and only if the mailbox is settled. It is if no earlier request got no answer in
time. -/
theorem answers_matched_iff {registers : Nat → Word}
    {requests : List (Command × Except MailboxError Answer)}
    (free : registers (Io96b.commandWord unit) = 0) (unready : readyBit unit registers = false)
    (session : Session unit timeout { registers := registers } requests before) :
    ((∀ command answer after, Requested unit timeout before command (.ok answer) after →
        after.commands[before.commands.length]? = some command.word ∧
          after.answers[before.commands.length]? = some answer) ↔ before.Settled unit) ∧
      ((∀ request ∈ requests, ∀ status, request.2 ≠ .error (.noAnswer status)) →
        before.Settled unit) := by
  refine ⟨⟨fun matched => ?_, fun settled command answer after requested => ?_⟩, fun inTime => ?_⟩
  · by_contra unsettled
    have orderly : before.Orderly unit :=
      Orderly.session session ⟨Nat.le_refl _, Nat.le_refl _, fun _ => free⟩
    have command : Command := { target := .manager, kind := .nop, opcode := .listInterfaces }
    obtain ⟨answer, after, requested, -, few⟩ := orderly.mismatched unsettled command
    have present := (matched command answer after requested).2
    rw [List.getElem?_eq_none few] at present
    cases present
  · cases settled.request requested with
    | answered _ commands answers =>
      rw [commands, answers, ← settled.answered]
      refine ⟨?_, List.getElem?_concat_length⟩
      rw [settled.answered]
      exact List.getElem?_concat_length
  · exact Settled.session session ⟨⟨rfl, rfl⟩, unready⟩ inTime

/-- A mailbox whose registers are all zero. -/
def fresh : Link := { registers := fun _ => 0 }

/-- Asks for the technology of the memory behind an interface. -/
def technologyQuery : Command := { target := ⟨1, 0⟩, kind := .memoryInfo, opcode := .technology }

/-- Asks for the width of the memory behind an interface. -/
def widthQuery : Command := { target := ⟨1, 0⟩, kind := .memoryInfo, opcode := .width }

/-- With an IOSSM that never does anything, the first request gets no answer, and then the mailbox
is not settled any more. -/
theorem answers_matched_iff_after_silence :
    fresh.registers (Io96b.commandWord 0) = 0 ∧ readyBit 0 fresh.registers = false ∧
      ∃ before, Session 0 1 fresh [(technologyQuery, .error (.noAnswer 0))] before ∧
        ¬ ∀ command answer after, Requested 0 1 before command (.ok answer) after →
          after.commands[before.commands.length]? = some command.word ∧
            after.answers[before.commands.length]? = some answer := by
  have session : Session 0 1 fresh ([] ++ [(technologyQuery, .error (.noAnswer 0))]) _ :=
    .more .none (.of_run rfl)
  refine ⟨rfl, by decide, _, session, fun matched => ?_⟩
  have settled := (answers_matched_iff rfl (by decide) session).1.1 matched
  exact absurd settled.accepted (by decide)

/-- The answer that comes too late. -/
def lateAnswer : Answer := ⟨0x11110001, #v[0x11, 0, 0]⟩

/-- The answer to the next command. -/
def nextAnswer : Answer := ⟨0x22220001, #v[0x22, 0, 0]⟩

/-- A mailbox that has given up waiting for the answer to its only command, when the answer has
come. -/
def overdue : Link :=
  let silent := ((Mailbox.request 0 1 technologyQuery).run (serve 0) fresh).2
  { silent with
    registers := lateAnswer.write 0 (Function.update silent.registers (Io96b.commandWord 0) 0)
    accepted := 1
    answers := [lateAnswer] }

/-- The first command is answered too late, and its answer is returned for the second one. -/
theorem late_answer_returned :
    Session 0 1 fresh [(technologyQuery, .error (.noAnswer 0))] overdue ∧
      ∃ after, Requested 0 1 overdue widthQuery (.ok lateAnswer) after ∧
        after.commands = [technologyQuery.word, widthQuery.word] ∧
        after.answers = [lateAnswer, nextAnswer] ∧ lateAnswer ≠ nextAnswer := by
  have silent : Requested 0 1 fresh technologyQuery (.error (.noAnswer 0)) _ := .of_run rfl
  have given : Requested 0 1 fresh technologyQuery (.error (.noAnswer 0)) overdue :=
    (silent.act (.accept (by decide))).act (.answer (by decide) (by decide))
  have returned : Requested 0 1 overdue widthQuery (.ok lateAnswer) _ := .of_run rfl
  have answered := (returned.act (.accept (by decide))).act
    (@Acts.answer 0 _ nextAnswer (by decide) (by decide))
  exact ⟨.more .none given, _, answered, rfl, rfl, by decide⟩

end Link
end BringUp.Iossm
