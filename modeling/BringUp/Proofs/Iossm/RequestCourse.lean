import BringUp.Iossm.Mailbox
import BringUp.Proofs.Program.Polling

/-! The course of a request to the mailbox registers. Main statement: a request that returns took one of
three courses, which differ in how far it came. -/
namespace BringUp.Iossm.Mailbox

open Program (uses_bind uses_log uses_await uses_forM)

variable {unit timeout : Nat} {command : Command} {trace : Trace}

/-- The courses of a request. -/
inductive Course (unit timeout : Nat) (command : Command) :
    Trace → Except MailboxError Answer → Prop
  /-- The command register did not become free. -/
  | notReady {freeing : Trace}
      (taken : Runs (Program.await (commandFree unit) timeout) freeing (some false)) :
      Course unit timeout command
        (freeing ++ [⟨.log .error "IOSSM: command request register not ready", ()⟩])
        (.error .notReady)
  /-- The command was sent, and no answer became ready. -/
  | noAnswer {freeing writing answering : Trace} {status : Word} {text : String}
      (free : Runs (Program.await (commandFree unit) timeout) freeing (some true))
      (written : Runs (writeParameters unit command.parameters) writing (some ()))
      (silent : Runs (Program.await (answerReady unit) timeout) answering (some false)) :
      Course unit timeout command
        (freeing ++ (writing ++ (⟨.store (Io96b.commandWord unit) command.word, ()⟩ ::
          (answering ++ [⟨.load (Io96b.answerStatus unit), status⟩, ⟨.log .error text, ()⟩]))))
        (.error (.noAnswer status))
  /-- The command was sent, and an answer was read and acknowledged. -/
  | answered {freeing writing answering : Trace} {status data0 data1 data2 : Word}
      (free : Runs (Program.await (commandFree unit) timeout) freeing (some true))
      (written : Runs (writeParameters unit command.parameters) writing (some ()))
      (ready : Runs (Program.await (answerReady unit) timeout) answering (some true)) :
      Course unit timeout command
        (freeing ++ (writing ++ (⟨.store (Io96b.commandWord unit) command.word, ()⟩ ::
          (answering ++ [⟨.load (Io96b.answerStatus unit), status⟩,
            ⟨.load (Io96b.answerData unit 0), data0⟩, ⟨.load (Io96b.answerData unit 1), data1⟩,
            ⟨.load (Io96b.answerData unit 2), data2⟩,
            ⟨.store (Io96b.answerStatus unit) (Io96b.AnswerStatus.ready.put false status), ()⟩]))))
        (.ok ⟨status, #v[data0, data1, data2]⟩)

theorem request_course {result : Except MailboxError Answer}
    (run : Runs (request unit timeout command) trace (some result)) :
    Course unit timeout command trace result := by
  obtain ⟨freeing, _, _ | _, rfl, free, run₁⟩ := Runs.bind_some_iff.1 run
  · obtain ⟨_, _, _, rfl, told, run₂⟩ := Runs.bind_some_iff.1 run₁
    obtain ⟨rfl, -⟩ := Runs.log_iff.1 told
    obtain ⟨rfl, same⟩ := Runs.done_iff.1 run₂
    cases same
    exact .notReady free
  · obtain ⟨writing, _, _, rfl, written, run₂⟩ := Runs.bind_some_iff.1 run₁
    obtain ⟨_, _, _, rfl, stored, run₃⟩ := Runs.bind_some_iff.1 run₂
    obtain ⟨rfl, -⟩ := Runs.store_iff.1 stored
    obtain ⟨answering, _, _ | _, rfl, ready, run₄⟩ := Runs.bind_some_iff.1 run₃
    · obtain ⟨status, _, rfl, run₅⟩ := Runs.ask_iff.1 run₄
      obtain ⟨_, _, rfl, run₆⟩ := Runs.ask_iff.1 run₅
      obtain ⟨rfl, same⟩ := Runs.done_iff.1 run₆
      cases same
      exact .noAnswer free written ready
    · obtain ⟨status, _, rfl, run₅⟩ := Runs.ask_iff.1 run₄
      obtain ⟨data0, _, rfl, run₆⟩ := Runs.ask_iff.1 run₅
      obtain ⟨data1, _, rfl, run₇⟩ := Runs.ask_iff.1 run₆
      obtain ⟨data2, _, rfl, run₈⟩ := Runs.ask_iff.1 run₇
      obtain ⟨_, _, rfl, run₉⟩ := Runs.ask_iff.1 run₈
      obtain ⟨rfl, same⟩ := Runs.done_iff.1 run₉
      cases same
      exact .answered free written ready

/-- Questions of waiting for a condition on one register. -/
def Watching (address : Nat) : Op → Prop
  | .load other => other = address
  | .pause => True
  | _ => False

/-- Questions of writing parameters. -/
def Parameterizing (unit : Nat) : Op → Prop
  | .store address _ => ∃ index, address = Io96b.parameter unit index
  | _ => False

theorem commandFree_uses :
    (commandFree unit).Uses fun op => op = .load (Io96b.commandWord unit) :=
  ⟨rfl, fun _ => trivial⟩

theorem answerReady_uses :
    (answerReady unit).Uses fun op => op = .load (Io96b.answerStatus unit) :=
  ⟨rfl, fun _ => trivial⟩

theorem await_watching {condition : Program Bool} {address : Nat}
    (uses : condition.Uses fun op => op = .load address) :
    (Program.await condition timeout).Uses (Watching address) :=
  uses_await (uses.mono fun _ same => same ▸ rfl) trivial

theorem writeParameters_uses {parameters : Vector Word parameterCount} :
    (writeParameters unit parameters).Uses (Parameterizing unit) := by
  refine uses_forM fun item _ => ?_
  dsimp only
  split
  · trivial
  · exact ⟨⟨_, rfl⟩, fun _ => trivial⟩

theorem await_answerReady {met : Bool}
    (run : Runs (Program.await (answerReady unit) timeout) trace (some met)) :
    ∃ waiting status, trace = waiting ++ [⟨.load (Io96b.answerStatus unit), status⟩] ∧
      Io96b.AnswerStatus.ready.read status = met ∧
      ∀ event ∈ waiting, Watching (Io96b.answerStatus unit) event.op := by
  have watched := run.uses (await_watching answerReady_uses)
  obtain ⟨waiting, last, rfl, look, -⟩ := run.await_look
    (answerReady_uses.mono fun op same => by rw [same]; exact Op.noConfusion)
  obtain ⟨status, rest, rfl, shown⟩ := Runs.ask_iff.1 look
  obtain ⟨rfl, same⟩ := Runs.done_iff.1 shown
  cases same
  exact ⟨waiting, status, rfl, rfl, fun event member => watched event (List.mem_append_left _ member)⟩

end BringUp.Iossm.Mailbox
