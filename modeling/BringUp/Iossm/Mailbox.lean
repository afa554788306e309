import BringUp.Program.Poll

/-!
The mailbox registers of an IO96B instance.

A command may only be written when the command register is free. Its answer is complete when the
ready bit is set, and is acknowledged by clearing that bit.
-/
namespace BringUp.Iossm.Mailbox

/-- Default timeout in milliseconds for a free command register and for an answer. -/
def defaultTimeout : Nat := 1000

def status (unit : Nat) : Program Word :=
  Program.load (Io96b.subsystemStatus unit)

/-- Writes the parameters in order, except for those that are zero. -/
def writeParameters (unit : Nat) (parameters : Vector Word parameterCount) : Program Unit :=
  parameters.toList.zipIdx.forM fun (value, index) =>
    if value = 0 then return () else Program.store (Io96b.parameter unit index) value

def commandFree (unit : Nat) : Program Bool := do
  return (← Program.load (Io96b.commandWord unit)) == 0

def answerReady (unit : Nat) : Program Bool := do
  return Io96b.AnswerStatus.ready.read (← Program.load (Io96b.answerStatus unit))

/-- Sends a command and waits for its answer. Each of the two waits has the full timeout. -/
def request (unit timeout : Nat) (command : Command) : Program (Except MailboxError Answer) := do
  if !(← Program.await (commandFree unit) timeout) then
    Program.log .error "IOSSM: command request register not ready"
    return .error .notReady
  writeParameters unit command.parameters
  Program.store (Io96b.commandWord unit) command.word
  if !(← Program.await (answerReady unit) timeout) then
    let status ← Program.load (Io96b.answerStatus unit)
    Program.log .error ("IOSSM: response timeout for opcode " ++ Text.hex command.opcode.code
      ++ ", status " ++ Text.hexWord status)
    return .error (.noAnswer status)
  let status ← Program.load (Io96b.answerStatus unit)
  let data0 ← Program.load (Io96b.answerData unit 0)
  let data1 ← Program.load (Io96b.answerData unit 1)
  let data2 ← Program.load (Io96b.answerData unit 2)
  Program.store (Io96b.answerStatus unit) (Io96b.AnswerStatus.ready.put false status)
  return .ok ⟨status, #v[data0, data1, data2]⟩

end BringUp.Iossm.Mailbox
