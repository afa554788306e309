import BringUp.Iossm.Sequence
import BringUp.Program.Poll

/-!
Initialization of the memory content by the self test of the controller.

Memory with error correction has to be written once before it is read, because reading words that
were never written is reported as errors.
-/
namespace BringUp.Iossm

/-- Parameter that selects the full memory range. -/
def fullRange : Word := 0x40

/-- Starts the initialization of an interface. -/
def startCommand (target : Target) : Command :=
  Command.withParameter
    { target := target, kind := .controllerOperation, opcode := .startMemoryInit } 0 fullRange

/-- Asks for the state of the initialization of an interface. -/
def statusCommand (target : Target) : Command :=
  { target := target, kind := .controllerOperation, opcode := .memoryInitStatus }

/-- One look at the initialization of an interface. While it is not complete, the error code of
the answer is seen. -/
def memoryInitComplete (unit : Nat) (target : Target) :
    Program (Look (BitVec 4) (Except Error Unit)) := do
  match ← Program.request unit (statusCommand target) with
  | .error cause => return .settled (.error (.mailbox unit cause))
  | .ok answer =>
    if answer.shortData.getLsbD 0 then return .settled (.ok ())
    else return .pending answer.errorCode

/-- Starts the initialization of an interface and waits until it is complete. -/
def initializeInterface (timeouts : Timeouts) (unit : Nat) (target : Target) : Sequence Unit := do
  let answer ← Sequence.send unit (startCommand target)
  if !answer.shortData.getLsbD 0 then
    Program.log .error ("IOSSM: failed to initialize memory on " ++ unitName unit
      ++ ", error code " ++ Text.hex answer.errorCode.toNat)
    throw (.memoryInitRefused unit answer.errorCode)
  let polled ← Program.poll (fun _ => memoryInitComplete unit target)
    (intervals timeouts.memoryInit)
  match polled.last with
  | .settled (.ok ()) =>
    Program.log .debug ("IOSSM: memory initialized successfully on " ++ unitName unit)
  | .settled (.error cause) => throw cause
  | .pending code =>
    Program.log .error ("IOSSM: timeout initializing memory on " ++ unitName unit
      ++ ", error code " ++ Text.hex code.toNat)
    throw (.memoryInitTimeout unit code)

/-- Initializes the memory of all interfaces, one after the other. -/
def initializeMemory (mailboxes : Nat) (timeouts : Timeouts) : Sequence Unit := do
  let _ ← Sequence.forInstances fun unit record => do
    Sequence.requireMailbox mailboxes unit
    record.interfaces.forM (initializeInterface timeouts unit)

end BringUp.Iossm
