import BringUp.Iossm.Command

/-!
What a bring-up program can ask of the world, and the type of each answer.

The registers, the DRAM and the clock are reached by single accesses. The IOSSM mailboxes, the
DRAM probe, the boot environment and the secure device manager are reached by whole services; a
service may itself be a program over the single accesses.
-/
namespace BringUp

/-- Severity of a log record. -/
inductive Level where
  | debug
  | info
  | warning
  | error
deriving DecidableEq, Repr

/-- Why a variable could not be stored. -/
inductive EnvironmentError where
  | full
  | valueTooLong
deriving DecidableEq, Repr

def EnvironmentError.message : EnvironmentError → String
  | full => "environment is full"
  | valueTooLong => "environment value too long"

/-- How far the processor system has come, as announced to the secure device manager. -/
inductive Stage where
  | firstLoader
  | secondLoader
  | operatingSystem
deriving DecidableEq, Repr

def Stage.number : Stage → Nat
  | firstLoader => 0
  | secondLoader => 1
  | operatingSystem => 2

/-- Service of the secure device manager. -/
inductive ManagerCall where
  /-- Returns the QSPI flash to the secure device manager. -/
  | closeQspi
  | announce (stage : Stage)
  /-- Sets up the SMMU for accesses of the secure device manager. -/
  | setUpSmmu
deriving DecidableEq, Repr

/-- A single question to the world. -/
inductive Op where
  /-- Reads a register or another word of memory. -/
  | load (address : Nat)
  /-- Writes a register or another word of memory. -/
  | store (address : Nat) (value : Word)
  /-- Reads a cell of DRAM. -/
  | loadCell (address : Nat)
  /-- Writes a cell of DRAM. -/
  | storeCell (address : Nat) (value : Cell)
  /-- Lets the polling interval pass. -/
  | pause
  | log (level : Level) (text : String)
  /-- Reads the calibration status of an IOSSM. -/
  | status (mailbox : Nat)
  /-- Sends a command to an IOSSM and waits for its answer. -/
  | request (mailbox : Nat) (command : Iossm.Command)
  /-- Asks how many of `size` bytes from `start` are accessible. -/
  | probe (start size : Nat)
  | getVariable (name : String)
  | setVariable (name value : String)
  | manager (call : ManagerCall)
deriving DecidableEq, Repr

/-- The answers that a question admits. -/
@[reducible] def Op.Answer : Op → Type
  | load _ => Word
  | loadCell _ => Cell
  | status _ => Word
  | request _ _ => Except Iossm.MailboxError Iossm.Answer
  | probe _ _ => Nat
  | getVariable _ => Option String
  | setVariable _ _ => Except EnvironmentError Unit
  | manager _ => Except Int Unit
  | store _ _ => Unit
  | storeCell _ _ => Unit
  | pause => Unit
  | log _ _ => Unit

/-- Nanoseconds of one polling interval. -/
def Op.pauseLength : Nat := 100000

end BringUp
