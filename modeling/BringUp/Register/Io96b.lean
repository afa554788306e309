import BringUp.Register.Field

/-!
The register block of an IO96B instance.

Each instance contains an I/O subsystem manager (IOSSM). A command is sent to it by writing the
parameters and then the command word; the answer arrives in three data registers and a status
whose ready bit tells that it is complete.
-/
namespace BringUp.Io96b

/-- Number of IO96B instances of the device. -/
def maxInstances : Nat := 2

/-- Base address of an instance. -/
def base : Nat → Nat
  | 0 => 0x18400000
  | _ => 0x18800000

def subsystemStatus (unit : Nat) : Nat := base unit + 0x400

namespace SubsystemStatus

def busy : Flag := ⟨2⟩

def failed : Flag := ⟨1⟩

def succeeded : Flag := ⟨0⟩

end SubsystemStatus

/-- The parameter registers lie in descending order below the command word. -/
def parameter (unit index : Nat) : Nat := base unit + 0x438 - 4 * index

def commandWord (unit : Nat) : Nat := base unit + 0x43C

namespace CommandWord

abbrev ipType : Field := ⟨29, 3⟩

abbrev ipInstance : Field := ⟨24, 5⟩

abbrev kind : Field := ⟨16, 8⟩

abbrev opcode : Field := ⟨0, 16⟩

end CommandWord

/-- The answer registers lie in descending order below the answer status. -/
def answerData (unit index : Nat) : Nat := base unit + 0x458 - 4 * index

def answerStatus (unit : Nat) : Nat := base unit + 0x45C

namespace AnswerStatus

/-- Short answer data, whose meaning depends on the command. -/
abbrev shortData : Field := ⟨16, 16⟩

abbrev errorCode : Field := ⟨1, 4⟩

def ready : Flag := ⟨0⟩

end AnswerStatus

namespace Descriptor

-- A memory interface, as described by the IOSSM.

abbrev ipType : Field := ⟨29, 3⟩

abbrev ipInstance : Field := ⟨24, 5⟩

end Descriptor
end BringUp.Io96b
