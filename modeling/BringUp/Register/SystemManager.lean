import BringUp.Register.Field

/-!
The system manager.

Its boot scratch registers carry information between the secure device manager, the stages of
the boot loader and the handling of resets. The other registers used here report the clock
generator locks and the state of the FPGA, and quiesce the FPGA bridges.
-/
namespace BringUp.SystemManager

def base : Nat := 0x10D12000

/-- Reports the clock generator locks of the IO96B instances. -/
def clockStatus : Nat := base + 0x9C

/-- Bit `i` tells that the clock generator of IO96B instance `i` is locked. -/
abbrev clockLocks : Field := ⟨16, 2⟩

/-- Enables the timeout of the network on chip. -/
def nocTimeout : Nat := base + 0xC0

def nocIdleRequestSet : Nat := base + 0xC4

def nocIdleRequestClear : Nat := base + 0xC8

def nocIdleRequest : Nat := base + 0xCC

def nocIdleAcknowledge : Nat := base + 0xD0

def nocIdleStatus : Nat := base + 0xD4

def fpgaState : Nat := base + 0xD8

namespace FpgaState

def earlyUserMode : Flag := ⟨1⟩

def configured : Flag := ⟨0⟩

/-- The FPGA is ready once it is configured and has entered the early user mode. -/
def ready (word : Word) : Bool :=
  configured.read word && earlyUserMode.read word

end FpgaState

/-- Boot scratch registers 0 to 9 keep their content until a cold reset. -/
def coldScratch (index : Nat) : Nat := base + 0x200 + 4 * index

/-- Cold boot scratch register 3 tells why the last reset happened. -/
def resetRecord : Nat := coldScratch 3

namespace ResetRecord

/-- Double bit error in the on-chip RAM. -/
def ocramError : Flag := ⟨31⟩

/-- Double bit error in the DDR memory. -/
def ddrError : Flag := ⟨30⟩

abbrev resetType : Field := ⟨27, 3⟩

end ResetRecord

def mpfeConfig : Nat := base + 0x228

namespace MpfeConfig

def liteActive : Flag := ⟨8⟩

def liteSelected : Flag := ⟨2⟩

end MpfeConfig

/-- Power-on boot scratch register 0. -/
def progress : Nat := base + 0x258

/-- Set while the DDR memory is brought up. If it is set at the start, the last bring-up did not
complete. -/
def inProgress : Flag := ⟨0⟩

/-- Power-on boot scratch register 1 describes the silicon revision. -/
def revision : Nat := base + 0x25C

namespace Revision

/-- Revision A silicon, which needs workarounds. -/
def revisionA : Flag := ⟨29⟩

/-- On revision A silicon: the FPGA has entered the user mode. -/
def userMode : Flag := ⟨28⟩

end Revision
end BringUp.SystemManager
