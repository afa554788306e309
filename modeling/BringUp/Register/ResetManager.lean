import BringUp.Register.Field

/-! The reset manager, as far as it holds the FPGA bridges in reset. -/
namespace BringUp.ResetManager

def base : Nat := 0x10D11000

/-- A set bit holds the bridge in reset. -/
def bridgeReset : Nat := base + 0x2C

namespace BridgeReset

def ddrScheduler : Flag := ⟨6⟩

def fpgaToSdram2 : Flag := ⟨5⟩

def fpgaToSdram1 : Flag := ⟨4⟩

def fpgaToSdram0 : Flag := ⟨3⟩

def fpgaToSoc : Flag := ⟨2⟩

def lightweightSocToFpga : Flag := ⟨1⟩

def socToFpga : Flag := ⟨0⟩

/-- The bridges that are never put into reset. -/
def keepActive : Word :=
  ddrScheduler.mask ||| fpgaToSoc.mask

end BridgeReset
end BringUp.ResetManager
