import BringUp.Program.Basic
import BringUp.Register.SystemManager

/-! What is built for which device, and the state of its FPGA. -/
namespace BringUp

/-- Choice of the platform. -/
structure Platform where
  /-- An Agilex 5, otherwise another device of the family. -/
  agilex5 : Bool := true
  /-- An emulator without real peripherals. -/
  emulator : Bool := false
  /-- The QSPI flash controller is used together with the secure monitor. -/
  sharedQspi : Bool := true
deriving DecidableEq, Repr

namespace Platform

open SystemManager

/-- The secure device manager has flagged revision A silicon. -/
def isRevisionA : Program Bool := do
  let word ← Program.load revision
  Program.log .debug ("SYSMGR boot scratch POR1: " ++ Text.hex word.toNat)
  return Revision.revisionA.read word

/-- The FPGA is ready for its bridges. Revision A silicon reports this in its own place. -/
def fpgaReady (platform : Platform) : Program Bool := do
  if platform.agilex5 then
    if ← isRevisionA then
      return Revision.userMode.read (← Program.load revision)
  return FpgaState.ready (← Program.load fpgaState)

end Platform
end BringUp
