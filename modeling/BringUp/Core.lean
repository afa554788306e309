import BringUp.Program.Basic

/-! Identification of the processor core and the platform banner. -/
namespace BringUp

-- The main ID register of a core.
namespace MainId

abbrev implementer : Field := ⟨24, 8⟩

abbrev variant : Field := ⟨20, 4⟩

abbrev architecture : Field := ⟨16, 4⟩

abbrev partNumber : Field := ⟨4, 12⟩

abbrev revision : Field := ⟨0, 4⟩

/-- Implementer code of Arm. -/
def arm : BitVec 8 := 0x41

end MainId

inductive Core where
  | cortexA53
  | cortexA55
  | cortexA76
  | unknown
deriving DecidableEq, Repr

namespace Core

def name : Core → String
  | cortexA53 => "Cortex-A53"
  | cortexA55 => "Cortex-A55"
  | cortexA76 => "Cortex-A76"
  | unknown => "unknown"

/-- The core that a main ID register describes. Part numbers are those of Arm. -/
def ofMainId (word : Word) : Core :=
  if MainId.implementer.read word = MainId.arm then
    match (MainId.partNumber.read word).toNat with
    | 0xD03 => cortexA53
    | 0xD05 => cortexA55
    | 0xD0B => cortexA76
    | _ => unknown
  else unknown

end Core

/-- Agilex 5 combines two kinds of cores, the other devices of the family have one. -/
def platformBanner (agilex5 : Bool) : String :=
  if agilex5 then "Intel FPGA SoCFPGA Platform (ARMv8 64bit Cortex-A55/A76)"
  else "Intel FPGA SoCFPGA Platform (ARMv8 64bit Cortex-A53)"

def announcePlatform (agilex5 : Bool) : Program Unit :=
  Program.log .info ("CPU:   " ++ platformBanner agilex5)

end BringUp
