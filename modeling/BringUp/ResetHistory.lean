import BringUp.Program.Basic
import BringUp.Register.SystemManager

/-!
What the boot scratch registers tell about earlier boots.

The secure device manager records the type of the last reset and detected memory errors. The
memory bring-up itself keeps a progress bit, which stays set when a bring-up does not complete.
-/
namespace BringUp

inductive ResetType where
  | powerOn
  | warm
  | cold
  | nConfig
  | jtagConfig
  | rsuReconfig
deriving DecidableEq, Repr

namespace ResetType

/-- Codes 6 and 7 are reserved. -/
def ofCode? : Nat → Option ResetType
  | 0 => some powerOn
  | 1 => some warm
  | 2 => some cold
  | 3 => some nConfig
  | 4 => some jtagConfig
  | 5 => some rsuReconfig
  | _ => none

def code : ResetType → Nat
  | powerOn => 0
  | warm => 1
  | cold => 2
  | nConfig => 3
  | jtagConfig => 4
  | rsuReconfig => 5

def name : ResetType → String
  | powerOn => "PowerOn"
  | warm => "Warm"
  | cold => "Cold"
  | nConfig => "NConfig"
  | jtagConfig => "JtagConfig"
  | rsuReconfig => "RsuReconfig"

/-- The reset type in a reset record. -/
def ofRecord? (record : Word) : Option ResetType :=
  ofCode? (SystemManager.ResetRecord.resetType.read record).toNat

/-- Text of a possibly reserved reset type in log records. -/
def describe : Option ResetType → String
  | some resetType => "Some(" ++ resetType.name ++ ")"
  | none => "None"

end ResetType

namespace ResetHistory

open SystemManager

/-- The last memory bring-up did not complete. -/
def bringUpHung : Program Bool := do
  return inProgress.read (← Program.load progress)

/-- Sets or clears the progress bit and keeps the other bits of its register. -/
def markInProgress (started : Bool) : Program Unit :=
  Program.update progress (inProgress.put started)

/-- A double bit error was detected in the on-chip RAM. -/
def ocramError : Program Bool := do
  return ResetRecord.ocramError.read (← Program.load resetRecord)

/-- A double bit error was detected in the DDR memory. -/
def ddrError : Program Bool := do
  return ResetRecord.ddrError.read (← Program.load resetRecord)

end ResetHistory
end BringUp
