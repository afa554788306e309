import BringUp.Handoff.Table

/-!
The configuration in the SDRAM handoff table: which memory ports and IO96B instances are in use.
-/
namespace BringUp

/-- Which memory ports and IO96B instances are in use. -/
structure Configuration where
  dualPort : Bool
  dualEmif : Bool
  /-- Mask of the enabled IO96B PLLs. -/
  plls : BitVec 4
deriving DecidableEq, Repr

namespace Configuration

/-- Position of the configuration word in the SDRAM table. -/
def tableIndex : Nat := 4

abbrev pllField : Field := ⟨16, 4⟩

def dualEmifFlag : Flag := ⟨1⟩

def dualPortFlag : Flag := ⟨0⟩

def ofWord (word : Word) : Configuration :=
  ⟨dualPortFlag.read word, dualEmifFlag.read word, pllField.read word⟩

def ofTable (table : List Word) : Program (Except HandoffError Configuration) := do
  match table[tableIndex]? with
  | none => return .error (.tooShort (tableIndex + 1) table.length)
  | some word =>
    let configuration := ofWord word
    Program.log .debug ("DDR: dualport from handoff: " ++ toString configuration.dualPort)
    Program.log .debug ("DDR: dualemif from handoff: " ++ toString configuration.dualEmif)
    Program.log .debug
      ("DDR: io96b enabled pll from handoff: " ++ Text.hex configuration.plls.toNat)
    return .ok configuration

def portCount (configuration : Configuration) : Nat :=
  if configuration.dualPort then 2 else 1

/-- Number of IO96B instances in use. -/
def instanceCount (configuration : Configuration) : Nat :=
  if configuration.dualEmif then 2 else 1

/-- Both multi-port modes need interleaving in the cache coherency unit. -/
def interleaving (configuration : Configuration) : Bool :=
  configuration.dualPort || configuration.dualEmif

end Configuration
end BringUp
