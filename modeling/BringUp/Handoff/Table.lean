import BringUp.Program.Basic

/-!
Handoff tables.

The secure device manager leaves configuration tables at the end of the on-chip RAM. A table
starts with a magic word and its length in bytes; the data words follow at offset 16.
-/
namespace BringUp

inductive HandoffError where
  | invalidMagic (found : Word)
  | invalidLength (found : Word)
  | tooShort (expected found : Nat)
deriving DecidableEq, Repr

def HandoffError.message : HandoffError → String
  | invalidMagic found => "invalid handoff magic " ++ Text.hexWord found
  | invalidLength found => "invalid handoff length " ++ toString found.toNat
  | tooShort expected found =>
    "handoff table too short, expected at least " ++ toString expected ++ " words, got "
      ++ toString found

namespace Handoff

/-- Bytes of a table before its first data word. -/
def headerBytes : Nat := 16

/-- Replaces the first `count` entries of the table by the words from `address` on. -/
def copyWords : Nat → Nat → List Word → Program (List Word)
  | count + 1, address, _ :: rest => do
    let word ← Program.load address
    return word :: (← copyWords count (address + 4) rest)
  | _, _, table => return table

/-- Reads the table at `address` over the given one, which keeps its length. The answer is the
number of words copied; entries behind them stay. -/
def read (address : Nat) (magic : Word) (table : List Word) :
    Program (Except HandoffError Nat × List Word) := do
  let found ← Program.load address
  if found ≠ magic then
    return (.error (.invalidMagic found), table)
  let length ← Program.load (address + 4)
  if length.toNat < headerBytes ∨ length.toNat % 4 ≠ 0 then
    return (.error (.invalidLength length), table)
  let count := min ((length.toNat - headerBytes) / 4) table.length
  return (.ok count, ← copyWords count (address + headerBytes) table)

/-- Address of the SDRAM table. -/
def sdramAddress : Nat := 0x7F634

def sdramMagic : Word := 0x44524D53

/-- Number of data words of the SDRAM table. -/
def sdramLength : Nat := 5

/-- Reads the SDRAM table. Words that the table does not provide are zero. -/
def readSdram : Program (Except HandoffError (List Word)) := do
  match ← read sdramAddress sdramMagic (List.replicate sdramLength 0) with
  | (.ok _, table) => return .ok table
  | (.error cause, _) => return .error cause

end Handoff

end BringUp
