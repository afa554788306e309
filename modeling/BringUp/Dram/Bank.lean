import BringUp.Program.Basic

/-!
DRAM banks.

The address map has fixed windows for DRAM. Memory whose size is reported by the hardware fills
them in order.
-/
namespace BringUp.Dram

structure Bank where
  start : Nat
  size : Nat
deriving DecidableEq, Repr

namespace Bank

def isEmpty (bank : Bank) : Bool :=
  bank.size == 0

/-- Last address of a bank that is not empty. -/
def last (bank : Bank) : Nat :=
  bank.start + bank.size - 1

end Bank

/-- Number of banks that can be tracked. -/
def maxBanks : Nat := 4

/-- The DRAM windows of the address map. -/
def windows : List Bank :=
  [⟨0x80000000, 2 * gibibyte⟩, ⟨0x880000000, 30 * gibibyte⟩, ⟨0x8800000000, 480 * gibibyte⟩]

def totalSize : List Bank → Nat
  | [] => 0
  | bank :: rest => bank.size + totalSize rest

theorem totalSize_append (first second : List Bank) :
    totalSize (first ++ second) = totalSize first + totalSize second := by
  induction first with
  | nil => simp [totalSize]
  | cons bank rest ih => simp only [List.cons_append, totalSize, ih, Nat.add_assoc]

/-- Fills windows in order until nothing remains. -/
def fill : List Bank → Nat → List Bank
  | [], _ => []
  | window :: rest, remaining =>
    if remaining = 0 then []
    else
      let size := min remaining window.size
      ⟨window.start, size⟩ :: fill rest (remaining - size)

/-- Windows are filled with no more than there is. -/
theorem totalSize_fill_le (windows : List Bank) (remaining : Nat) :
    totalSize (fill windows remaining) ≤ remaining := by
  induction windows generalizing remaining with
  | nil => exact Nat.zero_le _
  | cons window rest ih =>
    rw [fill]
    split
    · exact Nat.zero_le _
    · have := ih (remaining - min remaining window.size)
      simp only [totalSize]
      omega

/-- The banks for a memory size reported by the hardware, in at most `count` windows. What does
not fit is not mapped. -/
def banksOfSize (size count : Nat) : Program (List Bank) := do
  if windows.length < count then
    Program.log .warning ("DDR: configured " ++ toString count ++ " DRAM banks, only "
      ++ toString windows.length ++ " are available")
  let banks := fill (windows.take (min count maxBanks)) size
  let unmapped := size - totalSize banks
  if unmapped ≠ 0 then
    Program.log .warning ("DDR: " ++ Text.hex unmapped ++ " bytes of memory are not mapped")
  return banks

end BringUp.Dram
