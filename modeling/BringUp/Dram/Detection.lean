import BringUp.Program.Basic

/-!
Detection of the size of memory.

Memory that is smaller than the probed window repeats in it. So a pattern is written at the
offsets of the powers of two, from the largest to the smallest and finally at the base, and then
it is checked from the smallest offset on which pattern was overwritten. Every cell is saved
before it is written and is restored when it is checked.
-/
namespace BringUp.Dram.Detection

/-- Bus address of a cell. -/
def cellAddress (base offset : Nat) : Nat :=
  base + cellBytes * offset

/-- The pattern at an offset: the inverted offset. -/
def pattern (offset : Nat) : Cell :=
  ~~~ BitVec.ofNat 64 offset

/-- Limit on the number of offsets that are probed. -/
def maxProbes : Nat := 64

/-- Saves the cells at an offset and its halves and writes the patterns. The cells saved last
come first in the answer. -/
def mark (base : Nat) : Nat → Nat → List Cell → Program (List Cell)
  | 0, _, saved => return saved
  | probes + 1, offset, saved => do
    if offset = 0 then
      return saved
    let cell ← Program.loadCell (cellAddress base offset)
    Program.storeCell (cellAddress base offset) (pattern offset)
    mark base probes (offset / 2) (cell :: saved)

/-- Restores saved cells at an offset and its doubles inside the window. -/
def unwind (base cells : Nat) : List Cell → Nat → Program Unit
  | [], _ => return ()
  | saved :: rest, offset => do
    if offset < cells then
      Program.storeCell (cellAddress base offset) saved
      unwind base cells rest (2 * offset)

/-- Checks the patterns at an offset and its doubles and restores each cell. At the first
pattern that is lost the remaining cells are restored, and its offset is the answer. -/
def compare (base cells : Nat) : List Cell → Nat → Program (Option Nat)
  | [], _ => return none
  | saved :: rest, offset => do
    if cells ≤ offset then
      return none
    let cell ← Program.loadCell (cellAddress base offset)
    Program.storeCell (cellAddress base offset) saved
    if cell = pattern offset then
      compare base cells rest (2 * offset)
    else
      unwind base cells rest (2 * offset)
      return some offset

/-- Number of accessible bytes at `base`, at most `size`. -/
def detect (base size : Nat) : Program Nat := do
  let cells := size / cellBytes
  let saved ← mark base maxProbes (cells / 2) []
  let baseSaved ← Program.loadCell (cellAddress base 0)
  Program.storeCell (cellAddress base 0) 0
  if (← Program.loadCell (cellAddress base 0)) ≠ 0 then
    Program.storeCell (cellAddress base 0) baseSaved
    unwind base cells saved 1
    return 0
  match ← compare base cells saved 1 with
  | some offset => return offset * cellBytes
  | none =>
    Program.storeCell (cellAddress base 0) baseSaved
    return size

end BringUp.Dram.Detection
