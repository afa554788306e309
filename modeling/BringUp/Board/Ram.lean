import BringUp.Word
import Std.Data.TreeMap

/-!
Simulated DRAM.

A region is a window of addresses behind which a smaller physical memory may repeat. It is accessed
by cells or by words, which are halves of a cell. Stores may be distorted by stuck bits or be lost
altogether.
-/
namespace BringUp.Board

structure Region where
  start : Nat
  /-- Bytes of the window. -/
  size : Nat
  /-- Bytes of the physical memory, which repeats in the window. -/
  physical : Nat
  /-- Initial content of cell 0, counted up for the others; zero stands for zeros. -/
  fill : Cell := 0
  /-- Stores have no effect. -/
  readOnly : Bool := false
  /-- Bits that a store can set. -/
  writable : Cell := BitVec.allOnes 64
  /-- Bits that a store always sets. -/
  stuck : Cell := 0
  /-- Stores are recorded. -/
  traced : Bool := false
  /-- The physical cells that were changed. -/
  cells : Std.TreeMap Nat Cell := ∅

namespace Region

def contains (region : Region) (address : Nat) : Bool :=
  region.start ≤ address && address < region.start + region.size

/-- Physical cell behind an address. -/
def cellIndex (region : Region) (address : Nat) : Nat :=
  (address - region.start) % region.physical / cellBytes

def initialCell (region : Region) (index : Nat) : Cell :=
  if region.fill = 0 then 0 else region.fill + BitVec.ofNat 64 index

def cell (region : Region) (index : Nat) : Cell :=
  (region.cells[index]?).getD (region.initialCell index)

/-- The word at an address is the upper half of its cell. -/
def isUpper (region : Region) (address : Nat) : Bool :=
  wordBytes ≤ (address - region.start) % cellBytes

def word (region : Region) (address : Nat) : Word :=
  let cell := region.cell (region.cellIndex address)
  if region.isUpper address then Cell.high cell else Cell.low cell

/-- The cell behind an address with another word at the address. -/
def cellWithWord (region : Region) (address : Nat) (value : Word) : Cell :=
  let cell := region.cell (region.cellIndex address)
  if region.isUpper address then Cell.ofWords (Cell.low cell) value
  else Cell.ofWords value (Cell.high cell)

/-- Changes a word as it is, past all faults. -/
def poke (region : Region) (address : Nat) (value : Word) : Region :=
  { region with
    cells := region.cells.insert (region.cellIndex address) (region.cellWithWord address value) }

/-- Content of a cell after `value` was stored to it. -/
def stored (region : Region) (index : Nat) (value : Cell) : Cell :=
  if region.readOnly then region.cell index else (value &&& region.writable) ||| region.stuck

def store (region : Region) (index : Nat) (value : Cell) : Region :=
  { region with cells := region.cells.insert index (region.stored index value) }

/-- The cells that differ from their initial content, in ascending order. -/
def changes (region : Region) : List (Nat × Cell) :=
  region.cells.toList.filter fun (index, value) => value != region.initialCell index

end Region
end BringUp.Board
