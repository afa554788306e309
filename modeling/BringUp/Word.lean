/-!
Machine words and their hexadecimal text.

Registers hold `Word`s of 32 bits, DRAM is probed in `Cell`s of 64 bits. A cell consists of two
words, and the one at the lower address is the less significant one. Addresses, sizes and counts
are natural numbers.
-/
namespace BringUp

/-- Content of a register. -/
abbrev Word := BitVec 32

/-- Content of the unit in which DRAM is probed. -/
abbrev Cell := BitVec 64

/-- Bytes in a `Word`. -/
def wordBytes : Nat := 4

/-- Bytes in a `Cell`. -/
def cellBytes : Nat := 8

namespace Cell

/-- The less significant word of a cell. -/
def low (cell : Cell) : Word :=
  cell.extractLsb' 0 32

/-- The more significant word of a cell. -/
def high (cell : Cell) : Word :=
  cell.extractLsb' 32 32

def ofWords (low high : Word) : Cell :=
  high ++ low

theorem low_ofWords (first second : Word) : low (ofWords first second) = first := by
  apply BitVec.eq_of_getLsbD_eq
  intro i hi
  simp only [low, ofWords, BitVec.getLsbD_extractLsb', BitVec.getLsbD_append]
  grind

theorem high_ofWords (first second : Word) : high (ofWords first second) = second := by
  apply BitVec.eq_of_getLsbD_eq
  intro i hi
  simp only [high, ofWords, BitVec.getLsbD_extractLsb', BitVec.getLsbD_append]
  grind

end Cell

def mebibyte : Nat := 0x100000

def gibibyte : Nat := 0x40000000

namespace Text

/-- The lowest `digits` hexadecimal digits of a number, most significant first. -/
def lowDigits : Nat → Nat → List Char
  | 0, _ => []
  | digits + 1, value => lowDigits digits (value / 16) ++ [Nat.digitChar (value % 16)]

/-- Hexadecimal text with as many digits as the number needs. -/
def hex (value : Nat) : String :=
  "0x" ++ String.ofList (Nat.toDigits 16 value)

/-- Hexadecimal text of a word, always with eight digits. -/
def hexWord (word : Word) : String :=
  "0x" ++ String.ofList (lowDigits 8 word.toNat)

end Text
end BringUp
