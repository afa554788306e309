import BringUp.Word

/-!
Parts of a register: single bits and runs of neighbouring bits.

A part reads from a word and is put into a word. Main statements: what was put is read back, and
putting changes the bits of the part alone.
-/
namespace BringUp

/-- A single bit of a register. -/
structure Flag where
  bit : Nat
deriving DecidableEq, Repr

namespace Flag

def read (flag : Flag) (word : Word) : Bool :=
  word.getLsbD flag.bit

/-- The word in which only this bit is set. -/
def mask (flag : Flag) : Word :=
  1#32 <<< flag.bit

def put (flag : Flag) (value : Bool) (word : Word) : Word :=
  if value then word ||| flag.mask else word &&& ~~~ flag.mask

theorem getLsbD_mask (flag : Flag) (i : Nat) (h : i < 32) :
    flag.mask.getLsbD i = decide (i = flag.bit) := by
  simp only [mask, BitVec.getLsbD_shiftLeft, BitVec.getLsbD_one]
  grind

/-- Putting a bit changes that bit alone. -/
theorem getLsbD_put (flag : Flag) (value : Bool) (word : Word) (i : Nat) (h : i < 32) :
    (flag.put value word).getLsbD i = if i = flag.bit then value else word.getLsbD i := by
  cases value <;>
    simp only [put, Bool.false_eq_true, if_true, if_false, BitVec.getLsbD_or, BitVec.getLsbD_and,
      BitVec.getLsbD_not, getLsbD_mask flag i h] <;> grind

theorem read_put (flag : Flag) (value : Bool) (word : Word) (h : flag.bit < 32) :
    flag.read (flag.put value word) = value := by
  rw [read, getLsbD_put _ _ _ _ h, if_pos rfl]

/-- Only what is put last counts. -/
theorem put_put (flag : Flag) (first second : Bool) (word : Word) :
    flag.put second (flag.put first word) = flag.put second word := by
  apply BitVec.eq_of_getLsbD_eq
  intro i hi
  simp only [getLsbD_put _ _ _ _ hi]
  split <;> rfl

end Flag

/-- A run of `width` bits of a register that starts at bit `low`. -/
structure Field where
  low : Nat
  width : Nat
deriving DecidableEq, Repr

namespace Field

def read (field : Field) (word : Word) : BitVec field.width :=
  word.extractLsb' field.low field.width

/-- The word in which exactly the bits of the field are set. -/
def mask (field : Field) : Word :=
  (BitVec.allOnes field.width).setWidth 32 <<< field.low

def put (field : Field) (value : BitVec field.width) (word : Word) : Word :=
  (word &&& ~~~ field.mask) ||| (value.setWidth 32 <<< field.low)

theorem getLsbD_mask (field : Field) (i : Nat) (h : i < 32) :
    field.mask.getLsbD i = decide (field.low ≤ i ∧ i < field.low + field.width) := by
  simp only [mask, BitVec.getLsbD_shiftLeft, BitVec.getLsbD_setWidth, BitVec.getLsbD_allOnes]
  grind

/-- Putting a number changes the bits of the field alone. -/
theorem getLsbD_put (field : Field) (value : BitVec field.width) (word : Word) (i : Nat)
    (h : i < 32) : (field.put value word).getLsbD i =
      if field.low ≤ i ∧ i < field.low + field.width then value.getLsbD (i - field.low)
      else word.getLsbD i := by
  simp only [put, BitVec.getLsbD_or, BitVec.getLsbD_and, BitVec.getLsbD_not,
    getLsbD_mask field i h, BitVec.getLsbD_shiftLeft, BitVec.getLsbD_setWidth]
  grind

theorem read_put (field : Field) (value : BitVec field.width) (word : Word)
    (h : field.low + field.width ≤ 32) : field.read (field.put value word) = value := by
  apply BitVec.eq_of_getLsbD_eq
  intro i hi
  rw [read, BitVec.getLsbD_extractLsb', getLsbD_put _ _ _ _ (by omega)]
  simp [hi]

end Field

/-- A named part of a register is either a bit or a number. -/
inductive Part where
  | flag (flag : Flag)
  | number (field : Field)
deriving DecidableEq, Repr

/-- What a part of a register says. -/
inductive Reading where
  | flag (value : Bool)
  | number (value : Nat)
deriving DecidableEq, Repr

namespace Part

def read : Part → Word → Reading
  | .flag bit, word => .flag (bit.read word)
  | .number run, word => .number (run.read word).toNat

/-- Puts a reading into a word. A number that needs more bits than the field has, and a reading
of the other kind, are refused. -/
def put? : Part → Reading → Word → Option Word
  | .flag bit, .flag value, word => some (bit.put value word)
  | .number run, .number value, word =>
    if value < 1 <<< run.width then some (run.put (BitVec.ofNat _ value) word) else none
  | _, _, _ => none

end Part

end BringUp
