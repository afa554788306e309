import BringUp.Program.Lemmas

/-! Plain memory of bytes. A register is a word of four bytes at an aligned address, the least
significant byte first, so a memory is given by the bits of its registers. -/
namespace BringUp

abbrev ByteMemory := Nat → BitVec 8

namespace ByteMemory

variable {memory other : ByteMemory} {address register bit : Nat} {value : Word}

def word (memory : ByteMemory) (address : Nat) : Word :=
  memory (address + 3) ++ (memory (address + 2) ++ (memory (address + 1) ++ memory address))

def put (memory : ByteMemory) (address : Nat) (value : Word) : ByteMemory := fun place =>
  if address ≤ place ∧ place < address + 4 then value.extractLsb' (8 * (place - address)) 8
  else memory place

/-- Loads and stores act on the memory. The other questions have these answers. -/
def serve (answers : (op : Op) → op.Answer) : (op : Op) → ByteMemory → op.Answer × ByteMemory
  | .load address, memory => (memory.word address, memory)
  | .store address value, memory => ((), memory.put address value)
  | op, memory => (answers op, memory)

/-- The address is the one of a register. -/
def Aligned (address : Nat) : Prop := address % 4 = 0

instance : Decidable (Aligned address) := inferInstanceAs (Decidable (_ = _))

/-- Eight bits of a word are a byte of it. -/
theorem getLsbD_word (inside : bit < 32) :
    (memory.word address).getLsbD bit = (memory (address + bit / 8)).getLsbD (bit % 8) := by
  have byte : bit / 8 = 0 ∨ bit / 8 = 1 ∨ bit / 8 = 2 ∨ bit / 8 = 3 := by omega
  simp only [word, BitVec.getLsbD_append]
  rcases byte with byte | byte | byte | byte
  · rw [if_pos (by omega), if_pos (by omega), if_pos (by omega), byte, Nat.add_zero]
    congr 1
    omega
  · rw [if_pos (by omega), if_pos (by omega), if_neg (by omega), byte]
    congr 1
    omega
  · rw [if_pos (by omega), if_neg (by omega), byte]
    congr 1
    omega
  · rw [if_neg (by omega), byte]
    congr 1
    omega

theorem word_put : (memory.put address value).word address = value := by
  apply BitVec.eq_of_getLsbD_eq
  intro bit inside
  have position : 8 * (bit / 8) + bit % 8 = bit := Nat.div_add_mod bit 8
  rw [getLsbD_word inside, put, if_pos (by omega), BitVec.getLsbD_extractLsb',
    Nat.add_sub_cancel_left, position]
  simp only [Nat.mod_lt bit (by decide : 0 < 8), decide_true, Bool.true_and]

theorem word_put_of_ne (aligned : Aligned address) (known : Aligned register)
    (apart : address ≠ register) : (memory.put address value).word register = memory.word register := by
  apply BitVec.eq_of_getLsbD_eq
  intro bit inside
  simp only [Aligned] at aligned known
  rw [getLsbD_word inside, getLsbD_word inside, put, if_neg (by omega)]

theorem eq_of_words (same : ∀ register, Aligned register → memory.word register = other.word register) :
    memory = other := by
  funext place
  apply BitVec.eq_of_getLsbD_eq
  intro bit inside
  have bits := congrArg (fun word : Word => word.getLsbD (8 * (place % 4) + bit))
    (same (4 * (place / 4)) (Nat.mul_mod_right 4 _))
  rw [getLsbD_word (by omega), getLsbD_word (by omega)] at bits
  have byte : 4 * (place / 4) + (8 * (place % 4) + bit) / 8 = place := by omega
  have position : (8 * (place % 4) + bit) % 8 = bit := by omega
  rwa [byte, position] at bits

end ByteMemory
end BringUp
