import BringUp.Word
import Mathlib.Algebra.Ring.Nat
import Mathlib.Data.String.Basic

/-! Texts of numbers, and how they are read. Main statement: the lowest hexadecimal digits of a
number read as that number without its higher digits. -/
namespace BringUp.Text

/-- The hexadecimal digits in lower case. -/
def hexDigits : List Char :=
  ['0', '1', '2', '3', '4', '5', '6', '7', '8', '9', 'a', 'b', 'c', 'd', 'e', 'f']

/-- Reads hexadecimal digits, most significant first. No other character has a value. -/
def hexValue? (digits : List Char) : Option Nat :=
  digits.foldlM (fun value digit => (hexDigits.idxOf? digit).map (16 * value + ·)) 0

variable {count value : Nat} {digits text : List Char}

theorem idxOf?_digitChar : ∀ digit < 16, hexDigits.idxOf? (Nat.digitChar digit) = some digit := by
  decide

theorem digitChar_mem : ∀ digit < 16, Nat.digitChar digit ∈ hexDigits := by
  decide

theorem hexValue?_append (digit : Char) : hexValue? (digits ++ [digit]) =
    (hexValue? digits).bind fun value => (hexDigits.idxOf? digit).map (16 * value + ·) := by
  simp [hexValue?]

@[simp] theorem length_lowDigits : (lowDigits count value).length = count := by
  induction count generalizing value with
  | zero => rfl
  | succ count ih => rw [lowDigits, List.length_append, ih, List.length_singleton]

theorem mem_hexDigits {digit : Char} (member : digit ∈ lowDigits count value) :
    digit ∈ hexDigits := by
  induction count generalizing value with
  | zero => exact absurd member List.not_mem_nil
  | succ count ih =>
    rw [lowDigits, List.mem_append, List.mem_singleton] at member
    obtain earlier | rfl := member
    · exact ih earlier
    · exact digitChar_mem _ (Nat.mod_lt _ (by decide))

theorem hexValue?_lowDigits : hexValue? (lowDigits count value) = some (value % 16 ^ count) := by
  induction count generalizing value with
  | zero => rw [Nat.pow_zero, Nat.mod_one]; rfl
  | succ count ih =>
    have last := idxOf?_digitChar (value % 16) (Nat.mod_lt _ (by decide))
    have split : value % 16 ^ (count + 1) = 16 * (value / 16 % 16 ^ count) + value % 16 := by
      rw [Nat.pow_succ, Nat.mul_comm, Nat.mod_mul, Nat.add_comm]
    rw [lowDigits, hexValue?_append, ih, Option.bind_some, last, Option.map_some, split]

theorem hexValue?_word (word : Word) : hexValue? (lowDigits 8 word.toNat) = some word.toNat := by
  have small : word.toNat < 16 ^ 8 := word.isLt
  rw [hexValue?_lowDigits, Nat.mod_eq_of_lt small]

theorem utf8ByteSize_ofList (single : ∀ letter ∈ text, letter.utf8Size = 1) :
    (String.ofList text).utf8ByteSize = text.length := by
  rw [String.utf8ByteSize_ofList]
  induction text with
  | nil => rfl
  | cons letter rest ih =>
    rw [String.utf8Len_cons, List.length_cons, single letter List.mem_cons_self,
      ih fun letter member => single letter (List.mem_cons_of_mem _ member)]

theorem utf8Size_of_hexDigit {digit : Char} (member : digit ∈ hexDigits) : digit.utf8Size = 1 := by
  have all : hexDigits.all (·.utf8Size == 1) = true := by decide
  exact eq_of_beq (List.all_eq_true.1 all digit member)

theorem utf8Size_of_isDigit {letter : Char} (digit : letter.isDigit = true) :
    letter.utf8Size = 1 := by
  have small : letter.toNat ≤ 57 := (Char.isDigit_iff_toNat.1 digit).2
  rw [Char.utf8Size_eq_one_iff, UInt32.le_iff_toNat_le]
  exact Nat.le_trans small (by decide)

theorem utf8ByteSize_toString_le {number zeros : Nat} (any : 0 < zeros)
    (small : number < 10 ^ zeros) : (toString number).utf8ByteSize ≤ zeros := by
  change (String.ofList (Nat.toDigits 10 number)).utf8ByteSize ≤ zeros
  rw [utf8ByteSize_ofList fun letter member =>
    utf8Size_of_isDigit (Nat.isDigit_of_mem_toDigits (by decide) (by decide) member)]
  exact (Nat.length_toDigits_le_iff (by decide) any).2 small

end BringUp.Text
