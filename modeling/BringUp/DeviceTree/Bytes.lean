import BringUp.Word

/-!
Reading of byte sequences: big endian words, zero-terminated text and padding.

A reader that needs more than the bytes at hand reports a defect, which ends the work on the blob
that the bytes belong to.
-/
namespace BringUp.DeviceTree

abbrev Bytes := List UInt8

/-- Why a blob cannot be read any further. -/
inductive Defect where
  /-- A block of the blob lies outside of it. -/
  | blockOutOfRange
  /-- The bytes end within a token or a value. -/
  | truncated
  /-- The text has no terminating zero. -/
  | unterminated
  /-- The text is not valid UTF-8. -/
  | notText
  | unexpectedToken
  /-- A node ends that never began. -/
  | unbalanced
  /-- The nodes are nested too deep. -/
  | tooDeep
deriving DecidableEq, Repr

namespace Bytes

/-- The big endian word at the start. -/
def word? : Bytes → Option Nat
  | a :: b :: c :: d :: _ =>
    some (((a.toNat * 256 + b.toNat) * 256 + c.toNat) * 256 + d.toNat)
  | _ => none

def word (bytes : Bytes) : Except Defect Nat :=
  match word? bytes with
  | some value => .ok value
  | none => .error .truncated

/-- A big endian number of one or two words, and the bytes behind it. -/
def number? : Nat → Bytes → Option (Nat × Bytes)
  | 1, bytes => (word? bytes).map fun value => (value, bytes.drop 4)
  | 2, bytes => do
    let high ← word? bytes
    let low ← word? (bytes.drop 4)
    return (high * 0x100000000 + low, bytes.drop 8)
  | _, _ => none

/-- Rounds a length up to whole words. -/
def padded (length : Nat) : Nat :=
  (length + 3) / 4 * 4

/-- The bytes before the first zero. -/
def terminated (bytes : Bytes) : Except Defect Bytes :=
  if (0 : UInt8) ∈ bytes then .ok (bytes.takeWhile (· ≠ 0)) else .error .unterminated

def text? (bytes : Bytes) : Option String :=
  String.fromUTF8? ⟨bytes.toArray⟩

def text (bytes : Bytes) : Except Defect String :=
  match text? bytes with
  | some value => .ok value
  | none => .error .notText

/-- The bytes without the zeros at their end. -/
def withoutPadding (bytes : Bytes) : Bytes :=
  (bytes.reverse.dropWhile (· = 0)).reverse

end Bytes
end BringUp.DeviceTree
