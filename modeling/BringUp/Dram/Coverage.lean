import BringUp.Dram.Bank

/-!
Verification of the memory size.

Each bank is probed in chunks of at most 1 GiB, as far as the chunks are confirmed in full. The
confirmed bytes have to add up to the size of the memory.
-/
namespace BringUp.Dram

inductive SizeError where
  | notPowerOfTwo (size : Nat)
  | mismatch (expected found : Nat)
deriving DecidableEq, Repr

def SizeError.message : SizeError → String
  | notPowerOfTwo size => "probe chunk size " ++ Text.hex size ++ " is not a power of two"
  | mismatch expected found =>
    "memory size check failed, expected " ++ Text.hex expected ++ ", found " ++ Text.hex found

namespace Coverage

def isPowerOfTwo (n : Nat) : Bool :=
  n == 1 <<< n.log2

/-- Size of the largest chunk. -/
def chunkBytes : Nat := gibibyte

/-- Number of chunks of a bank. -/
def chunkCount (size : Nat) : Nat :=
  (size + chunkBytes - 1) / chunkBytes

/-- A sum in a word of 64 bits, without a check for overflow. -/
def inWord (sum : Nat) : Nat :=
  sum % 0x10000000000000000

/-- Probes the chunks of the `remaining` bytes from `start`, and adds what is confirmed to
`total`. A chunk that is not confirmed in full is the last one. The sums are kept as `keep` does. -/
def probeChunksBy (keep : Nat → Nat) : Nat → Nat → Nat → Nat → Program (Except SizeError Nat)
  | 0, _, _, total => return .ok total
  | chunks + 1, start, remaining, total => do
    if remaining = 0 then
      return .ok total
    let chunk := min remaining chunkBytes
    if !isPowerOfTwo chunk then
      Program.log .error ("DDR: probe size " ++ Text.hex chunk ++ " is not a power of two")
      return .error (.notPowerOfTwo chunk)
    let confirmed ← Program.probe start chunk
    if confirmed < chunk then
      return .ok (keep (total + confirmed))
    probeChunksBy keep chunks (keep (start + confirmed)) (remaining - confirmed)
      (keep (total + confirmed))

/-- Probes the banks in order. An empty bank is passed over. -/
def probeBanksBy (keep : Nat → Nat) : List Bank → Nat → Program (Except SizeError Nat)
  | [], total => return .ok total
  | bank :: rest, total => do
    if bank.isEmpty then
      probeBanksBy keep rest total
    else
      Program.log .debug ("DDR: checking bank at " ++ Text.hex bank.start ++ " with size "
        ++ Text.hex bank.size)
      match ← probeChunksBy keep (chunkCount bank.size) bank.start bank.size total with
      | .error cause => return .error cause
      | .ok total => probeBanksBy keep rest total

/-- The chunks with exact sums. -/
def probeChunks (chunks start remaining total : Nat) : Program (Except SizeError Nat) :=
  probeChunksBy id chunks start remaining total

/-- The banks with exact sums. -/
def probeBanks (banks : List Bank) (total : Nat) : Program (Except SizeError Nat) :=
  probeBanksBy id banks total

end Coverage

/-- Verifies that the accessible bytes of the banks add up to `size`. The sums are kept as `keep`
does. -/
def verifySizeBy (keep : Nat → Nat) (banks : List Bank) (size : Nat) :
    Program (Except SizeError Nat) := do
  match ← Coverage.probeBanksBy keep banks 0 with
  | .error cause => return .error cause
  | .ok total =>
    if total ≠ size then
      Program.log .error ("DDR: size check failed, expected " ++ Text.hex size ++ ", found "
        ++ Text.hex total)
      return .error (.mismatch size total)
    Program.log .info "DDR: size check successful"
    return .ok total

/-- The verification with exact sums. It is the one in words for banks that end within the address
space and do not exceed it together (`runs_words_iff`). -/
def verifySize (banks : List Bank) (size : Nat) : Program (Except SizeError Nat) :=
  verifySizeBy id banks size

end BringUp.Dram
