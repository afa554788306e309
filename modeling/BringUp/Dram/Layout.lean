import BringUp.DeviceTree.Memory
import BringUp.Dram.Error

/-!
The memory layout.

The device tree may describe less memory than there is, but not more. If it gives no size, the
banks follow from the size that the hardware reports.
-/
namespace BringUp.Dram

/-- The size of the memory and the banks in use. -/
structure Layout where
  size : Nat
  banks : List Bank
deriving DecidableEq, Repr

/-- Bytes of a size in gigabits. -/
def hardwareBytes (gigabits : Nat) : Nat :=
  gigabits * gibibyte / 8

def mebibytes (size : Nat) : String :=
  toString (size / mebibyte) ++ " MiB"

/-- Banks for memory whose size is reported by the hardware only. -/
def hardwareLayout (available bankCount : Nat) : Program Layout := do
  let banks ← banksOfSize available bankCount
  banks.zipIdx.forM fun (bank, index) =>
    Program.log .debug ("DDR: memory bank " ++ toString index ++ " start " ++ Text.hex bank.start
      ++ " size " ++ Text.hex bank.size)
  return ⟨available, banks⟩

/-- The layout of the described memory. It must not be larger than what is available, and is
replaced if it has no size. -/
def reconcile (memory : DeviceTree.Memory) (available bankCount : Nat) :
    Program (Except Error Layout) := do
  if available < memory.size then
    Program.log .error "DDR: DRAM size from device tree is greater than hardware size"
    return .error (.exceedsHardware memory.size available)
  if memory.size = 0 ∧ 0 < available then
    return .ok (← hardwareLayout available bankCount)
  return .ok ⟨memory.size, memory.banks⟩

/-- Reconciles the memory of the device tree with the `available` bytes. -/
def resolveLayout (blob : DeviceTree.Bytes) (available bankCount : Nat) :
    Program (Except Error Layout) := do
  match ← DeviceTree.Memory.ofBlob blob bankCount with
  | .error cause =>
    Program.log .error ("DDR: failed to decode memory node: " ++ cause.message)
    return .error (.deviceTree cause)
  | .ok memory =>
    if 0 < memory.size ∧ memory.size ≠ available then
      Program.log .warning ("DDR: DRAM size from device tree (" ++ mebibytes memory.size
        ++ ") mismatch with hardware (" ++ mebibytes available ++ ")")
    reconcile memory available bankCount

end BringUp.Dram
