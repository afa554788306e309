import BringUp.DeviceTree.Error
import BringUp.DeviceTree.Region
import BringUp.Dram.Bank

/-! The memory that a device tree describes. -/
namespace BringUp.DeviceTree

/-- The recorded banks and the sum of their sizes. -/
structure Memory where
  size : Nat := 0
  banks : List Dram.Bank := []
deriving DecidableEq, Repr

namespace Memory

/-- Records a region as a bank. A region without a size counts as empty; regions beyond the
limit are ignored. -/
def record (limit : Nat) (memory : Memory) (region : Region) : Program Memory := do
  let bank : Dram.Bank := ⟨region.start, region.size.getD 0⟩
  if limit ≤ memory.banks.length ∨ Dram.maxBanks ≤ memory.banks.length then
    Program.log .warning ("DT: ignoring memory region at " ++ Text.hex bank.start ++ ", only "
      ++ toString memory.banks.length ++ " banks supported")
    return memory
  return ⟨memory.size + bank.size, memory.banks ++ [bank]⟩

end Memory

namespace Blob

/-- A memory node says so by its device type; if that is no text, its name decides. -/
def isMemory (blob : Blob) (node : Node) : Except Defect Bool := do
  let deviceType ← blob.property? node "device_type"
  match deviceType.bind fun value => Bytes.text? (Bytes.withoutPadding value) with
  | some deviceType => return deviceType == "memory"
  | none => return Node.baseName node.name == "memory"

/-- Records the regions of a node, if it is a memory node. The flag tells whether any node was
one. -/
def visitMemory (blob : Blob) (limit : Nat) (found : Memory × Bool) (node : Node) :
    Program (Memory × Bool) := do
  if ← readable (blob.isMemory node) then
    let regions ← readable (blob.regions? node)
    return (← (regions.getD []).foldlM (Memory.record limit) found.1, true)
  return found

end Blob

/-- The memory of all memory nodes of a blob, with at most `limit` banks. -/
def Memory.ofBlob (data : Bytes) (limit : Nat) : Program (Except Error Memory) := do
  match Blob.parse data with
  | .error cause => return .error (.blob cause)
  | .ok blob =>
    let (memory, found) ← blob.nodes.items.foldlM (blob.visitMemory limit) ({}, false)
    let _ ← readable blob.nodes.toList
    if !found then
      return .error .noMemoryNode
    Program.log .debug ("DT: RAM size " ++ Text.hex memory.size ++ " in "
      ++ toString memory.banks.length ++ " bank(s)")
    return .ok memory

end BringUp.DeviceTree
