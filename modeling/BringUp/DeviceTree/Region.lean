import BringUp.DeviceTree.Blob

/-!
Address regions of a node.

How many words an address and a size take is said by the parent of the node, and by nobody
further up.
-/
namespace BringUp.DeviceTree

structure Region where
  start : Nat
  size : Option Nat
deriving DecidableEq, Repr

/-- Number of words of an address and of a size. -/
structure CellCounts where
  address : Nat := 2
  size : Nat := 1
deriving DecidableEq, Repr

namespace CellCounts

/-- Takes a property of the parent into account. -/
def add (counts : CellCounts) (property : Property) : Except Defect CellCounts :=
  if property.name = "#address-cells" then do
    return { counts with address := ← Bytes.word property.value }
  else if property.name = "#size-cells" then do
    return { counts with size := ← Bytes.word property.value }
  else .ok counts

end CellCounts

namespace Region

/-- The region at the start. No address has zero words; a size of zero words is no size. -/
def read? (counts : CellCounts) (bytes : Bytes) : Option (Region × Bytes) := do
  let (start, bytes) ← Bytes.number? counts.address bytes
  if counts.size = 0 then
    return (⟨start, none⟩, bytes)
  let (size, bytes) ← Bytes.number? counts.size bytes
  return (⟨start, some size⟩, bytes)

/-- The complete regions of a value. -/
def all (counts : CellCounts) (value : Bytes) : List Region :=
  go value.length value
where
  go : Nat → Bytes → List Region
    | 0, _ => []
    | fuel + 1, bytes =>
      match read? counts bytes with
      | none => []
      | some (region, rest) => region :: go fuel rest

end Region

namespace Blob

/-- The word counts that the parent of a node sets. The last setting wins. -/
def cellCounts (blob : Blob) (node : Node) : Except Defect CellCounts :=
  match node.parent with
  | none => .ok {}
  | some body => do (← (blob.properties body).toList).foldlM CellCounts.add {}

/-- The regions of a node, if it has any and their numbers are of a supported size. -/
def regions? (blob : Blob) (node : Node) : Except Defect (Option (List Region)) := do
  let counts ← blob.cellCounts node
  if 2 < counts.address ∨ 2 < counts.size then
    return none
  return (← blob.property? node "reg").map (Region.all counts)

end Blob
end BringUp.DeviceTree
