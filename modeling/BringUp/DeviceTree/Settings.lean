import BringUp.DeviceTree.Error
import BringUp.DeviceTree.Region

/-!
Register settings in a device tree.

Each child of a settings node describes a register block by its first region, and masked writes
to it by triples of offset, value and mask. All settings of a node are checked before the first
is used.
-/
namespace BringUp.DeviceTree

/-- A masked write to a register. -/
structure Setting where
  base : Nat
  offset : Word
  value : Word
  mask : Word
deriving DecidableEq, Repr

namespace Setting

def address (setting : Setting) : Nat :=
  setting.base + setting.offset.toNat

/-- The bits inside the mask are replaced, the others stay. -/
def change (setting : Setting) (current : Word) : Word :=
  (current &&& ~~~ setting.mask) ||| (setting.value &&& setting.mask)

/-- Carries the setting out by one read and one write. -/
def apply (setting : Setting) : Program Unit := do
  Program.update setting.address setting.change
  Program.log .debug ("secreg: " ++ Text.hex setting.address ++ " = " ++ Text.hexWord setting.value
    ++ " (mask " ++ Text.hexWord setting.mask ++ ")")

/-- Bytes of a triple. -/
def bytes : Nat := 12

/-- The complete triples of a value. -/
def triples (base : Nat) : Bytes → List Setting
  | a :: b :: c :: d :: e :: f :: g :: h :: i :: j :: k :: l :: rest =>
    ⟨base, word [a, b, c, d], word [e, f, g, h], word [i, j, k, l]⟩ :: triples base rest
  | _ => []
where
  word (bytes : Bytes) : Word :=
    BitVec.ofNat 32 ((Bytes.word? bytes).getD 0)

end Setting

/-- Property with the triples of a register block. -/
def settingsProperty : String := "intel,offset-settings"

namespace Blob

/-- The settings of one register block. A child without triples has none. Every offset has to
lie inside the block. -/
def blockSettings (blob : Blob) (nodeName : String) (child : Node) :
    Program (Except Error (List Setting)) := do
  match ← readable (blob.property? child settingsProperty) with
  | none => return .ok []
  | some value =>
    match ((← readable (blob.regions? child)).bind List.head?) with
    | none => return .error (.invalidSettings nodeName)
    | some region =>
      if value.length % Setting.bytes ≠ 0 then
        return .error (.invalidSettings nodeName)
      let settings := Setting.triples region.start value
      match settings.find? fun setting => region.size.getD 0 ≤ setting.offset.toNat with
      | some setting =>
        Program.log .error ("secreg: offset " ++ Text.hex setting.offset.toNat
          ++ " outside of block " ++ child.name)
        return .error (.invalidSettings nodeName)
      | none => return .ok settings

/-- The settings of several blocks, in order. -/
def allSettings (blob : Blob) (nodeName : String) :
    List Node → Program (Except Error (List Setting))
  | [] => return .ok []
  | child :: rest => do
    match ← blob.blockSettings nodeName child with
    | .error cause => return .error cause
    | .ok settings =>
      match ← blob.allSettings nodeName rest with
      | .error cause => return .error cause
      | .ok others => return .ok (settings ++ others)

end Blob

namespace Settings

/-- All settings of the first node with that name, in document order. -/
def ofBlob (data : Bytes) (nodeName : String) : Program (Except Error (List Setting)) := do
  match Blob.parse data with
  | .error cause => return .error (.blob cause)
  | .ok blob =>
    match ← readable (blob.nodes.find? fun node => Node.baseName node.name == nodeName) with
    | none => return .error (.nodeNotFound nodeName)
    | some node =>
      let children := blob.children node
      match ← blob.allSettings nodeName children.items with
      | .error cause => return .error cause
      | .ok settings =>
        let _ ← readable children.toList
        return .ok settings

/-- Carries out all settings of a node. The answer is their number. -/
def apply (data : Bytes) (nodeName : String) : Program (Except Error Nat) := do
  match ← ofBlob data nodeName with
  | .error cause => return .error cause
  | .ok settings =>
    settings.forM Setting.apply
    return .ok settings.length

end Settings
end BringUp.DeviceTree
