import BringUp.DeviceTree.Blob
import BringUp.Program.Basic

/-! Why a device tree does not give what the memory bring-up needs. -/
namespace BringUp.DeviceTree

inductive Error where
  | blob (cause : BlobError)
  | noMemoryNode
  | nodeNotFound (name : String)
  | invalidSettings (node : String)
deriving DecidableEq, Repr

def Error.message : Error → String
  | blob cause => "invalid device tree blob: " ++ cause.name
  | noMemoryNode => "no memory node found"
  | nodeNotFound name => "device tree node " ++ name ++ " not found"
  | invalidSettings node => "invalid secure register settings in node " ++ node

/-- A defect of the blob breaks the program off. -/
def readable {α : Type} : Except Defect α → Program α
  | .ok value => .done value
  | .error _ => .fault

end BringUp.DeviceTree
