import BringUp.DeviceTree.Error
import BringUp.Dram.Coverage
import BringUp.Handoff.Configuration
import BringUp.Iossm.Error

/-! Why the memory bring-up fails. -/
namespace BringUp.Dram

inductive Error where
  | handoff (cause : HandoffError)
  | settings (cause : DeviceTree.Error)
  | iossm (cause : Iossm.Error)
  | deviceTree (cause : DeviceTree.Error)
  | exceedsHardware (described available : Nat)
  | sizeCheck (cause : SizeError)
deriving DecidableEq, Repr

def Error.message : Error → String
  | handoff cause => "failed to read DDR handoff: " ++ cause.message
  | settings cause => "interleaving on/off CCU settings init failed: " ++ cause.message
  | iossm cause => "IOSSM error: " ++ cause.message
  | deviceTree cause => "failed to decode memory node: " ++ cause.message
  | exceedsHardware described available =>
    "DRAM size from device tree (" ++ Text.hex described ++ ") is greater than hardware size ("
      ++ Text.hex available ++ ")"
  | sizeCheck cause => "memory size check failed: " ++ cause.message

end BringUp.Dram
