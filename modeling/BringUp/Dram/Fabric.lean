import BringUp.DeviceTree.Settings
import BringUp.Dram.Error
import BringUp.Register.Sideband
import BringUp.Register.SystemManager

/-!
Configuration of the fabric around the memory: the modes that are announced to the network on
chip, and the interleaving of the cache coherency unit.
-/
namespace BringUp.Dram

open SystemManager

/-- Selects the lite interface of the MPFE and then activates it, as the dual EMIF mode needs. -/
def selectLite : Program Unit := do
  Program.update mpfeConfig (MpfeConfig.liteSelected.put true)
  Program.update mpfeConfig (MpfeConfig.liteActive.put true)
  Program.log .debug ("DDR: mpfe_config: " ++ Text.hex (← Program.load mpfeConfig).toNat)

/-- Announces the dual port and dual EMIF modes. -/
def announceModes (configuration : Configuration) : Program Unit := do
  if configuration.dualPort then
    Program.update Sideband.flagSet (Sideband.dualPort.put true)
  if configuration.dualEmif then
    selectLite
    Program.update Sideband.flagSet (Sideband.dualEmif.put true)
  Program.log .debug
    ("DDR: sideband flagoutstatus0: " ++ Text.hex (← Program.load Sideband.flagStatus).toNat)

/-- Settings node for interleaving. -/
def interleavingOn : String := "socfpga-secreg-ccu-interleaving-on"

/-- Settings node for no interleaving. -/
def interleavingOff : String := "socfpga-secreg-ccu-interleaving-off"

/-- Carries out the settings of the cache coherency unit that fit the configuration. -/
def setInterleaving (blob : DeviceTree.Bytes) (configuration : Configuration) :
    Program (Except Error Unit) := do
  let node := if configuration.interleaving then interleavingOn else interleavingOff
  if configuration.interleaving then
    Program.log .debug "DDR: config interleaving on CCU registers"
  else
    Program.log .debug "DDR: config interleaving off CCU registers"
  match ← DeviceTree.Settings.apply blob node with
  | .ok _ => return .ok ()
  | .error cause =>
    Program.log .error ("DDR: interleaving on/off CCU settings init failed: " ++ cause.message)
    return .error (.settings cause)

end BringUp.Dram
