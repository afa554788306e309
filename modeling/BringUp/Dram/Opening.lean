import BringUp.Dram.Bank
import BringUp.Register.Firewall

/-!
Opening of the firewalls for non-secure accesses.

Every bank with memory gets one MPU region and one non-MPU region of the same number on each DDR
firewall. With the secure monitor in place, the first mebibyte of the first bank stays closed.
-/
namespace BringUp.Dram

open Firewall

/-- The lower 32 bits of an address. -/
def lowWord (address : Nat) : Word :=
  BitVec.ofNat 32 address

/-- Address bits 32 to 39, which are all that the extension registers implement. -/
def extensionWord (address : Nat) : Word :=
  BitVec.ofNat 32 (address / 0x100000000 % 0x100)

/-- Sets the window of a region to the addresses from `first` to `last`. -/
def setWindow (dmi : Dmi) (masters : Masters) (index first last : Nat) : Program Unit := do
  Program.store (region dmi masters index + Region.start) (lowWord first)
  Program.store (region dmi masters index + Region.startExtension) (extensionWord first)
  Program.store (region dmi masters index + Region.limit) (lowWord last)
  Program.store (region dmi masters index + Region.limitExtension) (extensionWord last)

/-- The enable word of the two regions with that number. -/
def regionEnable (index : Nat) : Word :=
  (0 : Word)
    |> RegionEnable.nonMpu.put (BitVec.ofNat _ (1 <<< index))
    |> RegionEnable.mpu.put (BitVec.ofNat _ (1 <<< index))

/-- Sets and then enables both regions of a firewall with that number. -/
def openRegion (index first last : Nat) (dmi : Dmi) : Program Unit := do
  setWindow dmi .mpu index first last
  setWindow dmi .nonMpu index first last
  Program.store (enableSet dmi) (regionEnable index)

/-- First address of a bank that is opened. -/
def firstOpen (secureMonitor : Bool) (index : Nat) (bank : Bank) : Nat :=
  if secureMonitor && index == 0 then bank.start + mebibyte else bank.start

/-- Opens a bank on the given firewalls. An empty bank stays closed. -/
def openBank (dmis : List Dmi) (secureMonitor : Bool) (index : Nat) (bank : Bank) :
    Program Unit := do
  if !bank.isEmpty then
    let first := firstOpen secureMonitor index bank
    dmis.forM (openRegion index first bank.last)
    Program.log .debug ("DDR: firewall region " ++ toString index ++ " opened from "
      ++ Text.hex first ++ " to " ++ Text.hex bank.last)

/-- Opens the banks on the given firewalls. There is a region for each of the first four. -/
def openBanks (dmis : List Dmi) (banks : List Bank) (secureMonitor : Bool) : Program Unit := do
  if regionCount < banks.length then
    Program.log .warning ("DDR: only " ++ toString regionCount ++ " of "
      ++ toString banks.length ++ " banks can be opened in the firewall")
  (banks.take regionCount).zipIdx.forM fun (bank, index) => openBank dmis secureMonitor index bank

/-- Opens the register blocks of both IO96B instances and of the network on chip. -/
def openRegisters : Program Unit := do
  Program.store (mpfeIo96b 0) 1
  Program.store (mpfeIo96b 1) 1
  Program.store mpfeNoc 1

end BringUp.Dram
