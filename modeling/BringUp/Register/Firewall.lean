import BringUp.Register.Field

/-!
The firewalls of the DDR memory and of the MPFE.

After a reset the DDR firewalls admit secure accesses only. Each has four regions for the MPU and
four for the other masters. A region is an address window whose ends are split into the lower 32
address bits and an extension with address bits 32 to 39.
-/
namespace BringUp.Firewall

/-- Memory interface of the cache coherency unit. Each has a DDR firewall of its own. -/
inductive Dmi where
  | dmi0
  | dmi1
deriving DecidableEq, Repr

namespace Dmi

def base : Dmi → Nat
  | dmi0 => 0x18000800
  | dmi1 => 0x18000A00

def all : List Dmi := [dmi0, dmi1]

end Dmi

/-- Number of MPU regions and of non-MPU regions of a DDR firewall. -/
def regionCount : Nat := 4

/-- Masters that a region admits. -/
inductive Masters where
  | mpu
  | nonMpu
deriving DecidableEq, Repr

def Masters.offset : Masters → Nat
  | mpu => 0x10
  | nonMpu => 0x90

def enable (dmi : Dmi) : Nat := dmi.base

def enableSet (dmi : Dmi) : Nat := dmi.base + 0x4

def enableClear (dmi : Dmi) : Nat := dmi.base + 0x8

namespace RegionEnable

abbrev nonMpu : Field := ⟨8, 4⟩

abbrev mpu : Field := ⟨0, 4⟩

end RegionEnable

/-- Address of the first register of a region. -/
def region (dmi : Dmi) (masters : Masters) (index : Nat) : Nat :=
  dmi.base + masters.offset + 0x10 * index

namespace Region

def start : Nat := 0x0

def startExtension : Nat := 0x4

def limit : Nat := 0x8

def limitExtension : Nat := 0xC

end Region

/-- Writing one to a register of the MPFE firewall opens a block for non-secure accesses. -/
def mpfeBase : Nat := 0x18000D00

def mpfeIo96b (unit : Nat) : Nat := mpfeBase + 4 * unit

def mpfeNoc : Nat := mpfeBase + 0x8

end BringUp.Firewall
