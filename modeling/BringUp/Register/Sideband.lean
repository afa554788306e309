import BringUp.Register.Field

/-!
The sideband manager of the MPFE network on chip. A one in the set or the clear register sets or
clears the status flag of the same position.
-/
namespace BringUp.Sideband

def base : Nat := 0x18001000

def flagSet : Nat := base + 0x50

def flagClear : Nat := base + 0x54

def flagStatus : Nat := base + 0x58

def dualEmif : Flag := ⟨5⟩

def dualPort : Flag := ⟨4⟩

end BringUp.Sideband
