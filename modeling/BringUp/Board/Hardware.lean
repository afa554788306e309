import BringUp.Word

/-!
Simulated hardware behind the registers: it reacts to stores by rules and acts by itself at given
ticks of the clock.
-/
namespace BringUp.Board

/-- A change of a register by the hardware at a tick of the clock. -/
structure Event where
  tick : Nat
  address : Nat
  value : Word

/-- A reaction of the hardware to a store. -/
structure Rule where
  address : Nat
  mask : Word
  value : Word
  /-- How often the rule can be used. -/
  uses : Option Nat := none
  /-- Ticks until the changes happen; they happen at once if it is zero. -/
  delay : Nat := 0
  changes : List (Nat × Word)

namespace Rule

def applies (rule : Rule) (address : Nat) (value : Word) : Bool :=
  rule.address == address && (value &&& rule.mask) == rule.value && rule.uses != some 0

def use (rule : Rule) : Rule :=
  { rule with uses := rule.uses.map (· - 1) }

/-- The first rule that applies, and the rules after its use. -/
def first? (address : Nat) (value : Word) : List Rule → Option (Rule × List Rule)
  | [] => none
  | rule :: rest =>
    if rule.applies address value then some (rule, rule.use :: rest)
    else (first? address value rest).map fun (used, rest) => (used, rule :: rest)

end Rule

end BringUp.Board
