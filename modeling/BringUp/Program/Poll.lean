import BringUp.Program.Basic

/-!
Waiting for a condition.

A condition is looked at, and as long as it is pending the program pauses and looks again. The
number of pauses is bounded, and the last pause is followed by one more look.
-/
namespace BringUp

/-- What one look at a condition shows. -/
inductive Look (α β : Type) where
  /-- Not settled yet; `seen` is what was observed. -/
  | pending (seen : α)
  | settled (result : β)
deriving DecidableEq, Repr

/-- The last look and the number of looks. -/
structure Polled (α β : Type) where
  last : Look α β
  looks : Nat
deriving DecidableEq, Repr

/-- Microseconds between two looks. -/
def Timer.interval : Word := 100

/-- A timeout in microseconds. They are kept in a word, so they are exact only if they fit. -/
def Timer.ofMilliseconds (milliseconds : Nat) : Word :=
  BitVec.ofNat 32 (1000 * milliseconds)

/-- Number of polling intervals until a timeout is over. -/
def intervals (milliseconds : Nat) : Nat :=
  ((Timer.ofMilliseconds milliseconds).toNat + 99) / 100

/-- There are ten in each millisecond, if the microseconds fit into the word. -/
theorem intervals_eq {milliseconds : Nat} (fits : 1000 * milliseconds < 0x100000000) :
    intervals milliseconds = 10 * milliseconds := by
  rw [intervals, Timer.ofMilliseconds, BitVec.toNat_ofNat, Nat.mod_eq_of_lt fits]
  omega

theorem intervals_le (milliseconds : Nat) : intervals milliseconds ≤ 10 * milliseconds := by
  have within := Nat.mod_le (1000 * milliseconds) 0x100000000
  rw [intervals, Timer.ofMilliseconds, BitVec.toNat_ofNat]
  omega

namespace Program

variable {α β : Type}

/-- Looks until the condition is settled, with at most `pauses` pauses in between. The look gets
the number of looks before it. -/
def poll (look : Nat → Program (Look α β)) (pauses : Nat) : Program (Polled α β) :=
  go 0 pauses
where
  go (index : Nat) : Nat → Program (Polled α β)
    | 0 => do return ⟨← look index, index + 1⟩
    | pauses + 1 => do
      match ← look index with
      | .settled result => return ⟨.settled result, index + 1⟩
      | .pending _ => do
        pause
        go (index + 1) pauses

theorem poll_go_zero (look : Nat → Program (Look α β)) (index : Nat) :
    poll.go look index 0 = (look index).bind fun seen => .done ⟨seen, index + 1⟩ := rfl

/-- A look that is pending is followed by a pause and the remaining looks. -/
theorem poll_go_succ (look : Nat → Program (Look α β)) (index pauses : Nat) :
    poll.go look index (pauses + 1) = (look index).bind fun
      | .settled result => .done ⟨.settled result, index + 1⟩
      | .pending _ => pause.bind fun _ => poll.go look (index + 1) pauses := rfl

/-- Waits until the condition holds. The answer tells whether it did within the timeout. -/
def await (condition : Program Bool) (milliseconds : Nat) : Program Bool := do
  let look := do return if ← condition then Look.settled () else Look.pending ()
  match (← poll (fun _ => look) (intervals milliseconds)).last with
  | .settled () => return true
  | .pending () => return false

end Program
end BringUp
