import BringUp.Program.Lemmas
import BringUp.Program.Poll

/-!
Waiting by a counter of microseconds.

The counter is a word that is kept at its largest value once it is full, so it always comes to the
timeout in the end. It is looked at only after a call that has not found the condition met.
-/
namespace BringUp.Timer

/-- A condition that may remember something from one call to the next. A call may fail. -/
abbrev Condition (σ ε : Type) :=
  σ → Program (Except ε Bool × σ)

/-- What a wait comes to: the last answer of the condition, the counter, and what the condition
remembers. -/
structure Ending (σ ε : Type) where
  answer : Except ε Bool
  waited : Word
  memory : σ

/-- The counter after one more interval. -/
def advance (waited : Word) : Word :=
  if waited.uaddOverflow interval then BitVec.allOnes 32 else waited + interval

theorem toNat_advance (waited : Word) :
    (advance waited).toNat = min (waited.toNat + 100) 0xFFFFFFFF := by
  have inside := waited.isLt
  have step : BitVec.toNat interval = 100 := rfl
  rw [advance, BitVec.uaddOverflow, step]
  split
  · next full =>
    have full := of_decide_eq_true full
    rw [BitVec.toNat_allOnes]
    omega
  · next room =>
    have room := of_decide_eq_false (Bool.eq_false_iff.2 room)
    rw [BitVec.toNat_add, step]
    omega

/-- The counter grows as long as it is below some timeout. -/
theorem lt_advance {waited timeout : Word} (early : ¬ timeout ≤ waited) :
    timeout.toNat - (advance waited).toNat < timeout.toNat - waited.toNat := by
  have inside := timeout.isLt
  rw [BitVec.le_def] at early
  rw [toNat_advance]
  omega

variable {σ ε : Type}

/-- Calls the condition until it is met or fails, with a pause after each call, as long as the
counter is below the timeout. -/
def watch (condition : Condition σ ε) (timeout waited : Word) (memory : σ) :
    Program (Ending σ ε) := do
  let (answer, memory) ← condition memory
  match answer with
  | .ok false =>
    if timeout ≤ waited then
      return ⟨.ok false, waited, memory⟩
    else
      Program.pause
      watch condition timeout (advance waited) memory
  | answer => return ⟨answer, waited, memory⟩
termination_by timeout.toNat - waited.toNat
decreasing_by exact lt_advance ‹_›

/-- Waits for a condition whose calls may fail. The answer tells whether it was met within the
timeout. -/
def tryAwait (condition : Condition σ ε) (timeout : Word) : Condition σ ε := fun memory => do
  let ending ← watch condition timeout 0 memory
  return (ending.answer, ending.memory)

/-- A condition of which no call fails. -/
def infallible (condition : σ → Program (Bool × σ)) : Condition σ ε := fun memory => do
  let (met, memory) ← condition memory
  return (.ok met, memory)

/-- The condition was found met. -/
def isMet : Except ε Bool → Bool
  | .ok true => true
  | _ => false

/-- Waits for a condition of which no call fails. -/
def await (condition : σ → Program (Bool × σ)) (timeout : Word) (memory : σ) :
    Program (Bool × σ) := do
  let (answer, memory) ← tryAwait (infallible condition : Condition σ Empty) timeout memory
  return (isMet answer, memory)

/-- The call has gone well without finding the condition met. -/
def isUnmet : Except ε Bool → Bool
  | .ok false => true
  | _ => false

theorem isUnmet_iff {answer : Except ε Bool} : isUnmet answer = true ↔ answer = .ok false := by
  cases answer with
  | error cause => simp [isUnmet]
  | ok met => cases met <;> simp [isUnmet]

/-- After a call that has not found the condition met there is a pause and another round, as long
as the counter is below the timeout. Every other call ends the wait. -/
theorem watch_eq (condition : Condition σ ε) (timeout waited : Word) (memory : σ) :
    watch condition timeout waited memory = (condition memory).bind fun seen =>
      if isUnmet seen.1 ∧ ¬ timeout ≤ waited then
        Program.pause.bind fun _ => watch condition timeout (advance waited) seen.2
      else .done ⟨seen.1, waited, seen.2⟩ := by
  rw [watch]
  change (condition memory).bind _ = _
  congr 1
  funext ⟨answer, memory⟩
  cases answer with
  | error cause => rfl
  | ok met =>
    cases met with
    | true => rfl
    | false =>
      by_cases expired : timeout ≤ waited <;> simp [expired, isUnmet]

end BringUp.Timer
