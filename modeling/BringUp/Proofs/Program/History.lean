import BringUp.Proofs.Program.Footprint
import BringUp.Proofs.Program.Runs

/-! What a program asks, in view of what it has asked before. Main statement: if `p.Obeys permitted
past`, cut a run anywhere, and the next question is permitted after what lies before the cut. -/
namespace BringUp.Program

variable {α β ε : Type} {permitted : Trace → Op → Prop} {past : Trace} {allowed : Op → Prop}

/-- Every question of the program is permitted after the past and what the program has asked before
it. -/
def Obeys (permitted : Trace → Op → Prop) : Trace → Program α → Prop
  | _, done _ => True
  | _, fault => True
  | past, ask op next =>
    permitted past op ∧ ∀ answer, (next answer).Obeys permitted (past ++ [⟨op, answer⟩])

theorem obeys_bind {p : Program α} {f : α → Program β} (first : p.Obeys permitted past)
    (rest : ∀ trace value, Runs p trace (some value) → (f value).Obeys permitted (past ++ trace)) :
    (p.bind f).Obeys permitted past := by
  induction p generalizing past with
  | done value => simpa using rest [] value (.done value)
  | fault => trivial
  | ask op next ih =>
    refine ⟨first.1, fun answer => ih answer (first.2 answer) fun trace value run => ?_⟩
    simpa using rest _ value (.ask answer run)

theorem Uses.obeys {p : Program α} (uses : p.Uses allowed)
    (h : ∀ later op, allowed op → permitted (past ++ later) op) : p.Obeys permitted past := by
  induction p generalizing past with
  | done _ => trivial
  | fault => trivial
  | ask op next ih =>
    refine ⟨by simpa using h [] op uses.1, fun answer => ih answer (uses.2 answer) fun later => ?_⟩
    simpa using h (⟨op, answer⟩ :: later)

theorem Obeys.mono {p : Program α} {other : Trace → Op → Prop} (obeys : p.Obeys permitted past)
    (h : ∀ past op, permitted past op → other past op) : p.Obeys other past := by
  induction p generalizing past with
  | done _ => trivial
  | fault => trivial
  | ask op next ih => exact ⟨h past op obeys.1, fun answer => ih answer (obeys.2 answer)⟩

theorem obeys_run_program {p : Program α} (h : p.Obeys permitted past) :
    (liftM p : ExceptT ε Program α).run.Obeys permitted past :=
  obeys_bind h fun _ _ _ => trivial

theorem obeys_mapM {ι : Type} {items : List ι} {visit : ι → Program α}
    (h : ∀ item ∈ items, ∀ past, (visit item).Obeys permitted past) :
    (items.mapM visit).Obeys permitted past := by
  induction items generalizing past with
  | nil => trivial
  | cons item rest ih =>
    rw [List.mapM_cons]
    refine obeys_bind (h item List.mem_cons_self past) fun _ _ _ => ?_
    exact obeys_bind (ih fun item member => h item (List.mem_cons_of_mem _ member))
      fun _ _ _ => trivial

theorem obeys_run_bind {m : ExceptT ε Program α} {f : α → ExceptT ε Program β}
    (first : m.run.Obeys permitted past)
    (rest : ∀ trace value, Runs m.run trace (some (.ok value)) →
      (f value).run.Obeys permitted (past ++ trace)) : (m >>= f).run.Obeys permitted past := by
  rw [ExceptT.run_bind]
  refine obeys_bind first fun trace result run => ?_
  cases result with
  | error _ => trivial
  | ok value => exact rest trace value run

end BringUp.Program

namespace BringUp.Runs

variable {α : Type} {permitted : Trace → Op → Prop} {past trace : Trace} {p : Program α}
  {result : Option α}

/-- Wherever a run is cut, its next question is permitted after the past and what precedes the
cut. -/
theorem obeys (run : Runs p trace result) (h : p.Obeys permitted past) :
    ∀ before event after, trace = before ++ event :: after →
      permitted (past ++ before) event.op := by
  induction run generalizing past with
  | done _ => rintro (_ | _) _ _ split <;> cases split
  | fault => rintro (_ | _) _ _ split <;> cases split
  | ask answer _ ih =>
    rintro (_ | ⟨_, before⟩) event after split
    · cases split
      simpa using h.1
    · cases split
      simpa using ih (h.2 answer) before event after rfl

end BringUp.Runs
