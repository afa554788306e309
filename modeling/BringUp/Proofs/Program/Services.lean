import BringUp.Proofs.Program.Footprint

/-! Services as programs. Main statement: the runs in which services are carried out are the runs in
which they are asked, with a run of the service in the place of every question. -/
namespace BringUp

/-- Carries out every service that a program asks for. -/
def Program.expand {α : Type} (service : (op : Op) → Program op.Answer) : Program α → Program α
  | done value => done value
  | fault => fault
  | ask op next => (service op).bind fun answer => (next answer).expand service

/-- The second trace carries out the questions of the first one, each of them with its answer. -/
inductive Carried (service : (op : Op) → Program op.Answer) : Trace → Trace → Prop
  | nil : Carried service [] []
  | cons {op : Op} {answer : op.Answer} {asked here there : Trace}
      (run : Runs (service op) here (some answer)) (further : Carried service asked there) :
      Carried service (⟨op, answer⟩ :: asked) (here ++ there)

variable {α : Type} {service : (op : Op) → Program op.Answer} {asked trace : Trace}

theorem Runs.expand {p : Program α} {result : Option α} (run : Runs p asked result)
    (carried : Carried service asked trace) : Runs (p.expand service) trace result := by
  induction run generalizing trace with
  | done value =>
    cases carried
    exact .done value
  | fault =>
    cases carried
    exact .fault
  | ask answer _ ih =>
    cases carried with
    | cons here further => exact here.bind (ih further)

/-- The runs in which services are carried out are those in which they are asked. -/
theorem runs_expand_iff (returns : ∀ op, (service op).Returns) {p : Program α} {result : Option α} :
    Runs (p.expand service) trace result ↔
      ∃ asked, Runs p asked result ∧ Carried service asked trace := by
  constructor
  · intro run
    induction p generalizing trace with
    | done value =>
      obtain ⟨rfl, rfl⟩ := Runs.done_iff.1 run
      exact ⟨[], .done value, .nil⟩
    | fault =>
      obtain ⟨rfl, rfl⟩ := Runs.fault_iff.1 run
      exact ⟨[], .fault, .nil⟩
    | ask op next ih =>
      obtain ⟨here, there, answer, rfl, carried, run₁⟩ := Runs.bind_returned run (returns op)
      obtain ⟨asked, run₂, further⟩ := ih answer run₁
      exact ⟨⟨op, answer⟩ :: asked, .ask answer run₂, .cons carried further⟩
  · rintro ⟨asked, run, carried⟩
    exact run.expand carried

/-- Questions can be carried out if each of them can. -/
theorem exists_carried_iff : (∃ trace, Carried service asked trace) ↔
    ∀ event ∈ asked, ∃ here, Runs (service event.op) here (some event.answer) := by
  induction asked with
  | nil => exact ⟨fun _ _ none => absurd none List.not_mem_nil, fun _ => ⟨[], .nil⟩⟩
  | cons event rest ih =>
    rw [List.forall_mem_cons, ← ih]
    constructor
    · rintro ⟨_, _ | ⟨here, further⟩⟩
      exact ⟨⟨_, here⟩, _, further⟩
    · rintro ⟨⟨_, here⟩, _, further⟩
      exact ⟨_, .cons here further⟩

end BringUp
