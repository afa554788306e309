import BringUp.Program.Basic

/-!
Runs of a program.

A run is the list of questions with their answers, and the result. The relation `Runs` admits
every answer to every question. Main statements: a run of `p.bind f` is a run of `p` followed by a
run of `f`, and what a handler makes of a program is one of its runs.
-/
namespace BringUp

/-- A question and the answer to it. -/
structure Event where
  op : Op
  answer : op.Answer

abbrev Trace := List Event

/-- The questions of a program that a handler answers from a state, with the answers. -/
def Program.trace {α σ : Type} (handle : (op : Op) → σ → op.Answer × σ) : Program α → σ → Trace
  | .done _, _ => []
  | .fault, _ => []
  | .ask op next, state =>
    let (answer, state) := handle op state
    ⟨op, answer⟩ :: (next answer).trace handle state

/-- `Runs program trace result`: the program asks the questions of the trace, gets its answers,
and ends with the result, which is missing if it breaks off. -/
inductive Runs {α : Type} : Program α → Trace → Option α → Prop
  | done (value : α) : Runs (.done value) [] (some value)
  | fault : Runs .fault [] none
  | ask {op : Op} {next : op.Answer → Program α} {trace : Trace} {result : Option α}
      (answer : op.Answer) (rest : Runs (next answer) trace result) :
      Runs (.ask op next) (⟨op, answer⟩ :: trace) result

namespace Runs

variable {α β σ : Type} {trace : Trace}

@[simp] theorem done_iff {value : α} {result : Option α} :
    Runs (.done value) trace result ↔ trace = [] ∧ result = some value := by
  constructor
  · intro h; cases h; exact ⟨rfl, rfl⟩
  · rintro ⟨rfl, rfl⟩; exact .done value

@[simp] theorem fault_iff {result : Option α} :
    Runs .fault trace result ↔ trace = [] ∧ result = none := by
  constructor
  · intro h; cases h; exact ⟨rfl, rfl⟩
  · rintro ⟨rfl, rfl⟩; exact .fault

@[simp] theorem ask_iff {op : Op} {next : op.Answer → Program α} {result : Option α} :
    Runs (.ask op next) trace result ↔
      ∃ answer rest, trace = ⟨op, answer⟩ :: rest ∧ Runs (next answer) rest result := by
  constructor
  · intro h; cases h with
    | ask answer rest => exact ⟨answer, _, rfl, rest⟩
  · rintro ⟨answer, rest, rfl, h⟩; exact .ask answer h

theorem bind {p : Program α} {f : α → Program β} {first second : Trace} {value : α}
    {result : Option β} (hp : Runs p first (some value)) (hf : Runs (f value) second result) :
    Runs (p.bind f) (first ++ second) result := by
  induction p generalizing first with
  | done _ => obtain ⟨rfl, h⟩ := done_iff.1 hp; cases h; exact hf
  | fault => exact absurd (fault_iff.1 hp).2 (by simp)
  | ask op next ih =>
    obtain ⟨answer, rest, rfl, h⟩ := ask_iff.1 hp
    exact .ask answer (ih answer h)

theorem bind_fault {p : Program α} {f : α → Program β} (hp : Runs p trace none) :
    Runs (p.bind f) trace none := by
  induction p generalizing trace with
  | done _ => exact absurd (done_iff.1 hp).2 (by simp)
  | fault => obtain ⟨rfl, _⟩ := fault_iff.1 hp; exact .fault
  | ask op next ih =>
    obtain ⟨answer, rest, rfl, h⟩ := ask_iff.1 hp
    exact .ask answer (ih answer h)

/-- A run of a composed program is a run of the first part that breaks off, or one that ends
with a value followed by a run of what comes next. -/
theorem bind_iff {p : Program α} {f : α → Program β} {result : Option β} :
    Runs (p.bind f) trace result ↔
      (∃ first second value, trace = first ++ second ∧ Runs p first (some value) ∧
        Runs (f value) second result) ∨ (result = none ∧ Runs p trace none) := by
  constructor
  · intro h
    induction p generalizing trace with
    | done value => exact .inl ⟨[], trace, value, rfl, .done value, h⟩
    | fault => exact .inr ⟨(fault_iff.1 h).2, (fault_iff.1 h).1 ▸ .fault⟩
    | ask op next ih =>
      obtain ⟨answer, rest, rfl, tail⟩ := ask_iff.1 h
      rcases ih answer tail with ⟨first, second, value, rfl, hp, hf⟩ | ⟨rfl, hp⟩
      · exact .inl ⟨_ :: first, second, value, rfl, .ask answer hp, hf⟩
      · exact .inr ⟨rfl, .ask answer hp⟩
  · intro h
    obtain ⟨first, second, value, rfl, hp, hf⟩ | ⟨rfl, hp⟩ := h
    · exact hp.bind hf
    · exact hp.bind_fault

/-- What a handler makes of a program is a run of it. -/
theorem of_run (handle : (op : Op) → σ → op.Answer × σ) (p : Program α) (state : σ) :
    Runs p (p.trace handle state) (p.run handle state).1 := by
  induction p generalizing state with
  | done value => exact .done value
  | fault => exact .fault
  | ask op next ih => exact .ask (handle op state).1 (ih _ _)

end Runs

namespace Trace

/-- The register writes of a trace. -/
def stores (trace : Trace) : List (Nat × Word) :=
  trace.filterMap fun
    | ⟨.store address value, _⟩ => some (address, value)
    | _ => none

/-- The commands of a trace with their mailboxes and results. -/
def requests (trace : Trace) :
    List (Nat × Iossm.Command × Except Iossm.MailboxError Iossm.Answer) :=
  trace.filterMap fun
    | ⟨.request mailbox command, answer⟩ => some (mailbox, command, answer)
    | _ => none

/-- The probed windows of a trace with their results. -/
def probes (trace : Trace) : List (Nat × Nat × Nat) :=
  trace.filterMap fun
    | ⟨.probe start size, answer⟩ => some (start, size, answer)
    | _ => none

/-- Number of polling intervals that pass in a trace. -/
def pauses (trace : Trace) : Nat :=
  trace.countP fun event => event.op == .pause

variable {first second : Trace}

@[simp] theorem stores_append : stores (first ++ second) = stores first ++ stores second :=
  List.filterMap_append

@[simp] theorem requests_append : requests (first ++ second) = requests first ++ requests second :=
  List.filterMap_append

@[simp] theorem probes_append : probes (first ++ second) = probes first ++ probes second :=
  List.filterMap_append

theorem mem_stores {trace : Trace} {address : Nat} {value : Word} :
    (address, value) ∈ trace.stores ↔ ⟨.store address value, ()⟩ ∈ trace := by
  simp only [stores, List.mem_filterMap]
  constructor
  · intro h
    obtain ⟨⟨op, answer⟩, h, found⟩ := h
    cases op with
    | store => cases found; exact h
    | _ => cases found
  · exact fun h => ⟨_, h, rfl⟩

theorem mem_requests {trace : Trace} {mailbox : Nat} {command : Iossm.Command}
    {answer : Except Iossm.MailboxError Iossm.Answer} :
    (mailbox, command, answer) ∈ trace.requests ↔ ⟨.request mailbox command, answer⟩ ∈ trace := by
  simp only [requests, List.mem_filterMap]
  constructor
  · intro h
    obtain ⟨⟨op, answer⟩, h, found⟩ := h
    cases op with
    | request => cases found; exact h
    | _ => cases found
  · exact fun h => ⟨_, h, rfl⟩

theorem mem_probes {trace : Trace} {start size found : Nat} :
    (start, size, found) ∈ trace.probes ↔ ⟨.probe start size, found⟩ ∈ trace := by
  simp only [probes, List.mem_filterMap]
  constructor
  · intro h
    obtain ⟨⟨op, answer⟩, h, found⟩ := h
    cases op with
    | probe => cases found; exact h
    | _ => cases found
  · exact fun h => ⟨_, h, rfl⟩

end Trace
end BringUp
