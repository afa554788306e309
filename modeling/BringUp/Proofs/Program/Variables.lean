import BringUp.Proofs.Program.Footprint
import BringUp.Proofs.Program.Runs
import Mathlib.Logic.Function.Basic

/-! Variables of an environment, which stores a value under its name or refuses it. Main statement:
at the end of a program the variables are what the accepted assignments have made of them. -/
namespace BringUp

/-- A name, and the value that it is to have. -/
abbrev Assignment := String × String

/-- The variables after assignments, the last of them at the end. -/
def assign (values : String → Option String) (assignments : List Assignment) :
    String → Option String :=
  assignments.foldl (fun earlier made => Function.update earlier made.1 (some made.2)) values

section Assign

variable {values : String → Option String} {assignments : List Assignment} {name : String}

@[simp] theorem assign_cons {made : Assignment} : assign values (made :: assignments) =
    assign (Function.update values made.1 (some made.2)) assignments := rfl

theorem assign_append {first second : List Assignment} :
    assign values (first ++ second) = assign (assign values first) second :=
  List.foldl_append

theorem assign_of_ne (other : ∀ made ∈ assignments, made.1 ≠ name) :
    assign values assignments name = values name := by
  induction assignments generalizing values with
  | nil => rfl
  | cons made rest ih =>
    rw [assign_cons, ih fun later member => other later (List.mem_cons_of_mem _ member),
      Function.update_of_ne (other made List.mem_cons_self).symm]

/-- Of assignments to different variables each one decides its variable. -/
theorem assign_of_mem {made : Assignment} (member : made ∈ assignments)
    (distinct : (assignments.map (·.1)).Nodup) :
    assign values assignments made.1 = some made.2 := by
  induction assignments generalizing values with
  | nil => exact absurd member List.not_mem_nil
  | cons first rest ih =>
    obtain ⟨single, others⟩ := List.nodup_cons.1 distinct
    rw [assign_cons]
    obtain rfl | later := List.mem_cons.1 member
    · have kept : ∀ other ∈ rest, other.1 ≠ made.1 := fun other known same =>
        single (List.mem_map.2 ⟨other, known, same⟩)
      rw [assign_of_ne kept, Function.update_self]
    · exact ih later others

theorem assign_eq_self (holds : ∀ made ∈ assignments, values made.1 = some made.2) :
    assign values assignments = values := by
  induction assignments with
  | nil => rfl
  | cons made rest ih =>
    rw [assign_cons, ← holds made List.mem_cons_self, Function.update_eq_self]
    exact ih fun later member => holds later (List.mem_cons_of_mem _ member)

end Assign

namespace Trace

/-- The assignments that a trace asks for, with their answers. -/
def assignments (trace : Trace) : List (Assignment × Except EnvironmentError Unit) :=
  trace.filterMap fun
    | ⟨.setVariable name value, answer⟩ => some ((name, value), answer)
    | _ => none

/-- The assignments that are accepted. -/
def accepted (trace : Trace) : List Assignment :=
  (trace.assignments.filter (·.2.isOk)).map (·.1)

variable {first second trace : Trace}

@[simp] theorem assignments_append :
    assignments (first ++ second) = assignments first ++ assignments second :=
  List.filterMap_append

@[simp] theorem accepted_append : accepted (first ++ second) = accepted first ++ accepted second := by
  simp [accepted]

/-- Assignments that are stored, before others that are not, are the accepted ones. -/
theorem accepted_of_append {stored : List Assignment}
    {others : List (Assignment × Except EnvironmentError Unit)}
    (attempts : trace.assignments = (stored.map fun made => (made, .ok ())) ++ others)
    (failed : ∀ attempt ∈ others, attempt.2.isOk = false) : trace.accepted = stored := by
  have none : others.filter (·.2.isOk) = [] :=
    List.filter_eq_nil_iff.2 fun attempt member => by simp [failed attempt member]
  have all : (stored.map fun made => (made, (.ok () : Except EnvironmentError Unit))).filter
      (·.2.isOk) = stored.map fun made => (made, .ok ()) :=
    List.filter_eq_self.2 fun attempt member => by
      obtain ⟨made, -, rfl⟩ := List.mem_map.1 member
      rfl
  rw [accepted, attempts, List.filter_append, none, all, List.append_nil, List.map_map]
  exact List.map_id stored

end Trace

/-- Questions to the environment. -/
def Consulting : Op → Prop
  | .getVariable _ => True
  | .setVariable _ _ => True
  | _ => False

section Environment

variable {α σ : Type} {handle : (op : Op) → σ → op.Answer × σ}
  {values : σ → String → Option String}

/-- The environment behind a handler. To ask for a variable changes none. To set one either fails
and changes none, or stores the value under exactly that name. -/
structure HoldsVariables (handle : (op : Op) → σ → op.Answer × σ)
    (values : σ → String → Option String) : Prop where
  told : ∀ name state, (handle (.getVariable name) state).1 = values state name
  asked : ∀ name state, values (handle (.getVariable name) state).2 = values state
  stored : ∀ name value state, (handle (.setVariable name value) state).1 = .ok () →
    values (handle (.setVariable name value) state).2 =
      Function.update (values state) name (some value)
  refused : ∀ name value state cause, (handle (.setVariable name value) state).1 = .error cause →
    values (handle (.setVariable name value) state).2 = values state

theorem HoldsVariables.question (holds : HoldsVariables handle values) {op : Op}
    (consulting : Consulting op) (state : σ) : values (handle op state).2 =
      assign (values state) (Trace.accepted [⟨op, (handle op state).1⟩]) := by
  cases op with
  | getVariable name => exact holds.asked name state
  | setVariable name value =>
    cases answered : (handle (.setVariable name value) state).1 with
    | ok _ => exact holds.stored name value state answered
    | error cause => exact holds.refused name value state cause answered
  | _ => exact consulting.elim

theorem HoldsVariables.run (holds : HoldsVariables handle values) {p : Program α}
    (uses : p.Uses Consulting) (state : σ) : values (p.run handle state).2 =
      assign (values state) (p.trace handle state).accepted := by
  induction p generalizing state with
  | done _ => rfl
  | fault => rfl
  | ask op next ih =>
    change values ((next (handle op state).1).run handle (handle op state).2).2 =
      assign (values state) (Trace.accepted ([⟨op, (handle op state).1⟩] ++ _))
    rw [ih _ (uses.2 _), holds.question uses.1, Trace.accepted_append, assign_append]

/-- A question for a variable is answered with what the accepted assignments before it make of it. -/
theorem HoldsVariables.told_run (holds : HoldsVariables handle values) {p : Program α}
    (uses : p.Uses Consulting) {state : σ} {first rest : Trace} {name : String}
    {answer : Option String}
    (split : p.trace handle state = first ++ ⟨.getVariable name, answer⟩ :: rest) :
    answer = assign (values state) first.accepted name := by
  induction p generalizing state first with
  | done _ => cases (List.append_eq_nil_iff.1 split.symm).2
  | fault => cases (List.append_eq_nil_iff.1 split.symm).2
  | ask op next ih =>
    cases first with
    | nil =>
      obtain ⟨same, -⟩ := List.cons.inj split
      cases same
      exact holds.told name state
    | cons event first =>
      obtain ⟨rfl, later⟩ := List.cons.inj split
      rw [ih _ (uses.2 _) later, holds.question uses.1, ← assign_append, ← Trace.accepted_append]
      rfl

end Environment

/-- How assignments go that are made one after the other, up to the first one that is refused. -/
inductive Attempted : List Assignment → Except EnvironmentError Unit →
    List (Assignment × Except EnvironmentError Unit) → Prop
  | none : Attempted [] (.ok ()) []
  | refused {made : Assignment} {others : List Assignment} {cause : EnvironmentError} :
      Attempted (made :: others) (.error cause) [(made, .error cause)]
  | stored {made : Assignment} {others : List Assignment} {result : Except EnvironmentError Unit}
      {attempts : List (Assignment × Except EnvironmentError Unit)}
      (later : Attempted others result attempts) :
      Attempted (made :: others) result ((made, .ok ()) :: attempts)

namespace Attempted

variable {assignments others : List Assignment} {cause : EnvironmentError} {trace : Trace}
  {result : Except EnvironmentError Unit}
  {attempts later : List (Assignment × Except EnvironmentError Unit)}

theorem attempts_eq (attempted : Attempted assignments result attempts) (ended : result = .ok ()) :
    attempts = assignments.map fun made => (made, .ok ()) := by
  induction attempted with
  | none => rfl
  | refused => cases ended
  | stored _ ih => rw [ih ended, List.map_cons]

theorem exists_refused (attempted : Attempted assignments result attempts)
    (failed : result = .error cause) : ∃ stored refused rest,
      assignments = stored ++ refused :: rest ∧
      attempts = (stored.map fun made => (made, .ok ())) ++ [(refused, .error cause)] := by
  induction attempted with
  | none => cases failed
  | @refused made others cause =>
    cases failed
    exact ⟨[], made, others, rfl, rfl⟩
  | @stored made _ _ _ _ ih =>
    obtain ⟨stored, refused, rest, rfl, rfl⟩ := ih failed
    exact ⟨made :: stored, refused, rest, rfl, rfl⟩

/-- Nothing else is attempted. -/
theorem mem (attempted : Attempted assignments result attempts) :
    ∀ attempt ∈ attempts, attempt.1 ∈ assignments := by
  induction attempted with
  | none => exact fun _ member => absurd member List.not_mem_nil
  | refused =>
    intro attempt member
    obtain rfl := List.mem_singleton.1 member
    exact List.mem_cons_self
  | stored _ ih =>
    intro attempt member
    obtain rfl | later := List.mem_cons.1 member
    · exact List.mem_cons_self
    · exact List.mem_cons_of_mem _ (ih attempt later)

theorem mem_accepted (attempted : Attempted assignments result trace.assignments)
    {made : Assignment} (member : made ∈ trace.accepted) : made ∈ assignments := by
  obtain ⟨attempt, kept, rfl⟩ := List.mem_map.1 member
  exact attempted.mem attempt (List.mem_filter.1 kept).1

theorem accepted_eq (attempted : Attempted assignments (.ok ()) trace.assignments) :
    trace.accepted = assignments := by
  refine Trace.accepted_of_append ?_ fun _ member => absurd member List.not_mem_nil
  rw [attempted.attempts_eq rfl, List.append_nil]

theorem append (first : Attempted assignments (.ok ()) attempts)
    (second : Attempted others result later) :
    Attempted (assignments ++ others) result (attempts ++ later) := by
  rw [first.attempts_eq rfl]
  clear first
  induction assignments with
  | nil => exact second
  | cons made rest ih => exact .stored ih

theorem append_refused (first : Attempted assignments (.error cause) attempts) :
    Attempted (assignments ++ others) (.error cause) attempts := by
  generalize failed : (Except.error cause : Except EnvironmentError Unit) = result at first
  induction first with
  | none => cases failed
  | refused => exact .refused
  | stored _ ih => exact .stored (ih failed)

end Attempted

/-- Makes assignments one after the other, up to the first one that is refused. -/
def Program.setAll (assignments : List Assignment) : ExceptT EnvironmentError Program Unit :=
  assignments.forM fun made => ExceptT.mk (Program.setVariable made.1 made.2)

theorem Program.setAll_nil : setAll [] = pure () := rfl

theorem Program.setAll_cons {made : Assignment} {rest : List Assignment} : setAll (made :: rest) =
    (do ExceptT.mk (setVariable made.1 made.2); setAll rest) := rfl

theorem Program.uses_setAll {assignments : List Assignment} :
    (setAll assignments).run.Uses Consulting := by
  induction assignments with
  | nil => trivial
  | cons made rest ih => exact uses_run_bind ⟨trivial, fun _ => trivial⟩ fun _ _ => ih

theorem runs_setAll {assignments : List Assignment} {trace : Trace}
    {outcome : Option (Except EnvironmentError Unit)}
    (run : Runs (Program.setAll assignments).run trace outcome) :
    ∃ result, outcome = some result ∧ Attempted assignments result trace.assignments := by
  induction assignments generalizing trace with
  | nil =>
    obtain ⟨rfl, rfl⟩ := Runs.done_iff.1 run
    exact ⟨_, rfl, .none⟩
  | cons made rest ih =>
    obtain ⟨first, second, _, rfl, set, further⟩ | ⟨cause, rfl, set⟩ | ⟨rfl, set⟩ :=
      Runs.run_bind_iff.1 run
    · obtain ⟨_, rfl, same⟩ := Runs.question_iff.1 set
      obtain ⟨result, rfl, attempted⟩ := ih further
      cases same
      exact ⟨result, rfl, .stored attempted⟩
    · obtain ⟨_, rfl, same⟩ := Runs.question_iff.1 set
      cases same
      exact ⟨_, rfl, .refused⟩
    · obtain ⟨_, -, same⟩ := Runs.question_iff.1 set
      cases same

end BringUp
