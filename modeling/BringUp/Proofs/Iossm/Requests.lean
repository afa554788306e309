import Mathlib.Algebra.BigOperators.Group.List.Basic
import Mathlib.Algebra.Ring.Nat
import BringUp.Iossm.Inventory
import BringUp.Iossm.MemoryInit
import BringUp.Program.Trace

/-! What the commands of a trace were about: the interfaces that were described, the sizes that were
reported and the initialization of memory. -/
namespace BringUp

/-- A command to a mailbox with its result. -/
abbrev Request := Nat × Iossm.Command × Except Iossm.MailboxError Iossm.Answer

/-- The opcode of the command. -/
def Request.opcode (request : Request) : Iossm.Opcode := request.2.1.opcode

namespace Trace

/-- The requests with one of the opcodes. -/
def requestsOf (opcodes : List Iossm.Opcode) (trace : Trace) : List Request :=
  trace.requests.filter fun request => Request.opcode request ∈ opcodes

/-- The instances that were asked for their interfaces. -/
def listed (trace : Trace) : List Nat :=
  (trace.requestsOf [.listInterfaces]).map Prod.fst

/-- The interfaces that the instances described, each with its instance. -/
def interfaces (trace : Trace) : List (Nat × Iossm.Target) :=
  (trace.requestsOf [.listInterfaces]).flatMap fun
    | (unit, _, .ok answer) => answer.interfaces.map (unit, ·)
    | _ => []

/-- The interfaces that were asked for their size, each with its instance. -/
def measured (trace : Trace) : List (Nat × Iossm.Target) :=
  (trace.requestsOf [.width]).map fun request => (request.1, request.2.1.target)

/-- The targets of the commands with the opcode, each with its instance. -/
def asked (opcode : Iossm.Opcode) (trace : Trace) : List (Nat × Iossm.Target) :=
  (trace.requestsOf [opcode]).map fun request => (request.1, request.2.1.target)

/-- The sum of the sizes that the interfaces reported. -/
def gigabits (trace : Trace) : Nat :=
  ((trace.requestsOf [.width]).map fun
    | (_, _, .ok answer) => (answer.data.get 1 &&& 0xFF).toNat
    | _ => 0).sum

variable {trace first second : Trace} {opcodes : List Iossm.Opcode}

@[simp] theorem requestsOf_append :
    requestsOf opcodes (first ++ second) = requestsOf opcodes first ++ requestsOf opcodes second := by
  simp [requestsOf]

@[simp] theorem listed_append : listed (first ++ second) = listed first ++ listed second := by
  simp [listed]

@[simp] theorem interfaces_append :
    interfaces (first ++ second) = interfaces first ++ interfaces second := by
  simp [interfaces]

@[simp] theorem measured_append :
    measured (first ++ second) = measured first ++ measured second := by
  simp [measured]

@[simp] theorem asked_append {opcode : Iossm.Opcode} :
    asked opcode (first ++ second) = asked opcode first ++ asked opcode second := by
  simp [asked]

@[simp] theorem gigabits_append : gigabits (first ++ second) = gigabits first + gigabits second := by
  simp [gigabits]

theorem requestsOf_eq_nil (h : ∀ request ∈ trace.requests, Request.opcode request ∉ opcodes) :
    trace.requestsOf opcodes = [] := by
  simpa [requestsOf] using h

theorem requestsOf_eq_requests (h : ∀ request ∈ trace.requests, Request.opcode request ∈ opcodes) :
    trace.requestsOf opcodes = trace.requests := by
  simpa [requestsOf] using h

theorem requestsOf_of_allowed {allowed : Op → Prop} (h : ∀ event ∈ trace, allowed event.op)
    (other : ∀ unit command, allowed (.request unit command) → command.opcode ∉ opcodes) :
    trace.requestsOf opcodes = [] :=
  requestsOf_eq_nil fun (_, _, _) member => other _ _ (h _ (mem_requests.1 member))

theorem asked_of_allowed {allowed : Op → Prop} {opcode : Iossm.Opcode}
    (h : ∀ event ∈ trace, allowed event.op)
    (other : ∀ unit command, allowed (.request unit command) → command.opcode ≠ opcode) :
    trace.asked opcode = [] := by
  have none : trace.requestsOf [opcode] = [] :=
    requestsOf_of_allowed h fun unit command asked => by simpa using other unit command asked
  rw [asked, none, List.map_nil]

theorem mem_listed {unit : Nat} : unit ∈ trace.listed ↔
    ∃ command reply, (unit, command, reply) ∈ trace.requests ∧ command.opcode = .listInterfaces := by
  simp [listed, requestsOf, Request.opcode]

/-- An interface was described by the answer to the command that lists the interfaces. -/
theorem mem_interfaces {unit : Nat} {target : Iossm.Target} : (unit, target) ∈ trace.interfaces ↔
    ∃ command answer, (unit, command, .ok answer) ∈ trace.requests ∧
      command.opcode = .listInterfaces ∧ target ∈ answer.interfaces := by
  simp only [interfaces, requestsOf, List.mem_flatMap, List.mem_filter, decide_eq_true_eq,
    List.mem_singleton]
  constructor
  · intro described
    obtain ⟨⟨_, command, _ | answer⟩, ⟨member, opcode⟩, inside⟩ := described
    · cases inside
    · obtain ⟨_, inside, same⟩ := List.mem_map.1 inside
      cases same
      exact ⟨command, answer, member, opcode, inside⟩
  · intro described
    obtain ⟨command, answer, member, opcode, inside⟩ := described
    exact ⟨_, ⟨member, opcode⟩, List.mem_map_of_mem inside⟩

end Trace
end BringUp
