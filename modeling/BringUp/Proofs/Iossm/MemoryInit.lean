import BringUp.Proofs.Iossm.Initialization

/-! The initialization of memory, read off the commands. Main statement: a successful initialization
consists of one dialogue for each recorded interface, in order. -/
namespace BringUp.Iossm

open Sequence

/-- Questions for the state of an initialization, until an answer says that it is complete. -/
inductive Awaited (unit : Nat) (target : Target) : List Request → Prop
  | complete {answer : Answer} (h : answer.shortData.getLsbD 0 = true) :
      Awaited unit target [(unit,
        { target := target, kind := .controllerOperation, opcode := .memoryInitStatus },
        .ok answer)]
  | pending {answer : Answer} {later : List Request} (h : answer.shortData.getLsbD 0 = false)
      (awaited : Awaited unit target later) :
      Awaited unit target ((unit,
        { target := target, kind := .controllerOperation, opcode := .memoryInitStatus },
        .ok answer) :: later)

/-- The start of the full range, which is accepted, and the questions until it is complete. -/
inductive Initialized : Nat × Target → List Request → Prop
  | mk {unit : Nat} {target : Target} {answer : Answer} {later : List Request}
      (accepted : answer.shortData.getLsbD 0 = true) (awaited : Awaited unit target later) :
      Initialized (unit, target) ((unit,
        { target := target, kind := .controllerOperation, opcode := .startMemoryInit,
          parameters := #v[0x40, 0, 0, 0, 0, 0, 0] },
        .ok answer) :: later)

variable {mailboxes unit : Nat} {target : Target} {timeouts : Timeouts}
  {before after : Subsystem} {trace : Trace}

theorem Unfinished.awaited {count : Nat} {later : List Request}
    (unfinished : Unfinished unit target count trace) (awaited : Awaited unit target later) :
    Awaited unit target (trace.requests ++ later) := by
  induction unfinished with
  | none => exact awaited
  | more incomplete _ ih => exact .pending incomplete ih

theorem initializeInterface_ok
    (run : (initializeInterface timeouts unit target).Performs before trace (.ok ()) after) :
    Initialized (unit, target) trace.requests := by
  cases (initializeInterface_iff.1 run).1 with
  | accepted accepted concludes =>
    cases concludes with
    | @completed _ last waiting unfinished _ complete =>
      rw [← List.singleton_append, Trace.requests_append, Trace.requests_append]
      exact .mk accepted (unfinished.awaited (.complete complete))

theorem initializeInterfaces_ok {targets : List Target}
    (run : (targets.forM (initializeInterface timeouts unit)).Performs before trace (.ok ()) after) :
    ∃ dialogues, List.Forall₂ Initialized (targets.map (unit, ·)) dialogues ∧
      trace.requests = dialogues.flatten :=
  performs_forM (fun seen _ first => ∃ dialogues,
      List.Forall₂ Initialized (seen.map (unit, ·)) dialogues ∧ first.requests = dialogues.flatten)
    ⟨[], .nil, rfl⟩
    (fun {seen target middle left first second} _ ⟨dialogues, each, asked⟩ visit => by
      refine ⟨dialogues ++ [second.requests], ?_, by simp [asked]⟩
      rw [List.map_append]
      exact List.rel_append each (.cons (initializeInterface_ok visit) .nil)) run

/-- A successful initialization is one dialogue for each recorded interface. -/
theorem initializeMemory_ok
    (run : (initializeMemory mailboxes timeouts).Performs before trace (.ok ()) after) :
    ∃ dialogues, List.Forall₂ Initialized (interfacesOf before.targets) dialogues ∧
      trace.requests = dialogues.flatten := by
  obtain ⟨visits, _, _, results, rfl, visited, run₁⟩ := performs_bind_ok.1 run
  obtain ⟨rfl, -, rfl⟩ := performs_pure.1 run₁
  obtain ⟨count, dialogues, each, asked⟩ := performs_forInstances
    (fun seen _ first => ∃ dialogues,
      List.Forall₂ Initialized (interfacesOf (before.targets.take seen.length)) dialogues ∧
        first.requests = dialogues.flatten)
    ⟨[], .nil, rfl⟩
    (fun {seen record value middle left first second} found ⟨dialogues, each, asked⟩ visit => by
      obtain ⟨_, _, _, _, rfl, present, run₂⟩ := performs_bind_ok.1 visit
      obtain ⟨rfl, rfl, -⟩ := performs_requireMailbox.1 present
      obtain ⟨further, eachFurther, askedFurther⟩ := initializeInterfaces_ok run₂
      refine ⟨dialogues ++ further, ?_, by simp [asked, askedFurther]⟩
      have target : before.targets[seen.length]? = some record.interfaces := by
        simp [Subsystem.targets, found]
      rw [List.length_append, List.length_singleton, interfacesOf_take_succ target]
      exact List.rel_append each eachFurther) visited
  refine ⟨dialogues, ?_, by simpa using asked⟩
  rwa [List.take_of_length_le (by simp [Subsystem.targets, count])] at each

/-- The first interface that an initialization comes to is started. -/
theorem initializeInstances_asks {items : List (Instance × Nat)} {subsystem : Subsystem}
    (enough : ∀ item ∈ items, item.2 < mailboxes)
    (reason : ∃ item ∈ items, item.1.interfaces ≠ []) :
    ∃ unit target, ((items.mapM fun (item : Instance × Nat) => do
        requireMailbox mailboxes item.2
        item.1.interfaces.forM (initializeInterface timeouts item.2)).perform subsystem).Asks
      (.request unit (startCommand target)) := by
  induction items with
  | nil => simp at reason
  | cons item rest ih =>
    obtain ⟨record, unit⟩ := item
    have inside : unit < mailboxes := enough _ List.mem_cons_self
    rw [perform_mapM_cons, perform_bind, requireMailbox, if_pos inside, perform_pure,
      Program.done_bind]
    cases h : record.interfaces with
    | nil =>
      have further : ∃ item ∈ rest, item.1.interfaces ≠ [] := by simpa [h] using reason
      obtain ⟨unit, target, asks⟩ :=
        ih (fun item member => enough item (List.mem_cons_of_mem _ member)) further
      exact ⟨unit, target, asks.bind⟩
    | cons target others => exact ⟨unit, target, rfl⟩

/-- If all mailboxes are there and some interface is recorded, an initialization begins with the
start of an interface. -/
theorem initializeMemory_asks (timeouts : Timeouts) {subsystem : Subsystem}
    (enough : subsystem.instances.length ≤ mailboxes)
    (reason : ∃ interfaces ∈ subsystem.targets, interfaces ≠ []) :
    ∃ unit target, ((initializeMemory mailboxes timeouts).perform subsystem).Asks
      (.request unit (startCommand target)) := by
  have all : ∀ item ∈ subsystem.instances.zipIdx, item.2 < mailboxes := fun _ member =>
    Nat.lt_of_lt_of_le (List.snd_lt_of_mem_zipIdx member) (by simpa using enough)
  have some_item : ∃ item ∈ subsystem.instances.zipIdx, item.1.interfaces ≠ [] := by
    obtain ⟨_, member, h⟩ := reason
    obtain ⟨record, recorded, rfl⟩ := List.mem_map.1 member
    obtain ⟨unit, found⟩ := List.mem_iff_getElem?.1 recorded
    exact ⟨(record, unit), List.mk_mem_zipIdx_iff_getElem?.2 found, h⟩
  obtain ⟨unit, target, asks⟩ := initializeInstances_asks all some_item
  exact ⟨unit, target, asks.bind⟩

end BringUp.Iossm
