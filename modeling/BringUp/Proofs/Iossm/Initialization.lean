import BringUp.Proofs.Iossm.Completion
import BringUp.Proofs.Iossm.MailboxFailure
import BringUp.Proofs.Iossm.Inventory
import BringUp.Proofs.Iossm.Responder
import BringUp.Proofs.Program.Polling

/-! How an initialization of memory goes. Main statement: the interfaces are initialized in order,
up to one that fails, and whatever goes that way is a run. -/
namespace BringUp.Iossm

open Sequence

variable {mailboxes unit pauses count index : Nat} {target : Target} {place : Nat × Target}
  {places : List (Nat × Target)} {timeouts : Timeouts} {before after : Subsystem} {trace : Trace}
  {result : Except Error Unit}

/-- Looks at an initialization that is not complete yet, with a pause after each. -/
inductive Unfinished (unit : Nat) (target : Target) : Nat → Trace → Prop
  | none : Unfinished unit target 0 []
  | more {count : Nat} {answer : Answer} {rest : Trace}
      (unfinished : answer.shortData.getLsbD 0 = false) (later : Unfinished unit target count rest) :
      Unfinished unit target (count + 1)
        (⟨.request unit (statusCommand target), .ok answer⟩ :: ⟨.pause, ()⟩ :: rest)

/-- How waiting for the initialization of an interface ends, after no more than this many pauses. -/
inductive Concludes (pauses unit : Nat) (target : Target) : Except Error Unit → Trace → Prop
  | completed {count : Nat} {last : Answer} {waiting : Trace}
      (unfinished : Unfinished unit target count waiting) (within : count ≤ pauses)
      (complete : last.shortData.getLsbD 0 = true) :
      Concludes pauses unit target (.ok ())
        (waiting ++ [⟨.request unit (statusCommand target), .ok last⟩,
          ⟨.log .debug ("IOSSM: memory initialized successfully on " ++ unitName unit), ()⟩])
  | unanswered {count : Nat} {waiting : Trace} {cause : MailboxError}
      (unfinished : Unfinished unit target count waiting) (within : count ≤ pauses) :
      Concludes pauses unit target (.error (.mailbox unit cause))
        (waiting ++ [⟨.request unit (statusCommand target), .error cause⟩])
  | expired {last : Answer} {waiting : Trace} (unfinished : Unfinished unit target pauses waiting)
      (incomplete : last.shortData.getLsbD 0 = false) :
      Concludes pauses unit target (.error (.memoryInitTimeout unit last.errorCode))
        (waiting ++ [⟨.request unit (statusCommand target), .ok last⟩,
          ⟨.log .error ("IOSSM: timeout initializing memory on " ++ unitName unit
            ++ ", error code " ++ Text.hex last.errorCode.toNat), ()⟩])

/-- How the initialization of an interface goes. It is waited for if its start is accepted. -/
inductive Initializes (pauses : Nat) : Nat × Target → Except Error Unit → Trace → Prop
  | unstarted {unit : Nat} {target : Target} {cause : MailboxError} :
      Initializes pauses (unit, target) (.error (.mailbox unit cause))
        [⟨.request unit (startCommand target), .error cause⟩]
  | refused {unit : Nat} {target : Target} {started : Answer}
      (declined : started.shortData.getLsbD 0 = false) :
      Initializes pauses (unit, target) (.error (.memoryInitRefused unit started.errorCode))
        [⟨.request unit (startCommand target), .ok started⟩,
          ⟨.log .error ("IOSSM: failed to initialize memory on " ++ unitName unit
            ++ ", error code " ++ Text.hex started.errorCode.toNat), ()⟩]
  | accepted {unit : Nat} {target : Target} {started : Answer} {result : Except Error Unit}
      {rest : Trace} (accepted : started.shortData.getLsbD 0 = true)
      (concludes : Concludes pauses unit target result rest) :
      Initializes pauses (unit, target) result
        (⟨.request unit (startCommand target), .ok started⟩ :: rest)

/-- The initialization of interfaces one after the other, up to one that fails. -/
inductive InitializesAll (pauses : Nat) : List (Nat × Target) → Except Error Unit → Trace → Prop
  | none : InitializesAll pauses [] (.ok ()) []
  | stops {place : Nat × Target} {others : List (Nat × Target)} {cause : Error} {trace : Trace}
      (fails : Initializes pauses place (.error cause) trace) :
      InitializesAll pauses (place :: others) (.error cause) trace
  | next {place : Nat × Target} {others : List (Nat × Target)} {result : Except Error Unit}
      {first second : Trace} (completed : Initializes pauses place (.ok ()) first)
      (rest : InitializesAll pauses others result second) :
      InitializesAll pauses (place :: others) result (first ++ second)

section Runs

/-- A look at an initialization is one command, whose answer decides. -/
theorem memoryInitComplete_iff {seen : Look (BitVec 4) (Except Error Unit)} :
    Runs (memoryInitComplete unit target) trace (some seen) ↔
      ∃ reply, trace = [⟨.request unit (statusCommand target), reply⟩] ∧
        seen = match reply with
          | .error cause => .settled (.error (.mailbox unit cause))
          | .ok answer =>
            if answer.shortData.getLsbD 0 then .settled (.ok ()) else .pending answer.errorCode := by
  constructor
  · intro run
    obtain ⟨reply, rest, rfl, shown⟩ := Runs.ask_iff.1 run
    refine ⟨reply, ?_⟩
    cases reply with
    | error cause =>
      obtain ⟨rfl, same⟩ := Runs.done_iff.1 shown
      exact ⟨rfl, Option.some.inj same⟩
    | ok answer =>
      change Runs (if _ then _ else _) _ _ at shown
      dsimp only
      split at shown
      · next complete =>
        obtain ⟨rfl, same⟩ := Runs.done_iff.1 shown
        exact ⟨rfl, (Option.some.inj same).trans (if_pos complete).symm⟩
      · next incomplete =>
        obtain ⟨rfl, same⟩ := Runs.done_iff.1 shown
        exact ⟨rfl, (Option.some.inj same).trans (if_neg incomplete).symm⟩
  · rintro ⟨reply, rfl, rfl⟩
    refine Runs.ask_iff.2 ⟨reply, [], rfl, ?_⟩
    cases reply with
    | error _ => exact .done _
    | ok answer =>
      change Runs (if _ then _ else _) _ _
      dsimp only
      split <;> exact .done _

theorem memoryInitComplete_pending_iff {code : BitVec 4} :
    Runs (memoryInitComplete unit target) trace (some (.pending code)) ↔
      ∃ answer : Answer, trace = [⟨.request unit (statusCommand target), .ok answer⟩] ∧
        answer.shortData.getLsbD 0 = false ∧ code = answer.errorCode := by
  rw [memoryInitComplete_iff]
  constructor
  · rintro ⟨cause | answer, rfl, seen⟩
    · cases seen
    · dsimp only at seen
      split at seen
      · cases seen
      · next incomplete =>
        cases seen
        exact ⟨answer, rfl, Bool.eq_false_iff.2 incomplete, rfl⟩
  · rintro ⟨answer, rfl, incomplete, rfl⟩
    exact ⟨.ok answer, rfl, (if_neg (Bool.eq_false_iff.1 incomplete)).symm⟩

theorem memoryInitComplete_settled_iff {verdict : Except Error Unit} :
    Runs (memoryInitComplete unit target) trace (some (.settled verdict)) ↔
      (∃ answer : Answer, trace = [⟨.request unit (statusCommand target), .ok answer⟩] ∧
        answer.shortData.getLsbD 0 = true ∧ verdict = .ok ()) ∨
      ∃ cause, trace = [⟨.request unit (statusCommand target), .error cause⟩] ∧
        verdict = .error (.mailbox unit cause) := by
  rw [memoryInitComplete_iff]
  constructor
  · rintro ⟨cause | answer, rfl, seen⟩
    · cases seen
      exact .inr ⟨cause, rfl, rfl⟩
    · dsimp only at seen
      split at seen
      · next complete =>
        cases seen
        exact .inl ⟨answer, rfl, complete, rfl⟩
      · cases seen
  · rintro (⟨answer, rfl, complete, rfl⟩ | ⟨cause, rfl, rfl⟩)
    · exact ⟨.ok answer, rfl, (if_pos complete).symm⟩
    · exact ⟨.error cause, rfl, rfl⟩

theorem pended_iff : Pended (fun _ => memoryInitComplete unit target) index count trace ↔
    Unfinished unit target count trace := by
  constructor
  · intro pended
    induction pended with
    | none => exact .none
    | more pending _ ih =>
      obtain ⟨answer, rfl, incomplete, -⟩ := memoryInitComplete_pending_iff.1 pending
      exact .more incomplete ih
  · intro unfinished
    induction unfinished generalizing index with
    | none => exact .none
    | @more count answer rest incomplete _ ih =>
      exact .more (memoryInitComplete_pending_iff.2 ⟨answer, rfl, incomplete, rfl⟩) ih

/-- What is seen at last when an initialization is waited for. -/
theorem poll_memoryInitComplete_iff {last : Look (BitVec 4) (Except Error Unit)} :
    (∃ looks, Runs (Program.poll (fun _ => memoryInitComplete unit target) pauses) trace
        (some ⟨last, looks⟩)) ↔
      ∃ count waiting final, trace = waiting ++ final ∧ count ≤ pauses ∧
        Unfinished unit target count waiting ∧
        Runs (memoryInitComplete unit target) final (some last) ∧
        ∀ code, last = .pending code → count = pauses := by
  simp only [Runs.poll_iff, pended_iff]
  constructor
  · rintro ⟨looks, count, waiting, final, rfl, -, within, unfinished, shown, expired⟩
    exact ⟨count, waiting, final, rfl, within, unfinished, shown, expired⟩
  · rintro ⟨count, waiting, final, rfl, within, unfinished, shown, expired⟩
    exact ⟨count + 1, count, waiting, final, rfl, rfl, within, unfinished, shown, expired⟩

theorem Initializes.of_performs
    (run : (initializeInterface timeouts unit target).Performs before trace result after) :
    Initializes (intervals timeouts.memoryInit) (unit, target) result trace ∧ after = before := by
  obtain ⟨started, rest, rfl, run₁⟩ | ⟨cause, rfl, rfl, rfl⟩ := performs_send_bind.1 run
  · dsimp only at run₁
    split at run₁
    · next declined =>
      obtain ⟨rest, rfl, run₂⟩ := performs_log_bind.1 run₁
      obtain ⟨_, _, _, _, -, thrown, -⟩ | ⟨_, rfl, thrown⟩ := performs_bind.1 run₂
      · cases (performs_throw.1 thrown).2.1
      · obtain ⟨rfl, same, rfl⟩ := performs_throw.1 thrown
        cases same
        exact ⟨.refused (by simpa using declined), rfl⟩
    · next accepted =>
      obtain ⟨_, later, ⟨last, looks⟩, rfl, polled, run₂⟩ := performs_program_bind.1 run₁
      obtain ⟨count, waiting, final, rfl, within, unfinished, shown, expired⟩ :=
        poll_memoryInitComplete_iff.1 ⟨looks, polled⟩
      suffices Concludes (intervals timeouts.memoryInit) unit target result
          (waiting ++ (final ++ later)) ∧ after = before by
        rw [List.append_assoc]
        exact ⟨.accepted (by simpa using accepted) this.1, this.2⟩
      cases last with
      | settled verdict =>
        obtain ⟨answer, rfl, complete, rfl⟩ | ⟨cause, rfl, rfl⟩ :=
          memoryInitComplete_settled_iff.1 shown
        · obtain ⟨rfl, rfl, rfl⟩ := performs_log.1 run₂
          exact ⟨.completed unfinished within complete, rfl⟩
        · obtain ⟨rfl, rfl, rfl⟩ := performs_throw.1 run₂
          exact ⟨.unanswered unfinished within, rfl⟩
      | pending code =>
        obtain ⟨answer, rfl, incomplete, rfl⟩ := memoryInitComplete_pending_iff.1 shown
        obtain ⟨_, rfl, run₃⟩ := performs_log_bind.1 run₂
        obtain ⟨rfl, rfl, rfl⟩ := performs_throw.1 run₃
        obtain rfl := expired _ rfl
        exact ⟨.expired unfinished incomplete, rfl⟩
  · exact ⟨.unstarted, rfl⟩

theorem Initializes.performs
    (initializes : Initializes (intervals timeouts.memoryInit) (unit, target) result trace) :
    (initializeInterface timeouts unit target).Performs before trace result before := by
  cases initializes with
  | unstarted => exact performs_send_bind.2 (.inr ⟨_, rfl, rfl, rfl⟩)
  | refused declined =>
    refine performs_send_bind.2 (.inl ⟨_, _, rfl, ?_⟩)
    dsimp only
    rw [if_pos (by rw [declined]; rfl)]
    refine performs_log_bind.2 ⟨[], rfl, ?_⟩
    exact performs_bind.2 (.inr ⟨_, rfl, performs_throw.2 ⟨rfl, rfl, rfl⟩⟩)
  | accepted accepted concludes =>
    refine performs_send_bind.2 (.inl ⟨_, _, rfl, ?_⟩)
    dsimp only
    rw [if_neg (by simp [accepted])]
    cases concludes with
    | @completed count last waiting unfinished within complete =>
      obtain ⟨looks, polled⟩ := poll_memoryInitComplete_iff.2 ⟨count, waiting, _, rfl, within,
        unfinished, memoryInitComplete_settled_iff.2 (.inl ⟨last, rfl, complete, rfl⟩), nofun⟩
      exact performs_program_bind.2 ⟨_, _, _, List.append_cons _ _ _, polled,
        performs_log.2 ⟨rfl, rfl, rfl⟩⟩
    | @unanswered count waiting cause unfinished within =>
      obtain ⟨looks, polled⟩ := poll_memoryInitComplete_iff.2 ⟨count, waiting, _, rfl, within,
        unfinished, memoryInitComplete_settled_iff.2 (.inr ⟨cause, rfl, rfl⟩), nofun⟩
      exact performs_program_bind.2 ⟨_, [], _, (List.append_nil _).symm, polled,
        performs_throw.2 ⟨rfl, rfl, rfl⟩⟩
    | @expired last waiting unfinished incomplete =>
      obtain ⟨looks, polled⟩ := poll_memoryInitComplete_iff.2 ⟨_, waiting, _, rfl, Nat.le_refl _,
        unfinished, memoryInitComplete_pending_iff.2 ⟨last, rfl, incomplete, rfl⟩, fun _ _ => rfl⟩
      exact performs_program_bind.2 ⟨_, _, _, List.append_cons _ _ _, polled,
        performs_log_bind.2 ⟨[], rfl, performs_throw.2 ⟨rfl, rfl, rfl⟩⟩⟩

theorem initializeInterface_iff :
    (initializeInterface timeouts unit target).Performs before trace result after ↔
      Initializes (intervals timeouts.memoryInit) (unit, target) result trace ∧ after = before := by
  refine ⟨Initializes.of_performs, ?_⟩
  rintro ⟨initializes, rfl⟩
  exact initializes.performs

/-- The runs of the initialization of interfaces are these. -/
theorem initializeInterfaces_iff :
    (places.forM fun place => initializeInterface timeouts place.1 place.2).Performs before trace
        result after ↔
      InitializesAll (intervals timeouts.memoryInit) places result trace ∧ after = before := by
  induction places generalizing trace with
  | nil =>
    refine performs_pure.trans ⟨?_, ?_⟩
    · rintro ⟨rfl, rfl, rfl⟩
      exact ⟨.none, rfl⟩
    · rintro ⟨initializes, rfl⟩
      cases initializes
      exact ⟨rfl, rfl, rfl⟩
  | cons place others ih =>
    refine performs_bind.trans ⟨?_, ?_⟩
    · rintro (⟨first, second, _, middle, rfl, here, there⟩ | ⟨cause, rfl, failed⟩)
      · obtain ⟨completed, rfl⟩ := initializeInterface_iff.1 here
        obtain ⟨rest, rfl⟩ := ih.1 there
        exact ⟨.next completed rest, rfl⟩
      · obtain ⟨fails, rfl⟩ := initializeInterface_iff.1 failed
        exact ⟨.stops fails, rfl⟩
    · rintro ⟨initializes, rfl⟩
      cases initializes with
      | stops fails => exact .inr ⟨_, rfl, initializeInterface_iff.2 ⟨fails, rfl⟩⟩
      | next completed rest =>
        exact .inl ⟨_, _, (), _, rfl, initializeInterface_iff.2 ⟨completed, rfl⟩, ih.2 ⟨rest, rfl⟩⟩

/-- If all mailboxes are there, the instances only group the interfaces. -/
theorem initializeInstances_eq {items : List (Instance × Nat)}
    (enough : ∀ item ∈ items, item.2 < mailboxes) :
    (do
      let _ ← items.mapM fun item => do
        requireMailbox mailboxes item.2
        item.1.interfaces.forM (initializeInterface timeouts item.2)
      return () : Sequence Unit) =
    (items.flatMap fun item => item.1.interfaces.map (item.2, ·)).forM fun place =>
      initializeInterface timeouts place.1 place.2 := by
  induction items with
  | nil => rfl
  | cons item rest ih =>
    have present : requireMailbox mailboxes item.2 = pure () := if_pos (enough _ List.mem_cons_self)
    have others := ih fun item member => enough item (List.mem_cons_of_mem _ member)
    simp only [List.forM_eq_forM] at others
    simp only [List.mapM_cons, List.flatMap_cons, List.forM_eq_forM, List.forM_append, List.forM_map,
      present, pure_bind, bind_assoc, others]

theorem initializeMemory_iff (enough : before.instances.length ≤ mailboxes) :
    (initializeMemory mailboxes timeouts).Performs before trace result after ↔
      InitializesAll (intervals timeouts.memoryInit) (interfacesOf before.targets) result trace ∧
        after = before := by
  rw [← initializeInterfaces_iff, ← flatMap_interfaces,
    ← initializeInstances_eq (unit_lt_of_mem_visits enough)]
  unfold initializeMemory forInstances
  rw [bind_assoc, performs_get_bind]

end Runs

section Order

variable {others : List (Nat × Target)} {first second early late : Trace} {cause : Error}

theorem startCommand_ne_statusCommand (first second : Target) :
    startCommand first ≠ statusCommand second :=
  fun same => nomatch congrArg Command.opcode same

theorem Unfinished.silent {waiting : Trace} (unfinished : Unfinished unit target count waiting)
    (unit' : Nat) (target' : Target) (reply) :
    (⟨.request unit' (startCommand target'), reply⟩ : Event) ∉ waiting := by
  induction unfinished with
  | none => exact List.not_mem_nil
  | more _ _ ih => simp [startCommand_ne_statusCommand, ih]

theorem Initializes.starts (initializes : Initializes pauses place result trace) :
    ∃ reply rest, trace = ⟨.request place.1 (startCommand place.2), reply⟩ :: rest ∧
      ∀ unit target reply, (⟨.request unit (startCommand target), reply⟩ : Event) ∉ rest := by
  cases initializes with
  | unstarted => exact ⟨_, [], rfl, by simp⟩
  | refused _ => exact ⟨_, _, rfl, by simp⟩
  | accepted _ concludes =>
    refine ⟨_, _, rfl, fun unit target reply => ?_⟩
    cases concludes with
    | completed unfinished _ _ => simp [unfinished.silent, startCommand_ne_statusCommand]
    | unanswered unfinished _ => simp [unfinished.silent, startCommand_ne_statusCommand]
    | expired unfinished _ => simp [unfinished.silent, startCommand_ne_statusCommand]

theorem Initializes.split_start {reply} (initializes : Initializes pauses place result trace)
    (split : trace = early ++ ⟨.request unit (startCommand target), reply⟩ :: late) :
    place = (unit, target) ∧ early = [] ∧
      trace = ⟨.request unit (startCommand target), reply⟩ :: late := by
  obtain ⟨_, rest, rfl, silent⟩ := initializes.starts
  obtain ⟨rfl, same⟩ | ⟨_, rfl, same⟩ := List.cons_eq_append_iff.1 split
  · injection same with front behind
    cases front
    exact ⟨rfl, rfl, split⟩
  · exact absurd (same ▸ List.mem_append_right _ List.mem_cons_self) (silent _ _ _)

/-- An interface is started when all those before it are complete, and its initialization decides
whether the others follow. -/
theorem InitializesAll.start_at {reply} (course : InitializesAll pauses places result trace)
    (split : trace = early ++ ⟨.request unit (startCommand target), reply⟩ :: late) :
    ∃ done others here later, places = done ++ (unit, target) :: others ∧
      InitializesAll pauses done (.ok ()) early ∧
      ⟨.request unit (startCommand target), reply⟩ :: late = here ++ later ∧
      (Initializes pauses (unit, target) (.ok ()) here ∧
          InitializesAll pauses others result later ∨
        ∃ cause, result = .error cause ∧ later = [] ∧
          Initializes pauses (unit, target) (.error cause) here) := by
  induction course generalizing early with
  | none => simp at split
  | @stops place others cause trace fails =>
    obtain ⟨rfl, rfl, rfl⟩ := fails.split_start split
    exact ⟨[], others, _, [], rfl, .none, (List.append_nil _).symm, .inr ⟨cause, rfl, rfl, fails⟩⟩
  | @next place others result first second completed rest ih =>
    -- The start belongs to a later interface, or stands at the front of this one.
    obtain ⟨between, rfl, further⟩ | ⟨left, whole, further⟩ := List.append_eq_append_iff.1 split
    · obtain ⟨done, left, here, later, rfl, earlier, same, ends⟩ := ih further
      exact ⟨place :: done, left, here, later, rfl, .next completed earlier, same, ends⟩
    · cases left with
      | nil =>
        have further : second = [] ++ ⟨.request unit (startCommand target), reply⟩ :: late :=
          further.symm
        obtain ⟨done, left, here, later, rfl, earlier, same, ends⟩ := ih further
        rw [List.append_nil] at whole
        subst whole
        refine ⟨place :: done, left, here, later, rfl, ?_, same, ends⟩
        simpa using InitializesAll.next completed earlier
      | cons event left =>
        injection further with front behind
        subst front behind
        obtain ⟨rfl, rfl, rfl⟩ := completed.split_start whole
        exact ⟨[], others, _, second, rfl, .none, rfl, .inl ⟨completed, rest⟩⟩

/-- A failure is that of one interface, after those before it are complete. -/
theorem InitializesAll.stops_at (course : InitializesAll pauses places (.error cause) trace) :
    ∃ done place others first last, places = done ++ place :: others ∧ trace = first ++ last ∧
      InitializesAll pauses done (.ok ()) first ∧
      Initializes pauses place (.error cause) last := by
  generalize same : Except.error cause = verdict at course
  induction course with
  | none => cases same
  | @stops place others _ trace fails =>
    cases same
    exact ⟨[], place, others, [], trace, rfl, rfl, .none, fails⟩
  | @next place others _ first second completed _ ih =>
    obtain ⟨done, stopping, left, early, last, rfl, rfl, earlier, fails⟩ := ih same
    exact ⟨place :: done, stopping, left, first ++ early, last, rfl,
      (List.append_assoc _ _ _).symm, .next completed earlier, fails⟩

/-- Success is a completed initialization for each interface, in order. -/
theorem initializesAll_ok_iff : InitializesAll pauses places (.ok ()) trace ↔
    ∃ parts, List.Forall₂ (fun place part => Initializes pauses place (.ok ()) part) places parts ∧
      trace = parts.flatten := by
  constructor
  · intro course
    induction places generalizing trace with
    | nil =>
      cases course
      exact ⟨[], .nil, rfl⟩
    | cons place others ih =>
      cases course with
      | @next _ _ _ first _ completed rest =>
        obtain ⟨parts, each, rfl⟩ := ih rest
        exact ⟨first :: parts, .cons completed each, rfl⟩
  · rintro ⟨parts, each, rfl⟩
    induction each with
    | nil => exact .none
    | cons completed _ ih => exact .next completed ih

theorem Initializes.of_declined {started : Answer}
    (initializes : Initializes pauses (unit, target) result
      (⟨.request unit (startCommand target), .ok started⟩ :: late))
    (declined : started.shortData.getLsbD 0 = false) :
    result = .error (.memoryInitRefused unit started.errorCode) ∧
      ∃ text, late = [⟨.log .error text, ()⟩] := by
  cases initializes with
  | refused _ => exact ⟨rfl, _, rfl⟩
  | accepted accepted _ =>
    rw [declined] at accepted
    cases accepted

/-- Of two ways to read off looks from the same trace, the one with more looks sees that the last
look of the other is not complete. -/
theorem Unfinished.last_look {few many : Nat} {waiting waiting' later later' : Trace}
    {last : Answer} {reply : Except MailboxError Answer}
    (unfinished : Unfinished unit target few waiting)
    (further : Unfinished unit target many waiting') (fewer : few ≤ many)
    (incomplete : last.shortData.getLsbD 0 = false)
    (same : waiting ++ ⟨.request unit (statusCommand target), reply⟩ :: later =
      waiting' ++ ⟨.request unit (statusCommand target), .ok last⟩ :: later') :
    ∃ answer : Answer, reply = .ok answer ∧ answer.shortData.getLsbD 0 = false ∧
      (few = many → answer = last) := by
  induction unfinished generalizing many waiting' with
  | none =>
    cases further with
    | none =>
      injection same with front
      cases front
      exact ⟨last, rfl, incomplete, fun _ => rfl⟩
    | @more _ answer _ pending _ =>
      injection same with front
      cases front
      exact ⟨answer, rfl, pending, nofun⟩
  | more _ _ ih =>
    cases further with
    | none => cases fewer
    | more _ further =>
      injection same with _ behind
      injection behind with _ behind
      obtain ⟨answer, rfl, pending, equal⟩ := ih further (Nat.le_of_succ_le_succ fewer) behind
      exact ⟨answer, rfl, pending, fun count => equal (Nat.succ.inj count)⟩

/-- If all pauses are used up and the look after them does not show that the initialization is
complete, it has expired. -/
theorem Initializes.of_expired {started last : Answer} {here waiting later : Trace}
    (initializes : Initializes pauses (unit, target) result here)
    (unfinished : Unfinished unit target pauses waiting)
    (incomplete : last.shortData.getLsbD 0 = false)
    (split : here ++ later = ⟨.request unit (startCommand target), .ok started⟩ ::
      (waiting ++ ⟨.request unit (statusCommand target), .ok last⟩ :: late)) :
    result = .error (.memoryInitTimeout unit last.errorCode) := by
  cases initializes with
  | unstarted =>
    injection split with front
    cases front
  | refused _ =>
    injection split with _ behind
    cases unfinished <;> cases behind
  | accepted _ concludes =>
    rw [List.cons_append] at split
    obtain ⟨-, behind⟩ := List.cons.inj split
    cases concludes with
    | completed shorter within complete =>
      rw [List.append_assoc] at behind
      obtain ⟨_, same, pending, -⟩ := shorter.last_look unfinished within incomplete behind
      cases same
      rw [pending] at complete
      cases complete
    | unanswered shorter within =>
      rw [List.append_assoc] at behind
      obtain ⟨_, same, -⟩ := shorter.last_look unfinished within incomplete behind
      cases same
    | expired shorter _ =>
      rw [List.append_assoc] at behind
      obtain ⟨_, same, -, equal⟩ := shorter.last_look unfinished (Nat.le_refl _) incomplete behind
      cases same
      rw [equal rfl]

end Order

/-- What the initialization of these interfaces has done, and how its result follows from the
answers. -/
structure Initialization (milliseconds : Nat) (places : List (Nat × Target)) (trace : Trace)
    (result : Except Error Unit) : Prop where
  course : InitializesAll (intervals milliseconds) places result trace
  /-- An interface is started when all those before it are complete. -/
  ordered : ∀ (early : Trace) unit target reply late,
    trace = early ++ ⟨.request unit (startCommand target), reply⟩ :: late →
      ∃ done others, places = done ++ (unit, target) :: others ∧
        InitializesAll (intervals milliseconds) done (.ok ()) early
  completed_iff : result = .ok () ↔
    ∃ parts, List.Forall₂ (fun place part => Initializes (intervals milliseconds) place (.ok ()) part)
      places parts ∧ trace = parts.flatten
  refused_iff : ∀ unit code, result = .error (.memoryInitRefused unit code) ↔
    ∃ target started, ⟨.request unit (startCommand target), .ok started⟩ ∈ trace ∧
      started.shortData.getLsbD 0 = false ∧ started.errorCode = code
  /-- If a start is declined, nothing is asked any more. -/
  declined : ∀ (early : Trace) unit target started late,
    trace = early ++ ⟨.request unit (startCommand target), .ok started⟩ :: late →
      started.shortData.getLsbD 0 = false → ∃ text, late = [⟨.log .error text, ()⟩]
  expired_iff : ∀ unit code, result = .error (.memoryInitTimeout unit code) ↔
    ∃ (early : Trace) (target : Target) (started last : Answer) (waiting late : Trace),
      trace = early ++ ⟨.request unit (startCommand target), .ok started⟩ ::
        (waiting ++ ⟨.request unit (statusCommand target), .ok last⟩ :: late) ∧
      Unfinished unit target (intervals milliseconds) waiting ∧
      last.shortData.getLsbD 0 = false ∧ last.errorCode = code
  unanswered_iff : ∀ unit cause, result = .error (.mailbox unit cause) ↔
    ∃ command, ⟨.request unit command, .error cause⟩ ∈ trace
  /-- A command without an answer is the last one. -/
  at_once : ∀ (early : Trace) unit command cause late,
    trace = early ++ ⟨.request unit command, .error cause⟩ :: late → late = []

section Result

/-- A start that is declined decides the result. -/
theorem InitializesAll.of_declined {started : Answer} {early late : Trace}
    (course : InitializesAll pauses places result trace)
    (split : trace = early ++ ⟨.request unit (startCommand target), .ok started⟩ :: late)
    (declined : started.shortData.getLsbD 0 = false) :
    result = .error (.memoryInitRefused unit started.errorCode) ∧
      ∃ text, late = [⟨.log .error text, ()⟩] := by
  obtain ⟨_, _, here, later, -, -, same, ⟨completed, -⟩ | ⟨cause, rfl, rfl, fails⟩⟩ :=
    course.start_at split
  · obtain ⟨_, rest, rfl, -⟩ := completed.starts
    obtain ⟨front, -⟩ := List.cons.inj same
    cases front
    cases (completed.of_declined declined).1
  · rw [List.append_nil] at same
    subst same
    exact fails.of_declined declined

theorem InitializesAll.refused_iff (course : InitializesAll pauses places result trace)
    (code : BitVec 4) : result = .error (.memoryInitRefused unit code) ↔
      ∃ target started, ⟨.request unit (startCommand target), .ok started⟩ ∈ trace ∧
        started.shortData.getLsbD 0 = false ∧ started.errorCode = code := by
  constructor
  · rintro rfl
    obtain ⟨done, _, others, first, last, rfl, rfl, -, fails⟩ := course.stops_at
    cases fails with
    | @refused _ target started declined =>
      exact ⟨target, started, List.mem_append_right _ List.mem_cons_self, declined, rfl⟩
    | accepted _ concludes => cases concludes
  · rintro ⟨target, started, member, declined, rfl⟩
    obtain ⟨early, late, split⟩ := List.append_of_mem member
    exact (course.of_declined split declined).1

theorem InitializesAll.expired_iff (course : InitializesAll pauses places result trace)
    (code : BitVec 4) : result = .error (.memoryInitTimeout unit code) ↔
      ∃ (early : Trace) (target : Target) (started last : Answer) (waiting late : Trace),
        trace = early ++ ⟨.request unit (startCommand target), .ok started⟩ ::
          (waiting ++ ⟨.request unit (statusCommand target), .ok last⟩ :: late) ∧
        Unfinished unit target pauses waiting ∧
        last.shortData.getLsbD 0 = false ∧ last.errorCode = code := by
  constructor
  · rintro rfl
    obtain ⟨done, _, others, first, last, rfl, rfl, -, fails⟩ := course.stops_at
    cases fails with
    | @accepted _ target started _ _ _ concludes =>
      cases concludes with
      | @expired last waiting unfinished incomplete =>
        exact ⟨first, target, started, last, waiting, _, rfl, unfinished, incomplete, rfl⟩
  · rintro ⟨early, target, started, last, waiting, late, split, unfinished, incomplete, rfl⟩
    obtain ⟨_, _, here, later, -, -, same, ⟨completed, -⟩ | ⟨cause, rfl, rfl, fails⟩⟩ :=
      course.start_at split
    · cases completed.of_expired unfinished incomplete same.symm
    · exact fails.of_expired unfinished incomplete same.symm

theorem InitializesAll.unanswered {cause : MailboxError}
    (course : InitializesAll pauses places (.error (.mailbox unit cause)) trace) :
    ∃ command, ⟨.request unit command, .error cause⟩ ∈ trace := by
  obtain ⟨done, _, others, first, last, rfl, rfl, -, fails⟩ := course.stops_at
  cases fails with
  | @unstarted _ target _ =>
    exact ⟨startCommand target, List.mem_append_right _ List.mem_cons_self⟩
  | @accepted _ target _ _ _ _ concludes =>
    cases concludes with
    | unanswered _ _ => exact ⟨statusCommand target, by simp⟩

end Result

theorem initializeInterface_ends : (initializeInterface timeouts unit target).Ends := by
  have looks : (memoryInitComplete unit target).Returns := by
    intro reply
    cases reply with
    | error _ => trivial
    | ok answer =>
      change Program.Returns (if _ then _ else _)
      split <;> trivial
  refine ends_bind ends_send fun started => ?_
  extract_lets wait
  have waits : ∀ r, (wait r).Ends := fun _ =>
    ends_bind (ends_program (Program.returns_poll fun _ => looks)) fun polled => by
      split
      · exact ends_log
      · exact ends_throw
      · exact ends_bind ends_log fun _ => ends_throw
  split
  · exact ends_bind ends_log fun _ => ends_bind ends_throw waits
  · exact waits ()

/-- If all mailboxes are there, an initialization of memory leaves the bookkeeping as it is, goes
through the interfaces in order, and its result is what the answers call for. -/
theorem memory_initialization {outcome : Option (Except Error Unit × Subsystem)}
    (enough : before.instances.length ≤ mailboxes)
    (run : Runs ((initializeMemory mailboxes timeouts).perform before) trace outcome) :
    ∃ result, outcome = some (result, before) ∧
      Initialization timeouts.memoryInit (interfacesOf before.targets) trace result := by
  have ends : (initializeMemory mailboxes timeouts).Ends :=
    ends_bind (ends_forInstances fun _ _ => ends_bind ends_requireMailbox fun _ =>
      ends_forM fun _ _ => initializeInterface_ends) fun _ => ends_pure
  obtain ⟨result, after, rfl, performed⟩ := performs_of_returns run (ends before)
  obtain ⟨course, rfl⟩ := (initializeMemory_iff enough).1 performed
  have failure {early late : Trace} {unit : Nat} {command : Command} {cause : MailboxError}
      (split : trace = early ++ ⟨.request unit command, .error cause⟩ :: late) :=
    run.ends_at_failure (initializeMemory_stops after) split
  refine ⟨result, rfl, ?_⟩
  constructor
  case course => exact course
  case ordered =>
    intro early unit target reply late split
    obtain ⟨done, others, -, -, same, earlier, -⟩ := course.start_at split
    exact ⟨done, others, same, earlier⟩
  case completed_iff =>
    refine ⟨fun same => initializesAll_ok_iff.1 (same ▸ course), fun each => ?_⟩
    -- The same trace is also a run that ends with success, and there is only one result.
    have success := (initializeMemory_iff enough).2 ⟨initializesAll_ok_iff.2 each, rfl⟩
    exact (performs_unique success performed).1
  case refused_iff => exact fun _ => course.refused_iff
  case declined => exact fun _ _ _ _ _ split declined => (course.of_declined split declined).2
  case expired_iff => exact fun _ => course.expired_iff
  case unanswered_iff =>
    refine fun unit cause => ⟨fun same => (same ▸ course).unanswered, ?_⟩
    rintro ⟨command, member⟩
    obtain ⟨early, late, split⟩ := List.append_of_mem member
    obtain ⟨-, _, same, named⟩ := failure split
    cases same
    exact named
  case at_once => exact fun _ _ _ _ _ split => (failure split).1

/-- IOSSMs that accept every start. The first one is done after two pauses, the others never are. -/
def answerSlowly : (op : Op) → Nat → op.Answer × Nat
  | .pause, past => ((), past + 1)
  | .request unit command, past =>
    let done := command.opcode = .startMemoryInit ∨ unit = 0 ∧ 2 ≤ past
    (.ok ⟨if done then 0x10000 else 0x6, .replicate 3 0⟩, past)
  | op, past => (Responder.blank op, past)

/-- The first interface is complete after three looks. The second one is looked at eleven times in one
millisecond, and its last error code is reported. -/
theorem memory_initialization_expired :
    let before : Subsystem :=
      { portCount := 2, plls := 0,
        instances := [{ interfaces := [⟨1, 0⟩] }, { interfaces := [⟨2, 0⟩] }] }
    let initialization := (initializeMemory 2 { memoryInit := 1 }).perform before
    let trace := initialization.trace answerSlowly 0
    before.instances.length ≤ 2 ∧
      Runs initialization trace (some (.error (.memoryInitTimeout 1 3), before)) ∧
      Initialization 1 [(0, ⟨1, 0⟩), (1, ⟨2, 0⟩)] trace (.error (.memoryInitTimeout 1 3)) ∧
      trace.pauses = 12 := by
  intro before initialization trace
  have enough : before.instances.length ≤ 2 := Nat.le_refl 2
  have ended : (initialization.run answerSlowly 0).1 =
      some (.error (.memoryInitTimeout 1 3), before) := by decide +kernel
  have run := Runs.of_run_eq answerSlowly 0 ended
  obtain ⟨_, same, initialized⟩ := memory_initialization enough run
  cases same
  exact ⟨enough, run, initialized, by decide +kernel⟩

end BringUp.Iossm
