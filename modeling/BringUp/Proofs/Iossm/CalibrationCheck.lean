import BringUp.Proofs.Iossm.Completion
import BringUp.Proofs.Program.Polling

/-! The check of the calibration. Main statement: a successful check waits for each instance and
then looks at its status, and records these results besides the marks that are there already. -/
namespace BringUp.Iossm

open Sequence
open SystemManager (clockStatus clockLocks)

variable {mailboxes unit : Nat} {timeouts : Timeouts} {awaitClock : Bool}
  {before after : Subsystem} {trace : Trace} {results : List Bool}

section Marks

variable {subsystem : Subsystem} {chosen others : Nat → Bool}

/-- What the bookkeeping says about the calibration of the instances. -/
def Subsystem.passed (subsystem : Subsystem) : List Bool :=
  subsystem.instances.map Instance.calibrated

theorem Subsystem.passed_invalidateCalibration (subsystem : Subsystem) :
    subsystem.invalidateCalibration.passed = List.replicate subsystem.instances.length false := by
  rw [List.eq_replicate_iff]
  simp [passed, invalidateCalibration]

/-- The bookkeeping with these instances recorded as calibrated, besides those that are already. -/
def Subsystem.markWhere (chosen : Nat → Bool) (subsystem : Subsystem) : Subsystem :=
  { subsystem with
    instances := subsystem.instances.mapIdx fun index record =>
      { record with calibrated := record.calibrated || chosen index } }

theorem Subsystem.markWhere_congr (same : ∀ index record, subsystem.instances[index]? = some record →
      (record.calibrated || chosen index) = (record.calibrated || others index)) :
    subsystem.markWhere chosen = subsystem.markWhere others := by
  have instances : (subsystem.markWhere chosen).instances =
      (subsystem.markWhere others).instances := by
    apply List.ext_getElem?
    intro index
    simp only [markWhere, List.getElem?_mapIdx]
    cases found : subsystem.instances[index]? with
    | none => rfl
    | some record => simp [same index record found]
  exact congrArg (fun instances => { subsystem with instances := instances }) instances

theorem Subsystem.markWhere_false : subsystem.markWhere (fun _ => false) = subsystem := by
  have instances : (subsystem.markWhere fun _ => false).instances = subsystem.instances := by
    apply List.ext_getElem?
    intro index
    simp [markWhere]
  exact congrArg (fun instances => { subsystem with instances := instances }) instances

theorem Subsystem.markWhere_modifyInstance :
    (subsystem.markWhere chosen).modifyInstance unit (fun record =>
        { record with calibrated := true }) =
      subsystem.markWhere fun index => chosen index || index == unit := by
  have instances : ((subsystem.markWhere chosen).modifyInstance unit fun record =>
        { record with calibrated := true }).instances =
      (subsystem.markWhere fun index => chosen index || index == unit).instances := by
    apply List.ext_getElem?
    intro index
    simp only [markWhere, modifyInstance, List.getElem?_mapIdx, List.getElem?_modify]
    by_cases same : unit = index
    · subst same
      simp [Function.comp_def]
    · have other : (index == unit) = false := beq_eq_false_iff_ne.2 (Ne.symm same)
      simp [same, other]
  exact congrArg (fun instances => { subsystem with instances := instances }) instances

theorem Subsystem.passed_markWhere :
    (subsystem.markWhere chosen).passed = subsystem.passed.mapIdx fun index passed =>
      passed || chosen index := by
  apply List.ext_getElem?
  intro index
  simp [passed, markWhere, Function.comp_def]

theorem Subsystem.calibrated_markWhere
    (all : ∀ index < subsystem.instances.length, chosen index = true) :
    ∀ record ∈ (subsystem.markWhere chosen).instances, record.calibrated = true := by
  intro record member
  obtain ⟨index, inside, rfl⟩ := List.mem_mapIdx.1 member
  simp [all index inside]

theorem Subsystem.targets_markWhere : (subsystem.markWhere chosen).targets = subsystem.targets := by
  apply List.ext_getElem?
  intro index
  simp [targets, markWhere, Function.comp_def]

/-- One more result is recorded by a mark for the next instance if that has passed. -/
theorem Subsystem.markWhere_append {seen : List Bool} {passed : Bool} :
    (subsystem.markWhere fun index => (seen ++ [passed]).getD index false) =
      if passed then
        (subsystem.markWhere fun index => seen.getD index false).modifyInstance seen.length
          fun record => { record with calibrated := true }
      else subsystem.markWhere fun index => seen.getD index false := by
  have further (index : Nat) : (seen ++ [passed]).getD index false =
      (seen.getD index false || (index == seen.length && passed)) := by
    obtain less | rfl | greater := Nat.lt_trichotomy index seen.length
    · have other : (index == seen.length) = false := beq_eq_false_iff_ne.2 (Nat.ne_of_lt less)
      rw [List.getD_eq_getElem?_getD, List.getElem?_append_left less, other, Bool.false_and,
        Bool.or_false, List.getD_eq_getElem?_getD]
    · simp
    · have outside : (seen ++ [passed]).length ≤ index := by
        rw [List.length_append, List.length_singleton]
        exact greater
      have other : (index == seen.length) = false := beq_eq_false_iff_ne.2 (Nat.ne_of_gt greater)
      rw [List.getD_eq_getElem?_getD, List.getElem?_eq_none outside, List.getD_eq_getElem?_getD,
        List.getElem?_eq_none (Nat.le_of_lt greater), other, Bool.false_and, Bool.or_false]
  simp only [further]
  cases passed with
  | false => simp
  | true => simp [markWhere_modifyInstance]

end Marks

section Waits

/-- A look at whether an IOSSM is idle. -/
def LooksIdle (unit : Nat) (free : Bool) (look : Trace) : Prop :=
  ∃ status, look = [⟨.status unit, status⟩] ∧ Io96b.SubsystemStatus.busy.read status = !free

/-- A look at whether the clock generator of an instance is locked. -/
def LooksLocked (unit : Nat) (locked : Bool) (look : Trace) : Prop :=
  ∃ clock, look = [⟨.load clockStatus, clock⟩] ∧ (clockLocks.read clock).getLsbD unit = locked

theorem runs_idle_iff {free : Bool} :
    Runs (idle unit) trace (some free) ↔ LooksIdle unit free trace := by
  constructor
  · intro run
    obtain ⟨status, _, split, ended⟩ := Runs.ask_iff.1 run
    obtain ⟨rfl, same⟩ := Runs.done_iff.1 ended
    refine ⟨status, split, ?_⟩
    rw [Option.some.inj same, Bool.not_not]
  · rintro ⟨status, rfl, busy⟩
    refine .ask status ?_
    change Runs (.done (!Io96b.SubsystemStatus.busy.read status)) [] _
    rw [busy, Bool.not_not]
    exact .done free

theorem runs_clockLocked_iff {locked : Bool} :
    Runs (clockLocked unit) trace (some locked) ↔ LooksLocked unit locked trace := by
  constructor
  · intro run
    obtain ⟨clock, _, split, ended⟩ := Runs.ask_iff.1 run
    obtain ⟨rfl, same⟩ := Runs.done_iff.1 ended
    exact ⟨clock, split, (Option.some.inj same).symm⟩
  · rintro ⟨clock, rfl, rfl⟩
    exact .ask clock (.done _)

/-- A wait for an IOSSM to become idle. -/
def Settling (timeouts : Timeouts) (unit : Nat) (free : Bool) (trace : Trace) : Prop :=
  Waited (LooksIdle unit) (intervals timeouts.calibration) free trace

/-- A wait for a clock generator to lock. -/
def Locking (timeouts : Timeouts) (unit : Nat) (locked : Bool) (trace : Trace) : Prop :=
  Waited (LooksLocked unit) (intervals timeouts.clock) locked trace

theorem runs_await_idle_iff {free : Bool} :
    Runs (Program.await (idle unit) timeouts.calibration) trace (some free) ↔
      Settling timeouts unit free trace := by
  rw [Runs.await_iff, Settling]
  simp only [runs_idle_iff]

theorem runs_await_clockLocked_iff {locked : Bool} :
    Runs (Program.await (clockLocked unit) timeouts.clock) trace (some locked) ↔
      Locking timeouts unit locked trace := by
  rw [Runs.await_iff, Locking]
  simp only [runs_clockLocked_iff]

theorem Settling.last_look {free : Bool} (settling : Settling timeouts unit free trace) :
    ∃ (waiting : Trace) (status : Word), trace = waiting ++ [⟨.status unit, status⟩] ∧
      Io96b.SubsystemStatus.busy.read status = !free ∧
      waiting.pauses ≤ intervals timeouts.calibration := by
  have still (held : Bool) (look : Trace) (looked : LooksIdle unit held look) :
      look.pauses = 0 := by
    obtain ⟨status, rfl, -⟩ := looked
    rfl
  obtain ⟨waiting, _, rfl, ⟨status, rfl, shown⟩, within, -⟩ := Waited.last_look still settling
  exact ⟨waiting, status, rfl, shown, within⟩

theorem Settling.pauses_le {free : Bool} (settling : Settling timeouts unit free trace) :
    trace.pauses ≤ intervals timeouts.calibration := by
  obtain ⟨waiting, status, rfl, -, within⟩ := settling.last_look
  rw [Trace.pauses_append]
  exact within

theorem Locking.last_look {locked : Bool} (locking : Locking timeouts unit locked trace) :
    ∃ (waiting : Trace) (clock : Word), trace = waiting ++ [⟨.load clockStatus, clock⟩] ∧
      (clockLocks.read clock).getLsbD unit = locked ∧
      waiting.pauses ≤ intervals timeouts.clock := by
  have still (held : Bool) (look : Trace) (looked : LooksLocked unit held look) :
      look.pauses = 0 := by
    obtain ⟨clock, rfl, -⟩ := looked
    rfl
  obtain ⟨waiting, _, rfl, ⟨clock, rfl, shown⟩, within, -⟩ := Waited.last_look still locking
  exact ⟨waiting, clock, rfl, shown, within⟩

end Waits

section Check

variable {passed : Bool}

/-- What is told about an instance that has failed the check. -/
def failedNote (unit : Nat) (status : Word) : Event :=
  ⟨.log .debug ("IOSSM: initial DDR calibration " ++ unitName unit ++ " failed, status "
    ++ Text.hex status.toNat), ()⟩

/-- The instance has become idle, and its status after that reports success and no failure. -/
def passes (free : Bool) (status : Word) : Bool :=
  free && Io96b.SubsystemStatus.succeeded.read status && !Io96b.SubsystemStatus.failed.read status

/-- The check of an instance with its result: a wait for the clock generator if there is to be one,
a wait for the IOSSM and one more look at its status. -/
inductive Inspected (awaitClock : Bool) (timeouts : Timeouts) (unit : Nat) : Bool → Trace → Prop
  | mk {locking settling : Trace} {free : Bool} {status : Word}
      (locked : if awaitClock then Locking timeouts unit true locking else locking = [])
      (settled : Settling timeouts unit free settling) :
      Inspected awaitClock timeouts unit (passes free status) (locking ++ (settling ++
        ⟨.status unit, status⟩ :: if passes free status then [] else [failedNote unit status]))

/-- The checks of the instances from the first one on, with their results. -/
inductive Inspections (awaitClock : Bool) (timeouts : Timeouts) : List Bool → Trace → Prop
  | none : Inspections awaitClock timeouts [] []
  | next {results : List Bool} {passed : Bool} {earlier trace : Trace}
      (before : Inspections awaitClock timeouts results earlier)
      (check : Inspected awaitClock timeouts results.length passed trace) :
      Inspections awaitClock timeouts (results ++ [passed]) (earlier ++ trace)

/-- The part of a check that waits for the clock generator. -/
def requireLock (timeouts : Timeouts) (unit : Nat) : Sequence Unit := do
  if !(← Program.await (clockLocked unit) timeouts.clock) then
    Program.log .error ("IOSSM: clock generator of " ++ unitName unit ++ " is not locked")
    throw (.clockNotLocked unit)

/-- The part of a check after that. -/
def inspectInstance (timeouts : Timeouts) (unit : Nat) : Sequence Bool := do
  let free ← Program.await (idle unit) timeouts.calibration
  let status ← Program.status unit
  if passes free status then
    Sequence.modifyInstance unit fun record => { record with calibrated := true }
    return true
  Program.log .debug ("IOSSM: initial DDR calibration " ++ unitName unit ++ " failed, status "
    ++ Text.hex status.toNat)
  return false

theorem checkInstance_eq : checkInstance awaitClock timeouts unit = (do
    if awaitClock then requireLock timeouts unit
    inspectInstance timeouts unit) := by
  cases awaitClock with
  | false => rfl
  | true =>
    rw [if_pos rfl, requireLock, bind_assoc]
    refine bind_congr (x := (liftM ((clockLocked unit).await timeouts.clock) : Sequence Bool))
      fun locked => ?_
    cases locked <;> rfl

theorem requireLock_ok
    (run : (requireLock timeouts unit).Performs before trace (.ok ()) after) :
    Locking timeouts unit true trace ∧ after = before := by
  obtain ⟨locking, rest, locked, rfl, waited, run₁⟩ := performs_program_bind.1 run
  split at run₁
  · obtain ⟨_, _, _, _, rfl, told, thrown⟩ := performs_bind_ok.1 run₁
    cases (performs_throw.1 thrown).2.1
  · next held =>
    obtain rfl : locked = true := by simpa using held
    obtain ⟨rfl, -, rfl⟩ := performs_pure.1 run₁
    rw [List.append_nil]
    exact ⟨runs_await_clockLocked_iff.1 waited, rfl⟩

theorem inspectInstance_ok
    (run : (inspectInstance timeouts unit).Performs before trace (.ok passed) after) :
    Inspected false timeouts unit passed trace ∧
      after = if passed then
          before.modifyInstance unit fun record => { record with calibrated := true }
        else before := by
  obtain ⟨settling, _, free, rfl, waited, run₁⟩ := performs_program_bind.1 run
  have settled : Settling timeouts unit free settling := runs_await_idle_iff.1 waited
  obtain ⟨_, _, status, rfl, asked, run₂⟩ := performs_program_bind.1 run₁
  obtain ⟨_, rfl, same⟩ := Runs.question_iff.1 asked
  cases same
  have inspected : Inspected false timeouts unit (passes free status) _ := .mk rfl settled
  split at run₂
  · next good =>
    obtain ⟨_, _, _, _, rfl, marked, ended⟩ := performs_bind_ok.1 run₂
    obtain ⟨rfl, -, recorded⟩ := performs_modify.1 marked
    obtain ⟨rfl, same, rfl⟩ := performs_pure.1 ended
    cases same
    rw [good] at inspected
    exact ⟨inspected, recorded⟩
  · next bad =>
    obtain ⟨_, rfl, ended⟩ := performs_log_bind.1 run₂
    obtain ⟨rfl, same, rfl⟩ := performs_pure.1 ended
    cases same
    rw [Bool.eq_false_iff.2 bad] at inspected
    exact ⟨inspected, rfl⟩

/-- A check that succeeds goes like this, and marks the instance exactly if it is passed. -/
theorem checkInstance_ok
    (run : (checkInstance awaitClock timeouts unit).Performs before trace (.ok passed) after) :
    Inspected awaitClock timeouts unit passed trace ∧
      after = if passed then
          before.modifyInstance unit fun record => { record with calibrated := true }
        else before := by
  rw [checkInstance_eq] at run
  cases awaitClock with
  | false => exact inspectInstance_ok run
  | true =>
    obtain ⟨locking, rest, _, _, rfl, locked, run₁⟩ := performs_bind_ok.1 run
    obtain ⟨held, rfl⟩ := requireLock_ok locked
    obtain ⟨⟨none, settled⟩, marks⟩ := inspectInstance_ok run₁
    obtain rfl := none
    exact ⟨.mk held settled, marks⟩

/-- A visit of all instances that succeeds records the results, one for each of them. -/
theorem checkInstances_ok
    (run : (forInstances fun unit _ => do
      requireMailbox mailboxes unit
      checkInstance awaitClock timeouts unit).Performs before trace (.ok results) after) :
    results.length = before.instances.length ∧ Inspections awaitClock timeouts results trace ∧
      after = before.markWhere fun index => results.getD index false :=
  performs_forInstances
    (fun seen middle first => Inspections awaitClock timeouts seen first ∧
      middle = before.markWhere fun index => seen.getD index false)
    ⟨.none, by simp [Subsystem.markWhere_false]⟩
    (fun {seen record value middle left first second} found earlier visit => by
      obtain ⟨inspections, rfl⟩ := earlier
      obtain ⟨_, _, _, _, rfl, present, checked⟩ := performs_bind_ok.1 visit
      obtain ⟨rfl, rfl, -⟩ := performs_requireMailbox.1 present
      obtain ⟨inspected, recorded⟩ := checkInstance_ok checked
      refine ⟨.next inspections inspected, ?_⟩
      rw [recorded, Subsystem.markWhere_append]) run

end Check

/-- The bookkeeping with these results of a check recorded. -/
def Subsystem.recordResults (results : List Bool) (subsystem : Subsystem) : Subsystem :=
  { subsystem.markWhere fun index => results.getD index false with calibrated := results.all id }

theorem Subsystem.passed_recordResults {subsystem : Subsystem}
    (count : results.length = subsystem.instances.length) :
    (subsystem.recordResults results).passed = List.zipWith or subsystem.passed results := by
  have marked : (subsystem.recordResults results).passed =
      (subsystem.markWhere fun index => results.getD index false).passed := rfl
  rw [marked, passed_markWhere]
  apply List.ext_getElem?
  intro index
  rw [List.getElem?_mapIdx, List.getElem?_zipWith]
  by_cases inside : index < subsystem.passed.length
  · have here : index < results.length := by simpa [count, passed] using inside
    simp [inside, here]
  · simp [inside]

/-- A successful check is a look at every instance, and records the results. -/
theorem checkCalibration_inspected
    (run : (checkCalibration mailboxes timeouts).Performs before trace (.ok ()) after) :
    ∃ results, results.length = before.instances.length ∧
      Inspections before.awaitClock timeouts results trace ∧
      after = before.recordResults results := by
  obtain ⟨_, _, results, middle, rfl, visited, closing⟩ | ⟨_, same, -⟩ :=
    performs_bind.1 (performs_get_bind.1 (performs_modify_bind.1 run))
  · obtain ⟨count, inspections, rfl⟩ := checkInstances_ok visited
    refine ⟨results, count, ?_⟩
    split at closing
    · next every =>
      obtain ⟨rfl, -, rfl⟩ := performs_modify.1 closing
      rw [List.append_nil, Subsystem.recordResults, every]
      exact ⟨inspections, rfl⟩
    · next some =>
      obtain ⟨rfl, -, rfl⟩ := performs_pure.1 closing
      rw [List.append_nil, Subsystem.recordResults, Bool.eq_false_iff.2 some]
      exact ⟨inspections, rfl⟩
  · cases same

theorem ends_requireLock : (requireLock timeouts unit).Ends := by
  have locks : (clockLocked unit).Returns := fun _ => trivial
  refine ends_bind (ends_program (Program.returns_await locks)) fun locked => ?_
  split
  · exact ends_bind ends_log fun _ => ends_throw
  · exact ends_pure

theorem ends_inspectInstance : (inspectInstance timeouts unit).Ends := by
  have looks : (idle unit).Returns := fun _ => trivial
  refine ends_bind (ends_program (Program.returns_await looks)) fun _ =>
    ends_bind (ends_program fun _ => trivial) fun _ => ?_
  split
  · exact ends_bind ends_modify fun _ => ends_pure
  · exact ends_bind ends_log fun _ => ends_pure

theorem ends_checkInstance : (checkInstance awaitClock timeouts unit).Ends := by
  rw [checkInstance_eq]
  cases awaitClock with
  | false => exact ends_inspectInstance
  | true => exact ends_bind ends_requireLock fun _ => ends_inspectInstance

theorem checkCalibration_ends : (checkCalibration mailboxes timeouts).Ends := by
  refine ends_bind ends_modify fun _ => ends_bind ends_get fun _ =>
    ends_bind (ends_forInstances fun _ _ => ends_bind ends_requireMailbox fun _ =>
      ends_checkInstance) fun _ => ?_
  split
  · exact ends_modify
  · exact ends_pure

end BringUp.Iossm
