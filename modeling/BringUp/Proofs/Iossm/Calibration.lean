import BringUp.Proofs.Iossm.CalibrationCheck
import BringUp.Proofs.Iossm.Footprint
import BringUp.Proofs.Iossm.Inventory
import BringUp.Proofs.Program.Content

/-! The calibration, read off a run. Main statement: a successful recalibration consists of one
dialogue for each interface of the failing instances, whose last answer says that the interface is
calibrated. -/
namespace BringUp.Iossm

open Sequence
open SystemManager (clockStatus clockLocks)

/-- An interface, with its instance and its position among the interfaces there. -/
structure Place where
  unit : Nat
  position : Nat
  target : Target

/-- The answer says that the interface is calibrated. -/
def Place.Good (place : Place) (answer : Answer) : Prop :=
  answer.data[place.position]?.map (· &&& 0b111) = some calibratedStatus

/-- The question for the calibration status. -/
def calibrationStatusCommand : Command :=
  { target := .manager, kind := .calibrationOperation, opcode := .calibrationStatus }

/-- The command to calibrate an interface. -/
def calibrateCommand (target : Target) : Command :=
  { target := target, kind := .calibrationOperation, opcode := .calibrate }

/-- Questions for the calibration status of an interface until it is good, each but the last one
followed by a retry. -/
inductive Recalibrated (place : Place) : Nat → List Request → Prop
  | settled {left : Nat} {answer : Answer} (good : place.Good answer) :
      Recalibrated place left [(place.unit, calibrationStatusCommand, .ok answer)]
  | again {left : Nat} {answer reply : Answer} {later : List Request} (bad : ¬ place.Good answer)
      (rest : Recalibrated place left later) :
      Recalibrated place (left + 1) ((place.unit, calibrationStatusCommand, .ok answer) ::
        (place.unit, calibrateCommand place.target, .ok reply) :: later)

/-- A dialogue about an interface: questions for its calibration status, each answer that is not
good followed by a retry. The interface is accepted with the first good answer. Without one it is
given up when no retry is left or a command is not answered. -/
inductive Dialogue (place : Place) : Nat → Bool → List Request → Prop
  | accepted {left : Nat} {answer : Answer} (good : place.Good answer) :
      Dialogue place left true [(place.unit, calibrationStatusCommand, .ok answer)]
  | unanswered {left : Nat} {cause : MailboxError} :
      Dialogue place left false [(place.unit, calibrationStatusCommand, .error cause)]
  | exhausted {answer : Answer} (bad : ¬ place.Good answer) :
      Dialogue place 0 false [(place.unit, calibrationStatusCommand, .ok answer)]
  | refused {left : Nat} {answer : Answer} {cause : MailboxError} (bad : ¬ place.Good answer) :
      Dialogue place (left + 1) false [(place.unit, calibrationStatusCommand, .ok answer),
        (place.unit, calibrateCommand place.target, .error cause)]
  | again {left : Nat} {accepted : Bool} {answer reply : Answer} {later : List Request}
      (bad : ¬ place.Good answer) (rest : Dialogue place left accepted later) :
      Dialogue place (left + 1) accepted ((place.unit, calibrationStatusCommand, .ok answer) ::
        (place.unit, calibrateCommand place.target, .ok reply) :: later)

theorem Dialogue.recalibrated {place : Place} {left : Nat} {requests : List Request}
    (dialogue : Dialogue place left true requests) : Recalibrated place left requests := by
  generalize same : true = accepted at dialogue
  induction dialogue with
  | accepted good => exact .settled good
  | again bad _ ih => exact .again bad (ih same)
  | _ => cases same

/-- The check of an instance: its clock generator is seen locked within the timeout, and if the
check is passed, then the IOSSM is seen idle within the timeout, and its status after that is good. -/
inductive Checked (timeouts : Timeouts) (unit : Nat) : Bool → Trace → Prop
  | passed {locking waiting : Trace} {clock idle status : Word}
      (lockedInTime : locking.pauses ≤ intervals timeouts.clock)
      (locked : (clockLocks.read clock).getLsbD unit = true)
      (idleInTime : waiting.pauses ≤ intervals timeouts.calibration)
      (notBusy : Io96b.SubsystemStatus.busy.read idle = false)
      (succeeded : Io96b.SubsystemStatus.succeeded.read status = true)
      (notFailed : Io96b.SubsystemStatus.failed.read status = false) :
      Checked timeouts unit true (locking ++ ⟨.load clockStatus, clock⟩ ::
        (waiting ++ [⟨.status unit, idle⟩, ⟨.status unit, status⟩]))
  | rejected {locking rest : Trace} {clock : Word}
      (lockedInTime : locking.pauses ≤ intervals timeouts.clock)
      (locked : (clockLocks.read clock).getLsbD unit = true) :
      Checked timeouts unit false (locking ++ ⟨.load clockStatus, clock⟩ :: rest)

/-- The checks of the instances from the first one on, with their results. -/
inductive Checks (timeouts : Timeouts) : List Bool → Trace → Prop
  | none : Checks timeouts [] []
  | next {results : List Bool} {result : Bool} {earlier trace : Trace}
      (before : Checks timeouts results earlier)
      (check : Checked timeouts results.length result trace) :
      Checks timeouts (results ++ [result]) (earlier ++ trace)

/-- The interfaces of an instance with their positions. -/
def placesAt (unit : Nat) (interfaces : List Target) : List Place :=
  interfaces.zipIdx.map fun item => ⟨unit, item.2, item.1⟩

/-- The interfaces of the instances that are handled. -/
def placesOf (targets : List (List Target)) (handled : Nat → Bool) : List Place :=
  targets.zipIdx.flatMap fun item => if handled item.2 then placesAt item.2 item.1 else []

theorem placesOf_take_succ {targets : List (List Target)} {handled : Nat → Bool} {index : Nat}
    {interfaces : List Target} (h : targets[index]? = some interfaces) :
    placesOf (targets.take (index + 1)) handled = placesOf (targets.take index) handled ++
      if handled index then placesAt index interfaces else [] := by
  have width : (targets.take index).length = index :=
    List.length_take_of_le (Nat.le_of_lt (List.getElem?_eq_some_iff.1 h).1)
  rw [List.take_add_one, h, Option.toList_some]
  simp [placesOf, List.zipIdx_append, width]

variable {mailboxes unit position : Nat} {target : Target} {timeouts : Timeouts}
  {before after : Subsystem} {trace : Trace}

theorem requests_await_idle {milliseconds : Nat} {result : Option Bool}
    (run : Runs (Program.await (idle unit) milliseconds) trace result) : trace.requests = [] := by
  have uses : (Program.await (idle unit) milliseconds).Uses (Supervision []) :=
    Program.uses_await idle_uses trivial
  apply Trace.requests_eq_nil (run.uses uses)
  intro unit command sent
  simp [Supervision] at sent

/-- The check of an instance waits for its clock generator, then for its IOSSM. -/
theorem Inspected.checked {passed : Bool} (inspected : Inspected true timeouts unit passed trace) :
    Checked timeouts unit passed trace := by
  cases inspected with
  | @mk locking settling free status locked settled =>
    rw [if_pos rfl] at locked
    obtain ⟨waiting, clock, rfl, bit, inTime⟩ := locked.last_look
    cases result : passes free status with
    | true =>
      simp only [passes, Bool.and_eq_true, Bool.not_eq_true'] at result
      obtain ⟨⟨rfl, succeeded⟩, notFailed⟩ := result
      obtain ⟨polling, idle, rfl, notBusy, within⟩ := settled.last_look
      have checked := Checked.passed inTime bit within notBusy succeeded notFailed
      simpa using checked
    | false =>
      rw [List.append_assoc]
      exact .rejected inTime bit

theorem Inspections.checks {results : List Bool}
    (inspections : Inspections true timeouts results trace) : Checks timeouts results trace := by
  induction inspections with
  | none => exact .none
  | next _ inspected ih => exact .next ih inspected.checked

/-- The check looks at all instances, and the bookkeeping says which of them passed, and whether all
of them did. -/
theorem checkCalibration_ok (awaits : before.awaitClock = true)
    (fresh : before.passed = List.replicate before.instances.length false)
    (run : (checkCalibration mailboxes timeouts).Performs before trace (.ok ()) after) :
    ∃ results, results.length = before.instances.length ∧ Checks timeouts results trace ∧
      after.passed = results ∧ after.calibrated = results.all id := by
  obtain ⟨results, count, inspections, rfl⟩ := checkCalibration_inspected run
  rw [awaits] at inspections
  refine ⟨results, count, inspections.checks, ?_, rfl⟩
  rw [Subsystem.passed_recordResults count, fresh, ← count]
  apply List.ext_getElem?
  intro index
  by_cases inside : index < results.length <;> simp [inside]

theorem Place.not_good {place : Place} {answer : Answer} {status : Word}
    (seen : answer.data[place.position]?.map (· &&& 0b111) = some status)
    (bad : status ≠ calibratedStatus) : ¬ place.Good answer :=
  fun good => bad (Option.some.inj (seen.symm.trans good))

/-- The dialogues about these interfaces, one after the other, up to one whose interface is given
up. -/
inductive Dialogues : List Place → Bool → List Request → Prop
  | none : Dialogues [] true []
  | stops {place : Place} {others : List Place} {requests : List Request}
      (dialogue : Dialogue place maxRetries false requests) :
      Dialogues (place :: others) false requests
  | next {place : Place} {others : List Place} {accepted : Bool} {early later : List Request}
      (dialogue : Dialogue place maxRetries true early) (rest : Dialogues others accepted later) :
      Dialogues (place :: others) accepted (early ++ later)

/-- The dialogues with these interfaces, in order, are the requests. -/
def RecalibratedAll (places : List Place) (requests : List Request) : Prop :=
  ∃ dialogues, List.Forall₂ (fun place => Recalibrated place maxRetries) places dialogues ∧
    requests = dialogues.flatten

theorem RecalibratedAll.append {first second : List Place} {early later : List Request}
    (h : RecalibratedAll first early) (h' : RecalibratedAll second later) :
    RecalibratedAll (first ++ second) (early ++ later) := by
  have ⟨dialogues, each, same⟩ := h
  have ⟨further, eachFurther, sameFurther⟩ := h'
  refine ⟨dialogues ++ further, List.rel_append each eachFurther, ?_⟩
  rw [same, sameFurther, List.flatten_append]

theorem recalibratedAll_nil : RecalibratedAll [] [] := ⟨[], .nil, rfl⟩

theorem Dialogues.recalibrated {places : List Place} {requests : List Request}
    (dialogues : Dialogues places true requests) : RecalibratedAll places requests := by
  generalize same : true = all at dialogues
  induction dialogues with
  | none => exact recalibratedAll_nil
  | stops _ => cases same
  | @next place others _ early later dialogue _ ih =>
    subst same
    have first : RecalibratedAll [place] early :=
      ⟨[early], .cons dialogue.recalibrated .nil, by simp⟩
    exact first.append (ih rfl)

/-- The part of a recalibration that is about one instance. -/
def recalibrateInstance (mailboxes : Nat) (timeouts : Timeouts) (unit : Nat) (record : Instance) :
    Sequence Unit := do
  if !record.calibrated then
    requireMailbox mailboxes unit
    record.interfaces.zipIdx.forM fun (target, position) =>
      recalibrateInterface timeouts unit position target
    modifyInstance unit fun record => { record with calibrated := true }

theorem recalibrate_eq : recalibrate mailboxes timeouts = (do
    let _ ← forInstances (recalibrateInstance mailboxes timeouts)
    modify fun subsystem => { subsystem with calibrated := true }) := rfl

theorem recalibrateInstance_skips {record : Instance} {result : Except Error Unit}
    (done : record.calibrated = true)
    (run : (recalibrateInstance mailboxes timeouts unit record).Performs before trace result after) :
    trace = [] ∧ result = .ok () ∧ after = before := by
  unfold recalibrateInstance at run
  rw [done, if_neg (by simp)] at run
  exact performs_pure.1 run

theorem Subsystem.passed_modifyInstance {subsystem : Subsystem} {index : Nat}
    {change : Instance → Instance} (h : ∀ record, (change record).calibrated = record.calibrated) :
    (subsystem.modifyInstance index change).passed = subsystem.passed := by
  apply List.ext_getElem?
  intro i
  simp only [passed, modifyInstance, List.getElem?_map, List.getElem?_modify]
  cases subsystem.instances[i]? <;> simp [apply_ite, h]

/-- The discovery of the interfaces does not change what is known about the calibration. -/
theorem discoverInterfaces_keeps_passed : (discoverInterfaces mailboxes).Keeps
    fun subsystem => (subsystem.passed, subsystem.calibrated) := by
  refine keeps_bind (keeps_forInstances fun unit _ => ?_) fun _ => keeps_pure
  apply keeps_bind keeps_requireMailbox
  intro _
  apply keeps_bind keeps_send
  intro answer
  apply keeps_bind
  · apply keeps_modify
    intro subsystem
    have kept : (subsystem.modifyInstance unit fun record =>
        { record with interfaces := answer.interfaces }).passed = subsystem.passed :=
      Subsystem.passed_modifyInstance fun _ => rfl
    rw [kept]
    rfl
  · exact fun _ => keeps_program

end BringUp.Iossm
