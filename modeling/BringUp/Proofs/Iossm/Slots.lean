import BringUp.Proofs.Iossm.Recalibration

/-! Calibration statuses and descriptor slots. Main statement: the calibration judges each interface
by the status of its own slot exactly if no unused slot precedes a used one. -/
namespace BringUp.Iossm

open Sequence

variable {mailboxes unit : Nat} {timeouts : Timeouts} {before after : Subsystem}
  {trace first second : Trace} {result : Except Error Unit} {interfaces : List Target}
  {description : Answer} {place : Place} {places others : List Place} {accepted : Bool}
  {requests early later : List Request}

section Slots

/-- The interfaces that an instance describes, each with the slot of its descriptor. -/
def slotsAt (unit : Nat) (description : Answer) : List Place :=
  (description.data.toList.take maxInterfaces).zipIdx.filterMap fun item =>
    (Target.ofDescriptor? item.1).map fun target => ⟨unit, item.2, target⟩

/-- No unused slot precedes a used one. -/
def Packed (description : Answer) : Prop :=
  description.data[0]?.bind Target.ofDescriptor? = none →
    description.data[1]?.bind Target.ofDescriptor? = none

theorem packed_iff : Packed description ↔ (Target.ofDescriptor? (description.data.get 0) = none →
    Target.ofDescriptor? (description.data.get 1) = none) :=
  Iff.rfl

theorem slotsAt_eq_placesAt_iff :
    slotsAt unit description = placesAt unit description.interfaces ↔ Packed description := by
  rw [slotsAt, placesAt, Answer.interfaces, Answer.toList_data, packed_iff]
  cases low : Target.ofDescriptor? (description.data.get 0) <;>
    cases high : Target.ofDescriptor? (description.data.get 1) <;>
      simp [maxInterfaces, low, high]

/-- If the description is not packed, its only interface is described in the second slot. -/
theorem second_of_not_packed (unit : Nat) (unpacked : ¬ Packed description) :
    ∃ target, description.interfaces = [target] ∧ slotsAt unit description = [⟨unit, 1, target⟩] := by
  obtain ⟨low, used⟩ := Classical.not_imp.1 (mt packed_iff.2 unpacked)
  obtain ⟨target, high⟩ := Option.ne_none_iff_exists'.1 used
  refine ⟨target, ?_, ?_⟩
  · rw [Answer.interfaces, Answer.toList_data]
    simp [maxInterfaces, low, high]
  · rw [slotsAt, Answer.toList_data]
    simp [maxInterfaces, low, high]

end Slots

section Dialogues

theorem Dialogue.good {left : Nat} (dialogue : Dialogue place left true requests) :
    ∃ earlier answer, requests = earlier ++ [(place.unit, calibrationStatusCommand, .ok answer)] ∧
      place.Good answer := by
  generalize same : true = accepted at dialogue
  induction dialogue with
  | accepted good => exact ⟨[], _, rfl, good⟩
  | again _ _ ih =>
    obtain ⟨earlier, answer, rfl, good⟩ := ih same
    exact ⟨_ :: _ :: earlier, answer, rfl, good⟩
  | _ => cases same

theorem Dialogue.unit_eq {left : Nat} (dialogue : Dialogue place left accepted requests) :
    ∀ request ∈ requests, request.1 = place.unit := by
  induction dialogue with
  | again _ _ ih =>
    simpa only [List.forall_mem_cons, true_and] using ih
  | _ => simp

theorem Dialogues.unit_eq (dialogues : Dialogues places accepted requests)
    (here : ∀ place ∈ places, place.unit = unit) : ∀ request ∈ requests, request.1 = unit := by
  induction dialogues with
  | none => simp
  | stops dialogue =>
    intro request member
    exact (dialogue.unit_eq request member).trans (here _ List.mem_cons_self)
  | next dialogue _ ih =>
    intro request member
    obtain early | later := List.mem_append.1 member
    · exact (dialogue.unit_eq request early).trans (here _ List.mem_cons_self)
    · exact ih (fun place inside => here place (List.mem_cons_of_mem _ inside)) request later

end Dialogues

section Instances

/-- The requests to an instance. -/
def requestsTo (unit : Nat) (trace : Trace) : List Request :=
  trace.requests.filter fun request => request.1 == unit

@[simp] theorem requestsTo_append :
    requestsTo unit (first ++ second) = requestsTo unit first ++ requestsTo unit second := by
  simp [requestsTo]

theorem requestsTo_eq_requests (h : ∀ request ∈ trace.requests, request.1 = unit) :
    requestsTo unit trace = trace.requests := by
  simpa [requestsTo] using h

theorem requestsTo_eq_nil {other : Nat} (h : ∀ request ∈ trace.requests, request.1 = other)
    (ne : other ≠ unit) : requestsTo unit trace = [] := by
  rw [requestsTo, List.filter_eq_nil_iff]
  intro request member same
  exact ne ((h request member).symm.trans (by simpa using same))

theorem recalibrateInstance_unit {record : Instance}
    (run : (recalibrateInstance mailboxes timeouts unit record).Performs before trace result after) :
    ∀ request ∈ trace.requests, request.1 = unit := by
  cases state : record.calibrated with
  | true =>
    obtain ⟨rfl, -, -⟩ := recalibrateInstance_skips state run
    simp [Trace.requests]
  | false =>
    obtain ⟨none, -⟩ | dialogues := recalibrateInstance_dialogues state run
    · simp [none]
    · exact dialogues.unit_eq placesAt_unit

/-- A loop whose visits send commands to their own instance only sends an instance the commands of
one visit, or none if it fails earlier. -/
theorem requestsTo_forInstances {α : Type} {visit : Nat → Instance → Sequence α}
    {record : Instance} {outcome : Except Error (List α)}
    (own : ∀ {index record before trace result after},
      (visit index record).Performs before trace result after →
        ∀ request ∈ trace.requests, request.1 = index)
    (found : before.instances[unit]? = some record)
    (run : (forInstances visit).Performs before trace outcome after) :
    (requestsTo unit trace = [] ∧ outcome.isOk = false) ∨
      ∃ start visiting result left, (visit unit record).Performs start visiting result left ∧
        requestsTo unit trace = visiting.requests ∧ (outcome.isOk = true → result.isOk = true) := by
  -- Invariant: the commands so far are those of the visit once it has been made, else none.
  obtain ⟨results, rfl, count, all⟩ | ⟨cause, seen, other, middle, first, second, rfl, rfl, present,
      earlier, failed⟩ := performs_forInstances_cases
    (fun seen _ first => if unit < seen.length then
        ∃ start visiting value left, (visit unit record).Performs start visiting (.ok value) left ∧
          requestsTo unit first = visiting.requests
      else requestsTo unit first = [])
    (by simp [requestsTo, Trace.requests])
    (fun {seen other value middle left first second} present earlier visited => by
      rw [List.length_append, List.length_singleton, requestsTo_append]
      by_cases here : seen.length = unit
      · subst here
        cases present.symm.trans found
        rw [if_neg (by omega)] at earlier
        rw [if_pos (by omega), earlier, requestsTo_eq_requests (own visited)]
        exact ⟨_, _, _, _, visited, rfl⟩
      · have same : unit < seen.length + 1 ↔ unit < seen.length := by omega
        simp only [same, requestsTo_eq_nil (own visited) here, List.append_nil]
        exact earlier) run
  · rw [count, if_pos (List.getElem?_eq_some_iff.1 found).1] at all
    obtain ⟨start, visiting, value, left, visited, same⟩ := all
    exact .inr ⟨start, visiting, .ok value, left, visited, same, fun _ => rfl⟩
  · rw [requestsTo_append]
    by_cases here : seen.length = unit
    · subst here
      cases present.symm.trans found
      rw [if_neg (by omega)] at earlier
      rw [earlier, requestsTo_eq_requests (own failed)]
      exact .inr ⟨_, _, _, _, failed, rfl, id⟩
    · rw [requestsTo_eq_nil (own failed) here, List.append_nil]
      split at earlier
      · obtain ⟨start, visiting, value, left, visited, same⟩ := earlier
        exact .inr ⟨start, visiting, .ok value, left, visited, same, fun _ => rfl⟩
      · exact .inl ⟨earlier, rfl⟩

/-- These requests to an instance, sent by a recalibration that succeeds or not, are the dialogues
about these interfaces, all of which are accepted if it succeeds. If it fails before it comes to the
instance, there are no requests. -/
def Judged (places : List Place) (succeeded : Bool) (requests : List Request) : Prop :=
  (requests = [] ∧ succeeded = false) ∨
    ∃ accepted, Dialogues places accepted requests ∧ (succeeded = true → accepted = true)

theorem recalibrateInstances_judged {record : Instance} {outcome : Except Error (List Unit)}
    (found : before.instances[unit]? = some record) (failing : record.calibrated = false)
    (run : (forInstances (recalibrateInstance mailboxes timeouts)).Performs before trace outcome
      after) :
    Judged (placesAt unit record.interfaces) outcome.isOk (requestsTo unit trace) := by
  obtain unreached | ⟨start, visiting, result, left, visited, same, ended⟩ :=
    requestsTo_forInstances recalibrateInstance_unit found run
  · exact .inl unreached
  · rw [same]
    obtain ⟨none, broken⟩ | dialogues := recalibrateInstance_dialogues failing visited
    · refine .inl ⟨none, ?_⟩
      rw [← Bool.not_eq_true]
      intro ok
      rw [ended ok] at broken
      cases broken
    · exact .inr ⟨_, dialogues, ended⟩

/-- A recalibration judges the interfaces of a failing instance by their positions. -/
theorem recalibrate_judged {record : Instance} (found : before.instances[unit]? = some record)
    (failing : record.calibrated = false)
    (run : (recalibrate mailboxes timeouts).Performs before trace result after) :
    Judged (placesAt unit record.interfaces) result.isOk (requestsTo unit trace) := by
  rw [recalibrate_eq] at run
  obtain ⟨visits, _, results, _, rfl, visited, marked⟩ | ⟨cause, rfl, failed⟩ := performs_bind.1 run
  · obtain ⟨rfl, rfl, -⟩ := performs_modify.1 marked
    rw [List.append_nil]
    exact recalibrateInstances_judged found failing visited
  · exact recalibrateInstances_judged found failing failed

/-- An instance is recorded with the interfaces that it has described. -/
theorem discoverInterfaces_described {command : Command}
    (run : (discoverInterfaces mailboxes).Performs before trace (.ok ()) after)
    (described : (unit, command, .ok description) ∈ trace.requests) :
    after.targets[unit]? = some description.interfaces := by
  obtain ⟨visits, _, _, results, rfl, visited, run₁⟩ := performs_bind_ok.1 run
  obtain ⟨rfl, -, rfl⟩ := performs_pure.1 run₁
  rw [List.append_nil] at described
  obtain ⟨-, -, recorded⟩ := performs_forInstances
    (fun seen middle first => middle.instances.length = before.instances.length ∧
      ∀ unit command description, (unit, command, .ok description) ∈ first.requests →
        unit < seen.length ∧ middle.targets[unit]? = some description.interfaces)
    ⟨rfl, by simp [Trace.requests]⟩
    (fun {seen record value middle left first second} found ⟨size, recorded⟩ visit => by
      obtain ⟨answer, requests, rfl⟩ := discoverInstance_ok visit
      have inside : seen.length < middle.instances.length := by
        rw [size]
        exact (List.getElem?_eq_some_iff.1 found).1
      refine ⟨by simpa [Subsystem.modifyInstance] using size, fun unit command description member => ?_⟩
      rw [Trace.requests_append, requests, List.mem_append, List.mem_singleton] at member
      rw [List.length_append, List.length_singleton]
      obtain earlier | same := member
      · obtain ⟨past, known⟩ := recorded _ _ _ earlier
        have other : seen.length ≠ unit := by omega
        refine ⟨by omega, ?_⟩
        simpa [Subsystem.targets, Subsystem.modifyInstance, List.getElem?_modify, other] using known
      · cases same
        refine ⟨by omega, ?_⟩
        simp [Subsystem.targets, Subsystem.modifyInstance, inside]) visited
  exact (recorded _ _ _ described).2

end Instances

/-- An instance that has described its interfaces in this way, and is not recorded as calibrated
later, gets these requests from a recalibration that succeeds or not. -/
inductive CalibratedAgain (description : Answer) (unit : Nat) : Bool → List Request → Prop
  | mk {mailboxes : Nat} {timeouts : Timeouts} {command : Command}
      {before discovered failed after : Subsystem} {listing calibrating : Trace}
      {result : Except Error Unit}
      (discovery : (discoverInterfaces mailboxes).Performs before listing (.ok ()) discovered)
      (described : (unit, command, .ok description) ∈ listing.requests)
      (kept : failed.targets = discovered.targets) (failing : failed.passed[unit]? = some false)
      (again : (recalibrate mailboxes timeouts).Performs failed calibrating result after) :
      CalibratedAgain description unit result.isOk (requestsTo unit calibrating)

theorem CalibratedAgain.judged {succeeded : Bool}
    (again : CalibratedAgain description unit succeeded requests) :
    Judged (placesAt unit description.interfaces) succeeded requests := by
  obtain ⟨discovery, described, kept, failing, again⟩ := again
  have target := discoverInterfaces_described discovery described
  rw [← kept, Subsystem.targets, List.getElem?_map, Option.map_eq_some_iff] at target
  obtain ⟨record, found, same⟩ := target
  rw [Subsystem.passed, List.getElem?_map, found] at failing
  rw [← same]
  exact recalibrate_judged found (Option.some.inj failing) again

/-- The question for the calibration status, answered in this way. -/
def halfCalibratedRequests (unit : Nat) : List Request :=
  [(unit, calibrationStatusCommand, .ok halfCalibrated)]

/-- A lone interface is accepted at once, by the first word. -/
theorem halfCalibrated_accepted (target : Target) (lone : description.interfaces = [target]) :
    CalibratedAgain description 0 true (halfCalibratedRequests 0) := by
  have listing : Runs ((discoverInterfaces 1).perform (Subsystem.fresh 1 1 0)) _
      (some (.ok (), failing description.interfaces)) :=
    Runs.of_run_eq (answerHalfCalibrated description) () rfl
  have calibrating : Runs ((recalibrate 1 {}).perform (failing [target])) _
      (some (.ok (), { failing [target] with
        calibrated := true
        instances := [{ calibrated := true, interfaces := [target] }] })) :=
    Runs.of_run_eq (answerHalfCalibrated description) () (by with_unfolding_all rfl)
  have asked : requestsTo 0 (((recalibrate 1 {}).perform (failing [target])).trace
      (answerHalfCalibrated description) ()) = halfCalibratedRequests 0 := by
    with_unfolding_all rfl
  have kept : (failing [target]).targets = (failing description.interfaces).targets := by
    rw [lone]
  rw [← asked]
  exact .mk listing (List.mem_singleton (a := ((0, _, .ok description) : Request)) |>.2 rfl) kept
    rfl calibrating

/-- This does not calibrate an interface of the second slot. -/
theorem not_judged_second {target : Target} :
    ¬ Judged [⟨unit, 1, target⟩] true (halfCalibratedRequests unit) := by
  rintro (⟨none, -⟩ | ⟨accepted, dialogues, all⟩)
  · cases none
  · obtain rfl := all rfl
    generalize same : halfCalibratedRequests unit = requests at dialogues
    cases dialogues with
    | next dialogue rest =>
      cases rest
      obtain ⟨earlier, answer, rfl, good⟩ := dialogue.good
      rw [List.append_nil, halfCalibratedRequests, ← List.nil_append [_]] at same
      obtain ⟨-, last⟩ := List.append_inj' same rfl
      cases last
      have second : halfCalibrated.data[1]?.map (· &&& 0b111) = some calibratedStatus := good
      exact absurd second (by decide)

/-- Whatever an instance has described, a recalibration judges each of its interfaces by the word of
the interface's position in the list: it accepts an interface only with a good status in that word,
and requests a calibration of exactly the interfaces for which that word is not good. The word is
the one of the interface's own slot in all runs exactly if no unused slot precedes a used one. -/
theorem judged_by_slot_iff (description : Answer) :
    (∀ unit succeeded requests, CalibratedAgain description unit succeeded requests →
        Judged (placesAt unit description.interfaces) succeeded requests) ∧
      ((∀ unit succeeded requests, CalibratedAgain description unit succeeded requests →
        Judged (slotsAt unit description) succeeded requests) ↔ Packed description) := by
  refine ⟨fun _ _ _ again => again.judged, fun bySlot => ?_, fun packed unit _ _ again => ?_⟩
  · -- A lone interface in the second slot has position 0, where the word is good.
    by_contra unpacked
    obtain ⟨target, lone, second⟩ := second_of_not_packed 0 unpacked
    have judged := bySlot _ _ _ (halfCalibrated_accepted target lone)
    rw [second] at judged
    exact not_judged_second judged
  · rw [slotsAt_eq_placesAt_iff.2 packed]
    exact again.judged

/-- An instance describes its only interface in the second slot. The interface is accepted by the
good status of the first, unused slot, although its own slot says that its calibration has failed. -/
theorem accepted_by_other_slot :
    CalibratedAgain ⟨1, #v[0, 0x20000000, 0]⟩ 0 true (halfCalibratedRequests 0) ∧
      slotsAt 0 ⟨1, #v[0, 0x20000000, 0]⟩ = [⟨0, 1, ⟨1, 0⟩⟩] ∧
      ¬ Judged (slotsAt 0 ⟨1, #v[0, 0x20000000, 0]⟩) true (halfCalibratedRequests 0) :=
  ⟨halfCalibrated_accepted ⟨1, 0⟩ rfl, rfl, not_judged_second⟩

end BringUp.Iossm
