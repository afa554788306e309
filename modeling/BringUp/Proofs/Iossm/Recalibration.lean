import BringUp.Proofs.Iossm.Attempts

/-! How a recalibration goes. Main statement: every run comes to a result in one of three ways, and
an interface is given up exactly if it has shown one more bad status than there are retries. -/
namespace BringUp.Iossm

open Sequence

variable {mailboxes unit position : Nat} {target : Target} {timeouts : Timeouts} {place : Place}
  {before after : Subsystem} {trace : Trace} {result : Except Error Unit}

/-- The visit of an instance leaves it alone if it is recorded as calibrated, and otherwise needs
its mailbox and handles its interfaces. -/
theorem recalibrateInstance_cases {record : Instance}
    (run : (recalibrateInstance mailboxes timeouts unit record).Performs before trace result
      after) :
    (record.calibrated = true ∧ trace = [] ∧ result = .ok () ∧ after = before) ∨
    (record.calibrated = false ∧ mailboxes ≤ unit ∧ trace = [] ∧
      result = .error (.missingMailbox unit) ∧ after = before) ∨
    (record.calibrated = false ∧ unit < mailboxes ∧
      Handled timeouts (placesAt unit record.interfaces) result trace ∧
      after = if result.isOk then
          before.modifyInstance unit fun record => { record with calibrated := true }
        else before) := by
  cases state : record.calibrated with
  | true => exact .inl ⟨rfl, recalibrateInstance_skips state run⟩
  | false =>
    rw [recalibrateInstance, state, if_pos (by rfl)] at run
    by_cases present : unit < mailboxes
    · rw [requireMailbox, if_pos present, pure_bind] at run
      refine .inr (.inr ⟨rfl, present, ?_⟩)
      obtain ⟨_, _, _, middle, rfl, handling, marking⟩ | ⟨cause, rfl, failed⟩ := performs_bind.1 run
      · obtain ⟨rfl, handled⟩ := recalibrateInterfaces_handled handling
        obtain ⟨rfl, rfl, rfl⟩ := performs_modify.1 marking
        rw [List.append_nil]
        exact ⟨handled, rfl⟩
      · obtain ⟨rfl, handled⟩ := recalibrateInterfaces_handled failed
        exact ⟨handled, rfl⟩
    · rw [requireMailbox, if_neg present] at run
      obtain ⟨_, _, _, _, -, thrown, -⟩ | ⟨cause, rfl, thrown⟩ := performs_bind.1 run
      · cases (performs_throw.1 thrown).2.1
      · obtain ⟨rfl, same, rfl⟩ := performs_throw.1 thrown
        exact .inr (.inl ⟨rfl, Nat.not_lt.1 present, rfl, same, rfl⟩)

section Marks

variable {subsystem : Subsystem} {count : Nat} {record : Instance}

/-- The bookkeeping with the first instances recorded as calibrated. -/
def Subsystem.markFirst (count : Nat) (subsystem : Subsystem) : Subsystem :=
  subsystem.markWhere fun index => index < count

theorem Subsystem.markFirst_zero (subsystem : Subsystem) : subsystem.markFirst 0 = subsystem := by
  simp [markFirst, markWhere_false]

theorem Subsystem.markFirst_succ :
    subsystem.markFirst (count + 1) = (subsystem.markFirst count).modifyInstance count fun record =>
      { record with calibrated := true } := by
  rw [markFirst, markFirst, markWhere_modifyInstance]
  congr 1
  funext index
  rw [Bool.eq_iff_iff]
  simp only [decide_eq_true_eq, Bool.or_eq_true, beq_iff_eq]
  exact Nat.lt_succ_iff_lt_or_eq

/-- An instance that is recorded as calibrated is marked already. -/
theorem Subsystem.markFirst_of_calibrated (found : subsystem.instances[count]? = some record)
    (calibrated : record.calibrated = true) :
    subsystem.markFirst (count + 1) = subsystem.markFirst count := by
  refine markWhere_congr fun index other found' => ?_
  by_cases same : index = count
  · subst same
    cases found.symm.trans found'
    simp [calibrated]
  · have iff : index < count + 1 ↔ index < count := by omega
    simp only [iff]

end Marks

/-- The interfaces of those of the first instances that are not recorded as calibrated. -/
def Subsystem.pending (count : Nat) (subsystem : Subsystem) : List Place :=
  placesOf (subsystem.targets.take count) fun unit => subsystem.passed[unit]? != some true

theorem Subsystem.pending_succ {subsystem : Subsystem} {record : Instance}
    (found : subsystem.instances[unit]? = some record) :
    subsystem.pending (unit + 1) = subsystem.pending unit ++
      if record.calibrated then [] else placesAt unit record.interfaces := by
  have target : subsystem.targets[unit]? = some record.interfaces := by
    simp [targets, found]
  have state : subsystem.passed[unit]? = some record.calibrated := by
    simp [passed, found]
  rw [pending, placesOf_take_succ target, state, pending]
  cases record.calibrated <;> rfl

theorem Subsystem.pending_mono {subsystem : Subsystem} {few many : Nat} (h : few ≤ many) :
    subsystem.pending few <+: subsystem.pending many := by
  obtain ⟨others, split⟩ := List.take_prefix_take_left (l := subsystem.targets) h
  rw [pending, pending, placesOf, placesOf, ← split, List.zipIdx_append, List.flatMap_append]
  exact List.prefix_append _ _

/-- How a recalibration goes: all instances are calibrated, an instance has no mailbox, or an
interface fails. An instance is recorded as calibrated when all its interfaces are. -/
inductive Recalibration (mailboxes : Nat) (timeouts : Timeouts) (before : Subsystem) :
    Trace → Except Error Unit → Subsystem → Prop
  | completed {trace : Trace} (handled : Handled timeouts (before.pending before.instances.length)
        (.ok ()) trace)
      (present : ∀ unit, before.passed[unit]? = some false → unit < mailboxes) :
      Recalibration mailboxes timeouts before trace (.ok ())
        { before.markFirst before.instances.length with calibrated := true }
  | missing {unit : Nat} {trace : Trace} (failing : before.passed[unit]? = some false)
      (absent : mailboxes ≤ unit)
      (handled : Handled timeouts (before.pending unit) (.ok ()) trace) :
      Recalibration mailboxes timeouts before trace (.error (.missingMailbox unit))
        (before.markFirst unit)
  | stopped {unit : Nat} {record : Instance} {early late : Trace} {cause : Error}
      (found : before.instances[unit]? = some record) (failing : record.calibrated = false)
      (present : unit < mailboxes) (handled : Handled timeouts (before.pending unit) (.ok ()) early)
      (fails : Handled timeouts (placesAt unit record.interfaces) (.error cause) late) :
      Recalibration mailboxes timeouts before (early ++ late) (.error cause) (before.markFirst unit)

theorem recalibrate_cases
    (run : (recalibrate mailboxes timeouts).Performs before trace result after) :
    Recalibration mailboxes timeouts before trace result after := by
  rw [recalibrate_eq] at run
  -- Invariant: the instances so far have been handled with success and are marked.
  have visits {trace : Trace} {result : Except Error (List Unit)} {after : Subsystem} := @
    performs_forInstances_cases Unit before after trace (recalibrateInstance mailboxes timeouts)
      result (fun seen middle first => Handled timeouts (before.pending seen.length) (.ok ()) first ∧
        middle = before.markFirst seen.length ∧
        ∀ unit < seen.length, before.passed[unit]? = some false → unit < mailboxes)
      ⟨by simpa [Subsystem.pending, placesOf] using Handled.none, before.markFirst_zero.symm,
        by simp⟩
      (fun {seen record value middle left first second} found earlier visit => by
        obtain ⟨handled, rfl, present⟩ := earlier
        rw [List.length_append, List.length_singleton, Subsystem.pending_succ found]
        have state : before.passed[seen.length]? = some record.calibrated := by
          simp [Subsystem.passed, found]
        obtain ⟨calibrated, rfl, -, rfl⟩ | ⟨-, -, -, failed, -⟩ | ⟨failing, here, further, rfl⟩ :=
          recalibrateInstance_cases visit
        · rw [Subsystem.markFirst_of_calibrated found calibrated, calibrated]
          refine ⟨handled.append .none, rfl, fun unit inside failing => ?_⟩
          obtain less | rfl := Nat.lt_succ_iff_lt_or_eq.1 inside
          · exact present unit less failing
          · rw [state, calibrated] at failing
            cases failing
        · cases failed
        · rw [Subsystem.markFirst_succ, failing]
          refine ⟨handled.append further, rfl, fun unit inside failing => ?_⟩
          obtain less | rfl := Nat.lt_succ_iff_lt_or_eq.1 inside
          · exact present unit less failing
          · exact here)
  obtain ⟨first, _, values, _, rfl, visited, marking⟩ | ⟨cause, rfl, failed⟩ := performs_bind.1 run
  · obtain ⟨rfl, rfl, rfl⟩ := performs_modify.1 marking
    obtain ⟨_, same, count, handled, rfl, present⟩ | ⟨_, _, _, _, _, _, same, -⟩ := visits visited
    · cases same
      rw [List.append_nil]
      rw [count] at handled present ⊢
      refine .completed handled fun unit failing => present unit ?_ failing
      simpa [Subsystem.passed] using (List.getElem?_eq_some_iff.1 failing).1
    · cases same
  · obtain ⟨_, same, -⟩ | ⟨_, seen, record, middle, early, late, same, rfl, found, earlier,
        visit⟩ := visits failed
    · cases same
    · cases same
      obtain ⟨handled, rfl, -⟩ := earlier
      obtain ⟨-, -, same, -⟩ | ⟨failing, absent, rfl, same, rfl⟩ | ⟨failing, here, fails, rfl⟩ :=
        recalibrateInstance_cases visit
      · cases same
      · cases same
        rw [List.append_nil]
        exact .missing (by simp [Subsystem.passed, found, failing]) absent handled
      · exact .stopped found failing here handled fails

section Outcome

variable {places : List Place} {record : Instance} {interfaces : List Target} {cause : Error}

/-- The error that ends a recalibration was raised at this instance. -/
inductive RaisedAt (unit : Nat) : Error → Prop
  | mailbox {cause : MailboxError} : RaisedAt unit (.mailbox unit cause)
  | missing : RaisedAt unit (.missingMailbox unit)
  | exhausted {position : Nat} : RaisedAt unit (.calibrationFailed unit position maxRetries)

theorem Attempts.raisedAt (attempts : Attempts timeouts place (.error cause) trace) :
    RaisedAt place.unit cause := by
  cases attempts with
  | exhausted => exact .exhausted
  | unanswered => exact .mailbox
  | refused => exact .mailbox

theorem placesAt_unit : ∀ place ∈ placesAt unit interfaces, place.unit = unit := by
  intro place member
  obtain ⟨_, -, rfl⟩ := List.mem_map.1 member
  rfl

theorem Handled.raisedAt
    (handled : Handled timeouts (placesAt unit interfaces) (.error cause) trace) :
    RaisedAt unit cause := by
  obtain ⟨earlier, place, others, _, _, split, -, -, stopped⟩ := handled.stops_at
  have here : place ∈ placesAt unit interfaces := by simp [split]
  rw [← placesAt_unit place here]
  exact stopped.raisedAt

/-- The interfaces before one of an instance are those of the earlier positions. -/
theorem placesAt_eq_append (unit : Nat) (found : interfaces[position]? = some target) :
    ∃ others, placesAt unit interfaces =
      placesAt unit (interfaces.take position) ++ ⟨unit, position, target⟩ :: others := by
  obtain ⟨inside, rfl⟩ := List.getElem?_eq_some_iff.1 found
  have count : (interfaces.take position).length = position :=
    List.length_take_of_le (Nat.le_of_lt inside)
  refine ⟨((interfaces.drop (position + 1)).zipIdx (position + 1)).map fun item =>
    ⟨unit, item.2, item.1⟩, ?_⟩
  have split : interfaces.zipIdx = (interfaces.take position).zipIdx ++
      (interfaces[position], position) ::
        (interfaces.drop (position + 1)).zipIdx (position + 1) := by
    conv_lhs => rw [← List.take_append_drop position interfaces]
    rw [List.zipIdx_append, count, List.drop_eq_getElem_cons inside, List.zipIdx_cons, Nat.zero_add]
  rw [placesAt, split, List.map_append]
  rfl

theorem placesAt_split {earlier others : List Place}
    (split : placesAt unit interfaces = earlier ++ place :: others) :
    interfaces[place.position]? = some place.target ∧ place.unit = unit ∧
      earlier = placesAt unit (interfaces.take place.position) := by
  have here : (placesAt unit interfaces)[earlier.length]? = some place := by simp [split]
  rw [placesAt, List.getElem?_map, List.getElem?_zipIdx, Option.map_map,
    Option.map_eq_some_iff] at here
  obtain ⟨target, found, same⟩ := here
  obtain rfl : place = ⟨unit, earlier.length, target⟩ := by simpa using same.symm
  obtain ⟨others', split'⟩ := placesAt_eq_append unit found
  have count : (placesAt unit (interfaces.take earlier.length)).length = earlier.length := by
    have inside := (List.getElem?_eq_some_iff.1 found).1
    simp [placesAt, Nat.min_eq_left (Nat.le_of_lt inside)]
  exact ⟨found, rfl, (List.append_inj (split.symm.trans split') count.symm).1⟩

/-- After everything before it has succeeded, an interface has shown one more status that is not
good than there are retries, each but the last followed by a retry. -/
inductive GivenUp (mailboxes : Nat) (timeouts : Timeouts) (before : Subsystem) :
    Nat → Nat → Trace → Prop
  | mk {unit position : Nat} {record : Instance} {target : Target} {early tried : Trace}
      {answer : Answer} (rest : Trace)
      (found : before.instances[unit]? = some record) (failing : record.calibrated = false)
      (present : unit < mailboxes) (here : record.interfaces[position]? = some target)
      (handled : Handled timeouts
        (before.pending unit ++ placesAt unit (record.interfaces.take position)) (.ok ()) early)
      (retries : Retries timeouts ⟨unit, position, target⟩ maxRetries tried)
      (bad : ¬ Place.Good ⟨unit, position, target⟩ answer) :
      GivenUp mailboxes timeouts before unit position
        (early ++ (tried ++ ⟨.request unit calibrationStatusCommand, .ok answer⟩ :: rest))

theorem Recalibration.givenUp {retries : Nat}
    (course : Recalibration mailboxes timeouts before trace
      (.error (.calibrationFailed unit position retries)) after) :
    GivenUp mailboxes timeouts before unit position trace := by
  cases course with
  | @stopped other record early late _ found failing present handled fails =>
    obtain ⟨earlier, place, others, first, last, split, rfl, prior, stopped⟩ := fails.stops_at
    obtain ⟨here, same, rfl⟩ := placesAt_split split
    obtain ⟨_, position, target⟩ := place
    subst same
    cases stopped with
    | exhausted retries bad =>
      rw [← List.append_assoc]
      exact .mk _ found failing present here (handled.append prior) retries bad

/-- As long as the instances up to this one have mailboxes, what has been done is to handle the
interfaces of the first instances, beyond this one or up to an error that is the result. -/
theorem Recalibration.handled (course : Recalibration mailboxes timeouts before trace result after)
    (found : before.instances[unit]? = some record) (present : unit < mailboxes) :
    ∃ count verdict, unit < count ∧ Handled timeouts (before.pending count) verdict trace ∧
      (verdict.isOk = false → result = verdict) := by
  cases course with
  | completed handled =>
    exact ⟨_, _, (List.getElem?_eq_some_iff.1 found).1, handled, nofun⟩
  | @missing other _ _ absent handled =>
    exact ⟨other, _, by omega, handled, nofun⟩
  | @stopped other record early late cause found' failing' _ handled fails =>
    have both : Handled timeouts (before.pending (other + 1)) (.error cause) (early ++ late) := by
      rw [Subsystem.pending_succ found', failing']
      exact handled.append fails
    obtain ⟨others, split⟩ := before.pending_mono (Nat.le_max_left (other + 1) (unit + 1))
    refine ⟨max (other + 1) (unit + 1), .error cause, by omega, ?_, fun _ => rfl⟩
    rw [← split]
    exact both.extend others

/-- The bookkeeping has no more interfaces for an instance than there can be. -/
def Subsystem.Fits (subsystem : Subsystem) : Prop :=
  ∀ record ∈ subsystem.instances, record.interfaces.length ≤ maxInterfaces

theorem Subsystem.Fits.position_lt {subsystem : Subsystem} {count : Nat} (fits : subsystem.Fits) :
    ∀ place ∈ subsystem.pending count, place.position < 3 := by
  intro place member
  obtain ⟨⟨interfaces, unit⟩, inside, member⟩ := List.mem_flatMap.1 member
  split at member
  · obtain ⟨⟨target, position⟩, here, rfl⟩ := List.mem_map.1 member
    have within : position < interfaces.length :=
      (List.getElem?_eq_some_iff.1 (List.mk_mem_zipIdx_iff_getElem?.1 here)).1
    obtain ⟨record, recorded, rfl⟩ := List.mem_map.1
      (List.mem_of_mem_take (List.fst_mem_of_mem_zipIdx inside))
    have few := fits record recorded
    rw [maxInterfaces] at few
    change position < 3
    omega
  · cases member

/-- The interface is given up exactly if it has shown so many statuses that are not good. -/
theorem Recalibration.givenUp_iff (fits : before.Fits)
    (course : Recalibration mailboxes timeouts before trace result after) :
    result = .error (.calibrationFailed unit position maxRetries) ↔
      GivenUp mailboxes timeouts before unit position trace := by
  refine ⟨fun failed => (failed ▸ course).givenUp, fun given => ?_⟩
  cases given with
  | @mk record target early tried answer rest found failing present here handled retries bad =>
    obtain ⟨count, verdict, beyond, whole, ended⟩ := course.handled found present
    obtain ⟨others, split⟩ := placesAt_eq_append unit here
    obtain ⟨further, wider⟩ := before.pending_mono (Nat.succ_le_of_lt beyond)
    rw [Nat.succ_eq_add_one, Subsystem.pending_succ found, failing, if_neg Bool.false_ne_true,
      split] at wider
    have stopped : Handled timeouts (before.pending count)
        (.error (.calibrationFailed unit position maxRetries))
        (early ++ (tried ++ [⟨.request unit calibrationStatusCommand, .ok answer⟩,
          givenUpNote ⟨unit, position, target⟩])) := by
      rw [← wider, ← List.append_assoc (before.pending unit)]
      exact (handled.append (.stops (.exhausted retries bad))).extend further
    -- Both go alike up to the last status, and after that there is only a message.
    have again : Performs _ before _ _ before := stopped.performs fits.position_lt
    have run : Performs _ before _ _ before := whole.performs fits.position_lt
    rw [Performs, List.append_cons, ← List.append_assoc] at again run
    obtain ⟨-, same⟩ := again.determined (by simp [givenUpNote]) run
    cases same
    exact ended rfl

end Outcome

theorem Recalibration.inTime (course : Recalibration mailboxes timeouts before trace result after) :
    InTime timeouts trace := by
  cases course with
  | completed handled => exact handled.inTime
  | missing _ _ handled => exact handled.inTime
  | stopped _ _ _ handled fails => exact handled.inTime.append fails.inTime

theorem recalibrateInstance_dialogues {record : Instance} (failing : record.calibrated = false)
    (run : (recalibrateInstance mailboxes timeouts unit record).Performs before trace result after) :
    (trace.requests = [] ∧ result.isOk = false) ∨
      Dialogues (placesAt unit record.interfaces) result.isOk trace.requests := by
  obtain ⟨done, -⟩ | ⟨-, -, rfl, rfl, -⟩ | ⟨-, -, handled, -⟩ := recalibrateInstance_cases run
  · rw [failing] at done
    cases done
  · exact .inl ⟨rfl, rfl⟩
  · exact .inr handled.dialogues

/-- A successful recalibration is one dialogue for each interface of the instances that are not
recorded as calibrated. -/
theorem recalibrate_ok
    (run : (recalibrate mailboxes timeouts).Performs before trace (.ok ()) after) :
    RecalibratedAll (placesOf before.targets fun unit => before.passed[unit]? != some true)
      trace.requests := by
  cases recalibrate_cases run with
  | completed handled =>
    have all : before.targets.take before.instances.length = before.targets :=
      List.take_of_length_le (by simp [Subsystem.targets])
    rw [Subsystem.pending, all] at handled
    exact handled.dialogues.recalibrated

/-- A recalibration comes to a result. -/
theorem recalibrate_returns (fits : before.Fits) :
    ((recalibrate mailboxes timeouts).perform before).Returns := by
  rw [recalibrate_eq]
  refine returns_perform_bind (returns_forInstances fun unit record found => ?_)
    fun _ => ends_modify
  unfold recalibrateInstance
  split
  · refine ends_bind ends_requireMailbox fun _ => ends_bind (ends_forM fun item member => ?_)
      fun _ => ends_modify
    have within : item.2 < record.interfaces.length :=
      (List.getElem?_eq_some_iff.1 (List.mk_mem_zipIdx_iff_getElem?.1 member)).1
    have few := fits record (List.mem_of_getElem? found)
    rw [maxInterfaces] at few
    exact ends_recalibrateInterface (by omega)
  · exact ends_pure

/-- An instance that is recorded as calibrated gets no commands. -/
theorem recalibrate_requests
    (run : (recalibrate mailboxes timeouts).Performs before trace result after) :
    ∀ request ∈ trace.requests, before.passed[request.1]? = some false := by
  have state {unit : Nat} {record : Instance} (found : before.instances[unit]? = some record)
      (failing : record.calibrated = false) : before.passed[unit]? = some false := by
    simp [Subsystem.passed, found, failing]
  have uses := @perform_recalibrate_uses mailboxes timeouts
    (fun op => ∀ unit command, op = .request unit command → before.passed[unit]? = some false) before
    (fun op quiet unit command sent => by
      subst sent
      simp [Supervision] at quiet)
    (fun _ _ found failing _ _ same => by
      cases same
      exact state found failing)
    (fun _ _ found failing _ _ _ _ same => by
      cases same
      exact state found failing)
  exact fun request member => run.uses uses _ (Trace.mem_requests.1 member) _ _ rfl

theorem Recalibration.all_calibrated
    (course : Recalibration mailboxes timeouts before trace (.ok ()) after) :
    after.calibrated = true ∧ ∀ record ∈ after.instances, record.calibrated = true := by
  cases course with
  | completed =>
    exact ⟨rfl, Subsystem.calibrated_markWhere fun index inside => by simpa using inside⟩

theorem Recalibration.stopped_at {cause : Error}
    (course : Recalibration mailboxes timeouts before trace (.error cause) after) :
    ∃ unit, RaisedAt unit cause ∧ before.passed[unit]? = some false ∧
      after = before.markFirst unit := by
  cases course with
  | @missing unit _ failing => exact ⟨unit, .missing, failing, rfl⟩
  | @stopped unit record _ _ _ found failing _ _ fails =>
    exact ⟨unit, fails.raisedAt, by simp [Subsystem.passed, found, failing], rfl⟩

/-- Every run of a recalibration comes to a result, and goes in one of the three ways. An IOSSM that
stays busy delays it by the timeout, as far as its microseconds fit into a word. -/
theorem recalibration_course {outcome : Option (Except Error Unit × Subsystem)} (fits : before.Fits)
    (run : Runs ((recalibrate mailboxes timeouts).perform before) trace outcome) :
    ∃ result after, outcome = some (result, after) ∧
      Recalibration mailboxes timeouts before trace result after ∧
      (∀ request ∈ trace.requests, before.passed[request.1]? = some false) ∧
      (∀ unit position, result = .error (.calibrationFailed unit position maxRetries) ↔
        GivenUp mailboxes timeouts before unit position trace) ∧
      (result = .ok () → after.calibrated = true ∧
        ∀ record ∈ after.instances, record.calibrated = true) ∧
      (∀ cause, result = .error cause → ∃ unit, RaisedAt unit cause ∧
        before.passed[unit]? = some false ∧ after = before.markFirst unit) ∧
      after.targets = before.targets ∧
      trace.pauses ≤ intervals timeouts.calibration * (trace.asked .calibrate).length ∧
      intervals timeouts.calibration ≤ 10 * timeouts.calibration ∧
      (1000 * timeouts.calibration < 0x100000000 →
        intervals timeouts.calibration = 10 * timeouts.calibration) := by
  obtain ⟨result, after, rfl, performed⟩ := performs_of_returns run (recalibrate_returns fits)
  have course := recalibrate_cases performed
  refine ⟨result, after, rfl, course, recalibrate_requests performed,
    fun _ _ => course.givenUp_iff fits, ?_, ?_, recalibrate_keeps_targets _ _ _ _ performed,
    course.inTime, intervals_le _, intervals_eq⟩
  · rintro rfl
    exact course.all_calibrated
  · rintro cause rfl
    exact course.stopped_at

/-- An answer that reports the first slot as calibrated and the second one as failed. -/
def halfCalibrated : Answer := ⟨1, #v[1, 2, 0]⟩

/-- An IOSSM that describes its interfaces in this way, and gives the above answer to all other
requests. -/
def answerHalfCalibrated (description : Answer) : (op : Op) → Unit → op.Answer × Unit
  | .request _ command, state =>
    (.ok (if command.opcode = .listInterfaces then description else halfCalibrated), state)
  | .load _, state => (0, state)
  | .store _ _, state => ((), state)
  | .loadCell _, state => (0, state)
  | .storeCell _ _, state => ((), state)
  | .pause, state => ((), state)
  | .log _ _, state => ((), state)
  | .status _, state => (0, state)
  | .probe _ _, state => (0, state)
  | .getVariable _, state => (none, state)
  | .setVariable _ _, state => (.ok (), state)
  | .manager _, state => (.ok (), state)

/-- The bookkeeping for one failing instance with these interfaces. -/
def failing (interfaces : List Target) : Subsystem :=
  { portCount := 1, plls := 0, instances := [{ interfaces := interfaces }] }

/-- The first interface is good at once, the second one never is. -/
theorem recalibration_course_exhausted : ∃ trace after,
    Runs ((recalibrate 1 {}).perform (failing [⟨1, 0⟩, ⟨2, 0⟩])) trace
        (some (.error (.calibrationFailed 0 1 maxRetries), after)) ∧
      GivenUp 1 {} (failing [⟨1, 0⟩, ⟨2, 0⟩]) 0 1 trace ∧
      after.passed = [false] := by
  have run : Runs ((recalibrate 1 {}).perform (failing [⟨1, 0⟩, ⟨2, 0⟩])) _
      (some (.error (.calibrationFailed 0 1 maxRetries), failing [⟨1, 0⟩, ⟨2, 0⟩])) :=
    Runs.of_run_eq (answerHalfCalibrated halfCalibrated) () (by with_unfolding_all rfl)
  have fits : (failing [⟨1, 0⟩, ⟨2, 0⟩]).Fits := by simp [Subsystem.Fits, failing, maxInterfaces]
  obtain ⟨_, _, same, -, -, given, -⟩ := recalibration_course fits run
  cases same
  exact ⟨_, _, run, (given 0 1).1 rfl, rfl⟩

end BringUp.Iossm
