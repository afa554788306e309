import BringUp.Proofs.Iossm.Calibration

/-! How interfaces are calibrated again. Main statement: the calibration of an interface goes in one
of four ways, and may go in each of them. -/
namespace BringUp.Iossm

open Sequence

variable {mailboxes unit position : Nat} {target : Target} {timeouts : Timeouts} {place : Place}
  {before after : Subsystem} {trace : Trace} {result : Except Error Unit}

/-- What is told before a retry. -/
def retryNote (place : Place) (attempt : Nat) : Event :=
  ⟨.log .debug ("IOSSM: re-calibrating " ++ unitName place.unit ++ " interface "
    ++ toString place.position ++ ", attempt " ++ toString attempt), ()⟩

/-- What is told if an IOSSM is still busy when the wait is over. -/
def busyNote (unit : Nat) : Event :=
  ⟨.log .warning ("IOSSM: " ++ unitName unit ++ " still busy after re-calibration"), ()⟩

/-- What is told when an interface is given up. -/
def givenUpNote (place : Place) : Event :=
  ⟨.log .error ("IOSSM: calibration of " ++ unitName place.unit ++ " interface "
    ++ toString place.position ++ " failed after " ++ toString maxRetries ++ " retries"), ()⟩

/-- The retries of an interface: each follows a status that is not good, is a command to calibrate
and a wait for the IOSSM, whether that becomes idle or stays busy. -/
inductive Retries (timeouts : Timeouts) (place : Place) : Nat → Trace → Prop
  | none : Retries timeouts place 0 []
  | next {count : Nat} {earlier waiting : Trace} {answer reply : Answer} {free : Bool}
      (retries : Retries timeouts place count earlier) (bad : ¬ place.Good answer)
      (settling : Settling timeouts place.unit free waiting) :
      Retries timeouts place (count + 1) (earlier ++
        ⟨.request place.unit calibrationStatusCommand, .ok answer⟩ :: retryNote place (count + 1) ::
          ⟨.request place.unit (calibrateCommand place.target), .ok reply⟩ ::
            (waiting ++ if free then [] else [busyNote place.unit]))

/-- How the calibration of an interface goes: it is accepted with the first good status, is given up
if no retry is left, and ends with a command that is not answered. -/
inductive Attempts (timeouts : Timeouts) (place : Place) : Except Error Unit → Trace → Prop
  | accepted {count : Nat} {earlier : Trace} {answer : Answer}
      (retries : Retries timeouts place count earlier) (within : count ≤ maxRetries)
      (good : place.Good answer) :
      Attempts timeouts place (.ok ())
        (earlier ++ [⟨.request place.unit calibrationStatusCommand, .ok answer⟩])
  | exhausted {earlier : Trace} {answer : Answer}
      (retries : Retries timeouts place maxRetries earlier) (bad : ¬ place.Good answer) :
      Attempts timeouts place (.error (.calibrationFailed place.unit place.position maxRetries))
        (earlier ++ [⟨.request place.unit calibrationStatusCommand, .ok answer⟩, givenUpNote place])
  | unanswered {count : Nat} {earlier : Trace} {cause : MailboxError}
      (retries : Retries timeouts place count earlier) (within : count ≤ maxRetries) :
      Attempts timeouts place (.error (.mailbox place.unit cause))
        (earlier ++ [⟨.request place.unit calibrationStatusCommand, .error cause⟩])
  | refused {count : Nat} {earlier : Trace} {answer : Answer} {cause : MailboxError}
      (retries : Retries timeouts place count earlier) (within : count < maxRetries)
      (bad : ¬ place.Good answer) :
      Attempts timeouts place (.error (.mailbox place.unit cause))
        (earlier ++ [⟨.request place.unit calibrationStatusCommand, .ok answer⟩,
          retryNote place (count + 1),
          ⟨.request place.unit (calibrateCommand place.target), .error cause⟩])

/-- A question for the status of an interface is answered, or ends the sequence. -/
theorem performs_interfaceStatus_bind {f : Word → Sequence Unit} :
    Performs (interfaceStatus unit position >>= f) before trace result after ↔
      (∃ answer status rest, answer.data[position]?.map (· &&& 0b111) = some status ∧
        trace = ⟨.request unit calibrationStatusCommand, .ok answer⟩ :: rest ∧
        Performs (f status) before rest result after) ∨
      ∃ cause, trace = [⟨.request unit calibrationStatusCommand, .error cause⟩] ∧
        result = .error (.mailbox unit cause) ∧ after = before := by
  rw [interfaceStatus, bind_assoc, performs_send_bind]
  refine or_congr ?_ Iff.rfl
  constructor
  · rintro ⟨answer, rest, rfl, run⟩
    split at run
    · next word found =>
      rw [pure_bind] at run
      exact ⟨answer, _, rest, by rw [found]; rfl, rfl, run⟩
    · obtain ⟨_, _, _, -, broken, -⟩ := performs_program_bind.1 run
      cases (Runs.fault_iff.1 broken).2
  · rintro ⟨answer, status, rest, seen, rfl, run⟩
    refine ⟨answer, rest, rfl, ?_⟩
    split
    · next word found =>
      rw [found] at seen
      cases seen
      rwa [pure_bind]
    · next missing =>
      rw [missing] at seen
      cases seen

/-- A status that is not good is followed by a retry and the next question, if the command to
calibrate is answered. -/
theorem performs_retry_iff {left : Nat} {status : Word} (bad : status ≠ calibratedStatus) :
    Performs (recalibrateInterface.go timeouts place.unit place.position place.target (left + 1)
        status) before trace result after ↔
      (∃ reply free waiting rest, Settling timeouts place.unit free waiting ∧
        trace = retryNote place (maxRetries - left) ::
          ⟨.request place.unit (calibrateCommand place.target), .ok reply⟩ ::
            ((waiting ++ if free then [] else [busyNote place.unit]) ++ rest) ∧
        Performs (interfaceStatus place.unit place.position >>=
          recalibrateInterface.go timeouts place.unit place.position place.target left) before rest
            result after) ∨
      ∃ cause, trace = [retryNote place (maxRetries - left),
          ⟨.request place.unit (calibrateCommand place.target), .error cause⟩] ∧
        result = .error (.mailbox place.unit cause) ∧ after = before := by
  rw [recalibrateInterface.go, if_neg bad, performs_log_bind]
  simp only [performs_send_bind, performs_program_bind, runs_await_idle_iff]
  constructor
  · rintro ⟨_, rfl, ⟨reply, _, rfl, waiting, rest, free, rfl, settling, run⟩ |
      ⟨cause, rfl, rfl, rfl⟩⟩
    · cases free with
      | true =>
        exact .inl ⟨reply, true, waiting, rest, settling,
          by simp [retryNote, calibrateCommand], run⟩
      | false =>
        obtain ⟨later, rfl, further⟩ := performs_log_bind.1 run
        exact .inl ⟨reply, false, waiting, later, settling,
          by simp [retryNote, busyNote, calibrateCommand], further⟩
    · exact .inr ⟨cause, rfl, rfl, rfl⟩
  · rintro (⟨reply, free, waiting, rest, settling, rfl, run⟩ | ⟨cause, rfl, rfl, rfl⟩)
    · refine ⟨_, rfl, .inl ⟨reply, _, rfl, waiting, _, free, List.append_assoc _ _ _, settling, ?_⟩⟩
      cases free with
      | true => exact run
      | false => exact performs_log_bind.2 ⟨rest, rfl, run⟩
    · exact ⟨_, rfl, .inr ⟨cause, rfl, rfl, rfl⟩⟩

/-- After some retries and one more status, the calibration of an interface goes on like this. -/
theorem go_attempts {count left : Nat} {earlier : Trace} {answer : Answer} {status : Word}
    (budget : count + left = maxRetries) (retries : Retries timeouts place count earlier)
    (seen : answer.data[place.position]?.map (· &&& 0b111) = some status)
    (run : Performs (recalibrateInterface.go timeouts place.unit place.position place.target left
      status) before trace result after) :
    after = before ∧ Attempts timeouts place result
      (earlier ++ ⟨.request place.unit calibrationStatusCommand, .ok answer⟩ :: trace) := by
  -- On the retries left: a retry moves the status and what follows it to the earlier ones.
  induction left generalizing count earlier answer status trace with
  | zero =>
    rw [recalibrateInterface.go] at run
    by_cases good : status = calibratedStatus
    · rw [if_pos good] at run
      obtain ⟨rfl, rfl, rfl⟩ := performs_pure.1 run
      subst good
      exact ⟨rfl, .accepted retries (by omega) seen⟩
    · rw [if_neg good] at run
      obtain ⟨_, rfl, thrown⟩ := performs_log_bind.1 run
      obtain ⟨rfl, rfl, rfl⟩ := performs_throw.1 thrown
      obtain rfl : count = maxRetries := budget
      exact ⟨rfl, .exhausted retries (Place.not_good seen good)⟩
  | succ left ih =>
    by_cases good : status = calibratedStatus
    · rw [recalibrateInterface.go, if_pos good] at run
      obtain ⟨rfl, rfl, rfl⟩ := performs_pure.1 run
      subst good
      exact ⟨rfl, .accepted retries (by omega) seen⟩
    · have bad := Place.not_good seen good
      have attempt : maxRetries - left = count + 1 := by omega
      obtain ⟨reply, free, waiting, rest, settling, rfl, run₁⟩ | ⟨cause, rfl, rfl, rfl⟩ :=
        (performs_retry_iff good).1 run
      · have more :=
          @Retries.next timeouts place count earlier waiting answer reply free retries bad settling
        obtain ⟨answer', status', rest', seen', rfl, run₂⟩ | ⟨cause, rfl, rfl, rfl⟩ :=
          performs_interfaceStatus_bind.1 run₁
        · obtain ⟨same, attempts⟩ := ih (by omega) more seen' run₂
          refine ⟨same, ?_⟩
          simpa [attempt] using attempts
        · refine ⟨rfl, ?_⟩
          have attempts := @Attempts.unanswered timeouts place _ _ cause more (by omega)
          simpa [attempt] using attempts
      · rw [attempt]
        exact ⟨rfl, .refused retries (by omega) bad⟩

/-- Every run of the calibration of an interface goes like this, and changes nothing in the
bookkeeping. -/
theorem recalibrateInterface_attempts
    (run : (recalibrateInterface timeouts place.unit place.position place.target).Performs before
      trace result after) : after = before ∧ Attempts timeouts place result trace := by
  obtain ⟨answer, status, rest, seen, rfl, run₁⟩ | ⟨cause, rfl, rfl, rfl⟩ :=
    performs_interfaceStatus_bind.1 run
  · exact go_attempts (Nat.zero_add _) .none seen run₁
  · exact ⟨rfl, .unanswered .none (Nat.zero_le _)⟩

theorem exists_status (inside : place.position < 3) (answer : Answer) :
    ∃ status, answer.data[place.position]?.map (· &&& 0b111) = some status := by
  rw [Vector.getElem?_eq_getElem inside]
  exact ⟨_, rfl⟩

/-- After some retries the calibration of an interface goes on with the next question. -/
theorem Retries.performs (inside : place.position < 3) {count : Nat} {earlier rest : Trace}
    (retries : Retries timeouts place count earlier) (within : count ≤ maxRetries)
    (run : Performs (interfaceStatus place.unit place.position >>=
      recalibrateInterface.go timeouts place.unit place.position place.target (maxRetries - count))
        before rest result after) :
    (recalibrateInterface timeouts place.unit place.position place.target).Performs before
      (earlier ++ rest) result after := by
  induction retries generalizing rest with
  | none => exact run
  | @next count earlier waiting answer reply free retries bad settling ih =>
    have left : maxRetries - count = maxRetries - (count + 1) + 1 := by omega
    have attempt : maxRetries - (maxRetries - (count + 1)) = count + 1 := by omega
    obtain ⟨status, seen⟩ := exists_status inside answer
    have other : status ≠ calibratedStatus := by
      rintro rfl
      exact bad seen
    rw [List.append_assoc]
    apply ih (by omega)
    refine performs_interfaceStatus_bind.2 (.inl ⟨answer, status, _, seen, rfl, ?_⟩)
    rw [left]
    refine (performs_retry_iff other).2 (.inl ⟨reply, free, waiting, rest, settling, ?_, run⟩)
    rw [attempt]
    simp

/-- The calibration of an interface may go in each of these ways. -/
theorem Attempts.performs (inside : place.position < 3) (attempts : Attempts timeouts place result
    trace) : (recalibrateInterface timeouts place.unit place.position place.target).Performs before
      trace result before := by
  cases attempts with
  | @accepted count earlier answer retries within good =>
    refine retries.performs inside within (performs_interfaceStatus_bind.2
      (.inl ⟨answer, calibratedStatus, [], good, rfl, ?_⟩))
    rw [recalibrateInterface.go.eq_def, if_pos rfl]
    exact performs_pure.2 ⟨rfl, rfl, rfl⟩
  | @exhausted earlier answer retries bad =>
    obtain ⟨status, seen⟩ := exists_status inside answer
    refine retries.performs inside (Nat.le_refl _) (performs_interfaceStatus_bind.2
      (.inl ⟨answer, status, _, seen, rfl, ?_⟩))
    have other : status ≠ calibratedStatus := by
      rintro rfl
      exact bad seen
    rw [Nat.sub_self, recalibrateInterface.go, if_neg other]
    exact performs_log_bind.2 ⟨[], rfl, performs_throw.2 ⟨rfl, rfl, rfl⟩⟩
  | @unanswered count earlier cause retries within =>
    exact retries.performs inside within (performs_interfaceStatus_bind.2
      (.inr ⟨cause, rfl, rfl, rfl⟩))
  | @refused count earlier answer cause retries within bad =>
    obtain ⟨status, seen⟩ := exists_status inside answer
    have other : status ≠ calibratedStatus := by
      rintro rfl
      exact bad seen
    have left : maxRetries - count = maxRetries - (count + 1) + 1 := by omega
    have attempt : maxRetries - (maxRetries - (count + 1)) = count + 1 := by omega
    refine retries.performs inside (Nat.le_of_lt within) (performs_interfaceStatus_bind.2
      (.inl ⟨answer, status, _, seen, rfl, ?_⟩))
    rw [left]
    refine (performs_retry_iff other).2 (.inr ⟨cause, ?_, rfl, rfl⟩)
    rw [attempt]

/-- The calibration of interfaces one after the other, up to one that fails. -/
inductive Handled (timeouts : Timeouts) : List Place → Except Error Unit → Trace → Prop
  | none : Handled timeouts [] (.ok ()) []
  | stops {place : Place} {others : List Place} {cause : Error} {trace : Trace}
      (attempts : Attempts timeouts place (.error cause) trace) :
      Handled timeouts (place :: others) (.error cause) trace
  | next {place : Place} {others : List Place} {result : Except Error Unit} {first second : Trace}
      (attempts : Attempts timeouts place (.ok ()) first)
      (rest : Handled timeouts others result second) :
      Handled timeouts (place :: others) result (first ++ second)

section Handled

variable {places others : List Place} {first second early late : Trace}

theorem Handled.append (handled : Handled timeouts places (.ok ()) first)
    (further : Handled timeouts others result second) :
    Handled timeouts (places ++ others) result (first ++ second) := by
  generalize same : Except.ok () = verdict at handled
  induction handled with
  | none => exact further
  | stops _ => cases same
  | next attempts _ ih =>
    rw [List.append_assoc]
    exact .next attempts (ih same)

theorem Handled.extend {cause : Error} (handled : Handled timeouts places (.error cause) trace)
    (others : List Place) : Handled timeouts (places ++ others) (.error cause) trace := by
  generalize same : Except.error cause = verdict at handled
  induction handled with
  | none => cases same
  | stops attempts => exact .stops attempts
  | next attempts _ ih => exact .next attempts (ih same)

theorem Handled.performs (inside : ∀ place ∈ places, place.position < 3)
    (handled : Handled timeouts places result trace) :
    (places.forM fun place => recalibrateInterface timeouts place.unit place.position
      place.target).Performs before trace result before := by
  induction handled with
  | none => exact performs_pure.2 ⟨rfl, rfl, rfl⟩
  | stops attempts =>
    exact performs_bind.2 (.inr ⟨_, rfl, attempts.performs (inside _ List.mem_cons_self)⟩)
  | @next place others result first second attempts _ ih =>
    refine performs_bind.2 (.inl ⟨first, second, (), before, rfl,
      attempts.performs (inside _ List.mem_cons_self), ih fun place member => ?_⟩)
    exact inside place (List.mem_cons_of_mem _ member)

/-- A failure is that of one of the interfaces, after those before it have been calibrated. -/
theorem Handled.stops_at {cause : Error} (handled : Handled timeouts places (.error cause) trace) :
    ∃ earlier place others first last, places = earlier ++ place :: others ∧ trace = first ++ last ∧
      Handled timeouts earlier (.ok ()) first ∧ Attempts timeouts place (.error cause) last := by
  generalize same : Except.error cause = verdict at handled
  induction handled with
  | none => cases same
  | @stops place others cause' trace attempts =>
    cases same
    exact ⟨[], place, others, [], trace, rfl, rfl, .none, attempts⟩
  | @next place others _ first second attempts _ ih =>
    obtain ⟨earlier, stopping, left, early, last, rfl, rfl, handled, stopped⟩ := ih same
    refine ⟨place :: earlier, stopping, left, first ++ early, last, rfl, ?_, ?_, stopped⟩
    · rw [List.append_assoc]
    · exact .next attempts handled

/-- A loop over the interfaces of an instance handles them in order. -/
theorem recalibrateInterfaces_handled {items : List (Target × Nat)}
    (run : (items.forM fun item => recalibrateInterface timeouts unit item.2 item.1).Performs before
      trace result after) :
    after = before ∧
      Handled timeouts (items.map fun item => ⟨unit, item.2, item.1⟩) result trace := by
  induction items generalizing trace with
  | nil =>
    obtain ⟨rfl, rfl, rfl⟩ := performs_pure.1 run
    exact ⟨rfl, .none⟩
  | cons item rest ih =>
    have attempts {trace : Trace} {result : Except Error Unit} {after : Subsystem} := @
      recalibrateInterface_attempts timeouts ⟨unit, item.2, item.1⟩ before after trace result
    obtain ⟨_, _, _, middle, rfl, here, later⟩ | ⟨cause, rfl, failed⟩ := performs_bind.1 run
    · obtain ⟨rfl, accepted⟩ := attempts here
      obtain ⟨rfl, handled⟩ := ih later
      exact ⟨rfl, .next accepted handled⟩
    · obtain ⟨rfl, stopped⟩ := attempts failed
      exact ⟨rfl, .stops stopped⟩

end Handled

section Delay

variable {first second : Trace}

/-- No more intervals pass than the waits after the commands to calibrate may take. -/
def InTime (timeouts : Timeouts) (trace : Trace) : Prop :=
  trace.pauses ≤ intervals timeouts.calibration * (trace.asked .calibrate).length

theorem InTime.append (early : InTime timeouts first) (late : InTime timeouts second) :
    InTime timeouts (first ++ second) := by
  rw [InTime] at early late ⊢
  rw [Trace.pauses_append, Trace.asked_append, List.length_append, Nat.mul_add]
  exact Nat.add_le_add early late

theorem inTime_of_pauses (none : trace.pauses = 0) : InTime timeouts trace := by
  rw [InTime, none]
  exact Nat.zero_le _

theorem inTime_of_asked (asked : trace.asked .calibrate ≠ [])
    (within : trace.pauses ≤ intervals timeouts.calibration) : InTime timeouts trace :=
  within.trans (Nat.le_mul_of_pos_right _ (List.length_pos_iff.2 asked))

theorem Retries.inTime {count : Nat} (retries : Retries timeouts place count trace) :
    InTime timeouts trace := by
  induction retries with
  | none => exact inTime_of_pauses rfl
  | @next count earlier waiting answer reply free _ _ settling ih =>
    refine ih.append (inTime_of_asked (List.cons_ne_nil (place.unit, place.target) _) ?_)
    have told : Trace.pauses (if free then [] else [busyNote place.unit]) = 0 := by
      cases free <;> rfl
    change Trace.pauses (waiting ++ _) ≤ _
    rw [Trace.pauses_append, told, Nat.add_zero]
    exact settling.pauses_le

theorem Attempts.inTime (attempts : Attempts timeouts place result trace) :
    InTime timeouts trace := by
  cases attempts with
  | accepted retries => exact retries.inTime.append (inTime_of_pauses rfl)
  | exhausted retries => exact retries.inTime.append (inTime_of_pauses rfl)
  | unanswered retries => exact retries.inTime.append (inTime_of_pauses rfl)
  | refused retries => exact retries.inTime.append (inTime_of_pauses rfl)

theorem Handled.inTime {places : List Place} (handled : Handled timeouts places result trace) :
    InTime timeouts trace := by
  induction handled with
  | none => exact inTime_of_pauses rfl
  | stops attempts => exact attempts.inTime
  | next attempts _ ih => exact attempts.inTime.append ih

end Delay

section Dialogues

variable {places : List Place} {accepted : Bool} {later : List Request}

theorem Settling.requests_eq_nil {free : Bool} (settling : Settling timeouts unit free trace) :
    trace.requests = [] :=
  requests_await_idle (runs_await_idle_iff.2 settling)

/-- A dialogue that follows some retries goes on from these. -/
theorem Retries.dialogue {count total : Nat} (retries : Retries timeouts place count trace)
    (left : Nat) (budget : left + count = total) (rest : Dialogue place left accepted later) :
    Dialogue place total accepted (trace.requests ++ later) := by
  induction retries generalizing left later with
  | none =>
    obtain rfl : left = total := budget
    exact rest
  | @next count earlier waiting answer reply free _ bad settling ih =>
    have further := ih (left + 1) (by omega)
      (@Dialogue.again place left accepted answer reply later bad rest)
    have told : Trace.requests (if free then [] else [busyNote place.unit]) = [] := by
      cases free <;> rfl
    have waited : Trace.requests (waiting ++ if free then [] else [busyNote place.unit]) = [] := by
      rw [Trace.requests_append, settling.requests_eq_nil, told, List.append_nil]
    have round : Trace.requests (⟨.request place.unit calibrationStatusCommand, .ok answer⟩ ::
        retryNote place (count + 1) ::
          ⟨.request place.unit (calibrateCommand place.target), .ok reply⟩ ::
            (waiting ++ if free then [] else [busyNote place.unit])) =
        [(place.unit, calibrationStatusCommand, .ok answer),
          (place.unit, calibrateCommand place.target, .ok reply)] := by
      change _ :: _ :: Trace.requests (waiting ++ _) = _
      rw [waited]
    rw [Trace.requests_append, round, List.append_assoc]
    exact further

/-- The calibration of an interface is its dialogue. -/
theorem Attempts.dialogue (attempts : Attempts timeouts place result trace) :
    Dialogue place maxRetries result.isOk trace.requests := by
  cases attempts with
  | @accepted count _ _ retries within good =>
    rw [Trace.requests_append]
    exact retries.dialogue (maxRetries - count) (by omega) (.accepted good)
  | exhausted retries bad =>
    rw [Trace.requests_append]
    exact retries.dialogue 0 (by omega) (.exhausted bad)
  | @unanswered count _ _ retries within =>
    rw [Trace.requests_append]
    exact retries.dialogue (maxRetries - count) (by omega) .unanswered
  | @refused count _ _ _ retries within bad =>
    rw [Trace.requests_append]
    exact retries.dialogue (maxRetries - (count + 1) + 1) (by omega) (.refused bad)

theorem Handled.dialogues (handled : Handled timeouts places result trace) :
    Dialogues places result.isOk trace.requests := by
  induction handled with
  | none => exact .none
  | stops attempts => exact .stops attempts.dialogue
  | next attempts _ ih =>
    rw [Trace.requests_append]
    exact .next attempts.dialogue ih

end Dialogues

section Completion

theorem ends_interfaceStatus (inside : position < 3) : (interfaceStatus unit position).Ends := by
  refine ends_bind ends_send fun answer => ?_
  rw [Vector.getElem?_eq_getElem inside]
  exact ends_pure

theorem ends_recalibrateInterface (inside : position < 3) :
    (recalibrateInterface timeouts unit position target).Ends := by
  have asks : (interfaceStatus unit position).Ends := ends_interfaceStatus inside
  refine ends_bind asks fun status => ?_
  -- On the retries left, each of which ends with one more question for the status.
  generalize maxRetries = left
  induction left generalizing status with
  | zero =>
    unfold recalibrateInterface.go
    split
    · exact ends_pure
    · exact ends_bind ends_log fun _ => ends_throw
  | succ left ih =>
    have looks : (idle unit).Returns := fun _ => trivial
    unfold recalibrateInterface.go
    split
    · exact ends_pure
    · refine ends_bind ends_log fun _ => ends_bind ends_send fun _ =>
        ends_bind (ends_program (Program.returns_await looks)) fun free => ?_
      split
      · exact ends_bind ends_log fun _ => ends_bind asks ih
      · exact ends_bind asks ih

end Completion

end BringUp.Iossm
