import BringUp.Proofs.Dram.Rehearsal
import BringUp.Proofs.Iossm.MemoryInit

/-! Detection of a bring-up that did not complete. Main statement: the next bring-up finds the
progress bit set exactly if the last one failed, and then initializes memory with error correction
again. -/
namespace BringUp.Dram

open Iossm (Subsystem Sequence Supervision)
open SystemManager (progress inProgress)

variable {mailboxes : Nat} {table : List Word} {blob : DeviceTree.Bytes} {options : Options}
  {trace : Trace} {initial : Word}

/-- What a bring-up makes of the progress register, if that holds `initial` before. -/
structure ProgressMarked (initial : Word) (trace : Trace) (result : Option (Except Error Ram)) :
    Prop where
  /-- The register is read, and only then the first store of the trace sets the bit. -/
  sampled : ∃ before between after : Trace,
    trace = before ++ ⟨.load progress, initial⟩ ::
      (between ++ ⟨.store progress (initial ||| 1), ()⟩ :: after) ∧
    before.stores = [] ∧ between.stores = []
  /-- After a success the last store of the trace has cleared the bit. -/
  completed : ∀ ram, result = some (.ok ram) →
    trace.stores.getLast? = some (progress, initial &&& ~~~1) ∧
      trace.content progress initial = initial &&& ~~~1
  /-- After a failure the bit is still set. -/
  failed : ∀ cause, result = some (.error cause) →
    trace.content progress initial = initial ||| 1

theorem put_inProgress_true : inProgress.put true initial = initial ||| 1 := rfl

theorem put_inProgress_false : inProgress.put false initial = initial &&& ~~~1 := rfl

theorem start_marks {found : Start} (run : Runs start trace (some found))
    (tracks : trace.Tracks progress initial) :
    ∃ before between : Trace, trace = before ++ ⟨.load progress, initial⟩ ::
        (between ++ [⟨.store progress (initial ||| 1), ()⟩]) ∧
      before.stores = [] ∧ between.stores = [] ∧ found.hung = initial.getLsbD 0 ∧
      trace.content progress initial = initial ||| 1 := by
  obtain ⟨record, sample, current, rfl, same⟩ := runs_start run
  cases same
  obtain rfl : sample = initial := tracks [_] sample _ rfl
  obtain rfl : current = sample := tracks [_, _, _] current _ rfl
  exact ⟨[_], [_, _], rfl, rfl, rfl, rfl, rfl⟩

theorem prepareEcc_keeps_progress {timeouts : Iossm.Timeouts} {found : Start}
    {surveyed prepared : Subsystem} {result : Except Iossm.Error Unit}
    (run : (prepareEcc mailboxes timeouts found).Performs surveyed trace result prepared) :
    trace.content progress initial = initial :=
  Trace.content_of_allowed (Runs.uses run (prepareEcc_uses surveyed)) fun _ h => h

theorem verifySize_keeps_progress {banks : List Bank} {size : Nat}
    {result : Option (Except SizeError Nat)} (run : Runs (verifySize banks size) trace result) :
    trace.content progress initial = initial :=
  Trace.content_of_allowed (run.uses verifySize_uses) fun _ h => h

/-- The last store of a bring-up clears the bit. -/
theorem finish_marks {layout : Layout} (run : Runs (finish options layout) trace (some ()))
    (tracks : trace.Tracks progress (initial ||| 1)) :
    trace.stores.getLast? = some (progress, initial &&& ~~~1) ∧
      trace.content progress (initial ||| 1) = initial &&& ~~~1 := by
  obtain ⟨opening, current, rfl, opened⟩ := runs_finish run
  have kept : Trace.content progress (initial ||| 1) opening = initial ||| 1 := by
    refine Trace.content_of_allowed opened fun value => ?_
    rintro (h | h)
    · exact not_isFirewall progress (by simp) h
    · exact absurd h.1 (by decide)
  obtain rfl : current = initial ||| 1 := (tracks opening current _ rfl).trans kept
  rw [← put_inProgress_true, Flag.put_put, put_inProgress_true, put_inProgress_false]
  refine ⟨?_, ?_⟩
  · rw [Trace.stores_append, List.getLast?_append]
    rfl
  · rw [Trace.content_append]
    rfl

/-- Between the start and the opening of the firewalls the register is left alone. -/
theorem course_middle {result : Except Error Ram} (unnamed : ¬ NamedBySettings blob progress)
    (course : Course mailboxes table blob options trace result) :
    ∃ opening found middle, Runs start opening (some found) ∧
      (∀ word, Trace.content progress word middle = word) ∧
      ((∃ cause, result = .error cause ∧ trace = opening ++ middle) ∨
        ∃ ram layout finishing, result = .ok ram ∧ trace = opening ++ middle ++ finishing ∧
          Runs (finish options layout) finishing (some ())) := by
  cases course with
  | @surveyFails opening surveying found cause started failed =>
    exact ⟨opening, found, surveying, started, fun _ => survey_keeps_content (by decide) unnamed failed,
      .inl ⟨cause, rfl, rfl⟩⟩
  | @eccFails opening surveying preparing found _ _ _ cause started passed failed =>
    refine ⟨opening, found, surveying ++ preparing, started, fun _ => ?_, .inl ⟨_, rfl, rfl⟩⟩
    rw [Trace.content_append, survey_keeps_content (by decide) unnamed passed,
      prepareEcc_keeps_progress failed]
  | @sizeFails opening surveying preparing checking found _ _ _ cause started passed ready failed =>
    refine ⟨opening, found, surveying ++ (preparing ++ checking), started, fun _ => ?_,
      .inl ⟨_, rfl, rfl⟩⟩
    rw [Trace.content_append, survey_keeps_content (by decide) unnamed passed, Trace.content_append,
      prepareEcc_keeps_progress ready, verifySize_keeps_progress failed]
  | @completes opening surveying preparing checking finishing found layout _ _ _ started passed
      ready verified finished =>
    refine ⟨opening, found, surveying ++ (preparing ++ checking), started, fun _ => ?_,
      .inr ⟨_, layout, finishing, rfl, by simp, finished⟩⟩
    rw [Trace.content_append, survey_keeps_content (by decide) unnamed passed, Trace.content_append,
      prepareEcc_keeps_progress ready, verifySize_keeps_progress verified]

theorem progress_sampled {result : Option (Except Error Ram)}
    (run : Runs (bringUp mailboxes table blob options).run trace result)
    (tracks : trace.Tracks progress initial) :
    ∃ before between after : Trace,
      trace = before ++ ⟨.load progress, initial⟩ ::
        (between ++ ⟨.store progress (initial ||| 1), ()⟩ :: after) ∧
      before.stores = [] ∧ between.stores = [] := by
  obtain ⟨opening, rest, found, rfl, started, _⟩ := bringUp_starts run
  obtain ⟨before, between, rfl, quiet, still, -, -⟩ := start_marks started tracks.left
  exact ⟨before, between, rest, by simp, quiet, still⟩

theorem progress_marked {result : Option (Except Error Ram)}
    (unnamed : ¬ NamedBySettings blob progress)
    (run : Runs (bringUp mailboxes table blob options).run trace result)
    (tracks : trace.Tracks progress initial) : ProgressMarked initial trace result := by
  refine ⟨progress_sampled run tracks, ?_, ?_⟩
  · intro ram success
    subst success
    obtain ⟨opening, found, middle, started, quiet, h⟩ := course_middle unnamed (bringUp_course run)
    obtain ⟨cause, same, -⟩ | ⟨_, layout, finishing, -, rfl, finished⟩ := h
    · cases same
    obtain ⟨-, -, -, -, -, -, marked⟩ := start_marks started tracks.left.left
    have set : (opening ++ middle).content progress initial = initial ||| 1 := by
      rw [Trace.content_append, marked, quiet]
    obtain ⟨cleared, content⟩ := finish_marks finished (set ▸ tracks.right)
    rw [Trace.stores_append, List.getLast?_append, cleared, Trace.content_append, set, content]
    exact ⟨rfl, rfl⟩
  · intro cause failure
    subst failure
    obtain ⟨opening, found, middle, started, quiet, h⟩ := course_middle unnamed (bringUp_course run)
    obtain ⟨_, -, rfl⟩ | ⟨_, _, _, same, -⟩ := h
    · obtain ⟨-, -, -, -, -, -, marked⟩ := start_marks started tracks.left
      rw [Trace.content_append, marked, quiet]
    · cases same

/-- What a survey records is backed by mailboxes, and only an interface is the reason for error
correction. -/
theorem survey_backed {layout : Layout} {surveyed : Subsystem}
    (run : Runs (survey mailboxes table blob options).run trace (some (.ok (layout, surveyed)))) :
    surveyed.instances.length ≤ mailboxes ∧
      (surveyed.ecc = true → ∃ interfaces ∈ surveyed.targets, interfaces ≠ []) := by
  cases survey_course run with
  | mk _ _ _ _ _ asked =>
    obtain ⟨enough, same, reason⟩ := Iossm.readEcc_ok asked
    have size := congrArg List.length same
    simp only [Subsystem.targets, List.length_map] at size
    rw [size, same]
    exact ⟨enough, reason⟩

/-- After a bring-up that did not complete, memory with error correction is initialized, whatever
the reset record says. -/
theorem complete_initializes {found : Start} {layout : Layout} {surveyed : Subsystem}
    {result : Option (Except Error Ram)} (hung : found.hung = true) (ecc : surveyed.ecc = true)
    (enough : surveyed.instances.length ≤ mailboxes)
    (reason : ∃ interfaces ∈ surveyed.targets, interfaces ≠ [])
    (run : Runs (complete mailboxes options found layout surveyed).run trace result) :
    ∃ unit target answer, (unit, Iossm.startCommand target, answer) ∈ trace.requests := by
  obtain ⟨unit, target, asks⟩ := Iossm.initializeMemory_asks options.timeouts enough reason
  have lost (ocramError ddrError : Bool) :
      contentLost found.resetType ocramError ddrError found.hung = true := by
    simp [contentLost, hung]
  rw [complete, ExceptT.run_bind, run_stage, Program.bind_eq, Program.bind_assoc,
    perform_prepareEcc ecc] at run
  obtain ⟨_, _, rfl, run₁⟩ := Runs.ask_iff.1 run
  obtain ⟨_, _, rfl, run₂⟩ := Runs.ask_iff.1 run₁
  dsimp only at run₂
  rw [if_pos (lost _ _), Sequence.perform_bind, Program.bind_assoc] at run₂
  obtain ⟨answer, _, rfl⟩ := run₂.asks asks.bind
  exact ⟨unit, target, answer, Trace.mem_requests.2 (by simp)⟩

/-- What a bring-up that follows one with the result `returned` knows about it. -/
structure HangDetected (mailboxes : Nat) (table : List Word) (blob : DeviceTree.Bytes)
    (options : Options) (returned : Except Error Ram) (later : Trace) : Prop where
  /-- It finds the bit set exactly if the last one failed. -/
  found : ∃ found, Started later found ∧ (found.hung = true ↔ ∃ cause, returned = .error cause)
  /-- After a failure it initializes memory with error correction. -/
  initialized : ∀ cause, returned = .error cause → ∀ found layout surveyed rest,
    Surveyed mailboxes table blob options found layout surveyed later rest →
      surveyed.ecc = true →
        ∃ unit target answer, (unit, Iossm.startCommand target, answer) ∈ later.requests

/-- A bring-up marks its progress, and the next one on the same progress register knows from it
whether the last one failed. -/
theorem hang_detected {result : Option (Except Error Ram)}
    (unnamed : ¬ NamedBySettings blob progress)
    (run : Runs (bringUp mailboxes table blob options).run trace result)
    (tracks : trace.Tracks progress initial) :
    ProgressMarked initial trace result ∧
      ∀ returned, result = some returned →
        ∀ mailboxes' table' blob' options' (later : Trace) result',
          Runs (bringUp mailboxes' table' blob' options').run later result' →
          later.Tracks progress (trace.content progress initial) →
            HangDetected mailboxes' table' blob' options' returned later := by
  have marked := progress_marked unnamed run tracks
  refine ⟨marked, ?_⟩
  rintro returned rfl mailboxes' table' blob' options' later result' laterRun laterTracks
  have hung : (trace.content progress initial).getLsbD 0 = true ↔
      ∃ cause, returned = .error cause := by
    cases returned with
    | ok ram => simp [(marked.completed ram rfl).2]
    | error cause => simp [marked.failed cause rfl]
  refine ⟨?_, ?_⟩
  · obtain ⟨opening, rest, found, rfl, started, _⟩ := bringUp_starts laterRun
    obtain ⟨_, _, _, _, _, same, _⟩ := start_marks started laterTracks.left
    exact ⟨found, ⟨opening, rest, rfl, started⟩, same ▸ hung⟩
  · intro cause failure found layout surveyed rest course ecc
    subst failure
    have left := course.rest laterRun
    cases course with
    | mk started passed =>
      obtain ⟨_, _, _, _, _, same, _⟩ := start_marks started laterTracks.left
      obtain ⟨enough, reason⟩ := survey_backed passed
      obtain ⟨unit, target, answer, member⟩ :=
        complete_initializes (same.trans (hung.2 ⟨cause, rfl⟩)) ecc enough (reason ecc) left
      exact ⟨unit, target, answer, by simp [member]⟩

/-- A board that fails its size check after a warm reset is initialized after the next one. -/
theorem hang_detected_after_mismatch :
    let first := Rehearsal.bringUp.trace (Rehearsal.serve fun _ => 0)
      (Rehearsal.afterWarmReset 0x12345678)
    let later := Rehearsal.bringUp.trace (Rehearsal.serve id) Rehearsal.afterHang
    ProgressMarked 0x12345678 first (some (.error (.sizeCheck (.mismatch 0x40000000 0)))) ∧
      (∃ found, Started later found ∧ found.hung = true) ∧
      ∃ unit target answer, (unit, Iossm.startCommand target, answer) ∈ later.requests := by
  intro first later
  have result : (Rehearsal.bringUp.run (Rehearsal.serve fun _ => 0)
      (Rehearsal.afterWarmReset 0x12345678)).1 =
        some (.error (.sizeCheck (.mismatch 0x40000000 0))) := by decide +kernel
  have run := Runs.of_run (Rehearsal.serve fun _ => 0) Rehearsal.bringUp
    (Rehearsal.afterWarmReset 0x12345678)
  rw [result] at run
  have tracks : first.Tracks progress 0x12345678 := Rehearsal.tracks _ progress
  obtain ⟨marked, next⟩ := hang_detected Rehearsal.not_namedBySettings run tracks
  have laterTracks : later.Tracks progress (first.content progress 0x12345678) := by
    rw [marked.failed _ rfl]
    exact Rehearsal.tracks _ progress
  have detected := next _ rfl _ _ _ _ later _ (Runs.of_run _ _ _) laterTracks
  obtain ⟨found, started, hung⟩ := detected.found
  obtain ⟨rest, course⟩ := Surveyed.of_run Rehearsal.start_afterHang Rehearsal.survey_afterHang
  exact ⟨marked, ⟨found, started, hung.2 ⟨_, rfl⟩⟩, detected.initialized _ rfl _ _ _ _ course rfl⟩

end BringUp.Dram
