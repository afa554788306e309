import BringUp.Proofs.Dram.Closed
import BringUp.Proofs.Dram.Opening
import BringUp.Proofs.Dram.Verification
import BringUp.Proofs.Iossm.MailboxFailure

/-! A bring-up that fails leaves the memory closed. Main statement: only one that succeeds writes to
the firewalls, after its last probe, and a command that fails is the last thing that a bring-up
does. -/
namespace BringUp.Dram

open Iossm (Subsystem Sequence Supervision MailboxError)
open Firewall (Dmi)

variable {mailboxes : Nat} {table : List Word} {blob : DeviceTree.Bytes} {options : Options}
  {trace : Trace}

theorem recoverCalibration_stops {timeouts : Iossm.Timeouts} :
    (recoverCalibration mailboxes timeouts).StopsAtFailure := by
  have recalibration : Sequence.StopsAtFailure (do
      if !(← get).calibrated then
        Program.log .info "DDR: re-calibration in progress"
        Iossm.recalibrate mailboxes timeouts) := by
    apply Sequence.stops_bind Sequence.stops_get
    intro _
    split
    · exact Sequence.stops_bind Sequence.stops_log fun _ => Iossm.recalibrate_stops
    · exact Sequence.stops_pure
  apply Sequence.stops_bind
  · exact Sequence.stops_of_uses (Sequence.uses_program ⟨.inr rfl, fun _ => trivial⟩)
  · intro flagged
    dsimp only
    split
    · exact Sequence.stops_bind Sequence.stops_modify fun _ => recalibration
    · exact recalibration

theorem calibrateAndMeasure_stops {timeouts : Iossm.Timeouts} :
    (calibrateAndMeasure mailboxes timeouts).StopsAtFailure := by
  apply Sequence.stops_bind Iossm.checkCalibration_stops
  intro _
  apply Sequence.stops_bind Iossm.discoverInterfaces_stops
  intro _
  apply Sequence.stops_bind recoverCalibration_stops
  intro _
  apply Sequence.stops_bind Sequence.stops_log
  intro _
  exact Sequence.stops_bind Iossm.readTechnology_stops fun _ => Iossm.readSizes_stops

theorem prepareEcc_stops {timeouts : Iossm.Timeouts} {found : Start} :
    (prepareEcc mailboxes timeouts found).StopsAtFailure := by
  apply Sequence.stops_bind Sequence.stops_get
  intro _
  split
  · apply Sequence.stops_bind
    · exact Sequence.stops_of_uses (Sequence.uses_program ⟨.inr rfl, fun _ => trivial⟩)
    intro ocramError
    apply Sequence.stops_bind
    · exact Sequence.stops_of_uses (Sequence.uses_program ⟨.inr rfl, fun _ => trivial⟩)
    intro ddrError
    dsimp only
    split
    · exact Sequence.stops_bind Iossm.initializeMemory_stops fun _ => Sequence.stops_log
    · exact Sequence.stops_log
  · exact Sequence.stops_pure

/-- The result names the mailbox whose command failed, and the cause. -/
def NamesMailbox {α : Type} (unit : Nat) (cause : MailboxError) (result : Except Error α) : Prop :=
  result = .error (.iossm (.mailbox unit cause))

theorem stage_stops {α : Type} {sequence : Sequence α} (stops : sequence.StopsAtFailure)
    (subsystem : Subsystem) : (stage sequence subsystem).run.StopsAtFailure NamesMailbox := by
  rw [run_stage]
  apply Program.stops_bind (stops subsystem)
  · intro outcome
    rcases outcome with ⟨cause | value, after⟩ <;> trivial
  · intro unit cause outcome same
    rcases outcome with ⟨result, after⟩
    obtain rfl : result = _ := same
    exact ⟨_, rfl, rfl⟩

theorem stops_of_silent {α : Type} {p : Program (Except Error α)} {allowed : Op → Prop}
    (uses : p.Uses allowed) (silent : ∀ unit command, ¬ allowed (.request unit command)) :
    p.StopsAtFailure NamesMailbox :=
  Program.stops_of_uses uses silent

theorem stops_program {α : Type} {p : Program α} {allowed : Op → Prop} (uses : p.Uses allowed)
    (silent : ∀ unit command, ¬ allowed (.request unit command)) :
    (liftM p : ExceptT Error Program α).run.StopsAtFailure NamesMailbox :=
  stops_of_silent (Program.uses_run_program uses) silent

theorem survey_stops : (survey mailboxes table blob options).run.StopsAtFailure NamesMailbox := by
  apply Program.stops_run_bind (stops_of_silent decodeHandoff_uses fun _ _ h => h)
  intro decoded
  have announcing : (announceModes decoded.1).Uses (Configuring blob) := announceModes_uses
  apply Program.stops_run_bind (stops_program announcing fun _ _ h => h)
  intro _
  apply Program.stops_run_bind (stops_of_silent setInterleaving_uses fun _ _ h => h)
  intro _
  apply Program.stops_run_bind (stage_stops calibrateAndMeasure_stops _)
  intro measured
  apply Program.stops_run_bind (stops_of_silent resolveLayout_uses fun _ _ h => h)
  intro layout
  have telling (text : String) : (Program.log .info text).Uses Program.Logging :=
    Program.uses_log trivial
  apply Program.stops_run_bind (stops_program (telling _) fun _ _ h => h)
  intro _
  apply Program.stops_run_bind (stage_stops Iossm.readEcc_stops _)
  intro surveyed
  trivial

/-- A command that fails is the last question of a bring-up. -/
theorem bringUp_stops : (bringUp mailboxes table blob options).run.StopsAtFailure NamesMailbox := by
  apply Program.stops_run_bind (stops_program start_commandless fun _ _ h => h)
  intro found
  apply Program.stops_run_bind survey_stops
  rintro ⟨layout, surveyed⟩
  apply Program.stops_run_bind (stage_stops prepareEcc_stops surveyed)
  rintro ⟨_, prepared⟩
  have checking : Program.StopsAtFailure NamesMailbox
      ((ExceptT.mk (verifySize layout.banks layout.size)).adapt Error.sizeCheck).run :=
    stops_of_silent (Program.uses_bind verifySize_commandless fun _ _ => trivial) fun _ _ h => h
  apply Program.stops_run_bind checking
  intro _
  apply Program.stops_run_bind (stops_program finish_commandless fun _ _ h => h)
  intro _
  trivial

/-- What was written to the firewalls when a bring-up succeeds. -/
structure Opened (options : Options) (ram : Ram) (trace : Trace) : Prop where
  /-- The region of every bank with memory is set and enabled on each DDR firewall. -/
  regions : ∀ index bank, ram.banks[index]? = some bank → bank.isEmpty = false →
    ∀ dmi, ∀ store ∈ regionStores index (firstOpen options.secureMonitor index bank) bank.last dmi,
      store ∈ trace.stores
  /-- There is such a bank. -/
  firewalls : ∀ dmi, ∃ index, (Firewall.enableSet dmi, regionEnable index) ∈ trace.stores
  registers : ∀ register ∈ [Firewall.mpfeIo96b 0, Firewall.mpfeIo96b 1, Firewall.mpfeNoc],
    (register, 1) ∈ trace.stores

/-- The end of a bring-up opens the memory whose size was checked. -/
theorem opened_of_finish {layout : Layout} {ram : Ram} (same : ram.banks = layout.banks)
    (few : layout.banks.length ≤ maxBanks)
    (populated : ∃ (index : Nat) (bank : Bank),
      layout.banks[index]? = some bank ∧ bank.isEmpty = false)
    (run : Runs (finish options layout) trace (some ())) : Opened options ram trace := by
  obtain ⟨current, stores⟩ := stores_finish run
  have regions : ∀ index bank, ram.banks[index]? = some bank → bank.isEmpty = false → ∀ dmi,
      ∀ store ∈ regionStores index (firstOpen options.secureMonitor index bank) bank.last dmi,
        store ∈ trace.stores := by
    intro index bank found filled dmi store written
    rw [stores]
    exact List.mem_append_left _
      ((mem_openingStores few).2 ⟨index, bank, dmi, same ▸ found, filled, written⟩)
  refine ⟨regions, fun dmi => ?_, fun register member => ?_⟩
  · have ⟨index, bank, found, filled⟩ := populated
    refine ⟨index, regions index bank (same ▸ found) filled dmi _ ?_⟩
    simp [regionStores]
  · rw [stores]
    simp only [List.mem_cons, List.not_mem_nil, or_false] at member
    simp only [List.mem_append, registerStores, List.mem_cons, Prod.mk.injEq, and_true]
    exact .inr (.inl (member.imp_right fun rest => rest.imp_right fun last => .inl last))

/-- A bring-up that fails leaves the memory closed. -/
theorem staysClosed_of_error {cause : Error}
    (run : Runs (bringUp mailboxes table blob options).run trace (some (.error cause))) :
    StaysClosed blob trace := by
  cases bringUp_course run with
  | surveyFails started failed =>
    exact staysClosed_append.2 ⟨staysClosed_of_leavesClosed (start_leavesClosed started),
      staysClosed_of_leavesClosed (survey_leavesClosed failed)⟩
  | eccFails started passed failed =>
    refine staysClosed_append.2 ⟨staysClosed_of_leavesClosed (start_leavesClosed started), ?_⟩
    refine staysClosed_append.2 ⟨staysClosed_of_leavesClosed (survey_leavesClosed passed), ?_⟩
    exact staysClosed_of_leavesClosed
      (prepareEcc_leavesClosed (stage_error_iff.2 ⟨_, _, rfl, failed⟩))
  | sizeFails started passed ready failed =>
    have reached := closed_of_reachesSizeCheck (.mk started passed ready)
    have checked : StaysClosed blob _ := verifySize_staysClosed failed
    have closed := staysClosed_append.2 ⟨staysClosed_of_leavesClosed reached, checked⟩
    simpa only [List.append_assoc] using closed

/-- Only a bring-up that succeeds opens the memory, after its last probe. A command that fails is
the last thing that a bring-up does, and the result names it. -/
theorem fail_stop {result : Option (Except Error Ram)}
    (run : Runs (bringUp mailboxes table blob options).run trace result) :
    (∀ cause, result = some (.error cause) → StaysClosed blob trace) ∧
    (∀ before unit command cause after,
      trace = before ++ ⟨.request unit command, .error cause⟩ :: after →
        after = [] ∧ result = some (.error (.iossm (.mailbox unit cause)))) ∧
    ∀ ram, result = some (.ok ram) → ∃ before opening, trace = before ++ opening ∧
      StaysClosed blob before ∧ opening.probes = [] ∧ Opened options ram opening := by
  refine ⟨?_, ?_, ?_⟩
  · intro cause failed
    subst failed
    exact staysClosed_of_error run
  · intro before unit command cause after split
    have ⟨last, value, known, named⟩ := run.ends_at_failure bringUp_stops split
    exact ⟨last, known.trans (congrArg some named)⟩
  · intro ram succeeded
    subst succeeded
    cases bringUp_opens run with
    | @mk before opening layout _ closed opens banks base few positive populated origin =>
      have unprobed := (finish_quiet opens).2
      exact ⟨before, opening, rfl, closed, unprobed, opened_of_finish banks few populated opens⟩

/-- If the mailbox does not accept the question for the size, that is the last question and nothing
is opened. If all questions are answered, the firewalls are opened. -/
theorem fail_stop_before_size :
    (StaysClosed Rehearsal.blob
        (Rehearsal.bringUp.trace (Rehearsal.serveWithout .width) Rehearsal.afterHang) ∧
      ∃ before, Rehearsal.bringUp.trace (Rehearsal.serveWithout .width) Rehearsal.afterHang =
        before ++ [⟨.request 0 ⟨⟨1, 0⟩, .memoryInfo, .width, Vector.replicate 7 0⟩,
          .error .notReady⟩]) ∧
    ∃ before opening, Rehearsal.bringUp.trace (Rehearsal.serve id) Rehearsal.afterHang =
        before ++ opening ∧
      Opened {} ⟨0x80000000, 0x40000000, [⟨0x80000000, 0x40000000⟩], .ddr5, true⟩ opening := by
  have failed := Runs.of_run (Rehearsal.serveWithout .width) Rehearsal.bringUp Rehearsal.afterHang
  have succeeded := Runs.of_run (Rehearsal.serve id) Rehearsal.bringUp Rehearsal.afterHang
  have error : (Rehearsal.bringUp.run (Rehearsal.serveWithout .width) Rehearsal.afterHang).1 =
      some (.error (.iossm (.mailbox 0 .notReady))) := by decide +kernel
  have result : (Rehearsal.bringUp.run (Rehearsal.serve id) Rehearsal.afterHang).1 =
      some (.ok ⟨0x80000000, 0x40000000, [⟨0x80000000, 0x40000000⟩], .ddr5, true⟩) := by
    decide +kernel
  have refused : (0, ⟨⟨1, 0⟩, .memoryInfo, .width, Vector.replicate 7 0⟩, .error .notReady) ∈
      Trace.requests (Rehearsal.bringUp.trace (Rehearsal.serveWithout .width)
        Rehearsal.afterHang) := by decide +kernel
  obtain ⟨before, after, split⟩ := List.append_of_mem (Trace.mem_requests.1 refused)
  have ⟨last, _⟩ := (fail_stop failed).2.1 before _ _ _ after split
  have ⟨early, opening, parts, _, _, opened⟩ := (fail_stop succeeded).2.2 _ result
  refine ⟨⟨(fail_stop failed).1 _ error, before, ?_⟩, early, opening, parts, opened⟩
  rw [split, last]

end BringUp.Dram
