import BringUp.Proofs.Dram.Closed
import BringUp.Proofs.Dram.Inventory
import BringUp.Proofs.Dram.Rehearsal
import BringUp.Proofs.Iossm.MemoryInit

/-! The content of memory with error correction. Main statement: before it is read for the first
time, either nothing went wrong before a warm or cold reset, or all of its interfaces were
initialized. -/
namespace BringUp.Dram

open Iossm (Subsystem Sequence Supervision Initialized)
open SystemManager (resetRecord progress)

variable {mailboxes : Nat} {table : List Word} {blob : DeviceTree.Bytes} {options : Options}
  {trace before rest : Trace} {record : Word}

/-- The content of the memory was kept: the reset record, which was `record` at first, tells about
no error, the progress bit was clear before anything was written, and the last reset was a warm or
a cold one. -/
structure ContentKept (blob : DeviceTree.Bytes) (record : Word) (before : Trace) : Prop where
  /-- No double bit error in the on-chip RAM. -/
  ocram : (before.content resetRecord record).getLsbD 31 = false
  /-- No double bit error in the DDR memory. -/
  ddr : (before.content resetRecord record).getLsbD 30 = false
  unchanged : ¬ NamedBySettings blob resetRecord → before.content resetRecord record = record
  notHung : ∃ (first : Trace) (sample : Word) (later : Trace),
    before = first ++ ⟨.load progress, sample⟩ :: later ∧ first.stores = [] ∧
      sample.getLsbD 0 = false
  reset : ResetType.ofRecord? record = some .warm ∨ ResetType.ofRecord? record = some .cold

/-- The content of the memory was initialized: each interface of each instance in use has had its
dialogue, before the first probe and before the firewalls were opened. -/
structure ContentInitialized (table : List Word) (blob : DeviceTree.Bytes) (before rest : Trace) :
    Prop where
  /-- All instances that the handoff puts to use have described their interfaces. -/
  listed : ∃ word, table[Configuration.tableIndex]? = some word ∧
    before.listed = List.range (Configuration.ofWord word).instanceCount
  dialogues : ∃ dialogues, List.Forall₂ Initialized before.interfaces dialogues ∧
    before.requestsOf initOpcodes = dialogues.flatten
  finished : rest.requestsOf initOpcodes = []
  /-- The memory was not probed, and no firewall written but for settings of the device tree. -/
  closed : ∀ event ∈ before, LeavesClosed blob event.op

/-- The content is kept exactly if no error is recorded, the last bring-up was completed and the
reset type allows it. -/
theorem contentLost_eq_false {resetType : Option ResetType} {ocramError ddrError hung : Bool} :
    contentLost resetType ocramError ddrError hung = false ↔
      ocramError = false ∧ ddrError = false ∧ hung = false ∧
        (resetType = some .warm ∨ resetType = some .cold) := by
  simp only [contentLost, Bool.or_eq_false_iff, Bool.not_eq_false', Bool.or_eq_true, beq_iff_eq,
    and_assoc]

theorem commandless_after_prepareEcc {found : Start} {layout : Layout}
    {surveyed prepared : Subsystem} {preparing : Trace} {result : Option (Except Error Ram)}
    (ready : (prepareEcc mailboxes options.timeouts found).Performs surveyed preparing (.ok ())
      prepared)
    (run : Runs (complete mailboxes options found layout surveyed).run (preparing ++ rest) result) :
    ∀ event ∈ rest, Commandless event.op := by
  have left := run.run_rest (stage_ok_iff.2 ready)
  refine left.uses (Program.uses_run_bind ?_ fun _ _ =>
    Program.uses_run_bind (Program.uses_run_program finish_commandless) fun _ _ => trivial)
  exact Program.uses_bind verifySize_commandless fun _ _ => trivial

/-- What error correction needs has happened when it is prepared: either the content may be kept
and nothing is sent, or every recorded interface has its dialogue. -/
theorem prepareEcc_ok {timeouts : Iossm.Timeouts} {found : Start} {surveyed prepared : Subsystem}
    (ecc : surveyed.ecc = true)
    (run : (prepareEcc mailboxes timeouts found).Performs surveyed trace (.ok ()) prepared) :
    ∃ first second later, trace = ⟨.load resetRecord, first⟩ :: ⟨.load resetRecord, second⟩ :: later ∧
      (contentLost found.resetType (SystemManager.ResetRecord.ocramError.read first)
          (SystemManager.ResetRecord.ddrError.read second) found.hung = false ∧
        trace.requests = [] ∨
      ∃ dialogues, List.Forall₂ Initialized (Iossm.interfacesOf surveyed.targets) dialogues ∧
        trace.requests = dialogues.flatten) := by
  rw [Sequence.Performs, perform_prepareEcc ecc] at run
  obtain ⟨first, _, rfl, run₁⟩ := Runs.ask_iff.1 run
  obtain ⟨second, later, rfl, run₂⟩ := Runs.ask_iff.1 run₁
  refine ⟨first, second, later, rfl, ?_⟩
  cases lost : contentLost found.resetType (SystemManager.ResetRecord.ocramError.read first)
      (SystemManager.ResetRecord.ddrError.read second) found.hung with
  | false =>
    simp only [lost, Bool.false_eq_true, if_false] at run₂
    obtain ⟨rfl, -, -⟩ := Sequence.performs_log.1 run₂
    exact .inl ⟨rfl, rfl⟩
  | true =>
    simp only [lost, if_true] at run₂
    obtain ⟨initializing, _, _, _, rfl, initialized, told⟩ := Sequence.performs_bind_ok.1 run₂
    obtain ⟨rfl, -, -⟩ := Sequence.performs_log.1 told
    obtain ⟨dialogues, each, sent⟩ := Iossm.initializeMemory_ok initialized
    refine .inr ⟨dialogues, each, ?_⟩
    rw [← sent]
    change Trace.requests (initializing ++ _) = _
    rw [Trace.requests_append]
    exact List.append_nil _

theorem start_reads_record {opening : Trace} {found : Start}
    (started : Runs start opening (some found)) (tracks : opening.Tracks resetRecord record) :
    opening.content resetRecord record = record ∧
      found.resetType = ResetType.ofRecord? record := by
  obtain ⟨word, sample, current, rfl, same⟩ := runs_start started
  cases same
  obtain rfl : word = record := tracks.head
  refine ⟨Trace.content_of_stores_ne fun store member => ?_, rfl⟩
  obtain rfl := List.mem_singleton.1 member
  exact (by decide : progress ≠ resetRecord)

theorem reads_record {first second : Word} {later : Trace}
    (stores : Trace.stores
      (⟨.load resetRecord, first⟩ :: ⟨.load resetRecord, second⟩ :: later) = [])
    (tracks : Trace.Tracks resetRecord record (before ++
      ⟨.load resetRecord, first⟩ :: ⟨.load resetRecord, second⟩ :: later)) :
    Trace.content resetRecord record (before ++
        ⟨.load resetRecord, first⟩ :: ⟨.load resetRecord, second⟩ :: later) =
          before.content resetRecord record ∧
      first = before.content resetRecord record ∧ second = before.content resetRecord record := by
  refine ⟨?_, tracks before first _ rfl, ?_⟩
  · rw [Trace.content_append]
    exact Trace.content_of_stores_ne (by simp [stores])
  · have sampled := tracks (before ++ [⟨.load resetRecord, first⟩]) second later (by simp)
    rwa [Trace.content_append] at sampled

section Prepared

variable {opening surveying preparing : Trace} {found : Start} {layout : Layout}
  {surveyed prepared : Subsystem}
  (started : Runs start opening (some found))
  (passed : Runs (survey mailboxes table blob options).run surveying
    (some (.ok (layout, surveyed))))
  (ready : (prepareEcc mailboxes options.timeouts found).Performs surveyed preparing (.ok ())
    prepared)

include started passed ready

theorem initRequests_of_ready {result : Option (Except Error Ram)}
    (run : Runs (bringUp mailboxes table blob options).run
      (opening ++ (surveying ++ preparing) ++ rest) result) :
    Trace.requestsOf initOpcodes (opening ++ (surveying ++ preparing)) = preparing.requests ∧
      rest.requestsOf initOpcodes = [] := by
  have openingSilent : opening.requestsOf initOpcodes = [] := by
    obtain ⟨_, _, _, rfl, -⟩ := runs_start started
    rfl
  have surveyingSilent : surveying.requestsOf initOpcodes = [] :=
    Trace.requestsOf_of_allowed (passed.uses survey_uses) fun _ _ h => h
  have preparingOnly : preparing.requestsOf initOpcodes = preparing.requests := by
    refine Trace.requestsOf_eq_requests ?_
    rintro ⟨unit, command, answer⟩ member
    exact Runs.uses ready (prepareEcc_uses surveyed) _ (Trace.mem_requests.1 member)
  refine ⟨?_, ?_⟩
  · rw [Trace.requestsOf_append, Trace.requestsOf_append, openingSilent, surveyingSilent,
      preparingOnly]
    rfl
  · rw [List.append_assoc, List.append_assoc] at run
    have left := (Surveyed.mk started passed).rest run
    exact Trace.requestsOf_of_allowed (commandless_after_prepareEcc ready left) fun _ _ h => h.elim

theorem contentKept_of_not_lost {first second : Word} {later : Trace}
    (tracks : Trace.Tracks resetRecord record (opening ++ (surveying ++ preparing)))
    (reads : preparing = ⟨.load resetRecord, first⟩ :: ⟨.load resetRecord, second⟩ :: later)
    (kept : contentLost found.resetType (SystemManager.ResetRecord.ocramError.read first)
      (SystemManager.ResetRecord.ddrError.read second) found.hung = false) :
    ContentKept blob record (opening ++ (surveying ++ preparing)) := by
  have stores : Trace.stores preparing = [] :=
    Trace.stores_eq_nil (Runs.uses ready (prepareEcc_uses surveyed)) fun _ _ h => h
  obtain ⟨same, resetType⟩ := start_reads_record started tracks.left
  rw [reads] at stores
  rw [← List.append_assoc, reads] at tracks ⊢
  obtain ⟨content, ocram, ddr⟩ := reads_record stores tracks
  obtain ⟨noOcramError, noDdrError, notHung, reset⟩ := contentLost_eq_false.1 kept
  refine ⟨?_, ?_, fun unnamed => ?_, ?_, resetType ▸ reset⟩
  · rw [content, ← ocram]
    exact noOcramError
  · rw [content, ← ddr]
    exact noDdrError
  · rw [content, Trace.content_append, survey_keeps_content (by decide) unnamed passed, same]
  · obtain ⟨word, sample, current, rfl, found⟩ := runs_start started
    cases found
    exact ⟨[⟨.load resetRecord, word⟩], sample, _, rfl, rfl, notHung⟩

theorem contentInitialized_of_dialogues {dialogues : List (List Request)}
    (each : List.Forall₂ Initialized (Iossm.interfacesOf surveyed.targets) dialogues)
    (sent : Trace.requestsOf initOpcodes (opening ++ (surveying ++ preparing)) = dialogues.flatten)
    (finished : rest.requestsOf initOpcodes = []) :
    ContentInitialized table blob (opening ++ (surveying ++ preparing)) rest := by
  obtain ⟨⟨word, handoff, inventory, -⟩, -, -⟩ := survey_inventoried passed
  have inventoried := inventory.frame (start_quiet started).1
    (supervision_uninformed ready prepareEcc_uses (by decide))
  have closed := closed_of_reachesSizeCheck (.mk started passed ready)
  refine ⟨⟨word, handoff, inventoried.listed⟩, ⟨dialogues, ?_, sent⟩, finished, closed⟩
  rw [inventoried.interfaces]
  exact each

end Prepared

/-- When a bring-up comes to the size check of memory with error correction, the content was kept
and no command of an initialization is ever sent, or the content is initialized. Without error
correction there is no such command. Only after that point is the memory probed or opened. -/
theorem ecc_content_ready {result : Option (Except Error Ram)}
    (run : Runs (bringUp mailboxes table blob options).run trace result)
    (tracks : trace.Tracks resetRecord record) :
    (∀ surveyed before rest, trace = before ++ rest →
      ReachesSizeCheck mailboxes table blob options surveyed before → surveyed.ecc = true →
        ContentKept blob record before ∧ trace.requestsOf initOpcodes = [] ∨
        ContentInitialized table blob before rest) ∧
    (∀ found layout surveyed rest,
      Surveyed mailboxes table blob options found layout surveyed trace rest →
        surveyed.ecc = false → trace.requestsOf initOpcodes = []) ∧
    ∀ event ∈ trace, ¬ LeavesClosed blob event.op →
      ∃ surveyed before rest, trace = before ++ rest ∧
        ReachesSizeCheck mailboxes table blob options surveyed before ∧ event ∈ rest := by
  refine ⟨?_, ?_, ?_⟩
  · intro surveyed before rest split reached ecc
    subst split
    cases reached with
    | @mk opening surveying preparing found layout _ prepared started passed ready =>
      obtain ⟨preparation, finished⟩ := initRequests_of_ready started passed ready run
      obtain ⟨first, second, later, reads, ⟨kept, silent⟩ | ⟨dialogues, each, sent⟩⟩ :=
        prepareEcc_ok ecc ready
      · left
        refine ⟨contentKept_of_not_lost started passed ready tracks.left reads kept, ?_⟩
        rw [Trace.requestsOf_append, preparation, finished, silent]
        rfl
      · right
        exact contentInitialized_of_dialogues started passed ready each (preparation.trans sent)
          finished
  · intro found layout surveyed rest course ecc
    cases course with
    | @mk opening surveying _ _ _ _ started passed =>
      have ready : (prepareEcc mailboxes options.timeouts found).Performs surveyed [] (.ok ())
          surveyed := by
        rw [Sequence.Performs, perform_prepareEcc_of_not_ecc ecc]
        exact .done _
      have whole : opening ++ (surveying ++ rest) = opening ++ (surveying ++ []) ++ rest := by simp
      rw [whole] at run ⊢
      obtain ⟨preparation, finished⟩ := initRequests_of_ready started passed ready run
      rw [Trace.requestsOf_append, preparation, finished]
      rfl
  · intro event member opens
    obtain ⟨surveyed, before, rest, rfl, reached⟩ | closed := reachesSizeCheck_or_closed run
    · refine ⟨surveyed, before, rest, rfl, reached, (List.mem_append.1 member).resolve_left ?_⟩
      exact fun early => opens (closed_of_reachesSizeCheck reached event early)
    · exact absurd (closed event member) opens

/-- After a bring-up that did not complete, the content of the board is initialized, although the
last reset was a warm one. -/
theorem ecc_content_ready_after_hang : ∃ before rest : Trace,
    Rehearsal.bringUp.trace (Rehearsal.serve id) Rehearsal.afterHang = before ++ rest ∧
      ContentInitialized Rehearsal.table Rehearsal.blob before rest := by
  have sends : Trace.requestsOf initOpcodes
      (Rehearsal.bringUp.trace (Rehearsal.serve id) Rehearsal.afterHang) ≠ [] := by
    decide +kernel
  obtain ⟨before, rest, split, reached⟩ := ReachesSizeCheck.of_run Rehearsal.start_afterHang
    Rehearsal.survey_afterHang Rehearsal.prepareEcc_afterHang
  have ready := ecc_content_ready
    (Runs.of_run (Rehearsal.serve id) Rehearsal.bringUp Rehearsal.afterHang)
    (Rehearsal.tracks _ resetRecord)
  have content := ready.1 Rehearsal.described before rest split reached rfl
  exact ⟨before, rest, split, content.resolve_left fun kept => sends kept.2⟩

/-- A device tree as that of the board, but with a setting for the enable register of the first
firewall. -/
def Rehearsal.namedFirewall : DeviceTree.Bytes :=
  [0xd0, 0x0d, 0xfe, 0xed, 0, 0, 0, 202, 0, 0, 0, 40, 0, 0, 0, 176, 0, 0, 0, 0, 0, 0, 0, 17,
    0, 0, 0, 16, 0, 0, 0, 0, 0, 0, 0, 26, 0, 0, 0, 136] ++
  [0, 0, 0, 1, 0, 0, 0, 0] ++
  [0, 0, 0, 1] ++ [115, 111, 99, 102, 112, 103, 97, 45, 115, 101, 99, 114, 101, 103, 45, 99, 99,
    117, 45, 105, 110, 116, 101, 114, 108, 101, 97, 118, 105, 110, 103, 45, 111, 102, 102, 0] ++
  [0, 0, 0, 1, 97, 0, 0, 0] ++
  [0, 0, 0, 3, 0, 0, 0, 12, 0, 0, 0, 0] ++ [0, 0, 0, 0, 0x18, 0, 8, 0, 0, 0, 1, 0] ++
  [0, 0, 0, 3, 0, 0, 0, 12, 0, 0, 0, 4] ++ [0, 0, 0, 4, 0, 0, 0, 1, 0, 0, 0, 1] ++
  [0, 0, 0, 2] ++ [0, 0, 0, 2] ++
  [0, 0, 0, 1] ++ [109, 101, 109, 111, 114, 121, 0, 0] ++ [0, 0, 0, 2] ++
  [0, 0, 0, 2] ++ [0, 0, 0, 9] ++
  [114, 101, 103, 0] ++ [105, 110, 116, 101, 108, 44, 111, 102, 102, 115, 101, 116, 45, 115, 101,
    116, 116, 105, 110, 103, 115, 0]

/-- Settings are carried out wherever they point to, and this one enables a region of a firewall
before the memory with error correction is initialized. -/
theorem opened_before_initialization :
    let course := (Dram.bringUp 1 Rehearsal.table Rehearsal.namedFirewall {}).run
    let trace := course.trace (Rehearsal.serve id) Rehearsal.afterHang
    (course.run (Rehearsal.serve id) Rehearsal.afterHang).1 = some (.ok
        ⟨0x80000000, 0x40000000, [⟨0x80000000, 0x40000000⟩], .ddr5, true⟩) ∧
      trace.Tracks resetRecord (Rehearsal.afterHang resetRecord) ∧
      ∃ first second, trace = first ++ second ∧ (Firewall.enableSet .dmi0, 1) ∈ first.stores ∧
        IsFirewall (Firewall.enableSet .dmi0) ∧
        first.requestsOf initOpcodes = [] ∧ second.requestsOf initOpcodes ≠ [] := by
  intro course trace
  refine ⟨by decide +kernel, Rehearsal.tracks _ resetRecord, trace.take 14, trace.drop 14,
    (List.take_append_drop 14 trace).symm, by decide +kernel, ⟨.dmi0, by decide⟩, ?_, ?_⟩
  · decide +kernel
  · decide +kernel

end BringUp.Dram
