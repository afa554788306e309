import BringUp.Proofs.Dram.Fabric
import BringUp.Proofs.Dram.Inventory
import BringUp.Proofs.Dram.Rehearsal
import BringUp.Proofs.Handoff.Reading

/-! Truncated handoff blobs. Main statement: a configuration is the one in the blob, unless the blob
ends before the configuration word. Then the word counts as zero, where an error is due. -/
namespace BringUp.Dram

open BringUp.Configuration (tableIndex)
open Handoff (declared dataWords headerBytes sdramAddress sdramMagic sdramLength WellFormed wordsAt)

variable {α : Type} {content : Nat → Word} {table other : List Word} {word : Word} {trace : Trace}
  {mailboxes : Nat} {blob : DeviceTree.Bytes} {options : Options}

/-- Reads the SDRAM table and goes on with it. -/
def fromMemory (use : List Word → ExceptT Error Program α) : ExceptT Error Program α := do
  use (← (ExceptT.mk Handoff.readSdram).adapt Error.handoff)

/-- The table in memory, decoded. -/
def decodeMemory : ExceptT Error Program (Configuration × Iossm.Subsystem) :=
  fromMemory fun table => ExceptT.mk (decodeHandoff table)

/-- The header of the SDRAM blob is that of a table. -/
def Accepted (content : Nat → Word) : Prop :=
  content sdramAddress = sdramMagic ∧ WellFormed (declared content sdramAddress)

/-- Number of data words in the SDRAM blob. -/
def sdramWords (content : Nat → Word) : Nat := dataWords (declared content sdramAddress)

/-- The blob has the header of a table, but ends before its last word. -/
def Truncated (content : Nat → Word) : Prop :=
  Accepted content ∧ sdramWords content < sdramLength

/-- What memory holds at the place of the configuration word. -/
def placedWord (content : Nat → Word) : Word :=
  content (sdramAddress + headerBytes + 4 * tableIndex)

/-- The configuration word of the table that is read. -/
def readWord (content : Nat → Word) : Word :=
  if sdramWords content < sdramLength then 0 else placedWord content

/-- What a configuration word is decoded into. -/
def decoded (word : Word) : Configuration × Iossm.Subsystem :=
  let configuration := Configuration.ofWord word
  (configuration, .fresh configuration.instanceCount configuration.portCount configuration.plls)

/-- A blob that is too short is refused, and a configuration is the one in the blob. -/
structure Faithful (content : Nat → Word)
    (result : Except Error (Configuration × Iossm.Subsystem)) : Prop where
  refused : content sdramAddress = sdramMagic → sdramWords content < sdramLength →
    ∃ cause, result = .error cause
  genuine : ∀ configuration fresh, result = .ok (configuration, fresh) →
    tableIndex < sdramWords content ∧ configuration = .ofWord (placedWord content)

/-- The entry of the table is a word of the blob, or the zero that was there before. -/
theorem readSdram_result {outcome : Option (Except HandoffError (List Word))}
    (shows : trace.Shows content) (run : Runs Handoff.readSdram trace outcome) :
    (¬ Accepted content ∧ ∃ cause, outcome = some (.error cause)) ∨
      Accepted content ∧ ∃ table, outcome = some (.ok table) ∧
        table[tableIndex]? = some (readWord content) := by
  obtain ⟨reading, rest, ⟨result, after⟩, rfl, read, ended⟩ | ⟨-, broken⟩ := Runs.bind_iff.1 run
  · obtain ⟨_, _, same, course⟩ := Handoff.read_course shows.left read
    cases same
    cases course with
    | foreign foreign =>
      exact .inl ⟨fun accepted => foreign accepted.1, _, (Runs.done_iff.1 ended).2⟩
    | malformed _ broken =>
      exact .inl ⟨fun accepted => broken accepted.2, _, (Runs.done_iff.1 ended).2⟩
    | @copied count known sound all =>
      refine .inr ⟨⟨known, sound⟩, _, (Runs.done_iff.1 ended).2, ?_⟩
      have copied : count = min (sdramWords content) sdramLength := all
      rw [readWord]
      split
      · next short =>
        have below : count ≤ tableIndex := by
          rw [copied, Nat.min_eq_left (Nat.le_of_lt short)]
          exact Nat.le_of_lt_succ short
        rw [List.getElem?_append_right (by simpa using below), Handoff.length_wordsAt,
          List.getElem?_drop, Nat.add_sub_cancel' below]
        rfl
      · next whole =>
        have inside : tableIndex < count := by
          rw [copied, Nat.min_eq_right (Nat.le_of_not_lt whole)]
          decide
        rw [List.getElem?_append_left (by simpa using inside), Handoff.getElem?_wordsAt inside]
        rfl
  · obtain ⟨_, _, same, -⟩ := Handoff.read_course shows broken
    cases same

theorem decodes_of_word (found : table[tableIndex]? = some word) :
    Decodes table (.ofWord word) := by
  have result : ((Configuration.ofTable table).run (fixedMemory fun _ => 0) ()).1 =
      some (.ok (Configuration.ofWord word)) := by
    unfold Configuration.ofTable
    rw [found]
    rfl
  exact ⟨_, Runs.of_run_eq _ _ result⟩

theorem runs_decodeHandoff_word {outcome : Option (Except Error (Configuration × Iossm.Subsystem))}
    (found : table[tableIndex]? = some word) (run : Runs (decodeHandoff table) trace outcome) :
    outcome = some (.ok (decoded word)) := by
  obtain ⟨_, _, -, rfl⟩ | ⟨none, -⟩ := runs_decodeHandoff run
  · obtain ⟨_, there, rfl, rfl⟩ := decodeHandoff_ok run
    cases found.symm.trans there
    rfl
  · exact absurd (decodes_of_word found) (none _)

/-- A bring-up makes use of the configuration word only. -/
theorem bringUp_congr (here : table[tableIndex]? = some word)
    (there : other[tableIndex]? = some word) :
    bringUp mailboxes table blob options = bringUp mailboxes other blob options := by
  have configuration : Configuration.ofTable table = Configuration.ofTable other := by
    unfold Configuration.ofTable
    rw [here, there]
  have decoding : decodeHandoff table = decodeHandoff other := by
    unfold decodeHandoff
    rw [configuration]
  unfold bringUp survey
  rw [decoding]

theorem decodeMemory_result {outcome : Option (Except Error (Configuration × Iossm.Subsystem))}
    (shows : trace.Shows content) (run : Runs decodeMemory.run trace outcome) :
    (¬ Accepted content ∧ ∃ cause, outcome = some (.error cause)) ∨
      Accepted content ∧ outcome = some (.ok (decoded (readWord content))) := by
  obtain ⟨first, second, _, rfl, reading, used⟩ | ⟨cause, rfl, failed⟩ | ⟨-, broken⟩ :=
    Runs.run_bind_iff.1 run
  · obtain ⟨_ | table, same, read⟩ := Runs.run_adapt_iff.1 reading
    · cases same
    · cases same
      obtain ⟨-, _, same⟩ | ⟨accepted, _, same, found⟩ := readSdram_result shows.left read
      · cases same
      · cases same
        exact .inr ⟨accepted, runs_decodeHandoff_word found used⟩
  · obtain ⟨_ | table, same, read⟩ := Runs.run_adapt_iff.1 failed
    · obtain ⟨refused, -⟩ | ⟨-, _, same, -⟩ := readSdram_result shows read
      · exact .inl ⟨refused, cause, rfl⟩
      · cases same
    · cases same
  · obtain ⟨-, _, same⟩ | ⟨-, _, same, -⟩ := readSdram_result shows (Runs.run_adapt_none broken)
    · cases same
    · cases same

theorem bringUp_readSdram (shows : trace.Shows content)
    (run : Runs Handoff.readSdram trace (some (.ok table))) :
    bringUp mailboxes table blob options =
      bringUp mailboxes (List.replicate tableIndex 0 ++ [readWord content]) blob options := by
  obtain ⟨-, _, same⟩ | ⟨-, _, same, found⟩ := readSdram_result shows run
  · cases same
  · cases same
    exact bringUp_congr found (by simp)

theorem faithful_error {cause : Error} : Faithful content (.error cause) :=
  ⟨fun _ _ => ⟨cause, rfl⟩, fun _ _ same => by cases same⟩

theorem faithful_decoded_iff (accepted : Accepted content) :
    Faithful content (.ok (decoded (readWord content))) ↔ ¬ Truncated content := by
  constructor
  · rintro faithful ⟨-, short⟩
    obtain ⟨_, same⟩ := faithful.refused accepted.1 short
    cases same
  · intro whole
    have enough : ¬ sdramWords content < sdramLength := fun short => whole ⟨accepted, short⟩
    refine ⟨fun _ short => absurd short enough, fun _ _ same => ?_⟩
    cases same
    rw [readWord, if_neg enough]
    exact ⟨Nat.le_of_not_lt enough, rfl⟩

/-- Reading and decoding the table comes to a result, which is the one that is due unless the blob
is truncated. The header alone decides whether there is a configuration, and behind the end of the
blob the configuration word is zero, for the decoding as for a whole bring-up. -/
theorem truncated_refused_iff {outcome : Option (Except Error (Configuration × Iossm.Subsystem))}
    (shows : trace.Shows content) (run : Runs decodeMemory.run trace outcome) :
    ∃ result, outcome = some result ∧ (Faithful content result ↔ ¬ Truncated content) ∧
      ((∃ cause, result = .error cause) ↔ ¬ Accepted content) ∧
      (Accepted content → result = .ok (decoded (readWord content))) ∧
      ∀ (reading : Trace) (table : List Word), reading.Shows content →
        Runs Handoff.readSdram reading (some (.ok table)) →
        ∀ mailboxes blob options, bringUp mailboxes table blob options =
          bringUp mailboxes (List.replicate tableIndex 0 ++ [readWord content]) blob options := by
  have goesOn (reading : Trace) (table : List Word) (shows : reading.Shows content)
      (read : Runs Handoff.readSdram reading (some (.ok table))) (mailboxes : Nat)
      (blob : DeviceTree.Bytes) (options : Options) : bringUp mailboxes table blob options =
        bringUp mailboxes (List.replicate tableIndex 0 ++ [readWord content]) blob options :=
    bringUp_readSdram shows read
  obtain ⟨refused, cause, rfl⟩ | ⟨accepted, rfl⟩ := decodeMemory_result shows run
  · refine ⟨_, rfl, ?_, ?_, fun accepted => absurd accepted refused, goesOn⟩
    · exact iff_of_true faithful_error fun truncated => refused truncated.1
    · exact iff_of_true ⟨cause, rfl⟩ refused
  · refine ⟨_, rfl, faithful_decoded_iff accepted, ?_, fun _ => rfl, goesOn⟩
    exact iff_of_false (fun failed => by cases failed.choose_spec) (not_not.2 accepted)

/-- Registers with an SDRAM blob of this length, whose data words are those of the table. -/
def withTable (length : Word) (table : List Word) (registers : Rehearsal.Registers) :
    Rehearsal.Registers := fun address =>
  if address = sdramAddress then sdramMagic
  else if address = sdramAddress + 4 then length
  else if sdramAddress + headerBytes ≤ address ∧ address < sdramAddress + length.toNat then
    table.getD ((address - sdramAddress - headerBytes) / 4) 0
  else registers address

/-- A whole blob for two ports is decoded. -/
theorem truncated_refused_iff_whole :
    let content := withTable 36 [0, 0, 0, 0, 0x10001] fun _ => 0
    let trace := decodeMemory.run.trace (fixedMemory content) ()
    trace.Shows content ∧ Runs decodeMemory.run trace (some (.ok (decoded 0x10001))) ∧
      ¬ Truncated content ∧ Faithful content (.ok (decoded 0x10001)) := by
  intro content trace
  have ended : (decodeMemory.run.run (fixedMemory content) ()).1 =
      some (.ok (decoded 0x10001)) := by
    decide +kernel
  have run := Runs.of_run_eq (fixedMemory content) () ended
  have shows : trace.Shows content := shows_fixedMemory decodeMemory.run ()
  have whole : ¬ Truncated content := fun truncated => absurd truncated.2 (by decide)
  obtain ⟨_, same, faithful, -⟩ := truncated_refused_iff shows run
  cases same
  exact ⟨shows, run, whole, faithful.2 whole⟩

/-- A blob that consists of its header only is taken for the configuration of a single port and a
single instance without PLLs, and the bring-up succeeds with it. -/
theorem truncated_accepted :
    let registers := withTable 16 [] (Rehearsal.afterWarmReset 0)
    registers sdramAddress = sdramMagic ∧ sdramWords registers = 0 ∧
      (∃ trace, trace.Shows registers ∧
        Runs decodeMemory.run trace (some (.ok (⟨false, false, 0⟩, .fresh 1 1 0)))) ∧
      ((fromMemory fun table => bringUp 1 table Rehearsal.blob {}).run.run (Rehearsal.serve id)
        registers).1 =
          some (.ok ⟨0x80000000, 0x40000000, [⟨0x80000000, 0x40000000⟩], .ddr5, true⟩) := by
  intro registers
  have ended : (decodeMemory.run.run (fixedMemory registers) ()).1 =
      some (.ok (⟨false, false, 0⟩, .fresh 1 1 0)) := by
    decide +kernel
  exact ⟨rfl, by decide, ⟨_, shows_fixedMemory _ (), Runs.of_run_eq _ _ ended⟩, by decide +kernel⟩

end BringUp.Dram
