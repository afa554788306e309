import BringUp.Proofs.Dram.Coverage
import BringUp.Proofs.Dram.Detection
import BringUp.Proofs.Dram.Inventory
import BringUp.Proofs.Dram.Rehearsal

/-! Verification of the memory that a bring-up hands out. Main statement: if no probe confirms more
than it was asked for, a bring-up that succeeds has seen every byte of every bank confirmed. -/
namespace BringUp.Dram

open Iossm (Subsystem Sequence Supervision Target)

variable {mailboxes : Nat} {table : List Word} {blob : DeviceTree.Bytes} {options : Options}
  {trace : Trace}

/-- What a bring-up knows about the memory that it hands out. -/
structure Verified (table : List Word) (trace : Trace) (ram : Ram) : Prop where
  total : ram.size = totalSize ram.banks
  confirmed : ram.size = trace.confirmed
  positive : 0 < ram.size
  /-- The size is not larger than what the interfaces report together. -/
  reported : ram.size ≤ hardwareBytes trace.gigabits
  /-- All instances in use were asked for their interfaces, and each of these for its size. -/
  inventory : ∃ word targets, table[Configuration.tableIndex]? = some word ∧
    Inventoried (Configuration.ofWord word).instanceCount targets trace
  base : ram.banks.head?.map Bank.start = some ram.base
  covered : Covers ram.banks trace.probes

theorem finish_quiet {layout : Layout} (run : Runs (finish options layout) trace (some ())) :
    Uninformed trace ∧ trace.probes = [] := by
  obtain ⟨opening, current, rfl, opened⟩ := runs_finish run
  have quiet : Uninformed opening := uninformed_of_allowed opened fun _ _ h => h.elim
  have unprobed : Trace.probes opening = [] := Trace.probes_eq_nil opened fun _ _ h => h
  refine ⟨quiet.append ⟨rfl, rfl⟩, ?_⟩
  rw [Trace.probes_append, unprobed]
  rfl

theorem hardwareBytes_mono {first second : Nat} (h : first ≤ second) :
    hardwareBytes first ≤ hardwareBytes second := by
  simp only [hardwareBytes, gibibyte]
  omega

theorem verified_of_run {ram : Ram} (honest : trace.Honest)
    (run : Runs (bringUp mailboxes table blob options).run trace (some (.ok ram))) :
    Verified table trace ram := by
  cases bringUp_course run with
  | @completes opening surveying preparing checking finishing found layout surveyed prepared total
      started passed ready verified finished =>
    obtain ⟨startQuiet, startUnprobed⟩ := start_quiet started
    obtain ⟨finishQuiet, finishUnprobed⟩ := finish_quiet finished
    have prepareQuiet := supervision_uninformed ready prepareEcc_uses (by decide)
    have checkQuiet : Uninformed checking :=
      uninformed_of_allowed (verified.uses verifySize_uses) fun _ _ h => h.elim
    have surveyUnprobed : Trace.probes surveying = [] :=
      Trace.probes_eq_nil (passed.uses survey_uses) fun _ _ h => h
    have prepareUnprobed : Trace.probes preparing = [] :=
      Trace.probes_eq_nil (Runs.uses ready (prepareEcc_uses surveyed)) fun _ _ h => h
    have probes : Trace.probes (opening ++ (surveying ++ (preparing ++ (checking ++ finishing)))) =
        checking.probes := by
      simp only [Trace.probes_append, startUnprobed, surveyUnprobed, prepareUnprobed,
        finishUnprobed, List.nil_append, List.append_nil]
    have after := prepareQuiet.append (checkQuiet.append finishQuiet)
    obtain ⟨⟨word, handoff, inventory, -⟩, fits, nonzero⟩ := survey_inventoried passed
    have gigabits : Trace.gigabits (opening ++ (surveying ++ (preparing ++ (checking ++
        finishing)))) = surveying.gigabits := gigabits_frame startQuiet after
    rw [Trace.Honest, probes] at honest
    obtain ⟨sum, all, covers⟩ := verifySize_ok honest fits.inside verified
    have positive : 0 < layout.size := by
      apply fits.positive
      simp only [hardwareBytes, gibibyte]
      omega
    refine ⟨all.symm, ?_, positive, ?_, ⟨word, _, handoff, inventory.frame startQuiet after⟩, ?_, ?_⟩
    · rw [Trace.confirmed, probes]
      exact sum.symm
    · rw [gigabits]
      exact Nat.le_trans fits.below (hardwareBytes_mono (Nat.min_le_left _ _))
    · cases h : layout.banks with
      | nil => simp [h, totalSize] at all; omega
      | cons bank rest => simp
    · rw [probes]
      exact covers

/-- The size detection never finds more bytes than it probes, and with such a probe a bring-up that
succeeds has verified every byte that it hands out. -/
theorem memory_verified :
    (∀ (base size : Nat) (trace : Trace) (found : Nat),
      Runs (Detection.detect base size) trace (some found) → found ≤ size) ∧
    ∀ (mailboxes : Nat) (table : List Word) (blob : DeviceTree.Bytes) (options : Options)
      (trace : Trace) (ram : Ram), trace.Honest →
        Runs (bringUp mailboxes table blob options).run trace (some (.ok ram)) →
          Verified table trace ram :=
  ⟨fun _ _ _ _ run => Detection.detect_le run, fun _ _ _ _ _ _ honest run =>
    verified_of_run honest run⟩

/-- The only gibibyte of the board is verified. Its cells keep nothing, so of 64 bytes only the
first 8 are found. -/
theorem memory_verified_gibibyte :
    Verified Rehearsal.table
        (Rehearsal.bringUp.trace (Rehearsal.serve id) (Rehearsal.afterWarmReset 0))
        ⟨0x80000000, 0x40000000, [⟨0x80000000, 0x40000000⟩], .ddr5, true⟩ ∧
      ∃ trace, Runs (Detection.detect 0x80000000 64) trace (some 8) ∧ 8 ≤ 64 := by
  have result : (Rehearsal.bringUp.run (Rehearsal.serve id) (Rehearsal.afterWarmReset 0)).1 =
      some (.ok ⟨0x80000000, 0x40000000, [⟨0x80000000, 0x40000000⟩], .ddr5, true⟩) := by
    decide +kernel
  have run := Runs.of_run (Rehearsal.serve id) Rehearsal.bringUp (Rehearsal.afterWarmReset 0)
  rw [result] at run
  have found : ((Detection.detect 0x80000000 64).run (Rehearsal.serve id)
      (Rehearsal.afterWarmReset 0)).1 = some 8 := by decide +kernel
  have detection := Runs.of_run (Rehearsal.serve id) (Detection.detect 0x80000000 64)
    (Rehearsal.afterWarmReset 0)
  rw [found] at detection
  exact ⟨memory_verified.2 _ _ _ _ _ _ (Rehearsal.probes_le _) run,
    _, detection, memory_verified.1 _ _ _ _ detection⟩

end BringUp.Dram
