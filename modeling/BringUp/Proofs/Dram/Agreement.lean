import BringUp.Proofs.Dram.Chunks
import BringUp.Proofs.Dram.Layout
import BringUp.Proofs.Dram.Rehearsal

/-! Agreement of the size and the banks of a layout. Main statement: they agree unless the hardware
reports more memory than the windows in use hold, and nothing else is described. -/
namespace BringUp.Dram

open Coverage

variable {available bankCount : Nat} {memory : DeviceTree.Memory} {layout : Layout}

theorem totalSize_fill (windows : List Bank) (remaining : Nat) :
    totalSize (fill windows remaining) = min remaining (totalSize windows) := by
  induction windows generalizing remaining with
  | nil => exact (Nat.min_zero _).symm
  | cons window rest ih =>
    rw [fill]
    split
    · next none => rw [none, Nat.zero_min, totalSize]
    · simp only [totalSize, ih]
      omega

theorem fill_of_lt {windows : List Bank} {remaining : Nat} (more : totalSize windows < remaining) :
    fill windows remaining = windows := by
  induction windows generalizing remaining with
  | nil => rfl
  | cons window rest ih =>
    rw [totalSize] at more
    have whole : min remaining window.size = window.size := Nat.min_eq_right (by omega)
    rw [fill, if_neg (by omega)]
    dsimp only
    rw [whole, ih (by omega)]

theorem findSome?_windows (count : Nat) :
    ((windows.take count).findSome? fun window => oddRest window.size) = none := by
  have even : ∀ window ∈ windows, oddRest window.size = none := by decide
  exact List.findSome?_eq_none_iff.2 fun window member => even window (List.mem_of_mem_take member)

/-- No memory is described, and the hardware reports more than the windows in use hold. -/
def Exceeds (memory : DeviceTree.Memory) (available bankCount : Nat) : Prop :=
  memory.size = 0 ∧ totalSize (windows.take (min bankCount maxBanks)) < available

theorem Layout.Origin.agrees_iff (origin : layout.Origin available bankCount memory)
    (sum : memory.size = totalSize memory.banks) :
    layout.size = totalSize layout.banks ↔ ¬ Exceeds memory available bankCount := by
  cases origin with
  | described _ sized =>
    refine iff_of_true sum ?_
    rintro ⟨none, less⟩
    exact Nat.ne_of_gt (sized (Nat.zero_lt_of_lt less)) none
  | filled unsized _ =>
    rw [totalSize_fill]
    constructor
    · rintro whole ⟨-, less⟩
      exact Nat.not_le.2 less (Nat.le_trans (Nat.le_of_eq whole) (Nat.min_le_right _ _))
    · intro room
      exact (Nat.min_eq_left (Nat.not_lt.1 fun less => room ⟨unsized, less⟩)).symm

theorem Layout.Origin.eq_of_exceeds (origin : layout.Origin available bankCount memory)
    (exceeds : Exceeds memory available bankCount) :
    layout = ⟨available, windows.take (min bankCount maxBanks)⟩ := by
  cases origin with
  | described _ sized =>
    exact absurd exceeds.1 (Nat.ne_of_gt (sized (Nat.zero_lt_of_lt exceeds.2)))
  | filled _ _ => rw [fill_of_lt exceeds.2]

/-- If everything is confirmed, banks of whole chunks fail the size check only by a wrong size. -/
theorem mismatch_iff {banks : List Bank} {size : Nat} {probing : Trace}
    {outcome : Option (Except SizeError Nat)}
    (even : totalSize banks ≠ size → (banks.findSome? fun bank => oddRest bank.size) = none)
    (full : ∀ probe ∈ probing.probes, Full probe) (run : Runs (verifySize banks size) probing outcome) :
    (∃ expected found, outcome = some (.error (.mismatch expected found))) ↔
      totalSize banks ≠ size := by
  rw [verifySize_of_full full run]
  by_cases same : totalSize banks = size
  · refine iff_of_false ?_ (not_not.2 same)
    rintro ⟨expected, found, failed⟩
    rw [if_pos same] at failed
    cases h : banks.findSome? fun bank => oddRest bank.size <;> rw [h] at failed <;> cases failed
  · rw [even same, if_neg same]
    exact iff_of_true ⟨_, _, rfl⟩ same

/-- The size of a layout is the sum over its banks unless the hardware reports more than the windows in
use hold and no memory is described. In this case the size is that of the hardware, the banks are the
windows, and a size check that confirms everything finds a wrong size. -/
theorem layout_agrees_iff {blob : DeviceTree.Bytes} {trace : Trace}
    (run : Runs (resolveLayout blob available bankCount) trace (some (.ok layout))) :
    ∃ memory, (DeviceTree.Memory.ofBlob blob bankCount).Yields (.ok memory) ∧
      (layout.size = totalSize layout.banks ↔ ¬ Exceeds memory available bankCount) ∧
      (Exceeds memory available bankCount →
        layout = ⟨available, windows.take (min bankCount maxBanks)⟩) ∧
      ∀ (probing : Trace) (outcome : Option (Except SizeError Nat)),
        (∀ probe ∈ probing.probes, Full probe) →
          Runs (verifySize layout.banks layout.size) probing outcome →
            ((∃ expected found, outcome = some (.error (.mismatch expected found))) ↔
              Exceeds memory available bankCount) := by
  have ⟨memory, yields, origin⟩ := resolveLayout_origin run
  have ⟨_, described⟩ := yields
  have agrees := origin.agrees_iff (DeviceTree.memory_ofBlob_size described)
  refine ⟨memory, yields, agrees, origin.eq_of_exceeds, fun probing outcome full check => ?_⟩
  have other : totalSize layout.banks ≠ layout.size ↔ Exceeds memory available bankCount := by
    rw [ne_comm, Ne, agrees, not_not]
  rw [mismatch_iff (fun different => ?_) full check, other]
  rw [origin.eq_of_exceeds (other.1 different)]
  exact findSome?_windows _

/-- Memory of 1 GiB that only the hardware reports is in the first window. -/
theorem layout_agrees_gibibyte :
    let resolve := resolveLayout Rehearsal.blob gibibyte 1
    Runs resolve (resolve.trace (Rehearsal.serve id) fun _ => 0)
        (some (.ok ⟨gibibyte, [⟨0x80000000, gibibyte⟩]⟩)) ∧
      gibibyte = totalSize [⟨0x80000000, gibibyte⟩] := by
  intro resolve
  have ended : (resolve.run (Rehearsal.serve id) fun _ => 0).1 =
      some (.ok ⟨gibibyte, [⟨0x80000000, gibibyte⟩]⟩) := by
    decide +kernel
  have run := Runs.of_run_eq (Rehearsal.serve id) _ ended
  obtain ⟨memory, -, agrees, -⟩ := layout_agrees_iff run
  have room : ¬ Exceeds memory gibibyte 1 := by
    rintro ⟨-, less⟩
    exact absurd less (by decide)
  exact ⟨run, agrees.2 room⟩

/-- Of 8 GiB that only the hardware reports, 2 GiB are in the first window. If no other window is used,
the size check fails on memory that is confirmed in full. -/
theorem layout_exceeds_window :
    let resolve := resolveLayout Rehearsal.blob (8 * gibibyte) 1
    let banks : List Bank := [⟨0x80000000, 2 * gibibyte⟩]
    let check := verifySize banks (8 * gibibyte)
    Runs resolve (resolve.trace (Rehearsal.serve id) fun _ => 0)
        (some (.ok ⟨8 * gibibyte, banks⟩)) ∧
      8 * gibibyte ≠ totalSize banks ∧
      Runs check (check.trace (Rehearsal.serve id) fun _ => 0)
        (some (.error (.mismatch (8 * gibibyte) (2 * gibibyte)))) := by
  intro resolve banks check
  have ended : (resolve.run (Rehearsal.serve id) fun _ => 0).1 = some (.ok ⟨8 * gibibyte, banks⟩) := by
    decide +kernel
  have failed : (check.run (Rehearsal.serve id) fun _ => 0).1 =
      some (.error (.mismatch (8 * gibibyte) (2 * gibibyte))) := by
    decide +kernel
  exact ⟨Runs.of_run_eq (Rehearsal.serve id) _ ended, by decide,
    Runs.of_run_eq (Rehearsal.serve id) _ failed⟩

end BringUp.Dram
