import BringUp.Dram.Layout
import BringUp.Proofs.DeviceTree.Memory
import BringUp.Proofs.Program.Footprint

/-! The layout of the memory. Main statement: it is the described memory or the filled windows, its
banks have no more bytes than its size, and its size is not larger than what is available. -/
namespace BringUp.Dram

variable {trace : Trace} {available bankCount : Nat} {layout : Layout}

/-- The banks for memory whose size is reported by the hardware are the filled windows. -/
theorem banksOfSize_eq {size : Nat} {banks : List Bank}
    (run : Runs (banksOfSize size bankCount) trace (some banks)) :
    banks = fill (windows.take (min bankCount maxBanks)) size := by
  have filled {trace : Trace} (run : Runs (do
      let banks := fill (windows.take (min bankCount maxBanks)) size
      let unmapped := size - totalSize banks
      if unmapped ≠ 0 then
        Program.log .warning ("DDR: " ++ Text.hex unmapped ++ " bytes of memory are not mapped")
      return banks : Program (List Bank)) trace (some banks)) :
      banks = fill (windows.take (min bankCount maxBanks)) size := by
    dsimp only at run
    split at run
    · obtain ⟨_, _, _, rfl, -, run₁⟩ := Runs.bind_some_iff.1 run
      exact Option.some.inj (Runs.done_iff.1 run₁).2
    · exact Option.some.inj (Runs.done_iff.1 run).2
  unfold banksOfSize at run
  dsimp only at run
  split at run
  · obtain ⟨_, _, _, rfl, -, run₁⟩ := Runs.bind_some_iff.1 run
    exact filled run₁
  · exact filled run

/-- Memory that only the hardware knows has the reported size, whether or not it fits into the
windows. -/
theorem hardwareLayout_eq (run : Runs (hardwareLayout available bankCount) trace (some layout)) :
    layout = ⟨available, fill (windows.take (min bankCount maxBanks)) available⟩ := by
  obtain ⟨_, _, banks, rfl, filled, run₁⟩ := Runs.bind_some_iff.1 run
  obtain ⟨_, _, _, rfl, -, run₂⟩ := Runs.bind_some_iff.1 run₁
  have same := Option.some.inj (Runs.done_iff.1 run₂).2
  rw [same, banksOfSize_eq filled]

/-- The origins of a layout of `available` bytes: memory that a device tree describes, or, if that
has no size, the windows. -/
inductive Layout.Origin (available bankCount : Nat) (memory : DeviceTree.Memory) : Layout → Prop
  | described (fits : memory.size ≤ available) (sized : 0 < available → 0 < memory.size) :
      Origin available bankCount memory ⟨memory.size, memory.banks⟩
  | filled (unsized : memory.size = 0) (reported : 0 < available) :
      Origin available bankCount memory
        ⟨available, fill (windows.take (min bankCount maxBanks)) available⟩

theorem reconcile_origin {memory : DeviceTree.Memory}
    (run : Runs (reconcile memory available bankCount) trace (some (.ok layout))) :
    layout.Origin available bankCount memory := by
  unfold reconcile at run
  split at run
  · obtain ⟨_, _, _, rfl, -, run₁⟩ := Runs.bind_some_iff.1 run
    cases (Runs.done_iff.1 run₁).2
  · next fits =>
    split at run
    · next unsized =>
      obtain ⟨_, _, _, rfl, reported, run₁⟩ := Runs.bind_some_iff.1 run
      cases (Runs.done_iff.1 run₁).2
      rw [hardwareLayout_eq reported]
      exact .filled unsized.1 unsized.2
    · next sized =>
      cases (Runs.done_iff.1 run).2
      refine .described (Nat.not_lt.1 fits) fun positive => ?_
      exact Nat.pos_of_ne_zero fun zero => sized ⟨zero, positive⟩

/-- A layout comes from the memory that the device tree describes. -/
theorem resolveLayout_origin {blob : DeviceTree.Bytes}
    (run : Runs (resolveLayout blob available bankCount) trace (some (.ok layout))) :
    ∃ memory, (DeviceTree.Memory.ofBlob blob bankCount).Yields (.ok memory) ∧
      layout.Origin available bankCount memory := by
  obtain ⟨_, _, _ | memory, rfl, described, run₁⟩ := Runs.bind_some_iff.1 run
  · obtain ⟨_, _, _, rfl, -, run₂⟩ := Runs.bind_some_iff.1 run₁
    cases (Runs.done_iff.1 run₂).2
  · refine ⟨memory, ⟨_, described⟩, ?_⟩
    dsimp only at run₁
    split at run₁
    · obtain ⟨_, _, _, rfl, -, run₂⟩ := Runs.bind_some_iff.1 run₁
      exact reconcile_origin run₂
    · exact reconcile_origin run₁

/-- What holds of the layout of a memory of `available` bytes. -/
structure Layout.Fits (available : Nat) (layout : Layout) : Prop where
  inside : totalSize layout.banks ≤ layout.size
  below : layout.size ≤ available
  positive : 0 < available → 0 < layout.size

theorem resolveLayout_ok {blob : DeviceTree.Bytes}
    (run : Runs (resolveLayout blob available bankCount) trace (some (.ok layout))) :
    layout.Fits available := by
  have ⟨memory, ⟨_, described⟩, origin⟩ := resolveLayout_origin run
  have size := DeviceTree.memory_ofBlob_size described
  cases origin with
  | described fits sized => exact ⟨Nat.le_of_eq size.symm, fits, sized⟩
  | filled _ reported => exact ⟨totalSize_fill_le _ _, Nat.le_refl _, fun _ => reported⟩

theorem length_fill_le (windows : List Bank) (remaining : Nat) :
    (fill windows remaining).length ≤ windows.length := by
  induction windows generalizing remaining with
  | nil => exact Nat.zero_le _
  | cons window rest ih =>
    rw [fill]
    split
    · exact Nat.zero_le _
    · exact Nat.succ_le_succ (ih _)

theorem resolveLayout_length {blob : DeviceTree.Bytes}
    (run : Runs (resolveLayout blob available bankCount) trace (some (.ok layout))) :
    layout.banks.length ≤ maxBanks := by
  have ⟨memory, ⟨_, described⟩, origin⟩ := resolveLayout_origin run
  cases origin with
  | described _ _ => exact DeviceTree.memory_ofBlob_length described
  | filled _ _ =>
    calc (fill (windows.take (min bankCount maxBanks)) available).length
        ≤ (windows.take (min bankCount maxBanks)).length := length_fill_le _ _
      _ ≤ min bankCount maxBanks := List.length_take_le _ _
      _ ≤ maxBanks := Nat.min_le_right _ _

end BringUp.Dram
