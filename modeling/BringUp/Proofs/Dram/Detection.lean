import BringUp.Proofs.Dram.Faults
import BringUp.Proofs.Program.Runs

/-! Detection of the size of memory. Main statement: on memory with ordinary stores the smallest
power of two at which the first cell repeats is found, and the content is as it was before. -/
namespace BringUp.Dram.Detection

variable {base cells size : Nat} {trace : Trace}

/-- A pattern that is lost is one of the window. -/
theorem compare_lt {saved : List Cell} {offset found : Nat}
    (run : Runs (compare base cells saved offset) trace (some (some found))) : found < cells := by
  induction saved generalizing offset trace with
  | nil => cases (Runs.done_iff.1 run).2
  | cons cell rest ih =>
    rw [compare] at run
    split at run
    · cases (Runs.done_iff.1 run).2
    · next inside =>
      obtain ⟨_, _, seen, rfl, -, run₁⟩ := Runs.bind_some_iff.1 run
      obtain ⟨_, _, _, rfl, -, run₂⟩ := Runs.bind_some_iff.1 run₁
      split at run₂
      · exact ih run₂
      · obtain ⟨_, _, _, rfl, -, run₃⟩ := Runs.bind_some_iff.1 run₂
        obtain ⟨-, same⟩ := Runs.done_iff.1 run₃
        cases same
        omega

/-- No more bytes are found than were probed. -/
theorem detect_le {found : Nat} (run : Runs (detect base size) trace (some found)) :
    found ≤ size := by
  obtain ⟨_, _, saved, rfl, -, run₁⟩ := Runs.bind_some_iff.1 run
  obtain ⟨_, _, baseSaved, rfl, -, run₂⟩ := Runs.bind_some_iff.1 run₁
  obtain ⟨_, _, _, rfl, -, run₃⟩ := Runs.bind_some_iff.1 run₂
  obtain ⟨_, _, first, rfl, -, run₄⟩ := Runs.bind_some_iff.1 run₃
  split at run₄
  · obtain ⟨_, _, _, rfl, -, run₅⟩ := Runs.bind_some_iff.1 run₄
    obtain ⟨_, _, _, rfl, -, run₆⟩ := Runs.bind_some_iff.1 run₅
    obtain ⟨-, same⟩ := Runs.done_iff.1 run₆
    cases same
    exact Nat.zero_le _
  · obtain ⟨_, _, _ | offset, rfl, compared, run₅⟩ := Runs.bind_some_iff.1 run₄
    · obtain ⟨_, _, _, rfl, -, run₆⟩ := Runs.bind_some_iff.1 run₅
      obtain ⟨-, same⟩ := Runs.done_iff.1 run₆
      cases same
      exact Nat.le_refl _
    · obtain ⟨-, same⟩ := Runs.done_iff.1 run₅
      cases same
      have inside := compare_lt compared
      simp only [cellBytes] at inside ⊢
      omega

section Backed

variable {κ : Type} [DecidableEq κ] {place : Nat → κ} {memory : κ → Cell}

/-- The size that belongs to a window of `size` bytes: the bytes before the first power of two at
which the first cell repeats, or the whole window if it does not repeat at any. -/
inductive Repeats (place : Nat → κ) (size : Nat) : Nat → Prop
  | early {j : Nat} (inside : 2 ^ j < size / 8) (same : place (2 ^ j) = place 0)
      (least : ∀ i < j, place (2 ^ i) ≠ place 0) : Repeats place size (8 * 2 ^ j)
  | never (different : ∀ j, 2 ^ j < size / 8 → place (2 ^ j) ≠ place 0) : Repeats place size size

theorem faulty_none : faulty base place (fun _ => .none) = backed base place := by
  funext op memory
  cases op with
  | storeCell address value =>
    change ((), put _ _ _ _) = ((), _)
    rw [put, Fault.store_none]
  | _ => rfl

omit [DecidableEq κ] in
/-- Without faults every pattern shows except where the first cell repeats. -/
theorem shows_none_iff {offset : Nat} :
    Shows place (fun _ => .none) memory offset ↔ place offset ≠ place 0 := by
  simp [Shows]

theorem Detects.repeats {found : Nat} (detects : Detects place (fun _ => .none) memory size found) :
    Repeats place size found := by
  cases detects with
  | unreadable refused => exact absurd (Fault.store_none _ _) refused
  | early _ inside lost least =>
    refine .early inside ?_ fun i less => shows_none_iff.1 (least i less)
    by_contra apart
    exact lost (shows_none_iff.2 apart)
  | whole _ all => exact .never fun j inside => shows_none_iff.1 (all j inside)

theorem detect_cells {count : Nat} (cells : size / cellBytes = 2 ^ count) (few : count ≤ 63)
    (base : Nat) (place : Nat → κ) (memory : κ → Cell) :
    ∃ found, (detect base size).run (backed base place) memory = (some found, memory) ∧
      Repeats place size found := by
  have held : Held (fun _ => .none) memory := fun _ => Fault.store_none _ _
  obtain ⟨found, after, run, detects, -, restored⟩ :=
    detect_cells_faulty cells few base place held
  have spared : ¬ Loses place (fun _ => .none) memory size := by
    rintro ⟨-, -, j, -, lost⟩
    exact lost (Fault.store_none _ _)
  rw [restored spared, faulty_none] at run
  exact ⟨found, run, detects.repeats⟩

/-- Detection finds the size that belongs to the window, whichever cells are behind it, and leaves
every cell as it was. -/
theorem detect_backed {exponent : Nat} (cell : 3 ≤ exponent) (word : exponent < 64)
    (base : Nat) (place : Nat → κ) (memory : κ → Cell) :
    ∃ found, (detect base (2 ^ exponent)).run (backed base place) memory = (some found, memory) ∧
      Repeats place (2 ^ exponent) found := by
  obtain ⟨count, rfl⟩ : ∃ count, exponent = count + 3 := ⟨exponent - 3, by omega⟩
  have cells : 2 ^ (count + 3) / cellBytes = 2 ^ count := by
    rw [Nat.pow_add, cellBytes]
    exact Nat.mul_div_cancel _ (by decide)
  exact detect_cells cells (by omega) base place memory

end Backed

/-- Of a window of 16 cells, 4 physical cells are found from the third one on. -/
theorem detect_backed_four : 3 ≤ 7 ∧ 7 < 64 ∧
    (detect 0x80000000 (2 ^ 7)).run (backed 0x80000000 fun cell => (cell + 2) % 4)
      (fun cell => BitVec.ofNat 64 cell) = (some 32, fun cell => BitVec.ofNat 64 cell) := by
  refine ⟨by decide, by decide, ?_⟩
  obtain ⟨found, run, repeated⟩ := detect_backed (by decide : 3 ≤ 7) (by decide) 0x80000000
    (fun cell => (cell + 2) % 4) (fun cell => BitVec.ofNat 64 cell)
  rw [run]
  cases repeated with
  | @early j inside same least =>
    rcases Nat.lt_trichotomy j 2 with less | rfl | greater
    · obtain rfl | rfl : j = 0 ∨ j = 1 := by omega
      · exact absurd same (by decide)
      · exact absurd same (by decide)
    · rfl
    · exact absurd (by decide) (least 2 greater)
  | never different => exact absurd (by decide) (different 2 (by decide))

end BringUp.Dram.Detection
