import Mathlib.Algebra.Ring.Nat
import Mathlib.Logic.Function.Basic
import BringUp.Dram.Detection
import BringUp.Program.Lemmas

/-! Detection of the size of memory with faults. Main statement: all cells are as they were before,
except that the first one is left zero if a pattern is lost to a fault and the first cell repeats at
no offset. -/
namespace BringUp.Dram.Detection

/-- What is wrong with a cell. -/
inductive Fault where
  /-- A store can set the kept bits only, and sets the forced ones in any case. -/
  | stuck (kept forced : Cell)
  /-- A store has no effect. -/
  | ignored

/-- Content of a cell after a store. -/
def Fault.store : Fault → Cell → Cell → Cell
  | stuck kept forced, _, value => (value &&& kept) ||| forced
  | ignored, content, _ => content

/-- A cell with ordinary stores. -/
def Fault.none : Fault := .stuck (BitVec.allOnes 64) 0

@[simp] theorem Fault.store_none (content value : Cell) : Fault.none.store content value = value := by
  change (value &&& BitVec.allOnes 64) ||| 0#64 = value
  rw [BitVec.and_allOnes, BitVec.or_zero]

section Stores

variable {κ : Type} [DecidableEq κ] {faults : κ → Fault} {memory original : κ → Cell}
  {cell other : κ} {value : Cell}

theorem Fault.store_store (fault : Fault) (content first last : Cell) :
    fault.store (fault.store content first) last = fault.store content last := by
  cases fault <;> rfl

theorem Fault.store_left (fault : Fault) (content value : Cell) :
    fault.store content (fault.store content value) = fault.store content value := by
  cases fault with
  | stuck kept forced =>
    apply BitVec.eq_of_getElem_eq
    intro index inside
    simp only [store, BitVec.getElem_or, BitVec.getElem_and]
    cases value[index] <;> cases kept[index] <;> cases forced[index] <;> rfl
  | ignored => rfl

/-- Stores `value` to a cell. -/
def put (faults : κ → Fault) (cell : κ) (value : Cell) (memory : κ → Cell) : κ → Cell :=
  Function.update memory cell ((faults cell).store (memory cell) value)

/-- The content of every cell can be stored to it. -/
def Held (faults : κ → Fault) (memory : κ → Cell) : Prop :=
  ∀ cell, (faults cell).store (memory cell) (memory cell) = memory cell

instance {count : Nat} (faults : Fin count → Fault) (memory : Fin count → Cell) :
    Decidable (Held faults memory) :=
  inferInstanceAs (Decidable (∀ _, _ = _))

/-- Stores have the same effect on both. -/
def Alike (faults : κ → Fault) (memory original : κ → Cell) : Prop :=
  ∀ cell value, (faults cell).store (memory cell) value = (faults cell).store (original cell) value

theorem put_put {first last : Cell} :
    put faults cell last (put faults cell first memory) = put faults cell last memory := by
  simp only [put, Function.update_self, Function.update_idem, Fault.store_store]

theorem put_comm {first second : Cell} (apart : cell ≠ other) :
    put faults cell first (put faults other second memory) =
      put faults other second (put faults cell first memory) := by
  simp only [put, Function.update_of_ne apart, Function.update_of_ne apart.symm]
  exact Function.update_comm apart.symm _ _ _

theorem put_self (held : Held faults memory) : put faults cell (memory cell) memory = memory := by
  rw [put, held, Function.update_eq_self]

theorem put_back (held : Held faults memory) :
    put faults cell (memory cell) (put faults cell value memory) = memory := by
  rw [put_put, put_self held]

theorem Held.put (held : Held faults memory) : Held faults (put faults cell value memory) := by
  intro here
  by_cases same : here = cell
  · subst same
    simp only [Detection.put, Function.update_self, Fault.store_store, Fault.store_left]
  · simp only [Detection.put, Function.update_of_ne same]
    exact held here

theorem Alike.put (alike : Alike faults memory original) :
    Alike faults (put faults cell value memory) original := by
  intro here next
  by_cases same : here = cell
  · subst same
    simp only [Detection.put, Function.update_self, Fault.store_store]
    exact alike here next
  · simp only [Detection.put, Function.update_of_ne same]
    exact alike here next

end Stores

section Runs

variable {κ : Type} [DecidableEq κ] {place : Nat → κ} {faults : κ → Fault}
  {memory original after : κ → Cell} {base cells size offset : Nat} {saved : List Cell} {α : Type}

/-- Memory behind a window from `base` on. The cell `w` of the window is the physical cell
`place w`, and stores are ordinary. -/
def backed (base : Nat) (place : Nat → κ) : (op : Op) → (κ → Cell) → op.Answer × (κ → Cell)
  | .loadCell address, memory => (memory (place ((address - base) / cellBytes)), memory)
  | .storeCell address value, memory =>
    ((), Function.update memory (place ((address - base) / cellBytes)) value)
  | .load _, memory => (0, memory)
  | .store _ _, memory => ((), memory)
  | .pause, memory => ((), memory)
  | .log _ _, memory => ((), memory)
  | .status _, memory => (0, memory)
  | .request _ _, memory => (.error .notReady, memory)
  | .probe _ _, memory => (0, memory)
  | .getVariable _, memory => (none, memory)
  | .setVariable _ _, memory => (.error .full, memory)
  | .manager _, memory => (.ok (), memory)

/-- The same memory with a fault in each cell. -/
def faulty (base : Nat) (place : Nat → κ) (faults : κ → Fault) :
    (op : Op) → (κ → Cell) → op.Answer × (κ → Cell)
  | .storeCell address value, memory =>
    ((), put faults (place ((address - base) / cellBytes)) value memory)
  | op, memory => backed base place op memory

theorem cellAddress_offset : (cellAddress base offset - base) / cellBytes = offset := by
  simp only [cellAddress, cellBytes]
  omega

@[simp] theorem run_loadCell (f : Cell → Program α) :
    (Program.loadCell (cellAddress base offset) >>= f).run (faulty base place faults) memory =
      (f (memory (place offset))).run (faulty base place faults) memory := by
  change (f (memory (place _))).run (faulty base place faults) memory = _
  rw [cellAddress_offset]

@[simp] theorem run_storeCell (value : Cell) (f : Unit → Program α) :
    (Program.storeCell (cellAddress base offset) value >>= f).run (faulty base place faults)
        memory =
      (f ()).run (faulty base place faults) (put faults (place offset) value memory) := by
  change (f ()).run (faulty base place faults) (put faults (place _) value memory) = _
  rw [cellAddress_offset]

/-- `Marked place faults offset saved memory original`: the patterns were written to `original` at
the doubles of `offset`, from the largest down to `offset`, which gave `memory`. The saved cells are
what was overwritten, last first. -/
inductive Marked (place : Nat → κ) (faults : κ → Fault) :
    Nat → List Cell → (κ → Cell) → (κ → Cell) → Prop
  | nil {offset : Nat} {memory : κ → Cell} : Marked place faults offset [] memory memory
  | cons {offset : Nat} {saved : List Cell} {memory original : κ → Cell}
      (larger : Marked place faults (2 * offset) saved memory original) :
      Marked place faults offset (memory (place offset) :: saved)
        (put faults (place offset) (pattern offset) memory) original

theorem Marked.held (marked : Marked place faults offset saved memory original)
    (held : Held faults original) : Held faults memory := by
  induction marked with
  | nil => exact held
  | cons _ ih => exact (ih held).put

theorem Marked.alike (marked : Marked place faults offset saved memory original) :
    Alike faults memory original := by
  induction marked with
  | nil => exact fun _ _ => rfl
  | cons _ ih => exact ih.put

theorem double_mul (offset count : Nat) : offset * 2 ^ (count + 1) = 2 * offset * 2 ^ count := by
  rw [Nat.pow_succ', ← Nat.mul_assoc, Nat.mul_comm offset 2]

theorem lt_of_double {count : Nat} (span : 2 * offset * 2 ^ count = cells) (positive : 0 < offset) :
    offset < cells := by
  have := Nat.le_mul_of_pos_right (2 * offset) (Nat.two_pow_pos count)
  omega

/-- Marking goes down to the first offset. -/
theorem mark_run (base : Nat) {probes exponent : Nat} (enough : exponent ≤ probes)
    (marked : Marked place faults (2 ^ exponent) saved memory original) :
    ∃ all after, (mark base probes (2 ^ exponent / 2) saved).run (faulty base place faults) memory =
        (some all, after) ∧
      Marked place faults 1 all after original ∧ all.length = saved.length + exponent := by
  induction exponent generalizing probes saved memory with
  | zero =>
    refine ⟨saved, memory, ?_, marked, rfl⟩
    cases probes <;> rfl
  | succ exponent ih =>
    obtain ⟨probes, rfl⟩ : ∃ left, probes = left + 1 := ⟨probes - 1, by omega⟩
    have half : 2 ^ (exponent + 1) / 2 = 2 ^ exponent := by
      rw [Nat.pow_succ, Nat.mul_div_cancel _ Nat.two_pos]
    have positive : 2 ^ exponent ≠ 0 := Nat.ne_of_gt (Nat.two_pow_pos exponent)
    rw [Nat.pow_succ'] at marked
    obtain ⟨all, after, run, done, length⟩ := ih (Nat.le_of_succ_le_succ enough) (.cons marked)
    refine ⟨all, after, ?_, done, ?_⟩
    · rw [half, mark, if_neg positive, run_loadCell, run_storeCell, run]
    · rw [length, List.length_cons]
      omega

theorem unwind_run (base : Nat) (marked : Marked place faults offset saved memory original)
    (held : Held faults original) (span : offset * 2 ^ saved.length = cells)
    (positive : 0 < offset) :
    (unwind base cells saved offset).run (faulty base place faults) memory = (some (), original) := by
  induction marked with
  | nil => rfl
  | @cons offset saved memory original larger ih =>
    rw [List.length_cons, double_mul] at span
    have inside := lt_of_double span positive
    rw [unwind, if_pos inside, run_storeCell, put_back (larger.held held)]
    exact ih held span (by omega)

/-- A cell that no mark reaches is as it was. -/
theorem Marked.untouched {cell : κ} (marked : Marked place faults offset saved memory original)
    (span : offset * 2 ^ saved.length = cells) (positive : 0 < offset)
    (h : ∀ j, offset * 2 ^ j < cells → place (offset * 2 ^ j) ≠ cell) :
    memory cell = original cell := by
  induction marked with
  | nil => rfl
  | @cons offset saved memory original larger ih =>
    rw [List.length_cons, double_mul] at span
    have inside := lt_of_double span positive
    have ne : place offset ≠ cell := by simpa using h 0 (by simpa using inside)
    rw [put, Function.update_of_ne ne.symm]
    refine ih span (by omega) fun j hj => ?_
    rw [← double_mul] at hj ⊢
    exact h (j + 1) hj

/-- The content after zero was stored to the first cell and the patterns from an offset on were
taken back: the first cell is restored through an offset at which it repeats, or is left as it is. -/
inductive Unwound (place : Nat → κ) (faults : κ → Fault) (cells offset : Nat)
    (original : κ → Cell) : (κ → Cell) → Prop
  | restored {j : Nat} (inside : offset * 2 ^ j < cells)
      (repeats : place (offset * 2 ^ j) = place 0) : Unwound place faults cells offset original original
  | zeroed (apart : ∀ j, offset * 2 ^ j < cells → place (offset * 2 ^ j) ≠ place 0) :
      Unwound place faults cells offset original (put faults (place 0) 0 original)

/-- An offset at which the first cell does not repeat makes no difference. -/
theorem Unwound.double (unwound : Unwound place faults cells (2 * offset) original after)
    (apart : place offset ≠ place 0) : Unwound place faults cells offset original after := by
  cases unwound with
  | @restored j inside repeats =>
    rw [← double_mul] at inside repeats
    exact .restored inside repeats
  | zeroed others =>
    refine .zeroed fun j inside => ?_
    cases j with
    | zero => simpa using apart
    | succ j =>
      rw [double_mul] at inside ⊢
      exact others j inside

theorem unwind_zeroed (base : Nat) (marked : Marked place faults offset saved memory original)
    (held : Held faults original) (span : offset * 2 ^ saved.length = cells)
    (positive : 0 < offset) :
    ∃ after, (unwind base cells saved offset).run (faulty base place faults)
        (put faults (place 0) 0 memory) = (some (), after) ∧
      Unwound place faults cells offset original after := by
  induction marked with
  | @nil offset memory =>
    refine ⟨_, rfl, .zeroed fun j inside => ?_⟩
    have := Nat.le_mul_of_pos_right offset (Nat.two_pow_pos j)
    simp only [List.length_nil, Nat.pow_zero, Nat.mul_one] at span
    omega
  | @cons offset saved memory original larger ih =>
    rw [List.length_cons, double_mul] at span
    have inside := lt_of_double span positive
    rw [unwind, if_pos inside, run_storeCell]
    by_cases same : place offset = place 0
    · rw [← same, put_put, put_back (larger.held held)]
      refine ⟨original, unwind_run base larger held span (by omega), ?_⟩
      exact .restored (j := 0) (by simpa using inside) (by simpa using same)
    · rw [put_comm same, put_back (larger.held held)]
      obtain ⟨after, run, unwound⟩ := ih held span (by omega)
      exact ⟨after, run, unwound.double same⟩

theorem pattern_ne_zero (h : offset < 2 ^ 63) : pattern offset ≠ 0 := by
  intro zero
  have bits := congrArg (fun cell => (~~~ cell).toNat) zero
  simp only [pattern, BitVec.not_not, BitVec.toNat_ofNat] at bits
  rw [Nat.mod_eq_of_lt (by omega)] at bits
  simp at bits
  omega

/-- Once zero was stored to the first cell, the offset still shows its pattern. -/
def Shows (place : Nat → κ) (faults : κ → Fault) (memory : κ → Cell) (offset : Nat) : Prop :=
  place offset ≠ place 0 ∧
    (faults (place offset)).store (memory (place offset)) (pattern offset) = pattern offset

/-- What comparing from an offset on comes to while the first cell holds zero: the first double that
does not show its pattern, or none if all do. The patterns are taken back. -/
inductive Compared (place : Nat → κ) (faults : κ → Fault) (cells offset : Nat)
    (original : κ → Cell) : Option Nat → (κ → Cell) → Prop
  | stopped {j : Nat} {after : κ → Cell} (inside : offset * 2 ^ j < cells)
      (lost : ¬ Shows place faults original (offset * 2 ^ j))
      (least : ∀ i < j, Shows place faults original (offset * 2 ^ i))
      (unwound : Unwound place faults cells offset original after) :
      Compared place faults cells offset original (some (offset * 2 ^ j)) after
  | passed (all : ∀ j, offset * 2 ^ j < cells → Shows place faults original (offset * 2 ^ j)) :
      Compared place faults cells offset original none (put faults (place 0) 0 original)

theorem Compared.here (inside : offset < cells) (lost : ¬ Shows place faults original offset)
    (unwound : Unwound place faults cells offset original after) :
    Compared place faults cells offset original (some offset) after := by
  have first : offset * 2 ^ 0 = offset := by rw [Nat.pow_zero, Nat.mul_one]
  rw [← first] at inside lost
  have stopped : Compared place faults cells offset original (some (offset * 2 ^ 0)) after :=
    .stopped inside lost (by simp) unwound
  rwa [first] at stopped

/-- An offset that shows its pattern is passed by. -/
theorem Compared.double {found : Option Nat}
    (compared : Compared place faults cells (2 * offset) original found after)
    (shows : Shows place faults original offset) :
    Compared place faults cells offset original found after := by
  cases compared with
  | @stopped j _ inside lost least unwound =>
    rw [← double_mul] at inside lost ⊢
    refine .stopped inside lost (fun i less => ?_) (unwound.double shows.1)
    cases i with
    | zero => simpa using shows
    | succ i =>
      rw [double_mul]
      exact least i (by omega)
  | passed all =>
    refine .passed fun j within => ?_
    cases j with
    | zero => simpa using shows
    | succ j =>
      rw [double_mul] at within ⊢
      exact all j within

theorem compare_run (base : Nat) (marked : Marked place faults offset saved memory original)
    (held : Held faults original)
    (readable : (faults (place 0)).store (original (place 0)) 0 = 0)
    (span : offset * 2 ^ saved.length = cells) (positive : 0 < offset) (small : cells ≤ 2 ^ 63) :
    ∃ found after, (compare base cells saved offset).run (faulty base place faults)
        (put faults (place 0) 0 memory) = (some found, after) ∧
      Compared place faults cells offset original found after := by
  induction marked with
  | @nil offset memory =>
    refine ⟨none, _, rfl, .passed fun j inside => ?_⟩
    have := Nat.le_mul_of_pos_right offset (Nat.two_pow_pos j)
    simp only [List.length_nil, Nat.pow_zero, Nat.mul_one] at span
    omega
  | @cons offset saved memory original larger ih =>
    rw [List.length_cons, double_mul] at span
    have inside := lt_of_double span positive
    have heldNow := larger.held held
    rw [compare, if_neg (Nat.not_le.2 inside), run_loadCell, run_storeCell]
    by_cases same : place offset = place 0
    · -- The cell holds the zero of the first cell, and the saved content restores both.
      have zero : put faults (place 0) 0 (put faults (place offset) (pattern offset) memory)
          (place offset) = 0 := by
        rw [same, put_put, put, Function.update_self, larger.alike, readable]
      have lost : (0 : Cell) ≠ pattern offset := (pattern_ne_zero (by omega)).symm
      have unwound := unwind_run base larger held span (by omega)
      refine ⟨some offset, original, ?_, .here inside (fun shows => shows.1 same)
        (.restored (j := 0) (by simpa using inside) (by simpa using same))⟩
      rw [zero, if_neg lost, ← same, put_put, put_back heldNow, Program.bind_eq, Program.run_bind,
        unwound]
      rfl
    · have seen : put faults (place 0) 0 (put faults (place offset) (pattern offset) memory)
          (place offset) = (faults (place offset)).store (original (place offset)) (pattern offset) := by
        rw [put, Function.update_of_ne same, put, Function.update_self, larger.alike]
      have restored : put faults (place offset) (memory (place offset)) (put faults (place 0) 0
          (put faults (place offset) (pattern offset) memory)) = put faults (place 0) 0 memory := by
        rw [put_comm same, put_back heldNow]
      rw [seen, restored]
      by_cases shown : (faults (place offset)).store (original (place offset)) (pattern offset) =
          pattern offset
      · rw [if_pos shown]
        obtain ⟨found, after, run, compared⟩ := ih held readable span (by omega)
        exact ⟨found, after, run, compared.double ⟨same, shown⟩⟩
      · obtain ⟨after, run, unwound⟩ := unwind_zeroed base larger held span (by omega)
        refine ⟨some offset, after, ?_, .here inside (fun shows => shown shows.2)
          (unwound.double same)⟩
        rw [if_neg shown, Program.bind_eq, Program.run_bind, run]
        rfl

/-- The size that belongs to a window of `size` bytes: none if the first cell does not take a zero,
else the bytes before the first power of two that does not show its pattern, or the whole window. -/
inductive Detects (place : Nat → κ) (faults : κ → Fault) (memory : κ → Cell) (size : Nat) :
    Nat → Prop
  | unreadable (refused : (faults (place 0)).store (memory (place 0)) 0 ≠ 0) :
      Detects place faults memory size 0
  | early {j : Nat} (readable : (faults (place 0)).store (memory (place 0)) 0 = 0)
      (inside : 2 ^ j < size / 8) (lost : ¬ Shows place faults memory (2 ^ j))
      (least : ∀ i < j, Shows place faults memory (2 ^ i)) :
      Detects place faults memory size (8 * 2 ^ j)
  | whole (readable : (faults (place 0)).store (memory (place 0)) 0 = 0)
      (all : ∀ j, 2 ^ j < size / 8 → Shows place faults memory (2 ^ j)) :
      Detects place faults memory size size

/-- The first cell takes a zero and repeats at none of the offsets, one of which loses its pattern to
a fault. -/
structure Loses (place : Nat → κ) (faults : κ → Fault) (memory : κ → Cell) (size : Nat) : Prop where
  readable : (faults (place 0)).store (memory (place 0)) 0 = 0
  apart : ∀ j, 2 ^ j < size / 8 → place (2 ^ j) ≠ place 0
  failing : ∃ j, 2 ^ j < size / 8 ∧
    (faults (place (2 ^ j))).store (memory (place (2 ^ j))) (pattern (2 ^ j)) ≠ pattern (2 ^ j)

theorem detect_cells_faulty {count : Nat} (cells : size / cellBytes = 2 ^ count) (few : count ≤ 63)
    (base : Nat) (place : Nat → κ) (held : Held faults memory) :
    ∃ found after, (detect base size).run (faulty base place faults) memory = (some found, after) ∧
      Detects place faults memory size found ∧
      (Loses place faults memory size → after = Function.update memory (place 0) 0) ∧
      (¬ Loses place faults memory size → after = memory) := by
  have small : 2 ^ count ≤ 2 ^ 63 := Nat.pow_le_pow_right Nat.two_pos few
  obtain ⟨saved, marks, marking, marked, length⟩ := mark_run base (Nat.le_succ_of_le few)
    (.nil : Marked place faults (2 ^ count) [] memory memory)
  have span : 1 * 2 ^ saved.length = 2 ^ count := by
    rw [length]
    simp
  have first : (put faults (place 0) 0 marks) (place 0) =
      (faults (place 0)).store (memory (place 0)) 0 := by
    rw [put, Function.update_self, marked.alike]
  rw [detect, maxProbes]
  rw [cells, Program.bind_eq, Program.run_bind, marking]
  simp only [run_loadCell, run_storeCell, first]
  by_cases readable : (faults (place 0)).store (memory (place 0)) 0 = 0
  · rw [if_neg (not_not.2 readable), Program.bind_eq, Program.run_bind]
    obtain ⟨_, after, run, compared⟩ := compare_run base marked held readable span Nat.one_pos small
    rw [run]
    cases compared with
    | @stopped j _ inside lost least unwound =>
      simp only [Nat.one_mul, ← cells] at inside lost least
      have found : 1 * 2 ^ j * cellBytes = 8 * 2 ^ j := by
        rw [Nat.one_mul, Nat.mul_comm, cellBytes]
      refine ⟨8 * 2 ^ j, after, by rw [← found]; rfl, .early readable inside lost least, ?_⟩
      cases unwound with
      | @restored i within repeats =>
        rw [← cells, Nat.one_mul] at within
        rw [Nat.one_mul] at repeats
        exact ⟨fun loses => absurd repeats (loses.apart i within), fun _ => rfl⟩
      | zeroed apart =>
        simp only [Nat.one_mul, ← cells] at apart
        have loses : Loses place faults memory size :=
          ⟨readable, apart, j, inside, fun shown => lost ⟨apart j inside, shown⟩⟩
        exact ⟨fun _ => by rw [put, readable], fun spared => absurd loses spared⟩
    | passed all =>
      simp only [Nat.one_mul, ← cells] at all
      have base : marks (place 0) = memory (place 0) := by
        refine marked.untouched span Nat.one_pos fun j inside => ?_
        rw [← cells, Nat.one_mul] at inside
        rw [Nat.one_mul]
        exact (all j inside).1
      dsimp only
      rw [run_storeCell, base, put_back held]
      refine ⟨size, memory, rfl, .whole readable all, fun loses => ?_, fun _ => rfl⟩
      obtain ⟨j, inside, lost⟩ := loses.failing
      exact absurd (all j inside).2 lost
  · rw [if_pos readable, run_storeCell, put_back (marked.held held), Program.bind_eq,
      Program.run_bind, unwind_run base marked held span Nat.one_pos]
    exact ⟨0, memory, rfl, .unreadable readable, fun loses => absurd loses.readable readable,
      fun _ => rfl⟩

/-- Detection on memory whose cells have stuck bits or ignore stores, and whose content the faults
leave alone. Every cell but the first one is as it was before. So is the first one, unless it takes a
zero, repeats at none of the offsets and one of these loses its pattern: then it is left zero. -/
theorem detect_faulty {exponent : Nat} (cell : 3 ≤ exponent) (word : exponent < 64) (base : Nat)
    (place : Nat → κ) (held : Held faults memory) :
    ∃ found after, (detect base (2 ^ exponent)).run (faulty base place faults) memory =
        (some found, after) ∧
      Detects place faults memory (2 ^ exponent) found ∧
      (∀ cell, cell ≠ place 0 → after cell = memory cell) ∧
      (Loses place faults memory (2 ^ exponent) → after (place 0) = 0) ∧
      (after = memory ↔ ¬ (Loses place faults memory (2 ^ exponent) ∧ memory (place 0) ≠ 0)) := by
  obtain ⟨count, rfl⟩ : ∃ count, exponent = count + 3 := ⟨exponent - 3, by omega⟩
  have cells : 2 ^ (count + 3) / cellBytes = 2 ^ count := by
    rw [Nat.pow_add, cellBytes]
    exact Nat.mul_div_cancel _ (by decide)
  obtain ⟨found, after, run, detects, zeroed, restored⟩ :=
    detect_cells_faulty cells (by omega) base place held
  refine ⟨found, after, run, detects, ?_⟩
  by_cases loses : Loses place faults memory (2 ^ (count + 3))
  · obtain rfl := zeroed loses
    refine ⟨fun cell other => Function.update_of_ne other _ _, fun _ => Function.update_self _ _ _,
      ?_⟩
    rw [Function.update_eq_self_iff]
    constructor
    · exact fun zero lost => lost.2 zero.symm
    · intro spared
      by_contra other
      exact spared ⟨loses, Ne.symm other⟩
  · obtain rfl := restored loses
    simp [loses]

end Runs

/-- Physical cells that count up from `0x1111`. -/
def counting {count : Nat} (cell : Fin count) : Cell := 0x1111 + BitVec.ofNat 64 cell

/-- Of four physical cells that repeat in a window of eight, the second one ignores stores. The first
cell is restored through the fifth one of the window. -/
theorem detect_faulty_repeating : ∃ found,
    (detect 0x80000000 (2 ^ 6)).run (faulty 0x80000000 (Fin.ofNat 4)
        fun cell => if cell = 1 then .ignored else .none) counting = (some found, counting) := by
  have held : Held (fun cell : Fin 4 => if cell = 1 then .ignored else .none) counting := by decide
  obtain ⟨found, after, run, -, -, -, restored⟩ :=
    detect_faulty (by decide : 3 ≤ 6) (by decide) 0x80000000 (Fin.ofNat 4) held
  have spared := restored.2 fun loses => loses.1.apart 2 (by decide) (by decide)
  exact ⟨found, by rw [run, spared]⟩

/-- The two cells of a window hold the lower half word only. The faults leave their content alone, but
the first cell is zero after the detection. -/
theorem detect_loses_first :
    Held (fun _ : Fin 2 => .stuck 0xFFFF 0) counting ∧
      ((detect 0x80000000 16).run (faulty 0x80000000 (Fin.ofNat 2) fun _ => .stuck 0xFFFF 0)
        counting).1 = some 8 ∧
      ((detect 0x80000000 16).run (faulty 0x80000000 (Fin.ofNat 2) fun _ => .stuck 0xFFFF 0)
        counting).2 0 = 0 ∧
      counting (0 : Fin 2) = 0x1111 := by
  refine ⟨by decide, ?_, ?_, by decide⟩
  · with_unfolding_all rfl
  · with_unfolding_all rfl

end BringUp.Dram.Detection
