import BringUp.Proofs.Dram.Detection
import BringUp.Proofs.Program.Footprint

/-! Memory in the address space, where windows may overlap. Main statement: what is found in a
window depends on the cells behind it alone, and all memory is as it was before. -/
namespace BringUp

/-- Address of the cell that a question is about. -/
def Op.cell? : Op → Option Nat
  | .loadCell address => some address
  | .storeCell address _ => some address
  | _ => none

namespace Dram.Detection

open Program (uses_bind)

variable {κ : Type} [DecidableEq κ] {base cells size start : Nat}

/-- Questions about the cells from an address on. -/
def Accessing (base : Nat) : Op → Prop
  | .loadCell address => ∃ offset, address = cellAddress base offset
  | .storeCell address _ => ∃ offset, address = cellAddress base offset
  | _ => False

/-- Questions about the first cell and those inside a window. -/
def Touching (base cells : Nat) (op : Op) : Prop :=
  ∃ offset, (offset = 0 ∨ offset < cells) ∧ op.cell? = some (cellAddress base offset)

theorem Touching.accessing (op : Op) (touching : Touching base cells op) : Accessing base op := by
  obtain ⟨offset, -, same⟩ := touching
  cases op with
  | loadCell address => exact ⟨offset, Option.some.inj same⟩
  | storeCell address _ => exact ⟨offset, Option.some.inj same⟩
  | _ => cases same

theorem mark_uses {probes offset : Nat} {saved : List Cell} (inside : offset = 0 ∨ offset < cells) :
    (mark base probes offset saved).Uses (Touching base cells) := by
  induction probes generalizing offset saved with
  | zero => trivial
  | succ probes ih =>
    unfold mark
    split
    · trivial
    · exact ⟨⟨offset, inside, rfl⟩, fun _ => ⟨⟨offset, inside, rfl⟩, fun _ => ih (by omega)⟩⟩

theorem unwind_uses {saved : List Cell} {offset : Nat} :
    (unwind base cells saved offset).Uses (Touching base cells) := by
  induction saved generalizing offset with
  | nil => trivial
  | cons cell rest ih =>
    unfold unwind
    split
    · next inside => exact ⟨⟨offset, .inr inside, rfl⟩, fun _ => ih⟩
    · trivial

theorem compare_uses {saved : List Cell} {offset : Nat} :
    (compare base cells saved offset).Uses (Touching base cells) := by
  induction saved generalizing offset with
  | nil => trivial
  | cons cell rest ih =>
    unfold compare
    split
    · trivial
    · next outside =>
      have inside : offset = 0 ∨ offset < cells := .inr (Nat.not_le.1 outside)
      refine ⟨⟨offset, inside, rfl⟩, fun seen => ⟨⟨offset, inside, rfl⟩, fun _ => ?_⟩⟩
      change Program.Uses _ (if _ then _ else _)
      split
      · exact ih
      · exact uses_bind unwind_uses fun _ _ => trivial

/-- Detection looks at the first cell and at cells inside its window. -/
theorem detect_uses_window : (detect base size).Uses (Touching base (size / cellBytes)) := by
  have first : 0 = 0 ∨ 0 < size / cellBytes := .inl rfl
  have half (cells : Nat) : cells / 2 = 0 ∨ cells / 2 < cells := by omega
  have restored {value : Cell} : (Program.storeCell (cellAddress base 0) value).Uses
      (Touching base (size / cellBytes)) :=
    ⟨⟨0, first, rfl⟩, fun _ => trivial⟩
  refine uses_bind (mark_uses (half _)) fun saved _ => ⟨⟨0, first, rfl⟩, fun _ =>
    ⟨⟨0, first, rfl⟩, fun _ => ⟨⟨0, first, rfl⟩, fun seen => ?_⟩⟩⟩
  change Program.Uses _ (if _ then _ else _)
  split
  · exact uses_bind restored fun _ _ => uses_bind unwind_uses fun _ _ => trivial
  · refine uses_bind compare_uses fun result _ => ?_
    cases result with
    | some _ => trivial
    | none => exact uses_bind restored fun _ _ => trivial

theorem detect_uses : (detect base size).Uses (Accessing base) :=
  detect_uses_window.mono Touching.accessing

/-- The cells from an address on are those of the address space, counted from there. -/
theorem backed_eq_of_accessing {place : Nat → κ} {op : Op} (accessing : Accessing start op)
    (memory : κ → Cell) : backed 0 place op memory =
      backed start (fun cell => place (start / cellBytes + cell)) op memory := by
  have index (offset : Nat) : (cellAddress start offset - 0) / cellBytes =
      start / cellBytes + (cellAddress start offset - start) / cellBytes := by
    rw [cellAddress_offset, cellAddress, cellBytes]
    omega
  cases op with
  | loadCell address =>
    obtain ⟨offset, rfl⟩ := accessing
    simp only [backed, index]
  | storeCell address value =>
    obtain ⟨offset, rfl⟩ := accessing
    simp only [backed, index]
  | _ => exact accessing.elim

theorem detect_small {place : Nat → κ} (small : size < cellBytes) (memory : κ → Cell) :
    (detect base size).run (backed base place) memory = (some size, memory) := by
  have held : Held (fun _ => .none) memory := fun _ => Fault.store_none _ _
  have zero : put (fun _ => .none) (place 0) 0 memory (place 0) = 0 := by
    rw [put, Function.update_self, Fault.store_none]
  rw [detect, Nat.div_eq_of_lt small, ← faulty_none]
  change (Program.loadCell (cellAddress base 0) >>= fun first => _).run _ _ = _
  rw [run_loadCell, run_storeCell, run_loadCell, zero, if_neg (by simp)]
  change (Program.storeCell (cellAddress base 0) (memory (place 0)) >>= fun _ => _).run _ _ = _
  rw [run_storeCell, put_back held]
  rfl

/-- Answers by the memory of the address space, of which `place` tells the cells. A probe detects
the size of its window. -/
def ram (place : Nat → κ) : (op : Op) → (κ → Cell) → op.Answer × (κ → Cell)
  | .probe start size, memory =>
    let outcome := (detect start size).run (backed 0 place) memory
    (outcome.1.getD 0, outcome.2)
  | op, memory => backed 0 place op memory

/-- Detection finds what belongs to a window of any power of two, also of less than a cell. -/
theorem detect_window {exponent : Nat} (word : exponent < 64) (base : Nat) (place : Nat → κ)
    (memory : κ → Cell) :
    ∃ found, (detect base (2 ^ exponent)).run (backed base place) memory = (some found, memory) ∧
      Repeats place (2 ^ exponent) found := by
  by_cases cell : 3 ≤ exponent
  · have cells : 2 ^ exponent / cellBytes = 2 ^ (exponent - 3) :=
      Nat.pow_div cell Nat.two_pos
    exact detect_cells cells (by omega) base place memory
  · have small : 2 ^ exponent < cellBytes :=
      Nat.pow_lt_pow_right (by decide) (Nat.not_le.1 cell)
    have none : 2 ^ exponent / 8 = 0 := Nat.div_eq_of_lt small
    refine ⟨2 ^ exponent, detect_small small memory, .never fun j inside => ?_⟩
    rw [none] at inside
    exact absurd inside (Nat.not_lt_zero _)

/-- A probe of any power of two finds what belongs to its window, and leaves every cell of the
address space as it was. -/
theorem ram_probe {exponent : Nat} (word : exponent < 64) (place : Nat → κ) (start : Nat)
    (memory : κ → Cell) : ∃ found, ram place (.probe start (2 ^ exponent)) memory = (found, memory) ∧
      Repeats (fun cell => place (start / cellBytes + cell)) (2 ^ exponent) found := by
  obtain ⟨found, run, repeated⟩ := detect_window word start
    (fun cell => place (start / cellBytes + cell)) memory
  refine ⟨found, ?_, repeated⟩
  rw [ram, detect_uses.run_congr fun op accessing => backed_eq_of_accessing accessing, run]
  rfl

end Dram.Detection
end BringUp
