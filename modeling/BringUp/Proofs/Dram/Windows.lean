import BringUp.Proofs.Dram.Detection

/-! Windows of any size. The patterns are written at the halves of a window, but looked for at the
powers of two. Main statement: memory that does not repeat is left as it was exactly if half of the
window is one. -/
namespace BringUp.Dram.Detection

open Function (update update_self update_of_ne)

/-- The half of a window whose saved cell is stored back at the power of two `2 ^ j`. -/
def partner (cells j : Nat) : Nat :=
  cells / 2 ^ (cells.log2 - j)

section Halves

variable {cells i j : Nat}

theorem pow_log2_le (inside : j < cells.log2) : 2 ^ cells.log2 ≤ cells := by
  refine Nat.log2_self_le ?_
  rintro rfl
  simp at inside

theorem pow_lt (inside : j < cells.log2) : 2 ^ j < cells :=
  Nat.lt_of_lt_of_le (Nat.pow_lt_pow_right (by decide) inside) (pow_log2_le inside)

theorem partner_bounds (inside : j < cells.log2) :
    2 ^ j ≤ partner cells j ∧ partner cells j < 2 ^ (j + 1) := by
  have whole (power : Nat) : 2 ^ power * 2 ^ (cells.log2 - j) = 2 ^ (power + (cells.log2 - j)) :=
    (Nat.pow_add _ _ _).symm
  constructor
  · rw [partner, Nat.le_div_iff_mul_le (Nat.two_pow_pos _), whole,
      Nat.add_sub_cancel' (Nat.le_of_lt inside)]
    exact pow_log2_le inside
  · have next : j + 1 + (cells.log2 - j) = cells.log2 + 1 := by omega
    rw [partner, Nat.div_lt_iff_lt_mul (Nat.two_pow_pos _), whole, next]
    exact Nat.lt_log2_self

theorem partner_pos (inside : j < cells.log2) : 0 < partner cells j :=
  Nat.lt_of_lt_of_le (Nat.two_pow_pos j) (partner_bounds inside).1

theorem partner_lt (inside : j < cells.log2) : partner cells j < cells :=
  calc partner cells j < 2 ^ (j + 1) := (partner_bounds inside).2
    _ ≤ 2 ^ cells.log2 := Nat.pow_le_pow_right Nat.two_pos inside
    _ ≤ cells := pow_log2_le inside

theorem log2_partner (inside : j < cells.log2) : (partner cells j).log2 = j :=
  (Nat.log2_eq_iff (Nat.ne_of_gt (partner_pos inside))).2 (partner_bounds inside)

theorem partner_inj (first : i < cells.log2) (second : j < cells.log2)
    (same : partner cells i = partner cells j) : i = j := by
  rw [← log2_partner first, same, log2_partner second]

theorem eq_of_partner_eq_pow (inside : j < cells.log2) (same : partner cells j = 2 ^ i) : j = i := by
  rw [← log2_partner inside, same, Nat.log2_two_pow]

/-- If half of the window is a power of two, so are all smaller halves. -/
theorem partner_eq_pow {exponent : Nat} (half : cells / 2 = 2 ^ exponent) (inside : j < cells.log2) :
    partner cells j = 2 ^ j := by
  have log : exponent + 1 = cells.log2 := by
    have positive := Nat.two_pow_pos exponent
    have one : 2 ^ (exponent + 1) = 2 ^ exponent * 2 := Nat.pow_succ _ _
    have two : 2 ^ (exponent + 1 + 1) = 2 ^ (exponent + 1) * 2 := Nat.pow_succ _ _
    exact ((Nat.log2_eq_iff (by rintro rfl; simp at inside)).2 ⟨by omega, by omega⟩).symm
  have steps : cells.log2 - j = 1 + (exponent - j) := by omega
  rw [partner, steps, Nat.pow_add, Nat.pow_one, ← Nat.div_div_eq_div_mul, half,
    Nat.pow_div (by omega) Nat.two_pos]
  congr 1
  omega

theorem exists_partner_ne (large : 2 ≤ cells) (odd : ∀ exponent, cells / 2 ≠ 2 ^ exponent) :
    ∃ j < cells.log2, partner cells j ≠ 2 ^ j := by
  have one : 1 ≤ cells.log2 := (Nat.le_log2 (by omega)).2 (by omega)
  refine ⟨cells.log2 - 1, by omega, ?_⟩
  have half : partner cells (cells.log2 - 1) = cells / 2 := by
    rw [partner, Nat.sub_sub_self one, Nat.pow_one]
  rw [half]
  exact odd _

theorem pattern_inj {first second : Nat} (small : first < 2 ^ 64) (small' : second < 2 ^ 64)
    (same : pattern first = pattern second) : first = second := by
  have bits := congrArg (fun cell => (~~~ cell).toNat) same
  simp only [pattern, BitVec.not_not, BitVec.toNat_ofNat] at bits
  rwa [Nat.mod_eq_of_lt small, Nat.mod_eq_of_lt small'] at bits

end Halves

section Plain

variable {κ : Type} {place : Nat → κ} {memory during after : κ → Cell} {saved : List Cell}
  {base cells size low done first second found : Nat} {α : Type}

/-- Different offsets of a window are different cells of the memory. -/
def Apart (place : Nat → κ) (cells : Nat) : Prop :=
  ∀ first second, first < cells → second < cells → place first = place second → first = second

theorem Apart.ne (apart : Apart place cells) (inside : first < cells) (inside' : second < cells)
    (other : first ≠ second) : place first ≠ place second :=
  fun same => other (apart first second inside inside' same)

theorem Apart.pow_ne (apart : Apart place cells) {i j : Nat} (inside : i < cells.log2)
    (inside' : j < cells.log2) (other : i ≠ j) : place (2 ^ i) ≠ place (2 ^ j) :=
  apart.ne (pow_lt inside) (pow_lt inside') fun same =>
    other (Nat.pow_right_injective (Nat.le_refl 2) same)

theorem Apart.first_ne_pow (apart : Apart place cells) {j : Nat} (inside : j < cells.log2) :
    place 0 ≠ place (2 ^ j) :=
  apart.ne (Nat.zero_lt_of_lt (pow_lt inside)) (pow_lt inside) (Nat.ne_of_lt (Nat.two_pow_pos j))

theorem Apart.first_ne_partner (apart : Apart place cells) {j : Nat} (inside : j < cells.log2) :
    place 0 ≠ place (partner cells j) :=
  apart.ne (Nat.zero_lt_of_lt (pow_lt inside)) (partner_lt inside) (Nat.ne_of_lt (partner_pos inside))

/-- The memory while a window is probed: the halves from number `low` on have got their patterns, and
at the first `done` powers of two the saved cells of their partners were stored. -/
structure Partly (place : Nat → κ) (memory : κ → Cell) (cells low done : Nat) (during : κ → Cell) :
    Prop where
  checked : ∀ j < done, during (place (2 ^ j)) = memory (place (partner cells j))
  marked : ∀ j, low ≤ j → j < cells.log2 → (j < done → partner cells j ≠ 2 ^ j) →
    during (place (partner cells j)) = pattern (partner cells j)
  others : ∀ cell, (∀ j < done, cell ≠ place (2 ^ j)) →
    (∀ j, low ≤ j → j < cells.log2 → cell ≠ place (partner cells j)) → during cell = memory cell

namespace Partly

theorem start : Partly place memory cells cells.log2 0 memory where
  checked := nofun
  marked := fun _ above inside => absurd above (Nat.not_le.2 inside)
  others := fun _ _ _ => rfl

theorem unmarked (partly : Partly place memory cells (low + 1) 0 during) (apart : Apart place cells)
    (inside : low < cells.log2) :
    during (place (partner cells low)) = memory (place (partner cells low)) := by
  refine partly.others _ nofun fun j above inside' => ?_
  refine apart.ne (partner_lt inside) (partner_lt inside') fun same => ?_
  have := partner_inj inside inside' same
  omega

/-- What is found at the next power of two: its pattern if it is one of the halves, else its content. -/
theorem unchecked (partly : Partly place memory cells 0 done during) (apart : Apart place cells)
    (inside : done < cells.log2) : during (place (2 ^ done)) =
      if partner cells done = 2 ^ done then pattern (2 ^ done) else memory (place (2 ^ done)) := by
  split
  · next same =>
    have marked := partly.marked done (Nat.zero_le _) inside fun less => absurd less (Nat.lt_irrefl _)
    rwa [same] at marked
  · next other =>
    refine partly.others _ (fun j less => ?_) fun j _ inside' => ?_
    · exact apart.pow_ne inside (Nat.lt_trans less inside) (Nat.ne_of_gt less)
    · refine apart.ne (pow_lt inside) (partner_lt inside') fun same => ?_
      obtain rfl := eq_of_partner_eq_pow inside' same.symm
      exact other same.symm

theorem first_cell (partly : Partly place memory cells 0 done during) (apart : Apart place cells)
    (below : done ≤ cells.log2) : during (place 0) = memory (place 0) :=
  partly.others _ (fun _ less => apart.first_ne_pow (Nat.lt_of_lt_of_le less below))
    fun _ _ inside => apart.first_ne_partner inside

variable [DecidableEq κ]

theorem mark (partly : Partly place memory cells (low + 1) 0 during) (apart : Apart place cells)
    (inside : low < cells.log2) : Partly place memory cells low 0
      (update during (place (partner cells low)) (pattern (partner cells low))) where
  checked := nofun
  marked := by
    intro j above inside' kept
    by_cases here : j = low
    · subst here
      exact update_self _ _ _
    · have elsewhere : place (partner cells j) ≠ place (partner cells low) :=
        apart.ne (partner_lt inside') (partner_lt inside) fun same => here (partner_inj inside' inside same)
      rw [update_of_ne elsewhere]
      exact partly.marked j (by omega) inside' kept
  others := by
    intro cell _ unmarked
    rw [update_of_ne (unmarked low (Nat.le_refl _) inside)]
    exact partly.others cell nofun fun j above inside' => unmarked j (by omega) inside'

theorem check (partly : Partly place memory cells 0 done during) (apart : Apart place cells)
    (inside : done < cells.log2) : Partly place memory cells 0 (done + 1)
      (update during (place (2 ^ done)) (memory (place (partner cells done)))) where
  checked := by
    intro j less
    by_cases here : j = done
    · subst here
      exact update_self _ _ _
    · rw [update_of_ne (apart.pow_ne (by omega) inside here)]
      exact partly.checked j (by omega)
  marked := by
    intro j _ inside' kept
    have elsewhere : place (partner cells j) ≠ place (2 ^ done) := by
      refine apart.ne (partner_lt inside') (pow_lt inside) fun same => ?_
      obtain rfl := eq_of_partner_eq_pow inside' same
      exact kept (Nat.lt_succ_self _) same
    rw [update_of_ne elsewhere]
    exact partly.marked j (Nat.zero_le _) inside' fun less => kept (Nat.lt_succ_of_lt less)
  others := by
    intro cell unchecked unmarked
    rw [update_of_ne (unchecked done (Nat.lt_succ_self _))]
    exact partly.others cell (fun j less => unchecked j (Nat.lt_succ_of_lt less)) unmarked

end Partly

/-- The saved cells from number `low` on, the one of the smallest half first. -/
inductive Saved (place : Nat → κ) (memory : κ → Cell) (cells : Nat) : Nat → List Cell → Prop
  | nil : Saved place memory cells cells.log2 []
  | cons {low : Nat} {saved : List Cell} (inside : low < cells.log2)
      (larger : Saved place memory cells (low + 1) saved) :
      Saved place memory cells low (memory (place (partner cells low)) :: saved)

/-- A power of two misses its pattern if it is none of the halves and does not hold the pattern by
chance. -/
def Misses (place : Nat → κ) (memory : κ → Cell) (cells j : Nat) : Prop :=
  partner cells j ≠ 2 ^ j ∧ memory (place (2 ^ j)) ≠ pattern (2 ^ j)

/-- What the checks from the power of two with number `done` on come to. -/
inductive Stops (place : Nat → κ) (memory : κ → Cell) (cells done : Nat) : Option Nat → Prop
  | missed {j : Nat} (inside : j < cells.log2) (misses : Misses place memory cells j)
      (least : ∀ i, done ≤ i → i < j → ¬ Misses place memory cells i) :
      Stops place memory cells done (some (2 ^ j))
  | passed (all : ∀ j, done ≤ j → j < cells.log2 → ¬ Misses place memory cells j) :
      Stops place memory cells done none

theorem Stops.pass {result : Option Nat} (stops : Stops place memory cells (done + 1) result)
    (shows : ¬ Misses place memory cells done) : Stops place memory cells done result := by
  cases stops with
  | missed inside misses least =>
    refine .missed inside misses fun i above less => ?_
    obtain rfl | later := Nat.eq_or_lt_of_le above
    · exact shows
    · exact least i later less
  | passed all =>
    refine .passed fun j above inside => ?_
    obtain rfl | later := Nat.eq_or_lt_of_le above
    · exact shows
    · exact all j later inside

variable [DecidableEq κ]

@[simp] theorem run_backed_load {offset : Nat} (f : Cell → Program α) :
    (Program.loadCell (cellAddress base offset) >>= f).run (backed base place) memory =
      (f (memory (place offset))).run (backed base place) memory := by
  change (f (memory (place _))).run (backed base place) memory = _
  rw [cellAddress_offset]

@[simp] theorem run_backed_store {offset : Nat} {value : Cell} (f : Unit → Program α) :
    (Program.storeCell (cellAddress base offset) value >>= f).run (backed base place) memory =
      (f ()).run (backed base place) (update memory (place offset) value) := by
  change (f ()).run (backed base place) (update memory (place _) value) = _
  rw [cellAddress_offset]

/-- Marking goes down to the smallest half. -/
theorem mark_halves (base : Nat) (apart : Apart place cells) {probes : Nat} (enough : low ≤ probes)
    (below : low ≤ cells.log2) (kept : Saved place memory cells low saved)
    (partly : Partly place memory cells low 0 during) :
    ∃ all after, (mark base probes (cells / 2 ^ (cells.log2 - low + 1)) saved).run (backed base place)
        during = (some all, after) ∧
      Saved place memory cells 0 all ∧ Partly place memory cells 0 0 after := by
  induction low generalizing probes saved during with
  | zero =>
    have none : cells / 2 ^ (cells.log2 - 0 + 1) = 0 := Nat.div_eq_of_lt Nat.lt_log2_self
    refine ⟨saved, during, ?_, kept, partly⟩
    rw [none]
    cases probes <;> rfl
  | succ low ih =>
    obtain ⟨probes, rfl⟩ : ∃ left, probes = left + 1 := ⟨probes - 1, by omega⟩
    have here : cells / 2 ^ (cells.log2 - (low + 1) + 1) = partner cells low := by
      rw [partner]
      congr 2
      omega
    have half : partner cells low / 2 = cells / 2 ^ (cells.log2 - low + 1) := by
      rw [partner, Nat.div_div_eq_div_mul, ← Nat.pow_succ]
    obtain ⟨all, after, run, keptAll, marked⟩ := ih (Nat.le_of_succ_le_succ enough)
      (Nat.le_of_lt below) (.cons below kept) (partly.mark apart below)
    refine ⟨all, after, ?_, keptAll, marked⟩
    rw [here, Detection.mark, if_neg (Nat.ne_of_gt (partner_pos below)), run_backed_load, run_backed_store,
      partly.unmarked apart below, half, run]

theorem update_pow_first (apart : Apart place cells) (inside : done < cells.log2) (value : Cell) :
    update (update during (place 0) 0) (place (2 ^ done)) value =
      update (update during (place (2 ^ done)) value) (place 0) 0 :=
  Function.update_comm (apart.first_ne_pow inside) _ _ _

theorem unwind_halves (base : Nat) (apart : Apart place cells)
    (kept : Saved place memory cells done saved)
    (partly : Partly place memory cells 0 done during) :
    ∃ after, (unwind base cells saved (2 ^ done)).run (backed base place) (update during (place 0) 0) =
        (some (), update after (place 0) 0) ∧ Partly place memory cells 0 cells.log2 after := by
  induction kept generalizing during with
  | nil => exact ⟨during, rfl, partly⟩
  | @cons done saved inside larger ih =>
    obtain ⟨after, run, checked⟩ := ih (partly.check apart inside)
    refine ⟨after, ?_, checked⟩
    rw [unwind, if_pos (pow_lt inside), run_backed_store, update_pow_first apart inside,
      ← Nat.pow_succ', run]

/-- The checks store all saved cells at the powers of two, whether they stop or not. -/
theorem compare_halves (base : Nat) (apart : Apart place cells)
    (kept : Saved place memory cells done saved)
    (partly : Partly place memory cells 0 done during) :
    ∃ result after, (compare base cells saved (2 ^ done)).run (backed base place)
        (update during (place 0) 0) = (some result, update after (place 0) 0) ∧
      Partly place memory cells 0 cells.log2 after ∧ Stops place memory cells done result := by
  induction kept generalizing during with
  | nil => exact ⟨none, during, rfl, partly, .passed fun j above inside => by omega⟩
  | @cons done saved inside larger ih =>
    have next := partly.check apart inside
    have read : update during (place 0) 0 (place (2 ^ done)) = during (place (2 ^ done)) :=
      update_of_ne (apart.first_ne_pow inside).symm _ _
    rw [compare, if_neg (Nat.not_le.2 (pow_lt inside)), run_backed_load, run_backed_store, read,
      partly.unchecked apart inside, update_pow_first apart inside, ← Nat.pow_succ']
    by_cases misses : Misses place memory cells done
    · obtain ⟨after, run, checked⟩ := unwind_halves base apart larger next
      refine ⟨some (2 ^ done), after, ?_, checked, .missed inside misses fun i above less => by omega⟩
      rw [if_neg misses.1, if_neg misses.2, Program.bind_eq, Program.run_bind, run]
      rfl
    · have shows : (if partner cells done = 2 ^ done then pattern (2 ^ done)
          else memory (place (2 ^ done))) = pattern (2 ^ done) := by
        split
        · rfl
        · next other => exact not_not.1 fun lost => misses ⟨other, lost⟩
      obtain ⟨result, after, run, checked, stops⟩ := ih next
      exact ⟨result, after, by rw [if_pos shows, run], checked, stops.pass misses⟩

omit [DecidableEq κ] in
/-- What is found in a window of `size` bytes: the bytes before the first power of two that misses its
pattern, or the whole window. -/
inductive Finds (place : Nat → κ) (memory : κ → Cell) (size : Nat) : Nat → Prop
  | early {j : Nat} (inside : j < (size / cellBytes).log2)
      (misses : Misses place memory (size / cellBytes) j)
      (least : ∀ i < j, ¬ Misses place memory (size / cellBytes) i) :
      Finds place memory size (2 ^ j * cellBytes)
  | whole (all : ∀ j < (size / cellBytes).log2, ¬ Misses place memory (size / cellBytes) j) :
      Finds place memory size size

/-- The content after a window was probed. Every power of two holds the saved cell of its partner, and
a partner elsewhere keeps its pattern. -/
structure Leaves (place : Nat → κ) (memory : κ → Cell) (size found : Nat) (after : κ → Cell) :
    Prop where
  checked : ∀ j < (size / cellBytes).log2,
    after (place (2 ^ j)) = memory (place (partner (size / cellBytes) j))
  marked : ∀ j < (size / cellBytes).log2, partner (size / cellBytes) j ≠ 2 ^ j →
    after (place (partner (size / cellBytes) j)) = pattern (partner (size / cellBytes) j)
  first : after (place 0) = if found = size then memory (place 0) else 0
  others : ∀ cell, cell ≠ place 0 → (∀ j < (size / cellBytes).log2,
    cell ≠ place (2 ^ j) ∧ cell ≠ place (partner (size / cellBytes) j)) → after cell = memory cell

omit [DecidableEq κ] in
theorem Partly.leaves (partly : Partly place memory (size / cellBytes) 0 (size / cellBytes).log2 after)
    (apart : Apart place (size / cellBytes)) (whole : found = size) :
    Leaves place memory size found after where
  checked := partly.checked
  marked := fun j inside other => partly.marked j (Nat.zero_le _) inside fun _ => other
  first := by rw [if_pos whole, partly.first_cell apart (Nat.le_refl _)]
  others := fun cell _ other => partly.others cell (fun j inside => (other j inside).1)
    fun j _ inside => (other j inside).2

theorem Partly.leaves_zero
    (partly : Partly place memory (size / cellBytes) 0 (size / cellBytes).log2 after)
    (apart : Apart place (size / cellBytes)) (less : found ≠ size) :
    Leaves place memory size found (update after (place 0) 0) where
  checked := fun j inside =>
    (update_of_ne (apart.first_ne_pow inside).symm _ _).trans (partly.checked j inside)
  marked := fun j inside other => (update_of_ne (apart.first_ne_partner inside).symm _ _).trans
    (partly.marked j (Nat.zero_le _) inside fun _ => other)
  first := by rw [if_neg less, update_self]
  others := fun cell second other => (update_of_ne second _ _).trans
    (partly.others cell (fun j inside => (other j inside).1) fun j _ inside => (other j inside).2)

/-- Probing a window of memory that does not repeat in it. -/
theorem detect_plain (word : size < 2 ^ 64) (base : Nat) (apart : Apart place (size / cellBytes))
    (memory : κ → Cell) :
    ∃ found after, (detect base size).run (backed base place) memory = (some found, after) ∧
      Finds place memory size found ∧ Leaves place memory size found after := by
  have few : (size / cellBytes).log2 ≤ maxProbes := by
    by_cases none : size / cellBytes = 0
    · simp [none]
    · refine Nat.le_of_lt ((Nat.log2_lt none).2 (Nat.lt_of_le_of_lt (Nat.div_le_self _ _) ?_))
      simpa [maxProbes] using word
  have start : Partly place memory (size / cellBytes) (size / cellBytes).log2 0 memory := .start
  obtain ⟨saved, marks, marking, kept, marked⟩ :=
    mark_halves base apart few (Nat.le_refl _) .nil start
  obtain ⟨result, after, comparing, checked, stops⟩ := compare_halves base apart kept marked
  rw [Nat.sub_self, Nat.zero_add, Nat.pow_one] at marking
  rw [Nat.pow_zero] at comparing
  rw [detect, Program.bind_eq, Program.run_bind, marking]
  simp only [run_backed_load, run_backed_store, update_self]
  rw [if_neg (by simp), Program.bind_eq, Program.run_bind, comparing]
  cases stops with
  | @missed j inside misses least =>
    have less : 2 ^ j * cellBytes ≠ size := by
      have := pow_lt inside
      simp only [cellBytes] at this ⊢
      omega
    exact ⟨_, _, rfl, .early inside misses fun i before => least i (Nat.zero_le _) before,
      checked.leaves_zero apart less⟩
  | passed all =>
    have same : update (update after (place 0) 0) (place 0) (marks (place 0)) = after := by
      rw [Function.update_idem, marked.first_cell apart (Nat.zero_le _),
        ← checked.first_cell apart (Nat.le_refl _), Function.update_eq_self]
    refine ⟨size, after, ?_, .whole fun j inside => all j (Nat.zero_le _) inside,
      checked.leaves apart rfl⟩
    dsimp only
    rw [run_backed_store, same]
    rfl

omit [DecidableEq κ] in
/-- A window is found in full and its content is as before exactly if every half is the power of two
that it is checked at. -/
theorem Leaves.restored_iff (leaves : Leaves place memory size found after)
    (finds : Finds place memory size found) (word : size < 2 ^ 64) : found = size ∧ after = memory ↔
      ∀ j < (size / cellBytes).log2, partner (size / cellBytes) j = 2 ^ j := by
  constructor
  · rintro ⟨whole, rfl⟩ j inside
    by_contra other
    -- The half keeps its pattern, which now stands at the power of two as well, where it is wrong.
    have wrong : after (place (2 ^ j)) ≠ pattern (2 ^ j) := by
      rw [leaves.checked j inside, leaves.marked j inside other]
      have small : size / cellBytes < 2 ^ 64 := Nat.lt_of_le_of_lt (Nat.div_le_self _ _) word
      exact fun same => other (pattern_inj (Nat.lt_trans (partner_lt inside) small)
        (Nat.lt_trans (pow_lt inside) small) same)
    cases finds with
    | early inside' _ _ =>
      have := pow_lt inside'
      simp only [cellBytes] at this whole
      omega
    | whole all => exact all j inside ⟨other, wrong⟩
  · intro even
    have whole : found = size := by
      cases finds with
      | early inside misses _ => exact absurd (even _ inside) misses.1
      | whole _ => rfl
    refine ⟨whole, funext fun cell => ?_⟩
    by_cases first : cell = place 0
    · rw [first, leaves.first, if_pos whole]
    by_cases power : ∃ j < (size / cellBytes).log2, cell = place (2 ^ j)
    · obtain ⟨j, inside, rfl⟩ := power
      rw [leaves.checked j inside, even j inside]
    · refine leaves.others cell first fun j inside => ?_
      have other : cell ≠ place (2 ^ j) := fun same => power ⟨j, inside, same⟩
      exact ⟨other, by rwa [even j inside]⟩

/-- Memory that does not repeat in the window is found in full and is as it was before exactly if half
of the window is a power of two, or there is no cell to halve. -/
theorem window_restored_iff (word : size < 2 ^ 64) (base : Nat) (place : Nat → κ)
    (apart : Apart place (size / cellBytes)) (memory : κ → Cell) :
    ∃ found after, (detect base size).run (backed base place) memory = (some found, after) ∧
      Finds place memory size found ∧ Leaves place memory size found after ∧
      (found = size ∧ after = memory ↔ size < 16 ∨ ∃ exponent, size / 16 = 2 ^ exponent) := by
  obtain ⟨found, after, run, finds, leaves⟩ := detect_plain word base apart memory
  refine ⟨found, after, run, finds, leaves, ?_⟩
  rw [leaves.restored_iff finds word]
  have half : size / cellBytes / 2 = size / 16 := Nat.div_div_eq_div_mul _ _ _
  constructor
  · intro even
    by_contra odd
    rw [not_or, not_exists] at odd
    have large : 2 ≤ size / cellBytes := by
      simp only [cellBytes]
      omega
    obtain ⟨j, inside, other⟩ := exists_partner_ne large (by rw [half]; exact odd.2)
    exact other (even j inside)
  · rintro (small | ⟨exponent, power⟩) j inside
    · have := pow_lt inside
      have := Nat.two_pow_pos j
      simp only [cellBytes] at *
      omega
    · exact partner_eq_pow (by rw [half]; exact power) inside

end Plain

/-- Cells that count up from `0x1111`. -/
def ascending (cell : Nat) : Cell := 0x1111 + BitVec.ofNat 64 cell

/-- A window of nine cells, of which the last one is not reached, is found in full. -/
theorem window_restored_nine : 72 < 2 ^ 64 ∧ Apart id (72 / cellBytes) ∧
    (detect 0x80000000 72).run (backed 0x80000000 id) ascending = (some 72, ascending) := by
  have word : 72 < 2 ^ 64 := by decide
  have apart : Apart id (72 / cellBytes) := fun _ _ _ _ same => same
  refine ⟨word, apart, ?_⟩
  obtain ⟨found, after, run, -, -, restored⟩ :=
    window_restored_iff word 0x80000000 id apart ascending
  obtain ⟨rfl, rfl⟩ := restored.2 (.inr ⟨2, rfl⟩)
  exact run

/-- Of a window of six cells only two are found. The first cell is lost, the third one has got the
content of the fourth one, and this one still has its pattern. -/
theorem window_lost_six : Apart id (48 / cellBytes) ∧
    ∃ after, (detect 0x80000000 48).run (backed 0x80000000 id) ascending = (some 16, after) ∧
      after 0 = 0 ∧ after 2 = ascending 3 ∧ after 3 = pattern 3 ∧ after ≠ ascending := by
  refine ⟨fun _ _ _ _ same => same,
    ((detect 0x80000000 48).run (backed 0x80000000 id) ascending).2, Prod.ext ?_ rfl, ?_, ?_, ?_,
    fun same => ?_⟩
  · with_unfolding_all rfl
  · with_unfolding_all rfl
  · with_unfolding_all rfl
  · with_unfolding_all rfl
  · have zero : ((detect 0x80000000 48).run (backed 0x80000000 id) ascending).2 0 = 0 := by
      with_unfolding_all rfl
    rw [same] at zero
    exact absurd zero (by decide)

end BringUp.Dram.Detection
