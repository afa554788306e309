import Mathlib.Data.Nat.ModEq
import BringUp.Proofs.Dram.AddressSpace
import BringUp.Proofs.Dram.Coverage
import BringUp.Proofs.Program.Polling

/-! Memory that is smaller than its bank. Main statement: memory of a power of two that repeats in
its bank passes the size check exactly if it does not repeat inside the first chunk. -/
namespace BringUp.Dram

open Coverage
open Detection (Repeats ram ram_probe)
open Program (run_bind_of_some)

variable {start offset size exponent log found : Nat} {memory : Nat → Cell}

/-- The physical cells behind the address space if `count` of them repeat from a start address
on. -/
def repeating (start count : Nat) : Nat → Nat :=
  fun cell => (cell - start / cellBytes) % count

theorem repeating_chunk (start count index cell : Nat) :
    repeating start count ((start + chunkBytes * index) / cellBytes + cell) =
      (2 ^ 27 * index + cell) % count := by
  have whole : (start + chunkBytes * index) / cellBytes = start / cellBytes + 2 ^ 27 * index := by
    simp only [chunkBytes, gibibyte, cellBytes]
    omega
  rw [repeating, whole]
  congr 1
  omega

theorem add_pow_mod_iff {first : Nat} : (first + 2 ^ exponent) % 2 ^ log = (first + 0) % 2 ^ log ↔
    log ≤ exponent := by
  rw [← Nat.pow_dvd_pow_iff_le_right (by decide : 1 < 2), ← Nat.modEq_zero_iff_dvd]
  exact ⟨Nat.ModEq.add_left_cancel' first, Nat.ModEq.add_left first⟩

/-- What a probe finds at a chunk: all of it, or one repetition of the memory. -/
theorem found_of_repeats {index : Nat} (repeated : Repeats (fun cell =>
    repeating start (2 ^ log) ((start + chunkBytes * index) / cellBytes + cell))
      (2 ^ exponent) found) : found = min (2 ^ exponent) (cellBytes * 2 ^ log) := by
  cases repeated with
  | @early j inside same least =>
    simp only [repeating_chunk] at same least
    have reached : log ≤ j := add_pow_mod_iff.1 same
    obtain rfl : j = log := by
      by_contra other
      exact least log (by omega) (add_pow_mod_iff.2 (Nat.le_refl _))
    rw [cellBytes]
    omega
  | never different =>
    simp only [repeating_chunk] at different
    have inside : 2 ^ exponent / 8 ≤ 2 ^ log := by
      by_contra outside
      exact different log (Nat.not_le.1 outside) (add_pow_mod_iff.2 (Nat.le_refl _))
    have positive := Nat.two_pow_pos log
    rw [cellBytes]
    by_cases cell : 3 ≤ exponent
    · obtain ⟨count, rfl⟩ : ∃ count, exponent = 3 + count := ⟨exponent - 3, by omega⟩
      rw [Nat.pow_add] at inside ⊢
      omega
    · have small : 2 ^ exponent < 8 := Nat.pow_lt_pow_right (by decide) (Nat.not_le.1 cell)
      omega

/-- What the chunks of a bank say about memory of `physical` bytes that repeats in it. -/
def chunkVerdict (physical remaining total : Nat) : Except SizeError Nat :=
  if physical < min remaining chunkBytes ∧ isPowerOfTwo (min remaining chunkBytes) = true then
    .ok (total + physical)
  else if remaining % chunkBytes ≠ 0 ∧ isPowerOfTwo (remaining % chunkBytes) = false then
    .error (.notPowerOfTwo (remaining % chunkBytes))
  else .ok (total + remaining)

/-- A probe of a chunk is answered with all of it or with the size of the memory. -/
theorem run_probe {α : Type} {size : Nat} (power : isPowerOfTwo size = true)
    (small : size ≤ chunkBytes) (index : Nat) (f : Nat → Program α) :
    (Program.probe (start + chunkBytes * index) size >>= f).run (ram (repeating start (2 ^ log)))
        memory =
      (f (min size (cellBytes * 2 ^ log))).run (ram (repeating start (2 ^ log))) memory := by
  obtain ⟨exponent, rfl⟩ := isPowerOfTwo_iff.1 power
  have word : exponent < 64 :=
    (Nat.pow_lt_pow_iff_right (by decide : 1 < 2)).1 (Nat.lt_of_le_of_lt small (by decide))
  let physical := repeating start (2 ^ log)
  let window := Op.probe (start + chunkBytes * index) (2 ^ exponent)
  obtain ⟨found, probed, repeated⟩ := ram_probe word physical (start + chunkBytes * index) memory
  have asked : (Program.ask window f).run (ram physical) memory =
      (f (ram physical window memory).1).run (ram physical) (ram physical window memory).2 := rfl
  rw [← found_of_repeats repeated]
  refine asked.trans ?_
  rw [probed]

theorem chunkVerdict_step {physical remaining total : Nat} (whole : chunkBytes ≤ remaining)
    (large : chunkBytes ≤ physical) :
    chunkVerdict physical (remaining - chunkBytes) (total + chunkBytes) =
      chunkVerdict physical remaining total := by
  have sum : total + chunkBytes + (remaining - chunkBytes) = total + remaining := by omega
  have rest : (remaining - chunkBytes) % chunkBytes = remaining % chunkBytes :=
    (Nat.mod_eq_sub_mod whole).symm
  have fits (bytes : Nat) : ¬ (physical < min bytes chunkBytes ∧
      isPowerOfTwo (min bytes chunkBytes) = true) := by omega
  rw [chunkVerdict, chunkVerdict, if_neg (fits _), if_neg (fits _), rest, sum]

theorem chunkVerdict_zero {physical total : Nat} : chunkVerdict physical 0 total = .ok total := by
  simp [chunkVerdict]

theorem chunk_isPowerOfTwo : isPowerOfTwo chunkBytes = true := by decide

/-- The chunks of a bank, in memory that repeats from the start of the bank on. -/
theorem run_probeChunks {chunks index remaining total : Nat}
    (enough : remaining ≤ chunks * chunkBytes) :
    (probeChunks chunks (start + chunkBytes * index) remaining total).run
        (ram (repeating start (2 ^ log))) memory =
      (some (chunkVerdict (cellBytes * 2 ^ log) remaining total), memory) := by
  induction chunks generalizing index remaining total with
  | zero =>
    obtain rfl : remaining = 0 := by omega
    rw [chunkVerdict_zero]
    rfl
  | succ chunks ih =>
    rw [probeChunks, probeChunksBy]
    simp only [id_eq]
    by_cases empty : remaining = 0
    · subst empty
      rw [if_pos rfl, chunkVerdict_zero]
      rfl
    rw [if_neg empty]
    by_cases power : isPowerOfTwo (min remaining chunkBytes) = true
    · rw [if_neg (by simp [power]), run_probe power (Nat.min_le_right _ _)]
      by_cases short : cellBytes * 2 ^ log < min remaining chunkBytes
      · rw [Nat.min_eq_right (Nat.le_of_lt short), if_pos short, chunkVerdict, if_pos ⟨short, power⟩]
        rfl
      · rw [Nat.min_eq_left (Nat.not_lt.1 short), if_neg (Nat.lt_irrefl _)]
        by_cases whole : chunkBytes ≤ remaining
        · rw [Nat.min_eq_right whole] at short ⊢
          have left : remaining - chunkBytes ≤ chunks * chunkBytes := by
            rw [Nat.add_mul] at enough
            omega
          rw [Nat.add_assoc, ← Nat.mul_succ, ← chunkVerdict_step whole (Nat.not_lt.1 short)]
          exact ih left
        · have less := Nat.not_le.1 whole
          rw [Nat.min_eq_left (Nat.le_of_lt less)] at short power ⊢
          have passed : chunkVerdict (cellBytes * 2 ^ log) remaining total = .ok (total + remaining) := by
            rw [chunkVerdict, Nat.min_eq_left (Nat.le_of_lt less), Nat.mod_eq_of_lt less,
              if_neg (fun stops => short stops.1), if_neg (by simp [power])]
          rw [Nat.sub_self, passed]
          cases chunks with
          | zero => rfl
          | succ chunks => rw [probeChunksBy, if_pos rfl]; rfl
    · have less : remaining < chunkBytes := by
        by_contra whole
        rw [Nat.min_eq_right (Nat.not_lt.1 whole)] at power
        exact power chunk_isPowerOfTwo
      rw [Nat.min_eq_left (Nat.le_of_lt less)] at power ⊢
      rw [if_pos (by simp [power]), chunkVerdict, Nat.mod_eq_of_lt less,
        Nat.min_eq_left (Nat.le_of_lt less), if_neg (fun short => power short.2),
        if_pos ⟨empty, Bool.eq_false_iff.2 power⟩]
      rfl

/-- What the size check says about memory of `physical` bytes that repeats in a bank of `size`
bytes. -/
def verdict (physical size : Nat) : Except SizeError Nat :=
  if physical < min size chunkBytes ∧ isPowerOfTwo (min size chunkBytes) = true then
    .error (.mismatch size physical)
  else if size % chunkBytes ≠ 0 ∧ isPowerOfTwo (size % chunkBytes) = false then
    .error (.notPowerOfTwo (size % chunkBytes))
  else .ok size

theorem run_probeBanks : (probeBanks [⟨start, size⟩] 0).run (ram (repeating start (2 ^ log))) memory =
    (some (chunkVerdict (cellBytes * 2 ^ log) size 0), memory) := by
  by_cases empty : size = 0
  · subst empty
    rw [chunkVerdict_zero]
    rfl
  · have filled : ¬ (Bank.mk start size).isEmpty = true := by simpa [Bank.isEmpty] using empty
    have chunks : (probeChunks (chunkCount size) (start + chunkBytes * 0) size 0).run
        (ram (repeating start (2 ^ log))) memory = _ := run_probeChunks (chunkCount_enough size)
    rw [probeBanks, probeBanksBy, if_neg filled]
    refine (run_bind_of_some rfl).trans ((run_bind_of_some chunks).trans ?_)
    cases chunkVerdict (cellBytes * 2 ^ log) size 0 with
    | error _ => rfl
    | ok _ => rfl

theorem run_verifySize : (verifySize [⟨start, size⟩] size).run (ram (repeating start (2 ^ log)))
    memory = (some (verdict (cellBytes * 2 ^ log) size), memory) := by
  have banks : (probeBanks [⟨start, size⟩] 0).run (ram (repeating start (2 ^ log))) memory = _ :=
    run_probeBanks
  generalize cellBytes * 2 ^ log = physical at banks ⊢
  rw [chunkVerdict] at banks
  rw [verdict]
  by_cases short : physical < min size chunkBytes ∧ isPowerOfTwo (min size chunkBytes) = true
  · have less : physical ≠ size := by omega
    rw [if_pos short, Nat.zero_add] at banks
    rw [if_pos short]
    refine (run_bind_of_some banks).trans ?_
    simp only [if_pos less]
    rfl
  rw [if_neg short] at banks ⊢
  by_cases odd : size % chunkBytes ≠ 0 ∧ isPowerOfTwo (size % chunkBytes) = false
  · rw [if_pos odd] at banks ⊢
    exact (run_bind_of_some banks).trans rfl
  · rw [if_neg odd, Nat.zero_add] at banks
    rw [if_neg odd]
    refine (run_bind_of_some banks).trans ?_
    simp only [ne_eq, not_true_eq_false, if_false]
    rfl

/-- A bank without a whole chunk is its own last chunk, so memory that is smaller than the first
chunk does not go unnoticed. -/
theorem verdict_ok_iff {physical : Nat} : verdict physical size = .ok size ↔
    min size chunkBytes ≤ physical ∧
      (size % chunkBytes = 0 ∨ isPowerOfTwo (size % chunkBytes) = true) := by
  unfold verdict
  by_cases short : physical < min size chunkBytes ∧ isPowerOfTwo (min size chunkBytes) = true
  · rw [if_pos short]
    exact ⟨fun same => (nomatch same), fun fits => absurd short.1 (Nat.not_lt.2 fits.1)⟩
  rw [if_neg short]
  by_cases odd : size % chunkBytes ≠ 0 ∧ isPowerOfTwo (size % chunkBytes) = false
  · rw [if_pos odd]
    refine ⟨fun same => (nomatch same), fun fits => ?_⟩
    obtain whole | power := fits.2
    · exact absurd whole odd.1
    · exact absurd power (by simp [odd.2])
  rw [if_neg odd]
  have even : size % chunkBytes = 0 ∨ isPowerOfTwo (size % chunkBytes) = true := by
    by_cases whole : size % chunkBytes = 0
    · exact .inl whole
    · exact .inr (by simpa [whole] using odd)
  refine iff_of_true rfl ⟨?_, even⟩
  by_contra small
  have chunk : isPowerOfTwo (min size chunkBytes) = true := by
    by_cases whole : chunkBytes ≤ size
    · rw [Nat.min_eq_right whole]
      exact chunk_isPowerOfTwo
    · have less := Nat.not_le.1 whole
      rw [Nat.mod_eq_of_lt less] at even
      rw [Nat.min_eq_left (Nat.le_of_lt less)] at small ⊢
      exact even.resolve_left (by omega)
  exact short ⟨Nat.not_le.1 small, chunk⟩

/-- The size check accepts memory that repeats in its bank exactly if the last chunk is well formed
and the memory has the size of the first chunk, and it leaves all cells as they were. -/
theorem repetition_accepted_iff (start size log : Nat) (memory : Nat → Cell) :
    (verifySize [⟨start, size⟩] size).run (ram (repeating start (2 ^ log))) memory =
        (some (verdict (cellBytes * 2 ^ log) size), memory) ∧
      (verdict (cellBytes * 2 ^ log) size = .ok size ↔
        min size chunkBytes ≤ cellBytes * 2 ^ log ∧
          (size % chunkBytes = 0 ∨ isPowerOfTwo (size % chunkBytes) = true)) :=
  ⟨run_verifySize, verdict_ok_iff⟩

/-- Two gibibytes of addresses with a single gibibyte behind them pass. -/
theorem repetition_accepted :
    (verifySize [⟨0x80000000, 2 * gibibyte⟩] (2 * gibibyte)).run
        (ram (repeating 0x80000000 (2 ^ 27))) (fun _ => 0) =
      (some (.ok (2 * gibibyte)), fun _ => 0) ∧
    repeating 0x80000000 (2 ^ 27) (0x80000000 / cellBytes) =
      repeating 0x80000000 (2 ^ 27) ((0x80000000 + gibibyte) / cellBytes) := by
  refine ⟨?_, by decide⟩
  rw [run_verifySize]
  rfl

end BringUp.Dram
