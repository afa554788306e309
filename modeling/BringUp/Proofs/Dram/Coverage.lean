import Mathlib.Algebra.BigOperators.Group.List.Basic
import Mathlib.Algebra.Ring.Nat
import BringUp.Dram.Coverage
import BringUp.Proofs.Program.Footprint
import BringUp.Proofs.Program.Runs

/-! What the size check has seen. Main statement: if the confirmed bytes add up to all bytes of the
banks, the probes cover every bank without a gap, and each of them was confirmed in full. -/
namespace BringUp

namespace Trace

variable {trace first second : Trace}

/-- Number of bytes that the probes confirmed. -/
def confirmed (trace : Trace) : Nat :=
  (trace.probes.map fun (_, _, found) => found).sum

/-- No probe confirms more bytes than it was asked for. -/
def Honest (trace : Trace) : Prop :=
  ∀ probe ∈ trace.probes, probe.2.2 ≤ probe.2.1

@[simp] theorem confirmed_append :
    confirmed (first ++ second) = confirmed first + confirmed second := by
  simp [confirmed]

theorem probes_cons_probe {start size found : Nat} :
    Trace.probes (⟨.probe start size, found⟩ :: trace) = (start, size, found) :: trace.probes := rfl

theorem confirmed_cons_probe {start size found : Nat} :
    Trace.confirmed (⟨.probe start size, found⟩ :: trace) = found + trace.confirmed := by
  simp [confirmed, probes_cons_probe]

theorem honest_cons_probe {start size found : Nat} :
    Trace.Honest (⟨.probe start size, found⟩ :: trace) ↔ found ≤ size ∧ trace.Honest := by
  simp only [Honest, probes_cons_probe, List.forall_mem_cons]

theorem confirmed_of_probes_nil (h : trace.probes = []) : trace.confirmed = 0 := by
  simp [confirmed, h]

@[simp] theorem honest_append : Honest (first ++ second) ↔ Honest first ∧ Honest second := by
  simp only [Honest, probes_append, List.mem_append, or_imp, forall_and]

end Trace

namespace Dram

open Coverage
open Program (returns_bind)

/-- Probes that cover `size` bytes from `start` without gap or overlap, in chunks that are powers
of two of at most 1 GiB, each of them confirmed in full. -/
inductive Tiles : Nat → Nat → List (Nat × Nat × Nat) → Prop
  | nil {start : Nat} : Tiles start 0 []
  | cons {start exponent size : Nat} {probes : List (Nat × Nat × Nat)}
      (small : 2 ^ exponent ≤ 2 ^ 30) (tiles : Tiles (start + 2 ^ exponent) size probes) :
      Tiles start (2 ^ exponent + size) ((start, 2 ^ exponent, 2 ^ exponent) :: probes)

/-- The probes cover the banks in their order. -/
def Covers (banks : List Bank) (probes : List (Nat × Nat × Nat)) : Prop :=
  ∃ parts, List.Forall₂ (fun bank part => Tiles bank.start bank.size part) banks parts ∧
    probes = parts.flatten

theorem isPowerOfTwo_iff {n : Nat} : isPowerOfTwo n = true ↔ ∃ exponent, n = 2 ^ exponent := by
  simp only [isPowerOfTwo, Nat.one_shiftLeft, beq_iff_eq]
  constructor
  · exact fun h => ⟨_, h⟩
  · intro h
    obtain ⟨exponent, rfl⟩ := h
    rw [Nat.log2_two_pow]

theorem chunkCount_enough (size : Nat) : size ≤ chunkCount size * chunkBytes := by
  simp only [chunkCount, chunkBytes, gibibyte]
  omega

variable {trace : Trace} {keep : Nat → Nat}

theorem probeChunksBy_returns {chunks start remaining total : Nat} :
    (probeChunksBy keep chunks start remaining total).Returns := by
  induction chunks generalizing start remaining total with
  | zero => trivial
  | succ chunks ih =>
    unfold probeChunksBy
    split
    · trivial
    · dsimp only
      split
      · exact fun _ => trivial
      · intro confirmed
        change Program.Returns (if _ then _ else _)
        split
        · trivial
        · exact ih

theorem probeBanksBy_returns {banks : List Bank} {total : Nat} :
    (probeBanksBy keep banks total).Returns := by
  induction banks generalizing total with
  | nil => trivial
  | cons bank rest ih =>
    unfold probeBanksBy
    split
    · exact ih
    · refine returns_bind (fun _ => trivial) fun _ => returns_bind probeChunksBy_returns fun result => ?_
      cases result with
      | error _ => trivial
      | ok _ => exact ih

theorem verifySizeBy_returns {banks : List Bank} {size : Nat} :
    (verifySizeBy keep banks size).Returns := by
  refine returns_bind probeBanksBy_returns fun result => ?_
  cases result with
  | error _ => trivial
  | ok total =>
    dsimp only
    split
    · exact fun _ => trivial
    · exact fun _ => trivial

/-- The chunks of a bank: what is confirmed is less than the bank, or the bank is covered. -/
theorem probeChunks_ok {chunks start remaining total result : Nat} (honest : trace.Honest)
    (enough : remaining ≤ chunks * chunkBytes)
    (run : Runs (probeChunks chunks start remaining total) trace (some (.ok result))) :
    result = total + trace.confirmed ∧
      (trace.confirmed < remaining ∨
        trace.confirmed = remaining ∧ Tiles start remaining trace.probes) := by
  induction chunks generalizing start remaining total trace with
  | zero =>
    obtain ⟨rfl, same⟩ := Runs.done_iff.1 run
    cases same
    obtain rfl : remaining = 0 := by omega
    exact ⟨rfl, .inr ⟨rfl, .nil⟩⟩
  | succ chunks ih =>
    rw [probeChunks, probeChunksBy] at run
    simp only [id_eq] at run
    split at run
    · next h =>
      obtain ⟨rfl, same⟩ := Runs.done_iff.1 run
      cases same
      subst h
      exact ⟨rfl, .inr ⟨rfl, .nil⟩⟩
    · split at run
      · obtain ⟨_, _, _, rfl, -, run₁⟩ := Runs.bind_some_iff.1 run
        cases (Runs.done_iff.1 run₁).2
      · next h =>
        obtain ⟨exponent, power⟩ := isPowerOfTwo_iff.1 (by simpa using h)
        have small : 2 ^ exponent ≤ 2 ^ 30 := by
          rw [← power]
          exact Nat.min_le_right _ _
        have inside : 2 ^ exponent ≤ remaining := by
          rw [← power]
          exact Nat.min_le_left _ _
        rw [power] at run
        obtain ⟨found, rest, rfl, run₁⟩ := Runs.ask_iff.1 run
        rw [Trace.honest_cons_probe] at honest
        rw [Trace.confirmed_cons_probe, Trace.probes_cons_probe]
        change Runs (if _ then _ else _) _ _ at run₁
        split at run₁
        · next short =>
          obtain ⟨rfl, same⟩ := Runs.done_iff.1 run₁
          cases same
          exact ⟨rfl, .inl (Nat.lt_of_lt_of_le short inside)⟩
        · next full =>
          obtain rfl : found = 2 ^ exponent := Nat.le_antisymm honest.1 (Nat.not_lt.1 full)
          have left : remaining - 2 ^ exponent ≤ chunks * chunkBytes := by
            have whole : 2 ^ exponent = min remaining chunkBytes := power.symm
            rw [Nat.add_mul] at enough
            omega
          obtain ⟨sum, coverage⟩ := ih honest.2 left run₁
          refine ⟨by omega, ?_⟩
          rcases coverage with less | ⟨all, tiles⟩
          · exact .inl (by omega)
          · refine .inr ⟨by omega, ?_⟩
            have split : remaining = 2 ^ exponent + (remaining - 2 ^ exponent) := by omega
            rw [split]
            exact .cons small tiles

/-- The banks: what is confirmed is less than their size, or all of them are covered. -/
theorem probeBanks_ok {banks : List Bank} {total result : Nat} (honest : trace.Honest)
    (run : Runs (probeBanks banks total) trace (some (.ok result))) :
    result = total + trace.confirmed ∧
      (trace.confirmed < totalSize banks ∨
        trace.confirmed = totalSize banks ∧ Covers banks trace.probes) := by
  induction banks generalizing total trace with
  | nil =>
    obtain ⟨rfl, same⟩ := Runs.done_iff.1 run
    cases same
    exact ⟨rfl, .inr ⟨rfl, [], .nil, rfl⟩⟩
  | cons bank rest ih =>
    rw [probeBanks, probeBanksBy] at run
    split at run
    · next empty =>
      have size : bank.size = 0 := by simpa [Bank.isEmpty] using empty
      obtain ⟨sum, coverage⟩ := ih honest run
      refine ⟨sum, ?_⟩
      rw [totalSize, size, Nat.zero_add]
      rcases coverage with less | ⟨all, parts, each, same⟩
      · exact .inl less
      · exact .inr ⟨all, [] :: parts, .cons (size ▸ .nil) each, same⟩
    · obtain ⟨_, _, _, rfl, told, run₁⟩ := Runs.bind_some_iff.1 run
      obtain ⟨rfl, -⟩ := Runs.log_iff.1 told
      obtain ⟨probing, others, _ | subtotal, rfl, probed, run₂⟩ := Runs.bind_some_iff.1 run₁
      · cases (Runs.done_iff.1 run₂).2
      · change Trace.Honest (probing ++ others) at honest
        obtain ⟨honestHere, honestThere⟩ := Trace.honest_append.1 honest
        obtain ⟨sumHere, here⟩ := probeChunks_ok honestHere (chunkCount_enough bank.size) probed
        obtain ⟨sumThere, there⟩ := ih honestThere run₂
        change _ = total + Trace.confirmed (probing ++ others) ∧
          (Trace.confirmed (probing ++ others) < _ ∨ Trace.confirmed (probing ++ others) = _ ∧
            Covers _ (Trace.probes (probing ++ others)))
        rw [Trace.confirmed_append, Trace.probes_append, totalSize]
        refine ⟨by omega, ?_⟩
        rcases here with less | ⟨all, tiles⟩
        · exact .inl (by omega)
        · rcases there with less | ⟨allThere, parts, each, same⟩
          · exact .inl (by omega)
          · refine .inr ⟨by omega, probing.probes :: parts, .cons tiles each, ?_⟩
            rw [same, List.flatten_cons]

/-- A successful size check has confirmed the expected number of bytes. If the banks have no more
bytes than that, all of them are covered. -/
theorem verifySize_ok {banks : List Bank} {size total : Nat} (honest : trace.Honest)
    (inside : totalSize banks ≤ size)
    (run : Runs (verifySize banks size) trace (some (.ok total))) :
    trace.confirmed = size ∧ totalSize banks = size ∧ Covers banks trace.probes := by
  obtain ⟨probing, rest, _ | found, rfl, probed, run₁⟩ := Runs.bind_some_iff.1 run
  · cases (Runs.done_iff.1 run₁).2
  · dsimp only at run₁
    split at run₁
    · obtain ⟨_, _, _, rfl, -, run₂⟩ := Runs.bind_some_iff.1 run₁
      cases (Runs.done_iff.1 run₂).2
    · next same =>
      obtain ⟨_, _, _, rfl, told, run₂⟩ := Runs.bind_some_iff.1 run₁
      obtain ⟨rfl, -⟩ := Runs.log_iff.1 told
      obtain ⟨rfl, -⟩ := Runs.done_iff.1 run₂
      have quiet (level : Level) (text : String) :
          Trace.probes ([⟨.log level text, ()⟩] ++ []) = [] := rfl
      rw [Trace.honest_append] at honest
      obtain ⟨sum, coverage⟩ := probeBanks_ok honest.1 probed
      rw [Trace.confirmed_append, Trace.confirmed_of_probes_nil (quiet _ _), Trace.probes_append,
        quiet, List.append_nil]
      rcases coverage with less | ⟨all, covers⟩
      · omega
      · exact ⟨by omega, by omega, covers⟩

theorem probeBanks_of_empty {banks : List Bank} {total : Nat}
    (h : ∀ bank ∈ banks, bank.isEmpty = true) :
    probeBanks banks total = .done (.ok total) := by
  induction banks with
  | nil => rfl
  | cons bank rest ih =>
    rw [probeBanks, probeBanksBy, if_pos (h bank List.mem_cons_self)]
    exact ih fun other member => h other (List.mem_cons_of_mem _ member)

/-- A size that is confirmed belongs to some bank. -/
theorem exists_filled_of_verified {banks : List Bank} {size total : Nat} (positive : 0 < size)
    (run : Runs (verifySize banks size) trace (some (.ok total))) :
    ∃ (index : Nat) (bank : Bank), banks[index]? = some bank ∧ bank.isEmpty = false := by
  by_contra none
  have empty : ∀ bank ∈ banks, bank.isEmpty = true := by
    intro bank member
    obtain ⟨index, found⟩ := List.mem_iff_getElem?.1 member
    by_contra filled
    exact none ⟨index, bank, found, Bool.eq_false_iff.2 filled⟩
  rw [verifySize, verifySizeBy, ← probeBanks, probeBanks_of_empty empty] at run
  have mismatch : 0 ≠ size := Nat.ne_of_lt positive
  rw [Program.bind_eq, Program.done_bind] at run
  dsimp only at run
  rw [if_pos mismatch] at run
  have ⟨_, _, _, _, _, failed⟩ := Runs.bind_some_iff.1 run
  cases (Runs.done_iff.1 failed).2

end Dram
end BringUp
