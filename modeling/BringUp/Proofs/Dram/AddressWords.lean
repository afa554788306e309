import Mathlib.Algebra.Order.BigOperators.Group.List
import Mathlib.Algebra.Order.Group.Nat
import BringUp.Proofs.Dram.Chunks
import BringUp.Proofs.Dram.Rehearsal

/-! Addresses and sizes in words of 64 bits. Their sums are the exact ones as long as they stay inside
the address space. Main statement: the outcome of the size check, with sums that may wrap around. -/
namespace BringUp

open Dram.Coverage (inWord)

theorem inWord_eq_iff {sum : Nat} : inWord sum = sum ↔ sum < 0x10000000000000000 :=
  ⟨fun same => same ▸ Nat.mod_lt sum (by decide), Nat.mod_eq_of_lt⟩

/-- The address of a setting is the sum of words exactly if the block does not reach over the end of
the address space. -/
theorem DeviceTree.Setting.address_word_iff {setting : Setting}
    (based : setting.base < 0x10000000000000000) :
    (BitVec.ofNat 64 setting.base + setting.offset.setWidth 64).toNat = setting.address ↔
      setting.address < 0x10000000000000000 := by
  have offset : (setting.offset.setWidth 64).toNat = setting.offset.toNat :=
    BitVec.toNat_setWidth_of_le (by decide)
  rw [BitVec.toNat_add, BitVec.toNat_ofNat, offset, Nat.mod_eq_of_lt based]
  exact inWord_eq_iff

namespace Dram

open Coverage

variable {trace : Trace} {result : Option (Except SizeError Nat)}

/-- The last address of a bank, likewise. The sum before it may be one more. -/
theorem Bank.last_word_iff {bank : Bank} (filled : 0 < bank.size)
    (start : bank.start < 0x10000000000000000) (size : bank.size < 0x10000000000000000) :
    (BitVec.ofNat 64 bank.start + BitVec.ofNat 64 bank.size - 1#64).toNat = bank.last ↔
      bank.last < 0x10000000000000000 := by
  simp only [BitVec.toNat_sub, BitVec.toNat_add, BitVec.toNat_ofNat, Bank.last]
  omega

/-- The banks end inside the address space and do not exceed it together. -/
structure InSpace (banks : List Bank) : Prop where
  ends : ∀ bank ∈ banks, bank.start + bank.size ≤ 0x10000000000000000
  total : totalSize banks < 0x10000000000000000

namespace Coverage

variable {start size total chunks : Nat} {probes : List (Nat × Nat × Nat)} {banks : List Bank}
  {parts : List (List (Nat × Nat × Nat))} {cause : Option Nat}

theorem askable_sum_le : ((askable start size).map fun chunk => chunk.2).sum ≤ size := by
  induction size using Nat.strong_induction_on generalizing start with
  | h size ih =>
    by_cases empty : size = 0
    · subst empty
      exact Nat.le_refl 0
    have filled := Nat.pos_of_ne_zero empty
    by_cases power : isPowerOfTwo (min size chunkBytes) = true
    · have less : size - min size chunkBytes < size := by
        simp only [chunkBytes, gibibyte]
        omega
      rw [askable_cons filled power, List.map_cons, List.sum_cons]
      calc min size chunkBytes + _
          ≤ min size chunkBytes + (size - min size chunkBytes) := Nat.add_le_add_left (ih _ less) _
        _ = size := Nat.add_sub_cancel' (Nat.min_le_left size chunkBytes)
    · rw [askable_odd filled (Bool.not_eq_true _ ▸ power)]
      exact Nat.zero_le size

/-- Honest answers about a bank do not add up to more than the bank. -/
theorem Asked.sum_le (asked : Asked start size probes)
    (honest : ∀ probe ∈ probes, probe.2.2 ≤ probe.2.1) :
    (probes.map fun probe => probe.2.2).sum ≤ size :=
  calc (probes.map fun probe => probe.2.2).sum
      ≤ (probes.map fun probe => probe.2.1).sum := List.sum_le_sum honest
    _ = ((probes.map window).map fun chunk => chunk.2).sum := by rw [List.map_map]; rfl
    _ ≤ ((askable start size).map fun chunk => chunk.2).sum :=
      (asked.inOrder.sublist.map _).sum_le_sum fun _ _ => Nat.zero_le _
    _ ≤ size := askable_sum_le

theorem Asked.start_lt (asked : Asked start size probes) {probe : Nat × Nat × Nat}
    (member : probe ∈ probes) : probe.1 < start + size := by
  have listed : window probe ∈ askable start size :=
    asked.inOrder.subset (List.mem_map_of_mem member)
  obtain ⟨index, inside, same⟩ := List.mem_map.1 (List.mem_of_mem_filter listed)
  have further : index < chunkCount size := List.mem_range.1 inside
  have first : start + chunkBytes * index = probe.1 := congrArg Prod.fst same
  simp only [chunkCount, chunkBytes, gibibyte] at further first
  omega

theorem flatten_unprobed {rest : List Bank} :
    (rest.map fun _ => ([] : List (Nat × Nat × Nat))).flatten = [] := by
  simp

/-- Honest answers do not add up to more than the banks. -/
theorem Checked.sum_le (checked : Checked banks parts cause)
    (honest : ∀ probe ∈ parts.flatten, probe.2.2 ≤ probe.2.1) :
    (parts.flatten.map fun probe => probe.2.2).sum ≤ totalSize banks := by
  induction checked with
  | nil => exact Nat.le_refl 0
  | ended asked ends =>
    rw [List.flatten_cons, flatten_unprobed, List.append_nil] at honest ⊢
    exact Nat.le_trans (asked.sum_le honest) (Nat.le_add_right _ _)
  | passed asked passes further ih =>
    rw [List.flatten_cons, List.forall_mem_append] at honest
    rw [List.flatten_cons, List.map_append, List.sum_append, totalSize]
    exact Nat.add_le_add (asked.sum_le honest.1) (ih honest.2)

theorem Checked.map_located (checked : Checked banks parts cause)
    (ends : ∀ bank ∈ banks, bank.start + bank.size ≤ 0x10000000000000000) :
    parts.flatten.map (located inWord) = parts.flatten := by
  have here {bank : Bank} {probes : List (Nat × Nat × Nat)}
      (asked : Asked bank.start bank.size probes)
      (ends : bank.start + bank.size ≤ 0x10000000000000000) :
      probes.map (located inWord) = probes := by
    have same : ∀ probe ∈ probes, located inWord probe = id probe := fun probe member =>
      Prod.ext (inWord_eq_iff.2 (Nat.lt_of_lt_of_le (asked.start_lt member) ends)) rfl
    rw [List.map_congr_left same, List.map_id]
  induction checked with
  | nil => rfl
  | ended asked stops =>
    rw [List.flatten_cons, flatten_unprobed, List.append_nil]
    exact here asked (ends _ List.mem_cons_self)
  | passed asked passes further ih =>
    rw [List.flatten_cons, List.map_append, here asked (ends _ List.mem_cons_self),
      ih fun bank member => ends bank (List.mem_cons_of_mem _ member)]

theorem probeChunksBy_zero {keep : Nat → Nat} :
    probeChunksBy keep chunks start 0 total = .done (.ok total) := by
  cases chunks <;> rfl

/-- The chunks of a bank that ends inside the address space. -/
theorem runs_chunks_words_iff (honest : trace.Honest)
    (ends : start + size ≤ 0x10000000000000000) (fits : total + size < 0x10000000000000000) :
    Runs (probeChunksBy inWord chunks start size total) trace result ↔
      Runs (probeChunks chunks start size total) trace result := by
  induction chunks generalizing start size total trace with
  | zero => rfl
  | succ chunks ih =>
    rw [probeChunks, probeChunksBy, probeChunksBy]
    by_cases empty : size = 0
    · rw [if_pos empty, if_pos empty]
    rw [if_neg empty, if_neg empty]
    dsimp only
    split
    · rfl
    refine Runs.ask_iff.trans (Iff.trans ?_ Runs.ask_iff.symm)
    refine exists_congr fun found => exists_congr fun rest => and_congr_right fun same => ?_
    subst same
    obtain ⟨asked, further⟩ := Trace.honest_cons_probe.1 honest
    change Runs (if _ then _ else _) _ _ ↔ Runs (if _ then _ else _) _ _
    have counted : inWord (total + found) = total + found := inWord_eq_iff.2 (by omega)
    rw [counted]
    split
    · rfl
    · next full =>
      obtain rfl : found = min size chunkBytes := Nat.le_antisymm asked (Nat.not_lt.1 full)
      -- Behind a bank at the end of the address space the address is zero, but nothing is left.
      by_cases last : size - min size chunkBytes = 0
      · rw [last, probeChunksBy_zero, probeChunksBy_zero]
        rfl
      · have next : inWord (start + min size chunkBytes) = start + min size chunkBytes :=
          inWord_eq_iff.2 (by omega)
        rw [next]
        exact ih further (by omega) (by omega)

/-- What the banks before confirmed is not more than they have, so the sum fits with the other banks. -/
theorem runs_banks_words_iff (honest : trace.Honest)
    (ends : ∀ bank ∈ banks, bank.start + bank.size ≤ 0x10000000000000000)
    (fits : total + totalSize banks < 0x10000000000000000) :
    Runs (probeBanksBy inWord banks total) trace result ↔
      Runs (probeBanks banks total) trace result := by
  induction banks generalizing total trace with
  | nil => rfl
  | cons bank rest ih =>
    obtain ⟨first, others⟩ := List.forall_mem_cons.1 ends
    rw [totalSize] at fits
    rw [probeBanks, probeBanksBy, probeBanksBy]
    split
    · exact ih honest others (by omega)
    refine Runs.bind_iff_bind (fun _ _ _ => Iff.rfl) fun telling checking _ split _ => ?_
    subst split
    obtain ⟨-, honest⟩ := Trace.honest_append.1 honest
    have chunks {here further : Trace} {value} (split : checking = here ++ further) :
        Runs (probeChunksBy inWord (chunkCount bank.size) bank.start bank.size total) here value ↔
          Runs (probeChunks (chunkCount bank.size) bank.start bank.size total) here value := by
      subst split
      exact runs_chunks_words_iff (Trace.honest_append.1 honest).1 first (by omega)
    refine Runs.bind_iff_bind (fun here further split _ => chunks split)
      fun here further value split probed => ?_
    have plain := (chunks split).1 probed
    subst split
    obtain ⟨sound, honest⟩ := Trace.honest_append.1 honest
    obtain ⟨probes, asked, same, counted⟩ :=
      runs_probeChunksBy adds_id sound (chunkCount_enough bank.size) plain
    cases counted
    cases ending bank.size probes with
    | some cause => rfl
    | none =>
      obtain rfl : Trace.probes here = probes := same.trans (List.map_id _)
      have confirmed : here.confirmed ≤ bank.size := asked.sum_le sound
      have fits : total + here.confirmed + totalSize rest < 0x10000000000000000 := by omega
      exact ih honest others fits

end Coverage

/-- The check with exact sums is the one in words, for banks that end inside the address space and do
not exceed it together. -/
theorem runs_words_iff {banks : List Bank} {size : Nat} (within : InSpace banks)
    (honest : trace.Honest) : Runs (verifySizeBy inWord banks size) trace result ↔
      Runs (verifySize banks size) trace result := by
  refine Runs.bind_iff_bind (fun probing closing split => ?_) fun _ _ _ _ _ => Iff.rfl
  subst split
  refine Coverage.runs_banks_words_iff (Trace.honest_append.1 honest).1 within.ends ?_
  rw [Nat.zero_add]
  exact within.total

/-- The size check always comes to an end. What it asks for and its outcome follow from the banks and
the answers, if none of these is larger than it was asked for. If all of them are full, it succeeds
exactly if the last chunks are powers of two and the banks add up to the size. Addresses and sums are
words of 64 bits. For banks in the address space they are exact, and so is the check. -/
theorem size_check_exact (banks : List Bank) (size : Nat)
    (starts : ∀ bank ∈ banks, bank.start < 0x10000000000000000) :
    (verifySizeBy inWord banks size).Returns ∧
    ∀ (trace : Trace) (result : Option (Except SizeError Nat)), trace.Honest →
      Runs (verifySizeBy inWord banks size) trace result →
        (∃ parts cause, Checked banks parts cause ∧
          trace.probes = parts.flatten.map (located inWord) ∧
          (cause = (banks.zip parts).findSome? fun pair => ending pair.1.size pair.2) ∧
          result = some (outcome cause (if inWord trace.confirmed = size then .ok size
            else .error (.mismatch size (inWord trace.confirmed)))) ∧
          (InSpace banks → Runs (verifySize banks size) trace result ∧
            trace.probes = parts.flatten ∧ inWord trace.confirmed = trace.confirmed)) ∧
        ((∀ probe ∈ trace.probes, Full probe) → ((∃ total, result = some (.ok total)) ↔
          (∀ bank ∈ banks, bank.size % chunkBytes = 0 ∨
            isPowerOfTwo (bank.size % chunkBytes) = true) ∧ inWord (totalSize banks) = size)) := by
  have based (bank : Bank) (member : bank ∈ banks) : inWord bank.start = bank.start :=
    inWord_eq_iff.2 (starts bank member)
  refine ⟨verifySizeBy_returns, fun trace result honest run => ⟨?_, fun full => ?_⟩⟩
  · obtain ⟨parts, cause, checked, probes, same⟩ := runs_verifySizeBy adds_inWord based honest run
    refine ⟨parts, cause, checked, probes, checked.cause_eq, same, fun within => ?_⟩
    have plain : trace.probes = parts.flatten := probes.trans (checked.map_located within.ends)
    have fits : trace.confirmed ≤ totalSize banks := by
      rw [Trace.confirmed, plain]
      exact checked.sum_le (plain ▸ honest)
    exact ⟨(runs_words_iff within honest).1 run, plain,
      inWord_eq_iff.2 (Nat.lt_of_le_of_lt fits within.total)⟩
  · rw [verifySizeBy_of_full adds_inWord based full run, ← findSome?_oddRest]
    cases banks.findSome? fun bank => oddRest bank.size with
    | some rest => simp [outcome]
    | none => by_cases same : inWord (totalSize banks) = size <;> simp [outcome, same]

/-- An empty bank, a bank of 1 GiB and one of 1.5 GiB, of which all chunks are confirmed. -/
theorem size_check_exact_three :
    let banks : List Bank := [⟨0x80000000, 0⟩, ⟨0x80000000, 0x40000000⟩, ⟨0x880000000, 0x60000000⟩]
    (∀ bank ∈ banks, bank.start < 0x10000000000000000) ∧
    ∃ trace result, trace.Honest ∧ Runs (verifySizeBy inWord banks 0xa0000000) trace result ∧
      trace.probes.map window = [(0x80000000, 0x40000000), (0x880000000, 0x40000000),
        (0x8c0000000, 0x20000000)] ∧ ∃ total, result = some (.ok total) := by
  intro banks
  have starts : ∀ bank ∈ banks, bank.start < 0x10000000000000000 := by decide
  have run := Runs.of_run (Rehearsal.serve id) (verifySizeBy inWord banks 0xa0000000) fun _ => 0
  have honest : Trace.Honest
      ((verifySizeBy inWord banks 0xa0000000).trace (Rehearsal.serve id) fun _ => 0) :=
    Rehearsal.probes_le _
  have full : ∀ probe ∈ ((verifySizeBy inWord banks 0xa0000000).trace (Rehearsal.serve id)
      fun _ => 0).probes, Full probe := fun probe member =>
    (Rehearsal.probes_eq _ probe member).trans (Nat.min_self _)
  have even : ∀ bank ∈ banks, bank.size % chunkBytes = 0 ∨
      isPowerOfTwo (bank.size % chunkBytes) = true := by
    decide
  exact ⟨starts, _, _, honest, run, by decide +kernel,
    (((size_check_exact banks 0xa0000000 starts).2 _ _ honest run).2 full).2 ⟨even, by decide⟩⟩

end Dram
end BringUp
