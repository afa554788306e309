import BringUp.Proofs.Dram.AddressSpace
import BringUp.Proofs.Dram.Chunks
import BringUp.Proofs.Dram.Footprint
import BringUp.Proofs.Program.Services

/-! Accesses of the size check. Main statement: all of them lie inside the bank that is probed
exactly if no chunk is smaller than a cell, whatever the memory answers. -/
namespace BringUp

/-- Addresses of the cells that are read or written. -/
def Trace.accesses (trace : Trace) : List Nat :=
  trace.filterMap fun event => event.op.cell?

@[simp] theorem Trace.accesses_append {first second : Trace} :
    accesses (first ++ second) = accesses first ++ accesses second :=
  List.filterMap_append

namespace Dram

open Coverage

/-- The cell at an address lies inside `size` bytes from `start`. -/
def Within (start size address : Nat) : Prop :=
  start ≤ address ∧ address + cellBytes ≤ start + size

instance (start size address : Nat) : Decidable (Within start size address) :=
  inferInstanceAs (Decidable (_ ∧ _))

/-- Accesses of a window: the first cell is among them, and only this one may lie outside. -/
structure Touches (start size : Nat) (accesses : List Nat) : Prop where
  first : start ∈ accesses
  others : ∀ address ∈ accesses, address = start ∨ Within start size address

/-- Accesses of windows that are probed one after another. -/
inductive Accessed : List (Nat × Nat × Nat) → List Nat → Prop
  | nil : Accessed [] []
  | cons {probe : Nat × Nat × Nat} {probes : List (Nat × Nat × Nat)} {here there : List Nat}
      (touches : Touches probe.1 probe.2.1 here) (further : Accessed probes there) :
      Accessed (probe :: probes) (here ++ there)

theorem Touches.within_iff {start size : Nat} {accesses : List Nat}
    (touches : Touches start size accesses) :
    (∀ address ∈ accesses, Within start size address) ↔ cellBytes ≤ size := by
  constructor
  · intro inside
    exact Nat.le_of_add_le_add_left (inside start touches.first).2
  · rintro large address member
    rcases touches.others address member with rfl | within
    · exact ⟨Nat.le_refl _, Nat.add_le_add_left large _⟩
    · exact within

section Windows

variable {first second probes : List (Nat × Nat × Nat)} {accesses : List Nat}

theorem Accessed.split (accessed : Accessed (first ++ second) accesses) :
    ∃ here there, accesses = here ++ there ∧ Accessed first here ∧ Accessed second there := by
  induction first generalizing accesses with
  | nil => exact ⟨[], accesses, rfl, .nil, accessed⟩
  | cons probe rest ih =>
    cases accessed with
    | @cons _ _ here _ touches further =>
      obtain ⟨middle, there, rfl, before, behind⟩ := ih further
      exact ⟨here ++ middle, there, (List.append_assoc _ _ _).symm, .cons touches before, behind⟩

theorem Accessed.exists_probe (accessed : Accessed probes accesses) {address : Nat}
    (member : address ∈ accesses) :
    ∃ probe ∈ probes, address = probe.1 ∨ Within probe.1 probe.2.1 address := by
  induction accessed with
  | nil => cases member
  | cons touches further ih =>
    rcases List.mem_append.1 member with here | there
    · exact ⟨_, List.mem_cons_self, touches.others address here⟩
    · obtain ⟨probe, later, access⟩ := ih there
      exact ⟨probe, List.mem_cons_of_mem _ later, access⟩

theorem Accessed.starts (accessed : Accessed probes accesses) {probe : Nat × Nat × Nat}
    (member : probe ∈ probes) : probe.1 ∈ accesses := by
  induction accessed with
  | nil => cases member
  | cons touches further ih =>
    rcases List.mem_cons.1 member with rfl | later
    · exact List.mem_append_left _ touches.first
    · exact List.mem_append_right _ (ih later)

end Windows

namespace Detection

open Program (returns_bind)

variable {base cells size : Nat} {trace : Trace}

theorem mark_returns {probes offset : Nat} {saved : List Cell} :
    (mark base probes offset saved).Returns := by
  induction probes generalizing offset saved with
  | zero => trivial
  | succ probes ih =>
    unfold mark
    split
    · trivial
    · exact fun _ _ => ih

theorem unwind_returns {saved : List Cell} {offset : Nat} :
    (unwind base cells saved offset).Returns := by
  induction saved generalizing offset with
  | nil => trivial
  | cons cell rest ih =>
    unfold unwind
    split
    · exact fun _ => ih
    · trivial

theorem compare_returns {saved : List Cell} {offset : Nat} :
    (compare base cells saved offset).Returns := by
  induction saved generalizing offset with
  | nil => trivial
  | cons cell rest ih =>
    unfold compare
    split
    · trivial
    · intro seen _
      change Program.Returns (if _ then _ else _)
      split
      · exact ih
      · exact returns_bind unwind_returns fun _ => trivial

theorem detect_returns : (detect base size).Returns := by
  refine returns_bind mark_returns fun saved first _ seen => ?_
  change Program.Returns (if _ then _ else _)
  split
  · exact returns_bind (fun _ => trivial) fun _ => returns_bind unwind_returns fun _ => trivial
  · refine returns_bind compare_returns fun result => ?_
    cases result with
    | some _ => trivial
    | none => exact fun _ => trivial

/-- Detection always accesses the first cell. -/
theorem detect_touches {result : Option Nat} (run : Runs (detect base size) trace result) :
    Touches base size trace.accesses where
  first := by
    obtain ⟨_, _, _, rfl, -, run₁⟩ := run.bind_returned mark_returns
    obtain ⟨_, _, rfl, -⟩ := Runs.ask_iff.1 run₁
    rw [Trace.accesses_append]
    exact List.mem_append_right _ List.mem_cons_self
  others := by
    intro address member
    obtain ⟨event, inside, same⟩ := List.mem_filterMap.1 member
    obtain ⟨offset, window, found⟩ := run.uses detect_uses_window event inside
    obtain rfl : cellAddress base offset = address := Option.some.inj (found.symm.trans same)
    rcases window with rfl | less
    · exact .inl rfl
    · refine .inr ⟨Nat.le_add_right _ _, ?_⟩
      simp only [cellAddress, cellBytes] at less ⊢
      omega

theorem exists_detect_full {exponent : Nat} (word : exponent < 64) (base : Nat) :
    ∃ trace, Runs (detect base (2 ^ exponent)) trace (some (2 ^ exponent)) := by
  obtain ⟨found, run, repeated⟩ := detect_window word base id (fun _ => 0)
  have all : found = 2 ^ exponent := by
    cases repeated with
    | early inside same _ => exact absurd same (Nat.ne_of_gt (Nat.two_pow_pos _))
    | never _ => rfl
  exact ⟨_, Runs.of_run_eq (backed base id) (fun _ => 0) (by rw [run, all])⟩

/-- A probe is carried out by single accesses of the memory. -/
def onMemory : (op : Op) → Program op.Answer
  | .probe start size => detect start size
  | op => .ask op .done

theorem onMemory_returns (op : Op) : (onMemory op).Returns := by
  cases op with
  | probe start size => exact detect_returns
  | _ => exact fun _ => trivial

theorem honest_of_carried {asked : Trace} (carried : Carried onMemory asked trace) :
    asked.Honest := by
  rintro ⟨start, size, found⟩ member
  obtain ⟨here, run⟩ := exists_carried_iff.1 ⟨_, carried⟩ _ (Trace.mem_probes.1 member)
  exact detect_le run

/-- All accesses of a check belong to its probes. -/
theorem accessed_of_carried {asked : Trace} (carried : Carried onMemory asked trace)
    (probing : ∀ event ∈ asked, Probing event.op) : Accessed asked.probes trace.accesses := by
  induction carried with
  | nil => exact .nil
  | @cons op _ _ _ _ run further ih =>
    have later := ih fun event member => probing event (List.mem_cons_of_mem _ member)
    have allowed := probing _ List.mem_cons_self
    cases op with
    | probe start size =>
      rw [Trace.accesses_append]
      exact .cons (detect_touches run) later
    | log level text =>
      obtain ⟨rfl, -⟩ := Runs.log_iff.1 run
      exact later
    | _ => exact allowed.elim

end Detection

open Detection

section Chunks

variable {start size address : Nat} {chunk : Nat × Nat} {bank : Bank} {banks : List Bank}
  {probes : List (Nat × Nat × Nat)} {accesses : List Nat}

/-- The last chunk of `size` bytes can be probed, but it is smaller than a cell. -/
def Sliver (size : Nat) : Prop :=
  size % chunkBytes ∈ [1, 2, 4]

instance (size : Nat) : Decidable (Sliver size) :=
  inferInstanceAs (Decidable (_ ∈ _))

/-- All accesses lie inside the bank, but for the one to a last chunk that is smaller than a cell. -/
def Stays (bank : Bank) (accesses : List Nat) : Prop :=
  ∀ address ∈ accesses, Within bank.start bank.size address ∨
    Sliver bank.size ∧ address = bank.start + (bank.size - bank.size % chunkBytes)

theorem Stays.nil : Stays bank [] := nofun

theorem mem_askable : chunk ∈ askable start size ↔ ∃ index < chunkCount size,
    (start + chunkBytes * index, min (size - chunkBytes * index) chunkBytes) = chunk ∧
      isPowerOfTwo chunk.2 = true := by
  simp only [askable, chunks, List.mem_filter, List.mem_map, List.mem_range, ← exists_and_right,
    and_assoc]

theorem mem_of_small_power : ∀ size < cellBytes, isPowerOfTwo size = true → size ∈ [1, 2, 4] := by
  decide

/-- A chunk that can be probed is a window of the bank. It holds a cell unless it is a sliver. -/
theorem askable_inside (member : chunk ∈ askable start size) :
    start ≤ chunk.1 ∧ chunk.1 + chunk.2 ≤ start + size ∧ (cellBytes ≤ chunk.2 ∨
      Sliver size ∧ chunk.1 = start + (size - size % chunkBytes)) := by
  obtain ⟨index, inside, rfl, power⟩ := mem_askable.1 member
  have before : chunkBytes * index ≤ size := by
    simp only [chunkCount, chunkBytes, gibibyte] at inside ⊢
    omega
  refine ⟨Nat.le_add_right _ _, ?_, ?_⟩
  · have := Nat.min_le_left (size - chunkBytes * index) chunkBytes
    dsimp only
    omega
  · by_cases large : cellBytes ≤ min (size - chunkBytes * index) chunkBytes
    · exact .inl large
    · -- Only the last chunk is that small.
      have last : min (size - chunkBytes * index) chunkBytes = size % chunkBytes ∧
          chunkBytes * index = size - size % chunkBytes := by
        simp only [chunkBytes, gibibyte, cellBytes] at before large ⊢
        omega
      refine .inr ⟨?_, congrArg (start + ·) last.2⟩
      rw [Sliver, ← last.1]
      exact mem_of_small_power _ (Nat.not_le.1 large) power

theorem sliver_mem_askable (sliver : Sliver size) :
    (start + (size - size % chunkBytes), size % chunkBytes) ∈ askable start size := by
  have power : ∀ rest ∈ [1, 2, 4], isPowerOfTwo rest = true := by decide
  have positive : ∀ rest ∈ [1, 2, 4], 0 < rest := by decide
  have filled := positive _ sliver
  refine mem_askable.2 ⟨size / chunkBytes, ?_, ?_, power _ sliver⟩
  · simp only [chunkCount, chunkBytes, gibibyte] at filled ⊢
    omega
  · simp only [chunkBytes, gibibyte, Prod.mk.injEq] at filled ⊢
    omega

theorem Stays.of_asked (asked : Asked bank.start bank.size probes)
    (accessed : Accessed probes accesses) : Stays bank accesses := by
  intro address access
  obtain ⟨probe, member, here⟩ := accessed.exists_probe access
  obtain ⟨lower, upper, room⟩ :=
    askable_inside (asked.inOrder.subset (List.mem_map_of_mem member))
  change bank.start ≤ probe.1 at lower
  change probe.1 + probe.2.1 ≤ _ at upper
  rcases here with rfl | within
  · rcases room with large | ⟨sliver, last⟩
    · exact .inl ⟨lower, Nat.le_trans (Nat.add_le_add_left large _) upper⟩
    · exact .inr ⟨sliver, last⟩
  · exact .inl ⟨Nat.le_trans lower within.1, Nat.le_trans within.2 upper⟩

/-- What the check of the banks accesses, one part for each bank. -/
theorem Coverage.Checked.stays {parts : List (List (Nat × Nat × Nat))} {cause : Option Nat}
    (checked : Checked banks parts cause) (accessed : Accessed parts.flatten accesses) :
    ∃ groups, List.Forall₂ Stays banks groups ∧ accesses = groups.flatten := by
  induction checked generalizing accesses with
  | nil =>
    cases accessed
    exact ⟨[], .nil, rfl⟩
  | @ended bank rest probes cause asked ends =>
    have nothing : (rest.map fun _ => ([] : List (Nat × Nat × Nat))).flatten = [] := by simp
    rw [List.flatten_cons, nothing, List.append_nil] at accessed
    refine ⟨accesses :: rest.map fun _ => [], .cons (.of_asked asked accessed) ?_, by simp⟩
    exact List.forall₂_map_right_iff.2 (List.forall₂_same.2 fun _ _ => .nil)
  | passed asked passes further ih =>
    obtain ⟨here, there, rfl, before, behind⟩ := accessed.split
    obtain ⟨groups, stay, rfl⟩ := ih behind
    exact ⟨here :: groups, .cons (.of_asked asked before) stay, rfl⟩

theorem Coverage.Checked.single {parts : List (List (Nat × Nat × Nat))} {cause : Option Nat}
    (checked : Checked [bank] parts cause) : Asked bank.start bank.size parts.flatten := by
  cases checked with
  | ended asked _ => simpa using asked
  | passed asked _ further =>
    cases further
    simpa using asked

end Chunks

section Checks

variable {banks : List Bank} {size : Nat} {trace : Trace} {result : Option (Except SizeError Nat)}

theorem verifySize_stays (run : Runs ((verifySize banks size).expand onMemory) trace result) :
    ∃ groups, List.Forall₂ Stays banks groups ∧ trace.accesses = groups.flatten := by
  obtain ⟨asked, run₁, carried⟩ := (runs_expand_iff onMemory_returns).1 run
  obtain ⟨parts, cause, checked, probes, -⟩ := runs_verifySize (honest_of_carried carried) run₁
  have accessed := accessed_of_carried carried (run₁.uses verifySize_uses)
  rw [probes] at accessed
  exact checked.stays accessed

/-- Full answers can be given by memory. -/
theorem exists_carried_of_full {asked : Trace} (run : Runs (verifySize banks size) asked result)
    (full : ∀ probe ∈ asked.probes, Full probe) : ∃ trace, Carried onMemory asked trace := by
  refine exists_carried_iff.2 fun event member => ?_
  have allowed := run.uses verifySize_uses_chunks event member
  obtain ⟨op, answer⟩ := event
  cases op with
  | probe start size =>
    obtain ⟨exponent, rfl⟩ := isPowerOfTwo_iff.1 allowed.1
    have word : exponent < 64 :=
      (Nat.pow_lt_pow_iff_right (by decide : 1 < 2)).1 (Nat.lt_of_le_of_lt allowed.2 (by decide))
    obtain rfl : answer = 2 ^ exponent := full _ (Trace.mem_probes.2 member)
    exact exists_detect_full word start
  | log level text => exact ⟨_, Runs.log_iff.2 ⟨rfl, rfl⟩⟩
  | _ => exact allowed.elim

/-- A program that only probes can be answered in full. -/
theorem exists_full {α : Type} {p : Program α} (uses : p.Uses Probing) :
    ∃ trace result, Runs p trace result ∧ ∀ probe ∈ trace.probes, Full probe := by
  induction p with
  | done value => exact ⟨[], _, .done value, nofun⟩
  | fault => exact ⟨[], _, .fault, nofun⟩
  | ask op next ih =>
    obtain ⟨allowed, further⟩ := uses
    cases op with
    | probe start size =>
      obtain ⟨trace, result, run, full⟩ := ih size (further size)
      exact ⟨_, result, Runs.ask_iff.2 ⟨size, trace, rfl, run⟩,
        List.forall_mem_cons.2 ⟨rfl, full⟩⟩
    | log level text =>
      obtain ⟨trace, result, run, full⟩ := ih () (further ())
      exact ⟨_, result, Runs.ask_iff.2 ⟨(), trace, rfl, run⟩, full⟩
    | _ => exact allowed.elim

/-- If the memory confirms everything, a sliver is accessed. -/
theorem exists_sliver_access {bank : Bank} (sliver : Sliver bank.size) (size : Nat) :
    ∃ trace result, Runs ((verifySize [bank] size).expand onMemory) trace result ∧
      bank.start + (bank.size - bank.size % chunkBytes) ∈ trace.accesses := by
  obtain ⟨_, _, run, full⟩ := exists_full (verifySize_uses : (verifySize [bank] size).Uses Probing)
  obtain ⟨trace, carried⟩ := exists_carried_of_full run full
  obtain ⟨parts, cause, checked, probes, -⟩ := runs_verifySize (honest_of_carried carried) run
  have asked := checked.single
  rw [← probes] at asked
  have last : (bank.start + (bank.size - bank.size % chunkBytes), _) ∈ askable bank.start bank.size :=
    sliver_mem_askable sliver
  rw [← asked.thorough full] at last
  obtain ⟨probe, member, same⟩ := List.mem_map.1 last
  have start : probe.1 = bank.start + (bank.size - bank.size % chunkBytes) := congrArg Prod.fst same
  refine ⟨trace, _, run.expand carried, ?_⟩
  rw [← start]
  exact (accessed_of_carried carried (run.uses verifySize_uses)).starts member

theorem not_within_sliver {bank : Bank} (sliver : Sliver bank.size) :
    ¬ Within bank.start bank.size (bank.start + (bank.size - bank.size % chunkBytes)) := by
  have small : ∀ rest ∈ [1, 2, 4], rest < cellBytes := by decide
  have less := small _ sliver
  have left := Nat.mod_le bank.size chunkBytes
  rintro ⟨-, inside⟩
  omega

end Checks

/-- Detection accesses nothing outside its window exactly if a cell fits into it. A size check stays
inside its banks but for a last chunk of 1, 2 or 4 bytes, of which the first cell is accessed if the memory
confirms the chunks before it. -/
theorem accesses_inside_iff (base window : Nat) (banks : List Bank) (bank : Bank) (size : Nat) :
    (∀ (trace : Trace) (result : Option Nat), Runs (detect base window) trace result →
      ((∀ address ∈ trace.accesses, Within base window address) ↔ cellBytes ≤ window)) ∧
    (∀ (trace : Trace) (result : Option (Except SizeError Nat)),
      Runs ((verifySize banks size).expand onMemory) trace result →
        ∃ groups, List.Forall₂ Stays banks groups ∧ trace.accesses = groups.flatten) ∧
    ((∀ (trace : Trace) (result : Option (Except SizeError Nat)),
      Runs ((verifySize [bank] size).expand onMemory) trace result →
        ∀ address ∈ trace.accesses, Within bank.start bank.size address) ↔ ¬ Sliver bank.size) := by
  refine ⟨fun _ _ run => (detect_touches run).within_iff, fun _ _ => verifySize_stays,
    fun inside sliver => ?_, fun whole trace result run address member => ?_⟩
  · obtain ⟨trace, result, run, access⟩ := exists_sliver_access sliver size
    exact not_within_sliver sliver (inside trace result run _ access)
  · obtain ⟨groups, stay, same⟩ := verifySize_stays run
    cases stay with
    | cons stays none =>
      cases none
      rw [same, List.flatten_singleton] at member
      rcases stays address member with within | ⟨sliver, -⟩
      · exact within
      · exact absurd sliver whole

/-- The check of a bank of 64 bytes stays inside. -/
theorem accesses_inside_64 : ¬ Sliver 64 ∧
    ∀ address ∈ (((verifySize [⟨0x80000000, 64⟩] 64).expand onMemory).trace (backed 0 id)
      fun _ => 0).accesses, Within 0x80000000 64 address := by
  have whole : ¬ Sliver 64 := by decide
  have ⟨_, _, inside⟩ := accesses_inside_iff 0x80000000 64 [] ⟨0x80000000, 64⟩ 64
  exact ⟨whole, inside.2 whole _ _ (Runs.of_run (backed 0 id) _ _)⟩

/-- The check of a bank of 4 bytes succeeds, but 8 bytes are read and written at its start. -/
theorem access_behind_bank :
    let check := (verifySize [⟨0x80000000, 4⟩] 4).expand onMemory
    Runs check (check.trace (backed 0 id) fun _ => 0) (some (.ok 4)) ∧
      ∃ address ∈ (check.trace (backed 0 id) fun _ => 0).accesses,
        ¬ Within 0x80000000 4 address := by
  intro check
  have ended : (check.run (backed 0 id) fun _ => 0).1 = some (.ok 4) := by decide +kernel
  exact ⟨Runs.of_run_eq (backed 0 id) _ ended, 0x80000000, by decide +kernel, by decide⟩

end Dram
end BringUp
