import BringUp.Proofs.Dram.Coverage

/-! The course of the size check. Main statement: the questions and the outcome follow from the banks
and the answers, for every probe that confirms no more than it is asked for, however the sums are
kept. -/
namespace BringUp.Dram

namespace Coverage

/-- The chunks of `size` bytes from `start`. -/
def chunks (start size : Nat) : List (Nat × Nat) :=
  (List.range (chunkCount size)).map fun index =>
    (start + chunkBytes * index, min (size - chunkBytes * index) chunkBytes)

/-- The chunks that can be probed. -/
def askable (start size : Nat) : List (Nat × Nat) :=
  (chunks start size).filter fun chunk => isPowerOfTwo chunk.2

/-- The last chunk if it is smaller than the others and no power of two. -/
def oddRest (size : Nat) : Option Nat :=
  if size % chunkBytes ≠ 0 ∧ isPowerOfTwo (size % chunkBytes) = false then some (size % chunkBytes)
  else none

/-- The window of a probe. -/
def window (probe : Nat × Nat × Nat) : Nat × Nat :=
  (probe.1, probe.2.1)

/-- The answer to a probe is the size that it asked for. -/
def Full (probe : Nat × Nat × Nat) : Prop :=
  probe.2.2 = probe.2.1

instance (probe : Nat × Nat × Nat) : Decidable (Full probe) :=
  inferInstanceAs (Decidable (_ = _))

/-- How `size` bytes from `start` are probed. -/
structure Asked (start size : Nat) (probes : List (Nat × Nat × Nat)) : Prop where
  inOrder : probes.map window <+: askable start size
  /-- A further chunk is asked for only if all answers before it were full. -/
  patient : ∀ probe ∈ probes.dropLast, Full probe
  /-- No chunk is left out if all answers are full. -/
  thorough : (∀ probe ∈ probes, Full probe) → probes.map window = askable start size

/-- The chunk that ends the check of `size` bytes. It is reached if all answers are full. -/
def ending (size : Nat) (probes : List (Nat × Nat × Nat)) : Option Nat :=
  if ∀ probe ∈ probes, Full probe then oddRest size else none

/-- The probes of the banks, one part for each. Behind a bank that ends the check nothing is probed. -/
inductive Checked : List Bank → List (List (Nat × Nat × Nat)) → Option Nat → Prop
  | nil : Checked [] [] none
  | ended {bank : Bank} {rest : List Bank} {probes : List (Nat × Nat × Nat)} {cause : Nat}
      (asked : Asked bank.start bank.size probes) (ends : ending bank.size probes = some cause) :
      Checked (bank :: rest) (probes :: rest.map fun _ => []) (some cause)
  | passed {bank : Bank} {rest : List Bank} {probes : List (Nat × Nat × Nat)}
      {parts : List (List (Nat × Nat × Nat))} {cause : Option Nat}
      (asked : Asked bank.start bank.size probes) (passes : ending bank.size probes = none)
      (further : Checked rest parts cause) : Checked (bank :: rest) (probes :: parts) cause

/-- The error about a chunk that ends the check, or else what was counted. -/
def outcome (rest : Option Nat) (counted : Except SizeError Nat) : Except SizeError Nat :=
  rest.elim counted fun size => .error (.notPowerOfTwo size)

/-- What is kept of a sum does not depend on whether its first part was kept before. -/
structure Adds (keep : Nat → Nat) : Prop where
  zero : keep 0 = 0
  step : ∀ sum more, keep (keep sum + more) = keep (sum + more)

/-- A probe at the address as it is kept. -/
def located (keep : Nat → Nat) (probe : Nat × Nat × Nat) : Nat × Nat × Nat :=
  (keep probe.1, probe.2)

theorem adds_id : Adds id :=
  ⟨rfl, fun _ _ => rfl⟩

theorem adds_inWord : Adds inWord :=
  ⟨rfl, fun sum more => Nat.mod_add_mod sum _ more⟩

section Sizes

variable {start size : Nat}

theorem chunks_zero : chunks start 0 = [] := rfl

theorem chunks_cons (filled : 0 < size) : chunks start size = (start, min size chunkBytes) ::
    chunks (start + min size chunkBytes) (size - min size chunkBytes) := by
  have count : chunkCount size = chunkCount (size - min size chunkBytes) + 1 := by
    simp only [chunkCount, chunkBytes, gibibyte]
    omega
  rw [chunks, count, List.range_succ_eq_map, List.map_cons, List.map_map, Nat.mul_zero,
    Nat.add_zero, Nat.sub_zero, List.cons_inj_right, chunks]
  refine List.map_congr_left fun index member => ?_
  have further : index < chunkCount (size - min size chunkBytes) := List.mem_range.1 member
  have whole : min size chunkBytes = chunkBytes := by
    simp only [chunkCount, chunkBytes, gibibyte] at further ⊢
    omega
  rw [Function.comp_apply, whole, Nat.mul_succ, Nat.add_comm _ chunkBytes, ← Nat.add_assoc,
    ← Nat.sub_sub]

theorem askable_zero : askable start 0 = [] := rfl

theorem askable_cons (filled : 0 < size) (power : isPowerOfTwo (min size chunkBytes) = true) :
    askable start size = (start, min size chunkBytes) ::
      askable (start + min size chunkBytes) (size - min size chunkBytes) := by
  rw [askable, chunks_cons filled, List.filter_cons_of_pos (by exact power)]
  rfl

theorem chunkBytes_isPowerOfTwo : isPowerOfTwo chunkBytes = true := by decide

theorem lt_of_odd (odd : isPowerOfTwo (min size chunkBytes) = false) : size < chunkBytes := by
  by_contra whole
  rw [Nat.min_eq_right (Nat.not_lt.1 whole), chunkBytes_isPowerOfTwo] at odd
  cases odd

theorem askable_odd (filled : 0 < size) (odd : isPowerOfTwo (min size chunkBytes) = false) :
    askable start size = [] := by
  have last : size - min size chunkBytes = 0 := by
    have := lt_of_odd odd
    omega
  rw [askable, chunks_cons filled, last, chunks_zero, List.filter_cons_of_neg (by simp [odd])]
  rfl

theorem oddRest_of_odd (filled : 0 < size) (odd : isPowerOfTwo (min size chunkBytes) = false) :
    oddRest size = some (min size chunkBytes) := by
  have less := lt_of_odd odd
  rw [Nat.min_eq_left (Nat.le_of_lt less)] at odd ⊢
  rw [oddRest, Nat.mod_eq_of_lt less, if_pos ⟨Nat.ne_of_gt filled, odd⟩]

theorem oddRest_sub (power : isPowerOfTwo (min size chunkBytes) = true) :
    oddRest (size - min size chunkBytes) = oddRest size := by
  by_cases whole : chunkBytes ≤ size
  · rw [Nat.min_eq_right whole, oddRest, oddRest, ← Nat.mod_eq_sub_mod whole]
  · have less := Nat.not_le.1 whole
    rw [Nat.min_eq_left (Nat.le_of_lt less)] at power ⊢
    have none : oddRest 0 = none := rfl
    rw [Nat.sub_self, none, oddRest, Nat.mod_eq_of_lt less, if_neg (by simp [power])]

theorem oddRest_eq_none_iff : oddRest size = none ↔
    size % chunkBytes = 0 ∨ isPowerOfTwo (size % chunkBytes) = true := by
  rw [oddRest]
  split
  · next odd => simp [odd]
  · next even =>
    rw [not_and_or, not_not, Bool.not_eq_false] at even
    simp [even]

end Sizes

section Answers

variable {start size found : Nat} {probes : List (Nat × Nat × Nat)}

theorem Asked.nil (nothing : askable start size = []) : Asked start size [] where
  inOrder := List.nil_prefix
  patient := nofun
  thorough := fun _ => nothing.symm

theorem Asked.short (filled : 0 < size) (power : isPowerOfTwo (min size chunkBytes) = true)
    (short : found < min size chunkBytes) :
    Asked start size [(start, min size chunkBytes, found)] where
  inOrder := by
    rw [askable_cons filled power]
    exact List.prefix_append [_] _
  patient := nofun
  thorough := fun full => absurd (full _ List.mem_cons_self) (Nat.ne_of_lt short)

theorem Asked.cons (filled : 0 < size) (power : isPowerOfTwo (min size chunkBytes) = true)
    (asked : Asked (start + min size chunkBytes) (size - min size chunkBytes) probes) :
    Asked start size ((start, min size chunkBytes, min size chunkBytes) :: probes) where
  inOrder := by
    rw [askable_cons filled power]
    exact (List.prefix_cons_inj _).2 asked.inOrder
  patient := by
    intro probe member
    cases probes with
    | nil => cases member
    | cons next others =>
      rcases List.mem_cons.1 member with rfl | later
      · rfl
      · exact asked.patient probe later
  thorough := by
    intro full
    rw [askable_cons filled power, ← asked.thorough fun probe later =>
      full probe (List.mem_cons_of_mem _ later)]
    rfl

theorem ending_nil : ending size [] = oddRest size :=
  if_pos nofun

theorem ending_short (short : found < min size chunkBytes) :
    ending size ((start, min size chunkBytes, found) :: probes) = none :=
  if_neg fun full => Nat.ne_of_lt short (full _ List.mem_cons_self)

theorem ending_cons (power : isPowerOfTwo (min size chunkBytes) = true) :
    ending size ((start, min size chunkBytes, min size chunkBytes) :: probes) =
      ending (size - min size chunkBytes) probes := by
  rw [ending, ending, oddRest_sub power]
  refine if_congr ?_ rfl rfl
  rw [List.forall_mem_cons]
  exact and_iff_right rfl

end Answers

end Coverage

open Coverage

variable {trace : Trace} {keep : Nat → Nat}

/-- The chunks of a bank are asked for in order, and either one that is no power of two ends the check
or what is confirmed is added. -/
theorem runs_probeChunksBy {chunks start size total : Nat} {result : Option (Except SizeError Nat)}
    (adds : Adds keep) (honest : trace.Honest) (enough : size ≤ chunks * chunkBytes)
    (run : Runs (probeChunksBy keep chunks (keep start) size (keep total)) trace result) :
    ∃ probes, Asked start size probes ∧ trace.probes = probes.map (located keep) ∧
      result = some (outcome (ending size probes) (.ok (keep (total + trace.confirmed)))) := by
  induction chunks generalizing start size total trace with
  | zero =>
    obtain ⟨rfl, rfl⟩ := Runs.done_iff.1 run
    obtain rfl : size = 0 := by omega
    exact ⟨[], .nil askable_zero, rfl, rfl⟩
  | succ chunks ih =>
    rw [probeChunksBy] at run
    by_cases empty : size = 0
    · subst empty
      obtain ⟨rfl, rfl⟩ := Runs.done_iff.1 run
      exact ⟨[], .nil askable_zero, rfl, rfl⟩
    have filled := Nat.pos_of_ne_zero empty
    rw [if_neg empty] at run
    dsimp only at run
    by_cases power : isPowerOfTwo (min size chunkBytes) = true
    · rw [if_neg (by simp [power])] at run
      obtain ⟨found, rest, rfl, run₁⟩ := Runs.ask_iff.1 run
      obtain ⟨fits, further⟩ := Trace.honest_cons_probe.1 honest
      rw [Trace.probes_cons_probe, Trace.confirmed_cons_probe]
      change Runs (if _ then _ else _) _ _ at run₁
      by_cases short : found < min size chunkBytes
      · rw [if_pos short, adds.step] at run₁
        obtain ⟨rfl, rfl⟩ := Runs.done_iff.1 run₁
        exact ⟨[_], .short filled power short, rfl, by rw [ending_short short]; rfl⟩
      · rw [if_neg short, adds.step, adds.step] at run₁
        obtain rfl : found = min size chunkBytes := Nat.le_antisymm fits (Nat.not_lt.1 short)
        have left : size - min size chunkBytes ≤ chunks * chunkBytes := by
          rw [Nat.add_mul] at enough
          omega
        obtain ⟨probes, asked, same, rfl⟩ := ih further left run₁
        exact ⟨_ :: probes, .cons filled power asked, by rw [same]; rfl,
          by rw [ending_cons power, Nat.add_assoc]⟩
    · rw [Bool.not_eq_true] at power
      rw [if_pos (by simp [power])] at run
      obtain ⟨_, _, rfl, run₁⟩ := Runs.ask_iff.1 run
      obtain ⟨rfl, rfl⟩ := Runs.done_iff.1 run₁
      refine ⟨[], .nil (askable_odd filled power), rfl, ?_⟩
      rw [ending_nil, oddRest_of_odd filled power]
      rfl

theorem runs_probeBanksBy {banks : List Bank} {total : Nat}
    {result : Option (Except SizeError Nat)} (adds : Adds keep)
    (starts : ∀ bank ∈ banks, keep bank.start = bank.start) (honest : trace.Honest)
    (run : Runs (probeBanksBy keep banks (keep total)) trace result) :
    ∃ parts cause, Checked banks parts cause ∧
      trace.probes = parts.flatten.map (located keep) ∧
      result = some (outcome cause (.ok (keep (total + trace.confirmed)))) := by
  induction banks generalizing total trace with
  | nil =>
    obtain ⟨rfl, rfl⟩ := Runs.done_iff.1 run
    exact ⟨[], none, .nil, rfl, rfl⟩
  | cons bank rest ih =>
    obtain ⟨start, starts⟩ := List.forall_mem_cons.1 starts
    rw [probeBanksBy] at run
    by_cases empty : bank.isEmpty = true
    · rw [if_pos empty] at run
      have nothing : bank.size = 0 := by simpa [Bank.isEmpty] using empty
      obtain ⟨parts, cause, checked, probes, same⟩ := ih starts honest run
      refine ⟨[] :: parts, cause, .passed (.nil ?_) ?_ checked, probes, same⟩
      · rw [nothing, askable_zero]
      · rw [nothing]
        rfl
    · rw [if_neg empty] at run
      obtain ⟨_, _, _, rfl, told, run₁⟩ := run.bind_returned fun _ => trivial
      obtain ⟨rfl, -⟩ := Runs.log_iff.1 told
      obtain ⟨probing, others, value, rfl, probed, run₂⟩ := run₁.bind_returned probeChunksBy_returns
      change Trace.Honest (probing ++ others) at honest
      obtain ⟨here, there⟩ := Trace.honest_append.1 honest
      rw [← start] at probed
      obtain ⟨part, asked, placed, same⟩ :=
        runs_probeChunksBy adds here (chunkCount_enough bank.size) probed
      cases same
      change ∃ parts cause, Checked _ parts cause ∧ Trace.probes (probing ++ others) = _ ∧
        result = some (outcome cause (.ok (keep (total + Trace.confirmed (probing ++ others)))))
      rw [Trace.probes_append, Trace.confirmed_append]
      cases ends : ending bank.size part with
      | some cause =>
        rw [ends] at run₂
        obtain ⟨rfl, rfl⟩ := Runs.done_iff.1 run₂
        refine ⟨part :: rest.map fun _ => [], some cause, .ended asked ends, ?_, rfl⟩
        rw [placed]
        simp [Trace.probes]
      | none =>
        rw [ends] at run₂
        obtain ⟨parts, cause, checked, probes, rfl⟩ := ih starts there run₂
        exact ⟨part :: parts, cause, .passed asked ends checked,
          by rw [placed, probes, List.flatten_cons, List.map_append], by rw [Nat.add_assoc]⟩

/-- The chunk that ends the check is the error, or else the confirmed bytes are compared. -/
theorem runs_verifySizeBy {banks : List Bank} {size : Nat} {result : Option (Except SizeError Nat)}
    (adds : Adds keep) (starts : ∀ bank ∈ banks, keep bank.start = bank.start)
    (honest : trace.Honest) (run : Runs (verifySizeBy keep banks size) trace result) :
    ∃ parts cause, Checked banks parts cause ∧
      trace.probes = parts.flatten.map (located keep) ∧
      result = some (outcome cause (if keep trace.confirmed = size then .ok size
        else .error (.mismatch size (keep trace.confirmed)))) := by
  obtain ⟨probing, closing, value, rfl, probed, run₁⟩ := run.bind_returned probeBanksBy_returns
  obtain ⟨here, -⟩ := Trace.honest_append.1 honest
  rw [← adds.zero] at probed
  obtain ⟨parts, cause, checked, probes, same⟩ := runs_probeBanksBy adds starts here probed
  cases same
  rw [Nat.zero_add] at run₁
  have ⟨quiet, last⟩ : Trace.probes closing = [] ∧ result = some (outcome cause
      (if keep probing.confirmed = size then .ok size
        else .error (.mismatch size (keep probing.confirmed)))) := by
    cases cause with
    | some rest =>
      obtain ⟨rfl, rfl⟩ := Runs.done_iff.1 run₁
      exact ⟨rfl, rfl⟩
    | none =>
      change Runs (if _ then _ else _) _ _ at run₁
      by_cases same : keep probing.confirmed = size
      · rw [if_neg (not_not.2 same)] at run₁
        obtain ⟨_, _, rfl, run₂⟩ := Runs.ask_iff.1 run₁
        obtain ⟨rfl, rfl⟩ := Runs.done_iff.1 run₂
        exact ⟨rfl, by rw [if_pos same, same]; rfl⟩
      · rw [if_pos same] at run₁
        obtain ⟨_, _, rfl, run₂⟩ := Runs.ask_iff.1 run₁
        obtain ⟨rfl, rfl⟩ := Runs.done_iff.1 run₂
        exact ⟨rfl, by rw [if_neg same]; rfl⟩
  refine ⟨parts, cause, checked, ?_⟩
  rw [Trace.probes_append, Trace.confirmed_append, probes, quiet, Trace.confirmed_of_probes_nil quiet,
    List.append_nil, Nat.add_zero]
  exact ⟨rfl, last⟩

theorem runs_verifySize {banks : List Bank} {size : Nat} {result : Option (Except SizeError Nat)}
    (honest : trace.Honest) (run : Runs (verifySize banks size) trace result) :
    ∃ parts cause, Checked banks parts cause ∧ trace.probes = parts.flatten ∧
      result = some (outcome cause (if trace.confirmed = size then .ok size
        else .error (.mismatch size trace.confirmed))) := by
  obtain ⟨parts, cause, checked, probes, same⟩ :=
    runs_verifySizeBy adds_id (fun _ _ => rfl) honest run
  exact ⟨parts, cause, checked, probes.trans (List.map_id _), same⟩

namespace Coverage

variable {banks : List Bank} {parts : List (List (Nat × Nat × Nat))} {cause : Option Nat}

theorem Checked.cause_eq (checked : Checked banks parts cause) :
    cause = (banks.zip parts).findSome? fun pair => ending pair.1.size pair.2 := by
  induction checked with
  | nil => rfl
  | ended asked ends => rw [List.zip_cons_cons, List.findSome?_cons, ends]
  | passed asked passes further ih =>
    rw [List.zip_cons_cons, List.findSome?_cons, passes]
    exact ih

/-- Chunks that are all powers of two make up the whole size. -/
theorem askable_sum {start size : Nat} (even : oddRest size = none) :
    ((askable start size).map fun chunk => chunk.2).sum = size := by
  induction size using Nat.strong_induction_on generalizing start with
  | h size ih =>
    by_cases empty : size = 0
    · subst empty
      rfl
    have filled := Nat.pos_of_ne_zero empty
    have power : isPowerOfTwo (min size chunkBytes) = true := by
      by_contra odd
      rw [oddRest_of_odd filled (Bool.not_eq_true _ ▸ odd)] at even
      cases even
    have less : size - min size chunkBytes < size := by
      simp only [chunkBytes, gibibyte]
      omega
    rw [askable_cons filled power, List.map_cons, List.sum_cons,
      ih _ less ((oddRest_sub power).trans even)]
    omega

theorem Asked.confirmed {start size : Nat} {probes : List (Nat × Nat × Nat)}
    (asked : Asked start size probes) (full : ∀ probe ∈ probes, Full probe)
    (even : oddRest size = none) : (probes.map fun probe => probe.2.2).sum = size :=
  calc (probes.map fun probe => probe.2.2).sum
      = (probes.map fun probe => probe.2.1).sum := by rw [List.map_congr_left full]
    _ = ((probes.map window).map fun chunk => chunk.2).sum := by rw [List.map_map]; rfl
    _ = size := by rw [asked.thorough full, askable_sum even]

/-- With full answers the sizes of the banks alone decide which chunk ends the check. -/
theorem Checked.cause_of_full (checked : Checked banks parts cause)
    (full : ∀ probe ∈ parts.flatten, Full probe) :
    cause = banks.findSome? fun bank => oddRest bank.size := by
  have each {bank : Bank} {probes : List (Nat × Nat × Nat)} (full : ∀ probe ∈ probes, Full probe) :
      ending bank.size probes = oddRest bank.size := if_pos full
  induction checked with
  | nil => rfl
  | ended asked ends =>
    rw [each fun probe member => full probe (List.mem_append_left _ member)] at ends
    rw [List.findSome?_cons, ends]
  | passed asked passes further ih =>
    rw [each fun probe member => full probe (List.mem_append_left _ member)] at passes
    rw [List.findSome?_cons, passes]
    exact ih fun probe member => full probe (List.mem_append_right _ member)

/-- With full answers a check that no chunk ends confirms all banks. -/
theorem Checked.confirmed_of_full (checked : Checked banks parts none)
    (full : ∀ probe ∈ parts.flatten, Full probe) :
    (parts.flatten.map fun probe => probe.2.2).sum = totalSize banks := by
  generalize none : (none : Option Nat) = cause at checked
  induction checked with
  | nil => rfl
  | ended _ _ => cases none
  | passed asked passes further ih =>
    have here := fun probe member => full probe (List.mem_append_left _ member)
    have there := fun probe member => full probe (List.mem_append_right _ member)
    have even : oddRest _ = Option.none := (if_pos here).symm.trans passes
    rw [List.flatten_cons, List.map_append, List.sum_append, asked.confirmed here even, ih there none,
      totalSize]

theorem findSome?_oddRest : (banks.findSome? fun bank => oddRest bank.size) = none ↔
    ∀ bank ∈ banks, bank.size % chunkBytes = 0 ∨ isPowerOfTwo (bank.size % chunkBytes) = true := by
  simp only [List.findSome?_eq_none_iff, oddRest_eq_none_iff]

end Coverage

/-- A size check of which all questions are answered in full. -/
theorem verifySizeBy_of_full {banks : List Bank} {size : Nat}
    {result : Option (Except SizeError Nat)} (adds : Adds keep)
    (starts : ∀ bank ∈ banks, keep bank.start = bank.start)
    (full : ∀ probe ∈ trace.probes, Full probe)
    (run : Runs (verifySizeBy keep banks size) trace result) :
    result = some (outcome (banks.findSome? fun bank => oddRest bank.size)
      (if keep (totalSize banks) = size then .ok size
        else .error (.mismatch size (keep (totalSize banks))))) := by
  have honest : trace.Honest := fun probe member => Nat.le_of_eq (full probe member)
  obtain ⟨parts, cause, checked, probes, rfl⟩ := runs_verifySizeBy adds starts honest run
  rw [probes, List.forall_mem_map] at full
  rw [← checked.cause_of_full full]
  cases cause with
  | some rest => rfl
  | none =>
    have sum : trace.confirmed = totalSize banks := by
      rw [← checked.confirmed_of_full full, Trace.confirmed, probes, List.map_map]
      rfl
    rw [sum]

theorem verifySize_of_full {banks : List Bank} {size : Nat} {result : Option (Except SizeError Nat)}
    (full : ∀ probe ∈ trace.probes, Full probe) (run : Runs (verifySize banks size) trace result) :
    result = some (outcome (banks.findSome? fun bank => oddRest bank.size)
      (if totalSize banks = size then .ok size else .error (.mismatch size (totalSize banks)))) :=
  verifySizeBy_of_full adds_id (fun _ _ => rfl) full run

end BringUp.Dram
