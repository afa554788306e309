import BringUp.Dram.Init
import BringUp.Proofs.Program.Content

/-! The register writes that open the firewalls. Main statement: the end of a bring-up writes, bank
after bank, the windows and the enable word of both regions on each DDR firewall. -/
namespace BringUp.Dram

open Firewall

/-- The writes that set the window of a region. -/
def windowStores (masters : Masters) (index first last : Nat) (dmi : Dmi) : List (Nat × Word) :=
  [(region dmi masters index + Region.start, lowWord first),
    (region dmi masters index + Region.startExtension, extensionWord first),
    (region dmi masters index + Region.limit, lowWord last),
    (region dmi masters index + Region.limitExtension, extensionWord last)]

/-- The writes that set and then enable both regions of a firewall with that number. -/
def regionStores (index first last : Nat) (dmi : Dmi) : List (Nat × Word) :=
  windowStores .mpu index first last dmi ++ (windowStores .nonMpu index first last dmi ++
    [(enableSet dmi, regionEnable index)])

/-- The writes that open a bank. There are none for an empty one. -/
def bankStores (dmis : List Dmi) (secureMonitor : Bool) (index : Nat) (bank : Bank) :
    List (Nat × Word) :=
  if bank.isEmpty then []
  else dmis.flatMap (regionStores index (firstOpen secureMonitor index bank) bank.last)

/-- The writes that open the banks. -/
def openingStores (dmis : List Dmi) (banks : List Bank) (secureMonitor : Bool) :
    List (Nat × Word) :=
  (banks.take regionCount).zipIdx.flatMap fun item => bankStores dmis secureMonitor item.2 item.1

/-- The writes that open the register blocks. -/
def registerStores : List (Nat × Word) :=
  [(mpfeIo96b 0, 1), (mpfeIo96b 1, 1), (mpfeNoc, 1)]

variable {trace : Trace} {dmis : List Dmi} {banks : List Bank} {secureMonitor : Bool}

/-- The bank with that number has memory and a region. -/
structure Filled (banks : List Bank) (index : Nat) (bank : Bank) : Prop where
  found : banks[index]? = some bank
  small : index < regionCount
  filled : bank.isEmpty = false

theorem mem_zipIdx_take {index : Nat} {bank : Bank} :
    (bank, index) ∈ (banks.take regionCount).zipIdx ↔
      banks[index]? = some bank ∧ index < regionCount := by
  rw [List.mk_mem_zipIdx_iff_getElem?, List.getElem?_take]
  split <;> simp_all

theorem mem_openingStores_iff {store : Nat × Word} :
    store ∈ openingStores dmis banks secureMonitor ↔ ∃ index bank dmi, Filled banks index bank ∧
      dmi ∈ dmis ∧ store ∈ regionStores index (firstOpen secureMonitor index bank) bank.last dmi := by
  rw [openingStores, List.mem_flatMap]
  constructor
  · rintro ⟨⟨bank, index⟩, member, written⟩
    have ⟨found, small⟩ := mem_zipIdx_take.1 member
    cases filled : bank.isEmpty with
    | true => simp [bankStores, filled] at written
    | false =>
      rw [bankStores, filled, if_neg Bool.false_ne_true, List.mem_flatMap] at written
      have ⟨dmi, given, stored⟩ := written
      exact ⟨index, bank, dmi, ⟨found, small, filled⟩, given, stored⟩
  · rintro ⟨index, bank, dmi, filled, given, stored⟩
    refine ⟨(bank, index), mem_zipIdx_take.2 ⟨filled.found, filled.small⟩, ?_⟩
    rw [bankStores, filled.filled, if_neg Bool.false_ne_true, List.mem_flatMap]
    exact ⟨dmi, given, stored⟩

/-- If there is a region for each bank, what is written belongs to the regions of the banks with
memory. -/
theorem mem_openingStores {store : Nat × Word} (few : banks.length ≤ regionCount) :
    store ∈ openingStores Dmi.all banks secureMonitor ↔ ∃ index bank dmi,
      banks[index]? = some bank ∧ bank.isEmpty = false ∧
        store ∈ regionStores index (firstOpen secureMonitor index bank) bank.last dmi := by
  rw [mem_openingStores_iff]
  constructor
  · rintro ⟨index, bank, dmi, filled, -, stored⟩
    exact ⟨index, bank, dmi, filled.found, filled.filled, stored⟩
  · rintro ⟨index, bank, dmi, found, filled, stored⟩
    have small : index < regionCount :=
      Nat.lt_of_lt_of_le (List.getElem?_eq_some_iff.1 found).1 few
    have every : dmi ∈ Dmi.all := by cases dmi <;> decide
    exact ⟨index, bank, dmi, ⟨found, small, filled⟩, every, stored⟩

theorem stores_openRegion {index first last : Nat} {dmi : Dmi}
    (run : Runs (openRegion index first last dmi) trace (some ())) :
    trace.stores = regionStores index first last dmi := by
  have window {masters : Masters} {trace : Trace}
      (run : Runs (setWindow dmi masters index first last) trace (some ())) :
      trace.stores = windowStores masters index first last dmi := by
    obtain ⟨_, _, _, rfl, h₁, run₁⟩ := Runs.bind_some_iff.1 run
    obtain ⟨_, _, _, rfl, h₂, run₂⟩ := Runs.bind_some_iff.1 run₁
    obtain ⟨_, _, _, rfl, h₃, h₄⟩ := Runs.bind_some_iff.1 run₂
    rw [(Runs.store_iff.1 h₁).1, (Runs.store_iff.1 h₂).1, (Runs.store_iff.1 h₃).1,
      (Runs.store_iff.1 h₄).1]
    rfl
  obtain ⟨_, _, _, rfl, mpu, run₁⟩ := Runs.bind_some_iff.1 run
  obtain ⟨_, _, _, rfl, nonMpu, enable⟩ := Runs.bind_some_iff.1 run₁
  rw [Trace.stores_append, Trace.stores_append, window mpu, window nonMpu,
    (Runs.store_iff.1 enable).1]
  rfl

theorem stores_openBank {index : Nat} {bank : Bank}
    (run : Runs (openBank dmis secureMonitor index bank) trace (some ())) :
    trace.stores = bankStores dmis secureMonitor index bank := by
  unfold openBank at run
  unfold bankStores
  cases empty : bank.isEmpty with
  | true =>
    simp only [empty, Bool.not_true, Bool.false_eq_true, if_false] at run
    rw [(Runs.done_iff.1 run).1]
    rfl
  | false =>
    simp only [empty, Bool.not_false, if_true] at run
    obtain ⟨regions, _, _, rfl, opened, told⟩ := Runs.bind_some_iff.1 run
    have written := Runs.stores_of_forM (fun _ _ => stores_openRegion) opened
    rw [Trace.stores_append, written, (Runs.log_iff.1 told).1]
    simp [Trace.stores]

theorem stores_openBanks (run : Runs (openBanks dmis banks secureMonitor) trace (some ())) :
    trace.stores = openingStores dmis banks secureMonitor := by
  have all {trace : Trace} (run : Runs ((banks.take regionCount).zipIdx.forM fun item =>
      openBank dmis secureMonitor item.2 item.1) trace (some ())) :
      trace.stores = openingStores dmis banks secureMonitor :=
    Runs.stores_of_forM (fun _ _ => stores_openBank) run
  unfold openBanks at run
  split at run
  · obtain ⟨_, _, _, rfl, told, opened⟩ := Runs.bind_some_iff.1 run
    rw [Trace.stores_append, all opened, (Runs.log_iff.1 told).1]
    rfl
  · exact all run

/-- The end of a bring-up opens the banks and the register blocks, and then changes the progress
bit. -/
theorem stores_finish {options : Options} {layout : Layout}
    (run : Runs (finish options layout) trace (some ())) :
    ∃ current, trace.stores = openingStores Dmi.all layout.banks options.secureMonitor ++
      (registerStores ++ [(SystemManager.progress, SystemManager.inProgress.put false current)]) := by
  obtain ⟨_, _, _, rfl, banksRun, run₁⟩ := Runs.bind_some_iff.1 run
  obtain ⟨_, _, _, rfl, registersRun, run₂⟩ := Runs.bind_some_iff.1 run₁
  obtain ⟨_, _, _, rfl, told, run₃⟩ := Runs.bind_some_iff.1 run₂
  obtain ⟨_, _, _, rfl, marked, last⟩ := Runs.bind_some_iff.1 run₃
  obtain ⟨_, _, _, rfl, h₁, run₄⟩ := Runs.bind_some_iff.1 registersRun
  obtain ⟨_, _, _, rfl, h₂, h₃⟩ := Runs.bind_some_iff.1 run₄
  obtain ⟨current, rfl, _⟩ := Runs.update_iff.1 marked
  refine ⟨current, ?_⟩
  rw [Trace.stores_append, stores_openBanks banksRun, (Runs.store_iff.1 h₁).1,
    (Runs.store_iff.1 h₂).1, (Runs.store_iff.1 h₃).1, (Runs.log_iff.1 told).1,
    (Runs.log_iff.1 last).1]
  rfl

end BringUp.Dram
