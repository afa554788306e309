import BringUp.Proofs.Dram.Closed
import BringUp.Proofs.Dram.Opening
import BringUp.Proofs.Dram.Rehearsal

/-! The first mebibyte of memory, where the secure monitor lives. Main statement: it stays secure
exactly if no window of a bank with memory reaches it. -/
namespace BringUp.Dram

open Firewall
open Iossm (Subsystem)

variable {mailboxes : Nat} {table : List Word} {blob : DeviceTree.Bytes} {options : Options}
  {trace : Trace} {ram : Ram} {initial : Nat → Word} {dmi : Dmi} {masters : Masters}
  {banks : List Bank} {bank : Bank} {secureMonitor : Bool} {index address : Nat}

/-- The bits of an enable word for these masters. -/
def enableField : Masters → Field
  | .mpu => RegionEnable.mpu
  | .nonMpu => RegionEnable.nonMpu

/-- The trace enables the region with that number. -/
def Enables (dmi : Dmi) (masters : Masters) (index : Nat) (trace : Trace) : Prop :=
  ∃ register ∈ [enable dmi, enableSet dmi], ∃ value, (register, value) ∈ trace.stores ∧
    ((enableField masters).read value).getLsbD index = true

/-- Number of addresses that the registers of a window distinguish. -/
def windowSpace : Nat := 0x10000000000

/-- The address in a pair of registers. The extension implements 8 bits. -/
def windowAddress (low extension : Word) : Nat :=
  extension.toNat % 0x100 * 0x100000000 + low.toNat

/-- Content of a register of a region after the trace. -/
def regionContent (initial : Nat → Word) (trace : Trace) (dmi : Dmi) (masters : Masters)
    (index register : Nat) : Word :=
  trace.content (region dmi masters index + register) (initial (region dmi masters index + register))

/-- After the trace, which enables the region, its window contains the address. -/
structure Admits (initial : Nat → Word) (trace : Trace) (dmi : Dmi) (masters : Masters)
    (index address : Nat) : Prop where
  enabled : Enables dmi masters index trace
  first : windowAddress (regionContent initial trace dmi masters index Region.start)
    (regionContent initial trace dmi masters index Region.startExtension) ≤ address
  last : address ≤ windowAddress (regionContent initial trace dmi masters index Region.limit)
    (regionContent initial trace dmi masters index Region.limitExtension)

/-- No region that the trace enables admits an address of the first mebibyte of memory. -/
def MonitorSealed (initial : Nat → Word) (trace : Trace) (ram : Ram) : Prop :=
  ∀ dmi masters index address, ram.base ≤ address → address < ram.base + mebibyte →
    ¬ Admits initial trace dmi masters index address

/-- The bank has memory, and the window that it gets contains the address. -/
structure Bank.Exposes (secureMonitor : Bool) (index address : Nat) (bank : Bank) : Prop where
  filled : bank.isEmpty = false
  first : firstOpen secureMonitor index bank % windowSpace ≤ address
  last : address ≤ bank.last % windowSpace

theorem windowAddress_words : windowAddress (lowWord address) (extensionWord address) =
    address % windowSpace := by
  simp only [windowAddress, lowWord, extensionWord, windowSpace, BitVec.toNat_ofNat]
  omega

theorem enableField_regionEnable {number : Nat} (h : number < regionCount) :
    ((enableField masters).read (regionEnable number)).getLsbD index = true ↔ index = number := by
  have field : ∀ masters : Masters, ∀ number < regionCount,
      ∀ index < 4, ((enableField masters).read (regionEnable number)).getLsbD index = true ↔
        index = number := by
    rintro (_ | _) <;> decide
  have narrow : (enableField masters).width = 4 := by cases masters <;> rfl
  by_cases inside : index < 4
  · exact field masters number h index inside
  · have outside : ((enableField masters).read (regionEnable number)).getLsbD index = false :=
      BitVec.getLsbD_of_ge _ _ (by omega)
    have below : number < 4 := h
    rw [outside]
    constructor
    · intro impossible
      cases impossible
    · intro same
      omega

theorem region_injective {dmi' : Dmi} {masters' : Masters} {index' register register' : Nat}
    (small : index < regionCount) (small' : index' < regionCount) (inside : register < 0x10)
    (inside' : register' < 0x10)
    (same : region dmi masters index + register = region dmi' masters' index' + register') :
    dmi = dmi' ∧ masters = masters' ∧ index = index' ∧ register = register' := by
  have bound : index < 4 ∧ index' < 4 := ⟨small, small'⟩
  cases dmi <;> cases dmi' <;> cases masters <;> cases masters' <;>
    simp only [region, Dmi.base, Masters.offset] at same <;>
    simp only [reduceCtorEq, true_and, false_and] <;> omega

theorem mem_regionStores {first last : Nat} {store : Nat × Word} :
    store ∈ regionStores index first last dmi ↔
      (∃ masters, store ∈ windowStores masters index first last dmi) ∨
        store = (enableSet dmi, regionEnable index) := by
  simp only [regionStores, List.mem_append, List.mem_singleton]
  constructor
  · rintro (mpu | nonMpu | enabling)
    · exact .inl ⟨.mpu, mpu⟩
    · exact .inl ⟨.nonMpu, nonMpu⟩
    · exact .inr enabling
  · rintro (⟨_ | _, window⟩ | enabling)
    · exact .inl window
    · exact .inr (.inl window)
    · exact .inr (.inr enabling)

theorem mem_windowStores {first last : Nat} {store : Nat × Word} :
    store ∈ windowStores masters index first last dmi ↔
      store = (region dmi masters index + Region.start, lowWord first) ∨
      store = (region dmi masters index + Region.startExtension, extensionWord first) ∨
      store = (region dmi masters index + Region.limit, lowWord last) ∨
      store = (region dmi masters index + Region.limitExtension, extensionWord last) := by
  simp [windowStores]

theorem register_of_mem_windowStores {first last : Nat} {value : Word}
    (h : (address, value) ∈ windowStores masters index first last dmi) :
    ∃ register < 0x10, address = region dmi masters index + register := by
  rcases mem_windowStores.1 h with same | same | same | same <;> cases same
  · exact ⟨_, by decide, rfl⟩
  · exact ⟨_, by decide, rfl⟩
  · exact ⟨_, by decide, rfl⟩
  · exact ⟨_, by decide, rfl⟩

theorem windowStores_unique {first last : Nat} {value value' : Word}
    (h : (address, value) ∈ windowStores masters index first last dmi)
    (h' : (address, value') ∈ windowStores masters index first last dmi) : value = value' := by
  simp only [mem_windowStores, Prod.mk.injEq, Region.start, Region.startExtension, Region.limit,
    Region.limitExtension] at h h'
  rcases h with ⟨at_start, same⟩ | ⟨at_start, same⟩ | ⟨at_start, same⟩ | ⟨at_start, same⟩ <;>
    rcases h' with ⟨at_start', same'⟩ | ⟨at_start', same'⟩ | ⟨at_start', same'⟩ | ⟨at_start', same'⟩ <;>
    first
      | exact same.trans same'.symm
      | omega

theorem enable_ne_region {dmi' : Dmi} {register : Nat} (small : index < regionCount)
    (inside : register < 0x10) (h : address ∈ [enable dmi, enableSet dmi]) :
    address ≠ region dmi' masters index + register := by
  have bound : index < 4 := small
  simp only [List.mem_cons, List.not_mem_nil, or_false, enable, enableSet] at h
  cases dmi <;> cases dmi' <;> cases masters <;>
    simp only [region, Dmi.base, Masters.offset] at h ⊢ <;> omega

theorem mem_openingStores_window {dmis : List Dmi} {register : Nat} {value : Word}
    (small : index < regionCount) (inside : register < 0x10) :
    (region dmi masters index + register, value) ∈ openingStores dmis banks secureMonitor ↔
      dmi ∈ dmis ∧ ∃ bank, Filled banks index bank ∧
        (region dmi masters index + register, value) ∈
          windowStores masters index (firstOpen secureMonitor index bank) bank.last dmi := by
  rw [mem_openingStores_iff]
  constructor
  · rintro ⟨number, bank, dmi', filled, given, written⟩
    rcases mem_regionStores.1 written with ⟨masters', window⟩ | same
    · obtain ⟨offset, inside', place⟩ := register_of_mem_windowStores window
      obtain ⟨rfl, rfl, rfl, rfl⟩ := region_injective small filled.small inside inside' place
      exact ⟨given, bank, filled, window⟩
    · have enabling : enableSet dmi' ∈ [enable dmi', enableSet dmi'] := by simp
      exact absurd (Prod.mk.inj same).1.symm (enable_ne_region small inside enabling)
  · rintro ⟨given, bank, filled, window⟩
    exact ⟨index, bank, dmi, filled, given, mem_regionStores.2 (.inl ⟨masters, window⟩)⟩

theorem mem_openingStores_enable {dmis : List Dmi} {value : Word}
    (enabling : address ∈ [enable dmi, enableSet dmi]) :
    (address, value) ∈ openingStores dmis banks secureMonitor ↔
      address = enableSet dmi ∧ dmi ∈ dmis ∧
        ∃ index bank, Filled banks index bank ∧ value = regionEnable index := by
  rw [mem_openingStores_iff]
  constructor
  · rintro ⟨number, bank, dmi', filled, given, written⟩
    rcases mem_regionStores.1 written with ⟨masters', window⟩ | same
    · obtain ⟨offset, inside, place⟩ := register_of_mem_windowStores window
      exact absurd place (enable_ne_region filled.small inside enabling)
    · obtain ⟨rfl, rfl⟩ := Prod.mk.inj same
      obtain rfl : dmi' = dmi := by
        cases dmi <;> cases dmi' <;> simp [enable, enableSet, Dmi.base] at enabling ⊢
      exact ⟨rfl, given, number, bank, filled, rfl⟩
  · rintro ⟨rfl, given, number, bank, filled, rfl⟩
    exact ⟨number, bank, dmi, filled, given, mem_regionStores.2 (.inr rfl)⟩

/-- After the banks were opened and nobody else wrote to it, a window register holds what belongs to
the bank with the number of its region. -/
theorem regionContent_of_opened {dmis : List Dmi} {register : Nat} {value : Word}
    (opened : ∀ value, (region dmi masters index + register, value) ∈ trace.stores ↔
      (region dmi masters index + register, value) ∈ openingStores dmis banks secureMonitor)
    (given : dmi ∈ dmis) (filled : Filled banks index bank) (inside : register < 0x10)
    (written : (region dmi masters index + register, value) ∈
      windowStores masters index (firstOpen secureMonitor index bank) bank.last dmi) :
    regionContent initial trace dmi masters index register = value := by
  apply Trace.content_of_stores_eq
  · rw [opened, mem_openingStores_window filled.small inside]
    exact ⟨given, bank, filled, written⟩
  · intro other stored
    rw [opened, mem_openingStores_window filled.small inside] at stored
    obtain ⟨-, bank', filled', window⟩ := stored
    cases filled.found.symm.trans filled'.found
    exact windowStores_unique window written

theorem windowAddress_of_written {first last : Nat}
    (held : ∀ register value, register < 0x10 → (region dmi masters index + register, value) ∈
      windowStores masters index first last dmi →
        regionContent initial trace dmi masters index register = value) :
    windowAddress (regionContent initial trace dmi masters index Region.start)
        (regionContent initial trace dmi masters index Region.startExtension) = first % windowSpace ∧
      windowAddress (regionContent initial trace dmi masters index Region.limit)
        (regionContent initial trace dmi masters index Region.limitExtension) =
          last % windowSpace := by
  rw [held Region.start _ (by decide) (mem_windowStores.2 (.inl rfl)),
    held Region.startExtension _ (by decide) (mem_windowStores.2 (.inr (.inl rfl))),
    held Region.limit _ (by decide) (mem_windowStores.2 (.inr (.inr (.inl rfl)))),
    held Region.limitExtension _ (by decide) (mem_windowStores.2 (.inr (.inr (.inr rfl))))]
  exact ⟨windowAddress_words, windowAddress_words⟩

section Opened

variable {before opening : Trace} {layout : Layout} (closed : StaysClosed blob before)
  (unnamed : ∀ address, IsFirewall address → ¬ NamedBySettings blob address)
  (opens : Runs (finish options layout) opening (some ()))
  (few : layout.banks.length ≤ regionCount)

include closed unnamed opens

/-- If the settings leave the firewalls alone, only the opening of the banks writes to them. -/
theorem firewall_stores {value : Word} (firewall : IsFirewall address) :
    (address, value) ∈ (before ++ opening).stores ↔
      (address, value) ∈ openingStores Dmi.all layout.banks options.secureMonitor := by
  have ⟨current, stores⟩ := stores_finish opens
  have early : (address, value) ∉ before.stores := by
    intro member
    exact unnamed address firewall (closed address value member (.inl firewall))
  have registers : (address, value) ∉ registerStores := by
    intro member
    have ⟨dmi, low, high⟩ := firewall
    have place : mpfeBase ≤ address := by
      simp only [registerStores, List.mem_cons, Prod.mk.injEq, List.not_mem_nil, or_false,
        mpfeIo96b, mpfeNoc] at member
      omega
    cases dmi <;> simp only [Dmi.base, mpfeBase] at high place <;> omega
  have progress : (address, value) ∉
      [(SystemManager.progress, SystemManager.inProgress.put false current)] := by
    intro member
    cases List.mem_singleton.1 member
    exact not_isFirewall _ (by simp) firewall
  rw [Trace.stores_append, stores]
  simp only [List.mem_append, early, registers, progress, false_or, or_false]

include few

/-- A region is enabled exactly if the bank with its number has memory. -/
theorem enables_iff : Enables dmi masters index (before ++ opening) ↔
    ∃ bank, layout.banks[index]? = some bank ∧ bank.isEmpty = false := by
  have firewall : ∀ register ∈ [enable dmi, enableSet dmi], IsFirewall register := by
    intro register member
    refine ⟨dmi, ?_⟩
    simp only [List.mem_cons, List.not_mem_nil, or_false, enable, enableSet] at member
    omega
  constructor
  · rintro ⟨register, enabling, value, stored, bit⟩
    rw [firewall_stores closed unnamed opens (firewall register enabling),
      mem_openingStores_enable enabling] at stored
    obtain ⟨-, -, number, bank, filled, rfl⟩ := stored
    rw [enableField_regionEnable filled.small] at bit
    subst bit
    exact ⟨bank, filled.found, filled.filled⟩
  · rintro ⟨bank, found, nonempty⟩
    have small : index < regionCount :=
      Nat.lt_of_lt_of_le (List.getElem?_eq_some_iff.1 found).1 few
    have given : dmi ∈ Dmi.all := by cases dmi <;> decide
    refine ⟨enableSet dmi, by simp, regionEnable index, ?_, (enableField_regionEnable small).2 rfl⟩
    rw [firewall_stores closed unnamed opens (firewall _ (by simp)),
      mem_openingStores_enable (List.mem_cons_of_mem _ List.mem_cons_self)]
    exact ⟨rfl, given, index, bank, ⟨found, small, nonempty⟩, rfl⟩

theorem regionContent_eq {register : Nat} {value : Word}
    (found : layout.banks[index]? = some bank) (filled : bank.isEmpty = false)
    (inside : register < 0x10)
    (written : (region dmi masters index + register, value) ∈
      windowStores masters index (firstOpen options.secureMonitor index bank) bank.last dmi) :
    regionContent initial (before ++ opening) dmi masters index register = value := by
  have small : index < regionCount :=
    Nat.lt_of_lt_of_le (List.getElem?_eq_some_iff.1 found).1 few
  have firewall : IsFirewall (region dmi masters index + register) := by
    have bound : index < 4 := small
    refine ⟨dmi, ?_⟩
    cases masters <;> simp only [region, Masters.offset] <;> omega
  have given : dmi ∈ Dmi.all := by cases dmi <;> decide
  have stored (value : Word) : (region dmi masters index + register, value) ∈
      (before ++ opening).stores ↔ (region dmi masters index + register, value) ∈
        openingStores Dmi.all layout.banks options.secureMonitor :=
    firewall_stores closed unnamed opens firewall
  exact regionContent_of_opened stored given ⟨found, small, filled⟩ inside written

/-- What the regions admit is the windows of the banks. -/
theorem admits_iff : Admits initial (before ++ opening) dmi masters index address ↔
    ∃ bank, layout.banks[index]? = some bank ∧
      bank.Exposes options.secureMonitor index address := by
  have window {bank : Bank} (found : layout.banks[index]? = some bank)
      (filled : bank.isEmpty = false) :
      windowAddress (regionContent initial (before ++ opening) dmi masters index Region.start)
          (regionContent initial (before ++ opening) dmi masters index Region.startExtension) =
            firstOpen options.secureMonitor index bank % windowSpace ∧
        windowAddress (regionContent initial (before ++ opening) dmi masters index Region.limit)
          (regionContent initial (before ++ opening) dmi masters index Region.limitExtension) =
            bank.last % windowSpace :=
    windowAddress_of_written fun register value inside written =>
      regionContent_eq closed unnamed opens few found filled inside written
  constructor
  · rintro ⟨enabled, first, last⟩
    have ⟨bank, found, filled⟩ := (enables_iff closed unnamed opens few).1 enabled
    have ⟨start, limit⟩ := window found filled
    exact ⟨bank, found, filled, start ▸ first, limit ▸ last⟩
  · rintro ⟨bank, found, filled, first, last⟩
    have ⟨start, limit⟩ := window found filled
    exact ⟨(enables_iff closed unnamed opens few).2 ⟨bank, found, filled⟩, start ▸ first,
      limit ▸ last⟩

end Opened

/-- The banks lie inside the windows that the regions can have, and all but the first one are apart
from the first mebibyte. -/
structure Ram.Apart (ram : Ram) : Prop where
  inside : ram.base + mebibyte < windowSpace
  banks : ∀ index bank, ram.banks[index]? = some bank → bank.isEmpty = false →
    bank.last < windowSpace ∧
      (index = 0 ∨ bank.last < ram.base ∨ ram.base + mebibyte ≤ bank.start)

theorem not_exposes_of_apart (base : ram.base = (ram.banks.head?.map Bank.start).getD 0)
    (apart : ram.Apart) (found : ram.banks[index]? = some bank) (first : ram.base ≤ address)
    (last : address < ram.base + mebibyte) : ¬ bank.Exposes true index address := by
  intro exposes
  have ⟨inside, place⟩ := apart.banks index bank found exposes.filled
  have room := apart.inside
  have lower := exposes.first
  have upper := exposes.last
  have whole : bank.last % windowSpace = bank.last := Nat.mod_eq_of_lt inside
  by_cases zero : index = 0
  · subst zero
    have start : ram.base = bank.start := by
      rw [base, List.head?_eq_getElem?, found]
      rfl
    have opened : firstOpen true 0 bank = bank.start + mebibyte := rfl
    have shifted : (bank.start + mebibyte) % windowSpace = bank.start + mebibyte :=
      Nat.mod_eq_of_lt (start ▸ room)
    rw [opened, shifted] at lower
    omega
  · have opened : firstOpen true index bank = bank.start := by simp [firstOpen, zero]
    rw [opened] at lower
    rcases place with same | below | above
    · exact zero same
    · omega
    · have filled : bank.size ≠ 0 := by simpa [Bank.isEmpty] using exposes.filled
      have started : bank.start < windowSpace := by
        simp only [Bank.last] at inside
        omega
      rw [Nat.mod_eq_of_lt started] at lower
      omega

theorem getElem?_fill {windows : List Bank} {remaining : Nat}
    (found : (fill windows remaining)[index]? = some bank) :
    ∃ window, windows[index]? = some window ∧ bank.start = window.start ∧
      bank.size ≤ window.size := by
  induction windows generalizing remaining index with
  | nil => simp [fill] at found
  | cons window rest ih =>
    rw [fill] at found
    split at found
    · simp at found
    · cases index with
      | zero =>
        cases found
        exact ⟨window, rfl, rfl, Nat.min_le_right _ _⟩
      | succ index => exact ih found

/-- The windows of the address map fit, and only the first one begins with the first mebibyte. -/
theorem apart_of_filled {count available : Nat}
    (banks : ram.banks = fill (windows.take (min count maxBanks)) available)
    (base : ram.base = (ram.banks.head?.map Bank.start).getD 0)
    (populated : ∃ (index : Nat) (bank : Bank), ram.banks[index]? = some bank) : ram.Apart := by
  have window {index : Nat} {bank : Bank} (found : ram.banks[index]? = some bank) :
      ∃ window, windows[index]? = some window ∧ bank.start = window.start ∧
        bank.size ≤ window.size := by
    rw [banks] at found
    have ⟨window, place, bounds⟩ := getElem?_fill found
    rw [List.getElem?_take] at place
    split at place
    · exact ⟨window, place, bounds⟩
    · cases place
  have start : ram.base = 0x80000000 := by
    cases all : ram.banks with
    | nil =>
      have ⟨index, bank, found⟩ := populated
      simp [all] at found
    | cons bank rest =>
      have head : ram.banks[0]? = some bank := by simp [all]
      have ⟨first, place, same, _⟩ := window head
      cases place
      rw [base, all]
      exact same
  refine ⟨by rw [start]; decide, fun index bank found filled => ?_⟩
  have ⟨place, known, same, small⟩ := window found
  have size : bank.size ≠ 0 := by simpa [Bank.isEmpty] using filled
  have unfold_last : bank.last = bank.start + bank.size - 1 := rfl
  rw [start, unfold_last, same]
  rcases index with _ | _ | _ | index
  · cases known
    simp only [windowSpace, gibibyte] at small ⊢
    exact ⟨by omega, .inl trivial⟩
  · cases known
    simp only [windowSpace, mebibyte, gibibyte] at small ⊢
    omega
  · cases known
    simp only [windowSpace, mebibyte, gibibyte] at small ⊢
    omega
  · cases known

/-- With the secure monitor in place, and if the settings of the device tree leave the firewalls
alone, the first mebibyte stays secure exactly if no bank exposes it in its window. Banks that are
apart do not, and neither does memory that only the hardware knows. -/
theorem monitor_sealed_iff (secure : options.secureMonitor = true)
    (unnamed : ∀ address, IsFirewall address → ¬ NamedBySettings blob address)
    (run : Runs (bringUp mailboxes table blob options).run trace (some (.ok ram))) :
    (MonitorSealed initial trace ram ↔ ∀ index (bank : Bank) address, ram.banks[index]? = some bank →
      ram.base ≤ address → address < ram.base + mebibyte → ¬ bank.Exposes true index address) ∧
    (ram.Apart → MonitorSealed initial trace ram) ∧
    ∀ memory, (DeviceTree.Memory.ofBlob blob options.bankCount).Yields (.ok memory) →
      memory.size = 0 → MonitorSealed initial trace ram := by
  cases bringUp_opens run with
  | @mk before opening layout _ closed opens banks base few positive populated origin =>
    have sealed_iff : MonitorSealed initial (before ++ opening) ram ↔
        ∀ index (bank : Bank) address, ram.banks[index]? = some bank → ram.base ≤ address →
          address < ram.base + mebibyte → ¬ bank.Exposes true index address := by
      simp only [MonitorSealed, admits_iff closed unnamed opens few, secure, banks]
      constructor
      · intro h index bank address found first last exposes
        exact h .dmi0 .mpu index address first last ⟨bank, found, exposes⟩
      · rintro h dmi masters index address first last ⟨bank, found, exposes⟩
        exact h index bank address found first last exposes
    have sealed_of_apart (apart : ram.Apart) : MonitorSealed initial (before ++ opening) ram := by
      rw [← banks] at base
      exact sealed_iff.2 fun index bank address => not_exposes_of_apart base apart
    refine ⟨sealed_iff, sealed_of_apart, fun memory described unsized => sealed_of_apart ?_⟩
    have ⟨available, memory', described', found⟩ := origin
    obtain rfl : memory' = memory := by
      injection described'.unique DeviceTree.memory_ofBlob_uses described
    cases found with
    | described fits sized => exact absurd unsized (Nat.ne_of_gt positive)
    | filled _ reported =>
      have ⟨index, bank, found, filled⟩ := populated
      rw [← banks] at base
      exact apart_of_filled banks base ⟨index, bank, banks ▸ found⟩

/-- The memory of the board, of which only the hardware knows the size, keeps its first mebibyte
secure. -/
theorem monitor_sealed_gibibyte :
    MonitorSealed (fun _ => 0) (Rehearsal.bringUp.trace (Rehearsal.serve id)
      (Rehearsal.afterWarmReset 0))
        ⟨0x80000000, 0x40000000, [⟨0x80000000, 0x40000000⟩], .ddr5, true⟩ := by
  have result : (Rehearsal.bringUp.run (Rehearsal.serve id) (Rehearsal.afterWarmReset 0)).1 =
      some (.ok ⟨0x80000000, 0x40000000, [⟨0x80000000, 0x40000000⟩], .ddr5, true⟩) := by
    decide +kernel
  have run := Runs.of_run (Rehearsal.serve id) Rehearsal.bringUp (Rehearsal.afterWarmReset 0)
  rw [result] at run
  have described : ((DeviceTree.Memory.ofBlob Rehearsal.blob 3).run (Rehearsal.serve id)
      (Rehearsal.afterWarmReset 0)).1 = some (.ok {}) := by decide +kernel
  have yields := Runs.of_run (Rehearsal.serve id) (DeviceTree.Memory.ofBlob Rehearsal.blob 3)
    (Rehearsal.afterWarmReset 0)
  rw [described] at yields
  have unnamed : ∀ address, IsFirewall address → ¬ NamedBySettings Rehearsal.blob address :=
    fun _ _ => Rehearsal.not_namedBySettings
  exact (monitor_sealed_iff rfl unnamed run).2.2 {} ⟨_, yields⟩ rfl

/-- A device tree as that of the board, but whose memory node has an empty bank and a bank of 1 GiB
at the same address. -/
def emptyFirstBank : DeviceTree.Bytes :=
  [0xd0, 0x0d, 0xfe, 0xed, 0, 0, 0, 156, 0, 0, 0, 40, 0, 0, 0, 152, 0, 0, 0, 0, 0, 0, 0, 17,
    0, 0, 0, 16, 0, 0, 0, 0, 0, 0, 0, 4, 0, 0, 0, 112] ++
  [0, 0, 0, 1, 0, 0, 0, 0] ++
  [0, 0, 0, 1] ++ [115, 111, 99, 102, 112, 103, 97, 45, 115, 101, 99, 114, 101, 103, 45, 99, 99,
    117, 45, 105, 110, 116, 101, 114, 108, 101, 97, 118, 105, 110, 103, 45, 111, 102, 102, 0] ++
  [0, 0, 0, 2] ++
  [0, 0, 0, 1] ++ [109, 101, 109, 111, 114, 121, 0, 0] ++
  [0, 0, 0, 3, 0, 0, 0, 24, 0, 0, 0, 0] ++
  [0, 0, 0, 0, 0x80, 0, 0, 0, 0, 0, 0, 0] ++ [0, 0, 0, 0, 0x80, 0, 0, 0, 0x40, 0, 0, 0] ++
  [0, 0, 0, 2] ++
  [0, 0, 0, 2] ++ [0, 0, 0, 9] ++ [114, 101, 103, 0]

/-- The offset of a mebibyte belongs to the first bank, so it is lost with an empty one: region 1
admits the first mebibyte of memory. -/
theorem monitor_exposed_behind_empty_bank :
    ((Dram.bringUp 1 Rehearsal.table emptyFirstBank {}).run.run (Rehearsal.serve id)
        (Rehearsal.afterWarmReset 0)).1 = some (.ok ⟨0x80000000, 0x40000000,
          [⟨0x80000000, 0⟩, ⟨0x80000000, 0x40000000⟩], .ddr5, true⟩) ∧
      ({} : Options).secureMonitor = true ∧
      ¬ MonitorSealed (fun _ => 0)
        ((Dram.bringUp 1 Rehearsal.table emptyFirstBank {}).run.trace (Rehearsal.serve id)
          (Rehearsal.afterWarmReset 0))
        ⟨0x80000000, 0x40000000, [⟨0x80000000, 0⟩, ⟨0x80000000, 0x40000000⟩], .ddr5, true⟩ := by
  refine ⟨by decide +kernel, rfl, fun monitor => ?_⟩
  have enabled : (enableSet .dmi0, regionEnable 1) ∈
      Trace.stores ((Dram.bringUp 1 Rehearsal.table emptyFirstBank {}).run.trace
        (Rehearsal.serve id) (Rehearsal.afterWarmReset 0)) := by decide +kernel
  refine monitor .dmi0 .mpu 1 0x80000000 (Nat.le_refl _) (by decide)
    ⟨⟨enableSet .dmi0, by decide, _, enabled, by decide⟩, ?_, ?_⟩
  · decide +kernel
  · decide +kernel

end BringUp.Dram
