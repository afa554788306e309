import BringUp.Proofs.Dram.SecureMonitor

/-! The windows of the firewall regions. Main statement: each bank with memory among the first four
gets the same window in both regions with its number on every given firewall, up to the 40 bits of
the registers. -/
namespace BringUp.Dram

open Firewall

variable {dmis : List Dmi} {banks : List Bank} {bank : Bank} {secureMonitor : Bool}
  {trace : Trace} {outcome : Option Unit} {initial : Nat → Word} {dmi dmi' : Dmi}
  {masters : Masters} {index first last register : Nat} {value : Word}

/-- The address is the one of a register of the firewall. -/
def OnFirewall (dmi : Dmi) (address : Nat) : Prop :=
  dmi.base ≤ address ∧ address < dmi.base + 0xD0

instance {address : Nat} : Decidable (OnFirewall dmi address) :=
  inferInstanceAs (Decidable (_ ∧ _))

/-- The stores to registers of a firewall. -/
def storesOn (dmi : Dmi) (stores : List (Nat × Word)) : List (Nat × Word) :=
  stores.filter fun store => decide (OnFirewall dmi store.1)

/-- The banks that have memory and a region, with their numbers. -/
def filledBanks (banks : List Bank) : List (Bank × Nat) :=
  (banks.take regionCount).zipIdx.filter fun item => !item.1.isEmpty

/-- What is stored for a bank on one firewall, if so many handles of it are given. -/
def bankRounds (handles : Nat) (secureMonitor : Bool) (dmi : Dmi) (item : Bank × Nat) :
    List (Nat × Word) :=
  (List.replicate handles
    (regionStores item.2 (firstOpen secureMonitor item.2 item.1) item.1.last dmi)).flatten

/-- The registers of a region. -/
def windowRegisters : List Nat :=
  [Region.start, Region.startExtension, Region.limit, Region.limitExtension]

/-- After the trace, the registers of a region hold this window. -/
structure HasWindow (initial : Nat → Word) (trace : Trace) (dmi : Dmi) (masters : Masters)
    (index first last : Nat) : Prop where
  first : windowAddress (regionContent initial trace dmi masters index Region.start)
    (regionContent initial trace dmi masters index Region.startExtension) = first
  last : windowAddress (regionContent initial trace dmi masters index Region.limit)
    (regionContent initial trace dmi masters index Region.limitExtension) = last
  /-- No bit is set that the extensions do not implement. -/
  narrow : ∀ register ∈ [Region.startExtension, Region.limitExtension],
    (regionContent initial trace dmi masters index register).toNat < 0x100

/-- The enable word has the two bits of the region with that number, and no other. -/
def EnablesOnly (index : Nat) (value : Word) : Prop :=
  ∀ bit, value.getLsbD bit = true ↔ bit = index ∨ bit = index + 8

/-- The regions that the banks get on the firewalls, and what else a trace that opens them does. -/
structure RegionsOpened (dmis : List Dmi) (banks : List Bank) (secureMonitor : Bool)
    (trace : Trace) : Prop where
  /-- On each firewall, bank after bank: with every handle both windows are set, and then the two
  regions are enabled by a single store. -/
  rounds : ∀ dmi, storesOn dmi trace.stores =
    (filledBanks banks).flatMap (bankRounds (dmis.count dmi) secureMonitor dmi)
  elsewhere : ∀ store ∈ trace.stores, ∃ dmi ∈ dmis, OnFirewall dmi store.1
  window : ∀ dmi ∈ dmis, ∀ masters index bank, Filled banks index bank → ∀ initial,
    HasWindow initial trace dmi masters index (firstOpen secureMonitor index bank % windowSpace)
      (bank.last % windowSpace)
  /-- For a bank that ends at or below 2^40 the limit is its last address, and the base is the first
  address that is opened exactly if the registers can hold it. -/
  exact_window : ∀ dmi ∈ dmis, ∀ masters index bank, Filled banks index bank →
    bank.start + bank.size ≤ windowSpace → ∀ initial,
      (HasWindow initial trace dmi masters index (firstOpen secureMonitor index bank) bank.last ↔
        firstOpen secureMonitor index bank < windowSpace) ∧
      ((secureMonitor = true → index = 0 → bank.start + mebibyte < windowSpace) →
        HasWindow initial trace dmi masters index (firstOpen secureMonitor index bank) bank.last)
  untouched : ∀ dmi masters index, index < regionCount → ∀ register < 0x10,
    (∃ value, (region dmi masters index + register, value) ∈ trace.stores) →
      dmi ∈ dmis ∧ ∃ bank, Filled banks index bank
  enabling : ∀ dmi value, (enableSet dmi, value) ∈ trace.stores ↔
    dmi ∈ dmis ∧ ∃ index bank, Filled banks index bank ∧ EnablesOnly index value
  /-- Each store that enables the regions of a bank comes right after those that set their windows. -/
  preceded : ∀ dmi value before after,
    trace.stores = before ++ (enableSet dmi, value) :: after →
      ∃ index bank earlier, Filled banks index bank ∧ EnablesOnly index value ∧
        before = earlier ++
          (windowStores .mpu index (firstOpen secureMonitor index bank) bank.last dmi ++
            windowStores .nonMpu index (firstOpen secureMonitor index bank) bank.last dmi)
  /-- What is stored depends on the first four banks only. -/
  beyond : ∀ (others : List Bank) (trace' : Trace) (outcome : Option Unit),
    others.take regionCount = banks.take regionCount →
      Runs (openBanks dmis others secureMonitor) trace' outcome → trace'.stores = trace.stores
  alike : ∀ dmi ∈ dmis, ∀ dmi' ∈ dmis, ∀ masters masters' index bank, Filled banks index bank →
    ∀ register ∈ windowRegisters, ∀ initial,
      regionContent initial trace dmi masters index register =
        regionContent initial trace dmi' masters' index register

section Footprint

theorem onFirewall_region (small : index < regionCount) (inside : register < 0x10) :
    OnFirewall dmi (region dmi' masters index + register) ↔ dmi = dmi' := by
  have bound : index < 4 := small
  cases dmi <;> cases dmi' <;> cases masters <;>
    simp only [OnFirewall, region, Dmi.base, Masters.offset, reduceCtorEq, iff_true, iff_false] <;>
    omega

theorem onFirewall_enableSet : OnFirewall dmi (enableSet dmi') ↔ dmi = dmi' := by
  cases dmi <;> cases dmi' <;> decide

theorem onFirewall_regionStores (small : index < regionCount) :
    ∀ store ∈ regionStores index first last dmi', OnFirewall dmi store.1 ↔ dmi = dmi' := by
  intro store member
  rcases mem_regionStores.1 member with ⟨masters, window⟩ | rfl
  · obtain ⟨register, inside, place⟩ := register_of_mem_windowStores window
    rw [place]
    exact onFirewall_region small inside
  · exact onFirewall_enableSet

theorem storesOn_regionStores (small : index < regionCount) :
    storesOn dmi (regionStores index first last dmi') =
      if dmi = dmi' then regionStores index first last dmi else [] := by
  split
  · next same =>
    subst same
    exact List.filter_eq_self.2 fun store member =>
      decide_eq_true ((onFirewall_regionStores small store member).2 rfl)
  · next other =>
    refine List.filter_eq_nil_iff.2 fun store member seen => other ?_
    exact (onFirewall_regionStores small store member).1 (of_decide_eq_true seen)

/-- A loop over the given firewalls is seen by a firewall as often as there are handles of it. -/
theorem storesOn_flatMap (small : index < regionCount) :
    storesOn dmi (dmis.flatMap (regionStores index first last)) =
      (List.replicate (dmis.count dmi) (regionStores index first last dmi)).flatten := by
  induction dmis with
  | nil => rfl
  | cons head rest ih =>
    rw [List.flatMap_cons, storesOn, List.filter_append]
    change storesOn dmi _ ++ storesOn dmi _ = _
    rw [ih, storesOn_regionStores small]
    split
    · next same =>
      subst same
      rw [List.count_cons_self, List.replicate_succ, List.flatten_cons]
    · next other => rw [List.count_cons_of_ne (Ne.symm other), List.nil_append]

/-- A firewall sees the banks with memory in their order. -/
theorem storesOn_bankStores {items : List (Bank × Nat)}
    (bounds : ∀ item ∈ items, item.2 < regionCount) :
    storesOn dmi (items.flatMap fun item => bankStores dmis secureMonitor item.2 item.1) =
      (items.filter fun item => !item.1.isEmpty).flatMap
        (bankRounds (dmis.count dmi) secureMonitor dmi) := by
  induction items with
  | nil => rfl
  | cons item rest ih =>
    have here := bounds item List.mem_cons_self
    have later := ih fun item member => bounds item (List.mem_cons_of_mem _ member)
    rw [List.flatMap_cons, storesOn, List.filter_append]
    change storesOn dmi _ ++ storesOn dmi _ = _
    rw [later, bankStores]
    cases empty : item.1.isEmpty with
    | true =>
      rw [if_pos rfl, List.filter_cons_of_neg (by simp [empty])]
      rfl
    | false =>
      rw [if_neg Bool.false_ne_true, List.filter_cons_of_pos (by simp [empty]), List.flatMap_cons,
        storesOn_flatMap here]
      rfl

end Footprint

section Enabling

theorem enablesOnly_regionEnable (small : index < regionCount) :
    EnablesOnly index (regionEnable index) := by
  have narrow : ∀ index < 4, ∀ bit < 32,
      (regionEnable index).getLsbD bit = true ↔ bit = index ∨ bit = index + 8 := by
    decide +kernel
  have bound : index < 4 := small
  intro bit
  by_cases inside : bit < 32
  · exact narrow index bound bit inside
  · rw [BitVec.getLsbD_of_ge _ _ (by omega)]
    simp only [Bool.false_eq_true, false_iff]
    omega

theorem enablesOnly_iff (small : index < regionCount) :
    EnablesOnly index value ↔ value = regionEnable index := by
  constructor
  · intro only
    apply BitVec.eq_of_getLsbD_eq
    intro bit _
    rw [Bool.eq_iff_iff, only bit, enablesOnly_regionEnable small bit]
  · rintro rfl
    exact enablesOnly_regionEnable small

/-- An element of a concatenation lies in one of the parts. -/
theorem flatMap_split {α β : Type} {items : List α} {part : α → List β} {before after : List β}
    {element : β} (split : items.flatMap part = before ++ element :: after) :
    ∃ item ∈ items, ∃ earlier inner rest, part item = inner ++ element :: rest ∧
      before = earlier ++ inner := by
  induction items generalizing before with
  | nil => simp at split
  | cons item items ih =>
    rw [List.flatMap_cons, List.append_eq_append_iff] at split
    rcases split with ⟨beyond, rfl, later⟩ | ⟨remaining, here, split⟩
    · obtain ⟨found, member, earlier, inner, rest, same, rfl⟩ := ih later
      exact ⟨found, List.mem_cons_of_mem _ member, part item ++ earlier, inner, rest, same,
        by rw [List.append_assoc]⟩
    · cases remaining with
      | nil =>
        have at_start : items.flatMap part = [] ++ element :: after := by simpa using split.symm
        obtain ⟨found, member, earlier, inner, rest, same, none⟩ := ih at_start
        obtain ⟨nothing, nothing'⟩ := List.append_eq_nil_iff.1 none.symm
        subst nothing nothing'
        exact ⟨found, List.mem_cons_of_mem _ member, before, [], rest, same, by simp⟩
      | cons head remaining =>
        cases (List.cons.inj split).1
        exact ⟨item, List.mem_cons_self, [], before, remaining, here, rfl⟩

/-- Of the stores to a region the one that enables it is the last. -/
theorem regionStores_split {before after : List (Nat × Word)} (small : index < regionCount)
    (split : regionStores index first last dmi' = before ++ (enableSet dmi, value) :: after) :
    dmi = dmi' ∧ value = regionEnable index ∧
      before = windowStores .mpu index first last dmi' ++ windowStores .nonMpu index first last dmi' := by
  rw [regionStores, ← List.append_assoc] at split
  rcases List.eq_nil_or_concat after with rfl | ⟨others, final, rfl⟩
  · obtain ⟨windows, same⟩ := List.append_inj' split rfl
    obtain ⟨place, rfl⟩ := Prod.mk.inj (List.singleton_inj.1 same)
    have own : dmi = dmi' := onFirewall_enableSet.1 (place ▸ onFirewall_enableSet.2 rfl)
    exact ⟨own, rfl, windows.symm⟩
  · rw [List.concat_eq_append, ← List.cons_append, ← List.append_assoc] at split
    obtain ⟨windows, _⟩ := List.append_inj' split rfl
    have member : (enableSet dmi, value) ∈
        windowStores .mpu index first last dmi' ++ windowStores .nonMpu index first last dmi' := by
      simp [windows]
    have enabling : enableSet dmi ∈ [enable dmi, enableSet dmi] := by simp
    rcases List.mem_append.1 member with mpu | nonMpu
    · obtain ⟨register, inside, place⟩ := register_of_mem_windowStores mpu
      exact absurd place (enable_ne_region small inside enabling)
    · obtain ⟨register, inside, place⟩ := register_of_mem_windowStores nonMpu
      exact absurd place (enable_ne_region small inside enabling)

/-- Where a region is enabled, both of its windows have just been set. -/
theorem openingStores_split {before after : List (Nat × Word)}
    (split : openingStores dmis banks secureMonitor = before ++ (enableSet dmi, value) :: after) :
    ∃ index bank earlier, Filled banks index bank ∧ value = regionEnable index ∧
      before = earlier ++
        (windowStores .mpu index (firstOpen secureMonitor index bank) bank.last dmi ++
          windowStores .nonMpu index (firstOpen secureMonitor index bank) bank.last dmi) := by
  obtain ⟨⟨bank, index⟩, member, earlier, inner, rest, opening, rfl⟩ := flatMap_split split
  obtain ⟨found, small⟩ := mem_zipIdx_take.1 member
  dsimp only at opening
  cases empty : bank.isEmpty with
  | true => simp [bankStores, empty] at opening
  | false =>
    rw [bankStores, empty, if_neg Bool.false_ne_true] at opening
    obtain ⟨dmi', -, earlier', inner', rest', enabling, rfl⟩ := flatMap_split opening
    obtain ⟨rfl, rfl, rfl⟩ := regionStores_split small enabling
    exact ⟨index, bank, earlier ++ earlier', ⟨found, small, empty⟩, rfl, by simp⟩

end Enabling

/-- The base of a bank that ends at or below 2^40 can be held, unless the mebibyte that stays closed
reaches up to there. -/
theorem firstOpen_lt (filled : Filled banks index bank)
    (ends : bank.start + bank.size ≤ windowSpace)
    (room : secureMonitor = true → index = 0 → bank.start + mebibyte < windowSpace) :
    firstOpen secureMonitor index bank < windowSpace := by
  have positive : bank.size ≠ 0 := by simpa [Bank.isEmpty] using filled.filled
  unfold firstOpen
  split
  · next closed =>
    simp only [Bool.and_eq_true, beq_iff_eq] at closed
    exact room closed.1 closed.2
  · omega

theorem exists_windowStores (known : register ∈ windowRegisters) : ∃ value, ∀ masters dmi,
    (region dmi masters index + register, value) ∈ windowStores masters index first last dmi := by
  simp only [windowRegisters, List.mem_cons, List.not_mem_nil, or_false] at known
  rcases known with rfl | rfl | rfl | rfl
  · exact ⟨lowWord first, fun masters dmi => by simp [windowStores]⟩
  · exact ⟨extensionWord first, fun masters dmi => by simp [windowStores]⟩
  · exact ⟨lowWord last, fun masters dmi => by simp [windowStores]⟩
  · exact ⟨extensionWord last, fun masters dmi => by simp [windowStores]⟩

theorem extensionWord_lt {address : Nat} : (extensionWord address).toNat < 0x100 := by
  simp only [extensionWord, BitVec.toNat_ofNat]
  omega

section Windows

variable (opened : trace.stores = openingStores dmis banks secureMonitor)

include opened

theorem regionContent_of_filled (given : dmi ∈ dmis) (filled : Filled banks index bank)
    (inside : register < 0x10)
    (written : (region dmi masters index + register, value) ∈
      windowStores masters index (firstOpen secureMonitor index bank) bank.last dmi) :
    regionContent initial trace dmi masters index register = value :=
  regionContent_of_opened (fun _ => by rw [opened]) given filled inside written

theorem hasWindow_of_filled (given : dmi ∈ dmis) (filled : Filled banks index bank) :
    HasWindow initial trace dmi masters index (firstOpen secureMonitor index bank % windowSpace)
      (bank.last % windowSpace) := by
  obtain ⟨start, limit⟩ := windowAddress_of_written fun register value inside written =>
    regionContent_of_filled opened given filled inside written
  refine ⟨start, limit, List.forall_mem_cons.2 ⟨?_, List.forall_mem_singleton.2 ?_⟩⟩
  · rw [regionContent_of_filled opened given filled (by decide) (mem_windowStores.2 (.inr (.inl rfl)))]
    exact extensionWord_lt
  · rw [regionContent_of_filled opened given filled (by decide)
      (mem_windowStores.2 (.inr (.inr (.inr rfl))))]
    exact extensionWord_lt

/-- The registers hold the window as it is if they can hold its base, and only then. -/
theorem hasWindow_exact_iff (given : dmi ∈ dmis) (filled : Filled banks index bank)
    (ends : bank.start + bank.size ≤ windowSpace) :
    HasWindow initial trace dmi masters index (firstOpen secureMonitor index bank) bank.last ↔
      firstOpen secureMonitor index bank < windowSpace := by
  have window : HasWindow initial trace dmi masters index
      (firstOpen secureMonitor index bank % windowSpace) (bank.last % windowSpace) :=
    hasWindow_of_filled opened given filled
  have positive : bank.size ≠ 0 := by simpa [Bank.isEmpty] using filled.filled
  have reaches : bank.last < windowSpace := by
    simp only [Bank.last, windowSpace] at ends ⊢
    omega
  rw [Nat.mod_eq_of_lt reaches] at window
  constructor
  · intro same
    rw [← same.first, window.first]
    exact Nat.mod_lt _ (by decide)
  · intro below
    rwa [Nat.mod_eq_of_lt below] at window

end Windows

theorem openBanks_returns : (openBanks dmis banks secureMonitor).Returns := by
  have opened (item : Bank × Nat) : (openBank dmis secureMonitor item.2 item.1).Returns := by
    unfold openBank
    split
    · refine Program.returns_bind (Program.returns_forM fun dmi => ?_) fun _ _ => trivial
      exact fun _ _ _ _ _ _ _ _ _ => trivial
    · trivial
  have all : ((banks.take regionCount).zipIdx.forM fun item =>
      openBank dmis secureMonitor item.2 item.1).Returns := Program.returns_forM opened
  unfold openBanks
  dsimp only
  split
  · exact Program.returns_bind (fun _ => trivial) fun _ => all
  · exact all

/-- Opening the banks never breaks off. Every bank with memory among the first four gets its window
in both regions with its number on each given firewall, up to the 40 bits that the registers have,
and nothing else is stored. -/
theorem regions_opened (run : Runs (openBanks dmis banks secureMonitor) trace outcome) :
    outcome = some () ∧ RegionsOpened dmis banks secureMonitor trace := by
  obtain ⟨⟨⟩, rfl⟩ := run.returned openBanks_returns
  have opened : trace.stores = openingStores dmis banks secureMonitor := stores_openBanks run
  refine ⟨rfl, {
    rounds := fun dmi => ?_
    elsewhere := fun store member => ?_
    window := fun dmi given masters index bank filled initial => hasWindow_of_filled opened given filled
    exact_window := fun dmi given masters index bank filled ends initial => ?_
    untouched := fun dmi masters index small register inside stored => ?_
    enabling := fun dmi value => ?_
    preceded := fun dmi value before after split => ?_
    beyond := fun others trace' outcome same run' => ?_
    alike := fun dmi given dmi' given' masters masters' index bank filled register known initial =>
      ?_ }⟩
  · rw [opened, openingStores, filledBanks]
    exact storesOn_bankStores fun _ member => (mem_zipIdx_take.1 member).2
  · rw [opened, mem_openingStores_iff] at member
    obtain ⟨index, bank, dmi, filled, given, written⟩ := member
    exact ⟨dmi, given, (onFirewall_regionStores filled.small store written).2 rfl⟩
  · have exact_iff : HasWindow initial trace dmi masters index (firstOpen secureMonitor index bank)
        bank.last ↔ firstOpen secureMonitor index bank < windowSpace :=
      hasWindow_exact_iff opened given filled ends
    exact ⟨exact_iff, fun room => exact_iff.2 (firstOpen_lt filled ends room)⟩
  · obtain ⟨value, stored⟩ := stored
    rw [opened, mem_openingStores_window small inside] at stored
    obtain ⟨given, bank, filled, -⟩ := stored
    exact ⟨given, bank, filled⟩
  · rw [opened, mem_openingStores_enable (List.mem_cons_of_mem _ List.mem_cons_self)]
    constructor
    · rintro ⟨-, given, index, bank, filled, same⟩
      exact ⟨given, index, bank, filled, (enablesOnly_iff filled.small).2 same⟩
    · rintro ⟨given, index, bank, filled, only⟩
      exact ⟨rfl, given, index, bank, filled, (enablesOnly_iff filled.small).1 only⟩
  · obtain ⟨index, bank, earlier, filled, same, rfl⟩ := openingStores_split (opened ▸ split)
    exact ⟨index, bank, earlier, filled, (enablesOnly_iff filled.small).2 same, rfl⟩
  · obtain ⟨⟨⟩, rfl⟩ := run'.returned openBanks_returns
    rw [stores_openBanks run', opened, openingStores, openingStores, same]
  · have inside : register < 0x10 := by
      revert register
      decide
    obtain ⟨value, written⟩ : ∃ value, ∀ masters dmi, (region dmi masters index + register, value) ∈
        windowStores masters index (firstOpen secureMonitor index bank) bank.last dmi :=
      exists_windowStores known
    rw [regionContent_of_filled opened given filled inside (written masters dmi),
      regionContent_of_filled opened given' filled inside (written masters' dmi')]

/-- A bank of 2 GiB whose first mebibyte stays closed, an empty one, one that ends at 2^40, and a
fifth one. -/
def fiveBanks : List Bank :=
  [⟨0x80000000, 0x80000000⟩, ⟨0x880000000, 0⟩, ⟨0xFFC0000000, 0x40000000⟩, ⟨0x0, 0⟩,
    ⟨0x880000000, 0x40000000⟩]

/-- The empty banks and the fifth one get no region, and the numbers do not shift. -/
theorem regions_opened_five :
    let trace := (openBanks Dmi.all fiveBanks true).trace (Rehearsal.serve id) fun _ => 0
    RegionsOpened Dmi.all fiveBanks true trace ∧
      (∀ dmi ∈ Dmi.all, ∀ masters ∈ [Masters.mpu, .nonMpu],
        HasWindow (fun _ => 0) trace dmi masters 0 0x80100000 0xFFFFFFFF ∧
        HasWindow (fun _ => 0) trace dmi masters 2 0xFFC0000000 0xFFFFFFFFFF) ∧
      trace.stores.filter (fun store => store.1 == enableSet .dmi1) =
        [(enableSet .dmi1, 0x101), (enableSet .dmi1, 0x404)] := by
  intro trace
  have run := Runs.of_run (Rehearsal.serve id) (openBanks Dmi.all fiveBanks true) fun _ => 0
  have opened := (regions_opened run).2
  refine ⟨opened, fun dmi given masters _ => ⟨?_, ?_⟩, by decide +kernel⟩
  · exact opened.window dmi given masters 0 _ ⟨rfl, by decide, rfl⟩ _
  · exact opened.window dmi given masters 2 _ ⟨rfl, by decide, rfl⟩ _

/-- The first bank is the last mebibyte below 2^40, and all of it belongs to the secure monitor. The
registers cannot hold the base behind it, and the window opens every address that they distinguish. -/
theorem region_base_overflows :
    let bank : Bank := ⟨0xFFFFF00000, 0x100000⟩
    let trace := (openBanks [.dmi0] [bank] true).trace (Rehearsal.serve id) fun _ => 0
    bank.start + bank.size ≤ windowSpace ∧ Filled [bank] 0 bank ∧
      ¬ HasWindow (fun _ => 0) trace .dmi0 .mpu 0 (bank.start + mebibyte) bank.last ∧
      HasWindow (fun _ => 0) trace .dmi0 .mpu 0 0 0xFFFFFFFFFF := by
  intro bank trace
  have base : windowAddress (regionContent (fun _ => 0) trace .dmi0 .mpu 0 Region.start)
      (regionContent (fun _ => 0) trace .dmi0 .mpu 0 Region.startExtension) = 0 := by decide +kernel
  have limit : windowAddress (regionContent (fun _ => 0) trace .dmi0 .mpu 0 Region.limit)
      (regionContent (fun _ => 0) trace .dmi0 .mpu 0 Region.limitExtension) = 0xFFFFFFFFFF := by
    decide +kernel
  refine ⟨by decide, ⟨rfl, by decide, rfl⟩, fun window => ?_, ⟨base, limit, by decide +kernel⟩⟩
  cases base.symm.trans window.first

end BringUp.Dram
