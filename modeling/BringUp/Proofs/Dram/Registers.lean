import BringUp.Proofs.Dram.Fabric
import BringUp.Proofs.Dram.Rehearsal
import BringUp.Proofs.Program.Modification
import BringUp.Register.Io96b
import BringUp.Register.ResetManager

/-! The registers that a bring-up changes. Main statement: if the device tree names no register of
the chip, these are the progress bit, the announced modes and the firewalls. -/
namespace BringUp.Dram

open DeviceTree
open Iossm (Subsystem Supervision)
open Program (Logging obeys_bind obeys_run_bind obeys_run_program uses_bind)
open SystemManager (mpfeConfig progress)

variable {mailboxes : Nat} {table : List Word} {blob : DeviceTree.Bytes} {options : Options}
  {past trace before rest : Trace} {marks flags lite : Word}

/-- A block of registers in the address space. -/
structure Block where
  first : Nat
  bytes : Nat
deriving DecidableEq, Repr

namespace Block

def Contains (block : Block) (address : Nat) : Prop :=
  block.first ≤ address ∧ address < block.first + block.bytes

instance (block : Block) (address : Nat) : Decidable (block.Contains address) :=
  inferInstanceAs (Decidable (_ ∧ _))

def systemManager : Block := ⟨SystemManager.base, 0x260⟩

def resetManager : Block := ⟨ResetManager.base, 0x30⟩

def sideband : Block := ⟨Sideband.base, 0x5C⟩

def io96b (unit : Nat) : Block := ⟨Io96b.base unit, 0x460⟩

def firewall (dmi : Firewall.Dmi) : Block := ⟨dmi.base, 0xD0⟩

def mpfeFirewall : Block := ⟨Firewall.mpfeBase, 0xC⟩

def all : List Block :=
  [systemManager, resetManager, sideband, io96b 0, io96b 1, firewall .dmi0, firewall .dmi1,
    mpfeFirewall]

end Block

/-- The address belongs to a register block of the chip. -/
def IsRegister (address : Nat) : Prop :=
  ∃ block ∈ Block.all, block.Contains address

instance (address : Nat) : Decidable (IsRegister address) :=
  inferInstanceAs (Decidable (∃ block ∈ Block.all, block.Contains address))

theorem isRegister_of_isFirewall {address : Nat} (h : IsFirewall address) : IsRegister address := by
  obtain ⟨dmi, inside⟩ := h
  refine ⟨.firewall dmi, ?_, inside⟩
  cases dmi <;> decide

theorem isRegister_of_isMpfeFirewall {address : Nat} (h : IsMpfeFirewall address) :
    IsRegister address :=
  ⟨.mpfeFirewall, by decide, h⟩

theorem not_contains_of_firewall {address : Nat} (h : IsFirewall address ∨ IsMpfeFirewall address) :
    ∀ block ∈ [Block.systemManager, .resetManager, .sideband, .io96b 0, .io96b 1],
      ¬ block.Contains address := by
  have low : address < Sideband.base ∧ 0x18000000 ≤ address := by
    obtain ⟨dmi, first, last⟩ | ⟨first, last⟩ := h
    · cases dmi <;> simp only [Firewall.Dmi.base, Sideband.base] at * <;> omega
    · simp only [Firewall.mpfeBase, Sideband.base] at *
      omega
  simp only [List.forall_mem_cons, Block.Contains, Block.systemManager, Block.resetManager,
    Block.sideband, Block.io96b, SystemManager.base, ResetManager.base, Sideband.base,
    Io96b.base] at *
  refine ⟨?_, ?_, ?_, ?_, ?_, by simp⟩ <;> omega

theorem isRegister_of_own : ∀ address ∈ [progress, Sideband.flagSet, mpfeConfig],
    IsRegister address := by
  decide

/-- In the blocks of the chip, a bring-up stores to three registers besides the firewalls. -/
theorem stores_of_bringUp {result : Option (Except Error Ram)}
    (outside : ∀ address, NamedBySettings blob address → ¬ IsRegister address)
    (run : Runs (bringUp mailboxes table blob options).run trace result) :
    ∀ store ∈ trace.stores, IsRegister store.1 →
      store.1 ∈ [progress, Sideband.flagSet, mpfeConfig] ∨ IsFirewall store.1 ∨
        IsMpfeFirewall store.1 := by
  rintro ⟨address, value⟩ member register
  have stored : IsWritten blob address := run.uses bringUp_uses _ (Trace.mem_stores.1 member)
  obtain rfl | rfl | rfl | named | firewall := stored
  · exact .inl (by simp)
  · exact .inl (by simp)
  · exact .inl (by simp)
  · exact absurd register (outside address named)
  · exact .inr firewall

section Progress

/-- What may be asked after the past: the progress register is read, and its next store changes the
progress bit of the word that was read. -/
def Marking (past : Trace) : Op → Prop
  | .store address value => address = progress →
    ∃ earlier word started, past = earlier ++ [⟨.load progress, word⟩] ∧
      value = SystemManager.inProgress.put started word
  | _ => True

theorem markInProgress_obeys {started : Bool} :
    (ResetHistory.markInProgress started).Obeys Marking past :=
  ⟨trivial, fun word => ⟨fun _ => ⟨past, word, started, rfl, rfl⟩, fun _ => trivial⟩⟩

theorem obeys_of_unmarked {α : Type} {p : Program α} {allowed : Op → Prop} (h : p.Uses allowed)
    (other : ∀ value, ¬ allowed (.store progress value)) : p.Obeys Marking past := by
  refine h.obeys fun later op asked => ?_
  cases op with
  | store address value =>
    rintro rfl
    exact absurd asked (other value)
  | _ => trivial

theorem not_opening_progress (value : Word) : ¬ Opening (.store progress value) := by
  rintro (h | h)
  · exact not_isFirewall progress (by simp) h
  · exact not_isMpfeFirewall progress (by simp) h

theorem log_obeys {level : Level} {text : String} : (Program.log level text).Obeys Marking past :=
  ⟨trivial, fun _ => trivial⟩

theorem start_obeys : start.Obeys Marking past := by
  have loaded {past : Trace} : (Program.load SystemManager.resetRecord).Obeys Marking past :=
    ⟨trivial, fun _ => trivial⟩
  have sampled {past : Trace} : ResetHistory.bringUpHung.Obeys Marking past :=
    ⟨trivial, fun _ => trivial⟩
  refine obeys_bind loaded fun _ _ _ => obeys_bind sampled fun _ _ _ => ?_
  refine obeys_bind log_obeys fun _ _ _ => ?_
  exact obeys_bind markInProgress_obeys fun _ _ _ => trivial

theorem finish_obeys {layout : Layout} : (finish options layout).Obeys Marking past := by
  refine obeys_bind (obeys_of_unmarked openBanks_uses not_opening_progress) fun _ _ _ => ?_
  refine obeys_bind (obeys_of_unmarked openRegisters_uses not_opening_progress) fun _ _ _ => ?_
  refine obeys_bind log_obeys fun _ _ _ => ?_
  exact obeys_bind markInProgress_obeys fun _ _ _ => log_obeys

theorem bringUp_marks (unnamed : ¬ NamedBySettings blob progress) :
    (bringUp mailboxes table blob options).run.Obeys Marking [] := by
  refine obeys_run_bind (obeys_run_program start_obeys) fun _ found _ => ?_
  refine obeys_run_bind (obeys_of_unmarked survey_uses fun value => ?_) fun _ surveyed _ => ?_
  · rintro (h | h | h)
    · exact absurd h (by decide)
    · exact absurd h (by decide)
    · exact unnamed h
  refine obeys_run_bind (obeys_of_unmarked (stage_uses prepareEcc_uses) fun _ h => h)
    fun _ _ _ => ?_
  have verifying : ((ExceptT.mk (verifySize surveyed.1.banks surveyed.1.size)).adapt
      Error.sizeCheck).run.Uses Probing :=
    uses_bind verifySize_uses fun _ _ => trivial
  refine obeys_run_bind (obeys_of_unmarked verifying fun _ h => h) fun _ _ _ => ?_
  exact obeys_run_bind (obeys_run_program finish_obeys) fun _ _ _ => trivial

theorem getLsbD_put_inProgress {started : Bool} {word : Word} {bit : Nat} (other : bit ≠ 0) :
    (SystemManager.inProgress.put started word).getLsbD bit = word.getLsbD bit := by
  by_cases inside : bit < 32
  · rw [Flag.getLsbD_put _ _ _ _ inside]
    exact if_neg other
  · rw [BitVec.getLsbD_of_ge _ _ (Nat.not_lt.1 inside), BitVec.getLsbD_of_ge _ _ (Nat.not_lt.1 inside)]

/-- To mark the progress is to modify no bit but the progress bit. -/
theorem modifying_of_marking {op : Op} (marking : Marking past op) :
    Modifying progress (fun word value => ∀ bit ≠ 0, value.getLsbD bit = word.getLsbD bit) past op := by
  cases op with
  | store address value =>
    intro same
    obtain ⟨earlier, word, started, split, rfl⟩ := marking same
    exact ⟨earlier, word, split, fun bit other => getLsbD_put_inProgress other⟩
  | _ => trivial

theorem content_of_marking (tracks : trace.Tracks progress marks)
    (law : ∀ before event after, trace = before ++ event :: after → Marking before event.op)
    (split : trace = before ++ rest) {bit : Nat} (other : bit ≠ 0) :
    (before.content progress marks).getLsbD bit = marks.getLsbD bit := by
  have from_start : trace = [] ++ (before ++ rest) := split
  have modifying (before : Trace) (event : Event) (after : Trace)
      (cut : trace = before ++ event :: after) := modifying_of_marking (law before event after cut)
  exact Modifying.related (fun _ _ _ => rfl)
    (fun early late bit other => (late bit other).trans (early bit other)) tracks modifying
    from_start bit other

end Progress

section Modes

/-- Until the interleaving, the progress bit and the modes are stored. -/
theorem Announced.stores {found : Start} {configuration : Configuration} {fresh : Subsystem}
    (announced : Announced table found configuration fresh trace)
    (flag : trace.Tracks Sideband.flagSet flags) (mpfe : trace.Tracks mpfeConfig lite) :
    Decodes table configuration ∧
      ∃ value, trace.stores = (progress, value) :: modeStores configuration flags lite := by
  cases announced with
  | @mk opening decoding announcing _ _ _ started decoded announced =>
    have decodes : Decodes table configuration := by
      obtain ⟨_, _, decodes, same⟩ | ⟨-, _, same⟩ := runs_decodeHandoff decoded
      · cases same
        exact decodes
      · cases same
    have told : decoding.stores = [] :=
      Trace.stores_eq_nil (decoded.uses decodeHandoff_uses) fun _ _ asked => asked
    obtain ⟨_, _, current, rfl, -⟩ := runs_start started
    rw [← List.append_assoc] at flag mpfe
    have flag := flag.right
    have mpfe := mpfe.right
    rw [Trace.content_eq_written, Trace.stores_append, told] at flag mpfe
    refine ⟨decodes, SystemManager.inProgress.put true current, ?_⟩
    rw [Trace.stores_append, Trace.stores_append, told, runs_announceModes announced flag mpfe]
    rfl

theorem Announced.modeWrites {found : Start} {configuration : Configuration} {fresh : Subsystem}
    (announced : Announced table found configuration fresh trace)
    (flag : trace.Tracks Sideband.flagSet flags) (mpfe : trace.Tracks mpfeConfig lite) :
    Decodes table configuration ∧ modeWrites trace = modeStores configuration flags lite := by
  obtain ⟨decodes, value, stores⟩ := announced.stores flag mpfe
  refine ⟨decodes, ?_⟩
  rw [Dram.modeWrites, stores, List.filter_cons_of_neg (by simp; decide), List.filter_eq_self]
  intro store member
  simpa using modeStores_modes store member

/-- Nothing is stored before the handoff is decoded, apart from the progress bit. -/
theorem stores_undecoded {opening decoding : Trace} {found : Start} {cause : Error}
    (started : Runs start opening (some found))
    (failed : Runs (decodeHandoff table) decoding (some (.error cause))) :
    (∀ configuration, ¬ Decodes table configuration) ∧
      ∃ value, Trace.stores (opening ++ decoding) = [(progress, value)] := by
  have told : decoding.stores = [] :=
    Trace.stores_eq_nil (failed.uses decodeHandoff_uses) fun _ _ asked => asked
  obtain ⟨_, _, current, rfl, -⟩ := runs_start started
  refine ⟨?_, SystemManager.inProgress.put true current, ?_⟩
  · obtain ⟨_, _, -, same⟩ | ⟨undecoded, -⟩ := runs_decodeHandoff failed
    · cases same
    · exact undecoded
  · rw [Trace.stores_append, told]
    rfl

/-- A bring-up announces the modes of the decoded handoff and nothing else. -/
theorem modeWrites_of_bringUp {result : Option (Except Error Ram)}
    (outside : ∀ address, NamedBySettings blob address → ¬ IsRegister address)
    (run : Runs (bringUp mailboxes table blob options).run trace result)
    (flag : trace.Tracks Sideband.flagSet flags) (mpfe : trace.Tracks mpfeConfig lite) :
    (∃ configuration, Decodes table configuration ∧
      modeWrites trace = modeStores configuration flags lite) ∨
    (∀ configuration, ¬ Decodes table configuration) ∧ modeWrites trace = [] := by
  have adjusted {setting : Trace} {configuration : Configuration}
      {outcome : Option (Except Error Unit)}
      (run : Runs (setInterleaving blob configuration) setting outcome) : modeWrites setting = [] :=
    modeWrites_eq_nil (run.uses setInterleaving_adjusts) fun address mode _ named =>
      outside address named (isRegister_of_own address (List.mem_cons_of_mem _ mode))
  cases fabric_course run with
  | undecoded started failed =>
    obtain ⟨undecoded, value, stores⟩ := stores_undecoded started failed
    refine .inr ⟨undecoded, ?_⟩
    rw [modeWrites, stores]
    rfl
  | @unset before setting _ configuration _ _ announced failed _ =>
    obtain ⟨decodes, modes⟩ := announced.modeWrites flag.left mpfe.left
    refine .inl ⟨configuration, decodes, ?_⟩
    rw [modeWrites_append, modes, adjusted failed, List.append_nil]
  | @set reached rest _ _ reaches left =>
    cases reaches with
    | @mk before setting _ configuration _ announced interleaved =>
      obtain ⟨decodes, modes⟩ := announced.modeWrites flag.left.left mpfe.left.left
      have later : modeWrites rest = [] :=
        modeWrites_eq_nil (left.uses advance_uses) not_advancing_mode
      refine .inl ⟨configuration, decodes, ?_⟩
      rw [modeWrites_append, modeWrites_append, modes, adjusted interleaved, later]
      simp

/-- A register of the modes is stored to exactly for those configurations that announce a mode by
it. -/
theorem stored_iff {address : Nat} {announces : Configuration → Prop}
    (mode : address = Sideband.flagSet ∨ address = mpfeConfig)
    (modes : (∃ configuration, Decodes table configuration ∧
      modeWrites trace = modeStores configuration flags lite) ∨
      (∀ configuration, ¬ Decodes table configuration) ∧ modeWrites trace = [])
    (member : ∀ configuration, (∃ value, (address, value) ∈ modeStores configuration flags lite) ↔
      announces configuration) :
    (∃ value, (address, value) ∈ trace.stores) ↔
      ∃ configuration, Decodes table configuration ∧ announces configuration := by
  simp only [← mem_modeWrites mode]
  obtain ⟨configuration, decodes, writes⟩ | ⟨undecoded, writes⟩ := modes
  · rw [writes, member]
    constructor
    · exact fun h => ⟨configuration, decodes, h⟩
    · rintro ⟨other, decodes', h⟩
      exact decodes.unique decodes' ▸ h
  · rw [writes]
    constructor
    · rintro ⟨_, absent⟩
      cases absent
    · rintro ⟨configuration, decodes, -⟩
      exact absurd decodes (undecoded configuration)

end Modes

section Interleaving

/-- The settings of the node that fits the handoff are carried out, all of them and in order. What
else is stored is stored to registers of the chip. -/
inductive Interleaved (table : List Word) (blob : DeviceTree.Bytes) : Trace → Prop
  | mk {configuration : Configuration} {settings : List Setting} {before setting after : Trace}
      (decoded : Decodes table configuration)
      (listed : Settings.Listed blob (interleavingNode configuration) settings)
      (carried : Runs (settings.forM Setting.apply) setting (some ()))
      (others : ∀ store ∈ before.stores ++ after.stores, IsRegister store.1) :
      Interleaved table blob (before ++ (setting ++ after))

theorem Interleaved.append (interleaved : Interleaved table blob trace)
    (later : ∀ store ∈ rest.stores, IsRegister store.1) : Interleaved table blob (trace ++ rest) := by
  obtain ⟨decoded, listed, carried, others⟩ := interleaved
  rw [List.append_assoc, List.append_assoc]
  refine .mk decoded listed carried fun store member => ?_
  rw [Trace.stores_append, ← List.append_assoc, List.mem_append] at member
  exact member.elim (others store) (later store)

theorem Announced.registers {found : Start} {configuration : Configuration} {fresh : Subsystem}
    (announced : Announced table found configuration fresh trace)
    (flag : trace.Tracks Sideband.flagSet flags) (mpfe : trace.Tracks mpfeConfig lite) :
    ∀ store ∈ trace.stores, IsRegister store.1 := by
  obtain ⟨-, value, stores⟩ := announced.stores flag mpfe
  rw [stores, List.forall_mem_cons]
  refine ⟨isRegister_of_own progress (by simp), fun store member => ?_⟩
  obtain same | same := modeStores_modes store member
  · exact isRegister_of_own _ (by simp [same])
  · exact isRegister_of_own _ (by simp [same])

theorem ReachesCalibration.interleaved {found : Start} {fresh : Subsystem}
    (reached : ReachesCalibration table blob found fresh trace)
    (flag : trace.Tracks Sideband.flagSet flags) (mpfe : trace.Tracks mpfeConfig lite) :
    Interleaved table blob trace := by
  cases reached with
  | @mk before _ _ configuration _ announced interleaved =>
    obtain ⟨decoded, -⟩ := announced.stores flag.left mpfe.left
    have registers := announced.registers flag.left mpfe.left
    obtain ⟨settings, told, setting, -, rfl, quiet, listed, carried⟩ | ⟨failed, -⟩ :=
      runs_setInterleaving interleaved
    · have silent : told.stores = [] := Trace.stores_eq_nil quiet fun _ _ asked => asked
      rw [← List.append_assoc, ← List.append_nil setting]
      refine .mk decoded listed carried ?_
      change ∀ store ∈ Trace.stores (before ++ told) ++ [], IsRegister store.1
      rwa [Trace.stores_append, silent, List.append_nil, List.append_nil]
    · exact absurd rfl failed

theorem advance_registers {found : Start} {subsystem : Subsystem}
    {result : Option (Except Error Ram)}
    (run : Runs (advance mailboxes blob options found subsystem).run trace result) :
    ∀ store ∈ trace.stores, IsRegister store.1 := by
  rintro ⟨address, value⟩ member
  have stored : Advancing (.store address value) :=
    run.uses advance_uses _ (Trace.mem_stores.1 member)
  obtain rfl | firewall | firewall := stored
  · exact isRegister_of_own progress (by simp)
  · exact isRegister_of_isFirewall firewall
  · exact isRegister_of_isMpfeFirewall firewall

/-- The settings of one node are carried out as a whole, or only registers of the chip are stored
to. -/
theorem interleaved_of_bringUp {result : Option (Except Error Ram)}
    (run : Runs (bringUp mailboxes table blob options).run trace result)
    (flag : trace.Tracks Sideband.flagSet flags) (mpfe : trace.Tracks mpfeConfig lite) :
    (∀ store ∈ trace.stores, IsRegister store.1) ∨ Interleaved table blob trace := by
  cases fabric_course run with
  | undecoded started failed =>
    obtain ⟨-, value, stores⟩ := stores_undecoded started failed
    rw [stores, List.forall_mem_singleton]
    exact .inl (isRegister_of_own progress (by simp))
  | unset announced failed unset =>
    obtain ⟨_, _, _, same, -⟩ | ⟨-, quiet⟩ := runs_setInterleaving failed
    · exact absurd same unset
    · have registers := announced.registers flag.left mpfe.left
      rw [Trace.stores_append, Trace.stores_eq_nil quiet fun _ _ asked => asked, List.append_nil]
      exact .inl registers
  | set reached left =>
    exact .inr ((reached.interleaved flag.left mpfe.left).append (advance_registers left))

end Interleaving

/-- What a bring-up does to the registers of the chip, if the progress register, the configuration
of the MPFE and the flags of the sideband manager hold `marks`, `lite` and `flags` before. -/
structure Framed (table : List Word) (blob : DeviceTree.Bytes) (marks lite flags : Word)
    (trace : Trace) : Prop where
  systemManager : ∀ store ∈ trace.stores, Block.systemManager.Contains store.1 →
    store.1 = progress ∨ store.1 = mpfeConfig
  sideband : ∀ store ∈ trace.stores, Block.sideband.Contains store.1 → store.1 = Sideband.flagSet
  untouched : ∀ store ∈ trace.stores, ∀ block ∈ [Block.resetManager, .io96b 0, .io96b 1],
    ¬ block.Contains store.1
  /-- At no time another bit than the progress bit has changed. -/
  progress : ∀ before after, trace = before ++ after → ∀ bit ≠ 0,
    (before.content progress marks).getLsbD bit = marks.getLsbD bit
  /-- The modes are stored in order, first the one of the ports, and then bit 2 and bit 8 of the
  MPFE before the one of the EMIFs. -/
  modes : ∀ configuration, Decodes table configuration →
    modeWrites trace = modeStores configuration flags lite ∧
    trace.content mpfeConfig lite = (if configuration.dualEmif then lite ||| 0x104 else lite) ∧
    trace.content Sideband.flagSet flags = flags ||| (if configuration.dualPort then 0x10 else 0) |||
      (if configuration.dualEmif then 0x20 else 0)
  undecoded : (∀ configuration, ¬ Decodes table configuration) → modeWrites trace = []
  mpfeConfig_iff : (∃ value, (mpfeConfig, value) ∈ trace.stores) ↔
    ∃ configuration, Decodes table configuration ∧ configuration.dualEmif = true
  flagSet_iff : (∃ value, (Sideband.flagSet, value) ∈ trace.stores) ↔
    ∃ configuration, Decodes table configuration ∧
      (configuration.dualPort = true ∨ configuration.dualEmif = true)
  settings : (∀ store ∈ trace.stores, IsRegister store.1) ∨ Interleaved table blob trace
  /-- Before the calibration check the settings of exactly one node are carried out. -/
  calibrating : ∀ found fresh before rest, trace = before ++ rest →
    ReachesCalibration table blob found fresh before →
      Interleaved table blob before ∧ ∀ store ∈ rest.stores, IsRegister store.1

theorem contains_own : ∀ address ∈ [progress, Sideband.flagSet, mpfeConfig],
    (Block.systemManager.Contains address → address = progress ∨ address = mpfeConfig) ∧
      (Block.sideband.Contains address → address = Sideband.flagSet) := by
  decide

theorem not_contains_own : ∀ block ∈ [Block.resetManager, .io96b 0, .io96b 1],
    ∀ address ∈ [progress, Sideband.flagSet, mpfeConfig], ¬ block.Contains address := by
  decide

/-- A bring-up, successful or not, changes only the announced registers of the chip, if the device
tree names none of its registers and nobody else writes the progress register, the configuration of
the MPFE and the flags. The bits beside the progress bit never change. The modes are announced
exactly if the handoff is decoded, as it says. Of the two nodes with settings at most the one that
fits the handoff is used, and always as a whole, as it is on every run that gets to the calibration
check. -/
theorem registers_framed {result : Option (Except Error Ram)}
    (outside : ∀ address, NamedBySettings blob address → ¬ IsRegister address)
    (run : Runs (bringUp mailboxes table blob options).run trace result)
    (marked : trace.Tracks progress marks) (mpfe : trace.Tracks mpfeConfig lite)
    (flag : trace.Tracks Sideband.flagSet flags) : Framed table blob marks lite flags trace := by
  have unnamed : ¬ NamedBySettings blob progress := fun named =>
    outside _ named (isRegister_of_own progress (by simp))
  have modes := modeWrites_of_bringUp outside run flag mpfe
  have stored (store : Nat × Word) (member : store ∈ trace.stores) (block : Block)
      (known : block ∈ [Block.systemManager, .resetManager, .sideband, .io96b 0, .io96b 1])
      (inside : block.Contains store.1) : store.1 ∈ [progress, Sideband.flagSet, mpfeConfig] := by
    have listed : block ∈ Block.all := by
      simp only [List.mem_cons, List.not_mem_nil, or_false] at known
      obtain rfl | rfl | rfl | rfl | rfl := known <;> decide
    obtain own | firewall := stores_of_bringUp outside run store member ⟨block, listed, inside⟩
    · exact own
    · exact absurd inside (not_contains_of_firewall firewall block known)
  refine {
    systemManager := fun store member inside => ?_
    sideband := fun store member inside => ?_
    untouched := fun store member block known inside => ?_
    progress := fun before after split bit other =>
      content_of_marking marked (run.obeys (bringUp_marks unnamed)) split other
    modes := fun configuration decodes => ?_
    undecoded := fun undecoded => ?_
    mpfeConfig_iff := stored_iff (.inr rfl) modes fun _ => lite_mem_modeStores
    flagSet_iff := stored_iff (.inl rfl) modes fun _ => flag_mem_modeStores
    settings := interleaved_of_bringUp run flag mpfe
    calibrating := fun found fresh before rest split reached => ?_ }
  · exact (contains_own _ (stored store member _ (by simp) inside)).1 inside
  · exact (contains_own _ (stored store member _ (by simp) inside)).2 inside
  · have own := stored store member block
      (by simp only [List.mem_cons, List.not_mem_nil, or_false] at known ⊢; tauto) inside
    exact not_contains_own block known _ own inside
  · obtain ⟨other, decodes', writes⟩ | ⟨undecoded, -⟩ := modes
    · obtain rfl := decodes.unique decodes'
      rw [content_of_modeWrites (.inr rfl), content_of_modeWrites (.inl rfl), writes]
      exact ⟨rfl, written_lite, written_flags⟩
    · exact absurd decodes (undecoded configuration)
  · obtain ⟨configuration, decodes, -⟩ | ⟨-, writes⟩ := modes
    · exact absurd decodes (undecoded configuration)
    · exact writes
  · subst split
    exact ⟨reached.interleaved flag.left mpfe.left, advance_registers (reached.rest run)⟩

namespace Rehearsal

/-- A device tree with the settings node for interleaving, which sets two blocks. -/
def interleavedBlocks : DeviceTree.Bytes :=
  ((blocks 8).set 85 110).set 86 0

/-- A handoff table for two ports and two IO96B instances. -/
def dualTable : List Word := [0, 0, 0, 0, 3]

/-- Registers after a warm reset, with some bits set beside those of the modes. -/
def marked : Registers := fun address =>
  if address = mpfeConfig then 0x10
  else if address = Sideband.flagSet then 0x1
  else afterWarmReset 0x12345678 address

theorem interleavedBlocks_outside {address : Nat}
    (named : NamedBySettings interleavedBlocks address) : ¬ IsRegister address := by
  obtain ⟨node, member, settings, yields, setting, inside, rfl⟩ := named
  have result := settings_of_yields yields
  simp only [List.mem_cons, List.not_mem_nil, or_false] at member
  rcases member with rfl | rfl
  · have two : ((Settings.ofBlob interleavedBlocks interleavingOn).run (serve id)
        (afterWarmReset 0)).1 = some (.ok [⟨0x1000, 4, 1, 3⟩, ⟨0x2000, 8, 0xA0, 0xF0⟩]) := by
      decide +kernel
    cases two.symm.trans result
    revert setting
    decide
  · have none : ((Settings.ofBlob interleavedBlocks interleavingOff).run (serve id)
        (afterWarmReset 0)).1 = some (.error (.nodeNotFound interleavingOff)) := by decide +kernel
    cases none.symm.trans result

end Rehearsal

/-- Both modes are announced and both blocks are set. The bring-up of this board fails later, since
the device tree describes no memory. -/
theorem registers_framed_dual :
    let trace := (bringUp 2 Rehearsal.dualTable Rehearsal.interleavedBlocks {}).run.trace
      (Rehearsal.serve id) Rehearsal.marked
    Framed Rehearsal.dualTable Rehearsal.interleavedBlocks 0x12345678 0x10 0x1 trace ∧
      trace.stores = [(progress, 0x12345679), (Sideband.flagSet, 0x11), (mpfeConfig, 0x14),
        (mpfeConfig, 0x114), (Sideband.flagSet, 0x31), (0x1004, 1), (0x2008, 0xA0)] := by
  intro trace
  have run := Runs.of_run (Rehearsal.serve id)
    (bringUp 2 Rehearsal.dualTable Rehearsal.interleavedBlocks {}).run Rehearsal.marked
  have marks : trace.Tracks progress 0x12345678 := Rehearsal.tracks _ progress
  have lite : trace.Tracks mpfeConfig 0x10 := Rehearsal.tracks _ mpfeConfig
  have flags : trace.Tracks Sideband.flagSet 0x1 := Rehearsal.tracks _ Sideband.flagSet
  have framed := registers_framed (fun _ => Rehearsal.interleavedBlocks_outside) run marks lite flags
  exact ⟨framed, by decide +kernel⟩

end BringUp.Dram
