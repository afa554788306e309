import Mathlib.Data.List.Pairwise
import Mathlib.Data.Prod.Basic
import BringUp.Proofs.Dram.Settings
import BringUp.Proofs.Program.ByteMemory

/-! What the settings of a node mean for the registers. Main statement: on plain memory, each bit is
in the end what the last setting that covers it says, and stays as it was if there is none. -/
namespace BringUp.DeviceTree

open ByteMemory (serve Aligned)

variable {answers : (op : Op) → op.Answer} {memory : ByteMemory} {settings : List Setting}
  {setting : Setting} {register bit : Nat}

/-- The setting is about this bit of the register. -/
def Setting.Covers (register bit : Nat) (setting : Setting) : Prop :=
  setting.address = register ∧ setting.mask.getLsbD bit = true

/-- Two settings cover no bit in common. -/
def Setting.Apart (first second : Setting) : Prop :=
  first.address = second.address → first.mask &&& second.mask = 0

instance : Std.Symm Setting.Apart where
  symm _ _ apart same := by
    rw [BitVec.and_comm]
    exact apart same.symm

/-- The memory after a setting was carried out. -/
def Setting.carry (memory : ByteMemory) (setting : Setting) : ByteMemory :=
  memory.put setting.address (setting.change (memory.word setting.address))

/-- The memory after settings were carried out one after the other. -/
def Settings.carry (memory : ByteMemory) (settings : List Setting) : ByteMemory :=
  settings.foldl Setting.carry memory

/-- Each bit of a register is what the last of the settings that cover it says, and what it was
before if there is none. -/
structure Settings.Mean (settings : List Setting) (before after : ByteMemory) : Prop where
  covered : ∀ register, Aligned register → ∀ bit earlier (setting : Setting) later,
    settings = earlier ++ setting :: later → setting.Covers register bit →
      (∀ other ∈ later, ¬ other.Covers register bit) →
        (after.word register).getLsbD bit = setting.value.getLsbD bit
  uncovered : ∀ register, Aligned register → ∀ bit,
    (∀ setting ∈ settings, ¬ setting.Covers register bit) →
      (after.word register).getLsbD bit = (before.word register).getLsbD bit

section Change

theorem Setting.getLsbD_change (word : Word) : (setting.change word).getLsbD bit =
    if setting.mask.getLsbD bit = true then setting.value.getLsbD bit else word.getLsbD bit := by
  by_cases inside : bit < 32
  · simp only [Setting.change, BitVec.getLsbD_or, BitVec.getLsbD_and, BitVec.getLsbD_not, inside,
      decide_true, Bool.true_and]
    cases setting.mask.getLsbD bit <;> simp
  · have beyond (word : Word) : word.getLsbD bit = false := BitVec.getLsbD_of_ge _ _ (by omega)
    simp [beyond]

theorem Setting.carry_covered (covers : setting.Covers register bit) :
    ((setting.carry memory).word register).getLsbD bit = setting.value.getLsbD bit := by
  obtain ⟨rfl, masked⟩ := covers
  rw [carry, ByteMemory.word_put, getLsbD_change, if_pos masked]

theorem Setting.carry_uncovered (aligned : Aligned setting.address) (known : Aligned register)
    (spared : ¬ setting.Covers register bit) :
    ((setting.carry memory).word register).getLsbD bit = (memory.word register).getLsbD bit := by
  by_cases same : setting.address = register
  · subst same
    have unmasked : ¬ setting.mask.getLsbD bit = true := fun masked => spared ⟨rfl, masked⟩
    rw [carry, ByteMemory.word_put, getLsbD_change, if_neg unmasked]
  · rw [carry, ByteMemory.word_put_of_ne aligned known same]

end Change

namespace Settings

theorem exists_last (settings : List Setting) (register bit : Nat) :
    (∀ setting ∈ settings, ¬ setting.Covers register bit) ∨
    ∃ earlier setting later, settings = earlier ++ setting :: later ∧
      setting.Covers register bit ∧ ∀ other ∈ later, ¬ other.Covers register bit := by
  induction settings with
  | nil => exact .inl fun _ absent => (nomatch absent)
  | cons setting rest ih =>
    rcases ih with none | ⟨earlier, last, later, rfl, covers, none⟩
    · by_cases covers : setting.Covers register bit
      · exact .inr ⟨[], setting, rest, rfl, covers, none⟩
      · exact .inl (List.forall_mem_cons.2 ⟨covers, none⟩)
    · exact .inr ⟨setting :: earlier, last, later, rfl, covers, none⟩

theorem carry_uncovered (aligned : ∀ setting ∈ settings, Aligned setting.address)
    (known : Aligned register) (spared : ∀ setting ∈ settings, ¬ setting.Covers register bit) :
    ((carry memory settings).word register).getLsbD bit = (memory.word register).getLsbD bit := by
  induction settings generalizing memory with
  | nil => rfl
  | cons setting rest ih =>
    have ⟨here, later⟩ := List.forall_mem_cons.1 aligned
    have ⟨spared_here, spared_later⟩ := List.forall_mem_cons.1 spared
    change ((carry (setting.carry memory) rest).word register).getLsbD bit = _
    rw [ih later spared_later, Setting.carry_uncovered here known spared_here]

theorem carry_append {first second : List Setting} :
    carry memory (first ++ second) = carry (carry memory first) second :=
  List.foldl_append

theorem carry_mean (aligned : ∀ setting ∈ settings, Aligned setting.address) :
    Mean settings memory (carry memory settings) where
  covered register known bit earlier setting later split covers none := by
    subst split
    have ⟨_, rest⟩ := List.forall_mem_append.1 aligned
    have ⟨_, later_aligned⟩ := List.forall_mem_cons.1 rest
    rw [carry_append]
    change ((carry (setting.carry (carry memory earlier)) later).word register).getLsbD bit = _
    rw [carry_uncovered later_aligned known none, Setting.carry_covered covers]
  uncovered register known bit spared := carry_uncovered aligned known spared

theorem Mean.unique {before after after' : ByteMemory} (mean : Mean settings before after)
    (mean' : Mean settings before after') : after = after' := by
  apply ByteMemory.eq_of_words
  intro register known
  apply BitVec.eq_of_getLsbD_eq
  intro bit _
  rcases exists_last settings register bit with none | ⟨earlier, setting, later, split, covers, none⟩
  · rw [mean.uncovered register known bit none, mean'.uncovered register known bit none]
  · rw [mean.covered register known bit earlier setting later split covers none,
      mean'.covered register known bit earlier setting later split covers none]

/-- Where the settings mean something already, nothing has to be changed for them to mean it. -/
theorem Mean.again {before after : ByteMemory} (mean : Mean settings before after) :
    Mean settings after after where
  covered := mean.covered
  uncovered _ _ _ _ := rfl

theorem eq_of_covers (apart : settings.Pairwise Setting.Apart) {first second : Setting}
    (here : first ∈ settings) (there : second ∈ settings) (covers : first.Covers register bit)
    (covers' : second.Covers register bit) : first = second := by
  by_contra different
  have disjoint := apart.forall here there different (covers.1.trans covers'.1.symm)
  have bits := congrArg (fun word : Word => word.getLsbD bit) disjoint
  rw [BitVec.getLsbD_and, covers.2, covers'.2] at bits
  simp at bits

/-- Settings that are apart mean the same in each order. -/
theorem Mean.perm {before after : ByteMemory} {order : List Setting}
    (apart : settings.Pairwise Setting.Apart) (reordered : order.Perm settings)
    (mean : Mean settings before after) : Mean order before after where
  covered register known bit earlier setting later split covers none := by
    subst split
    have member : setting ∈ settings := reordered.mem_iff.1 (by simp)
    rcases exists_last settings register bit with none' | ⟨earlier', last, later', split', last_covers, none'⟩
    · exact absurd covers (none' setting member)
    · have last_member : last ∈ settings := by simp [split']
      rw [eq_of_covers apart member last_member covers last_covers]
      exact mean.covered register known bit earlier' last later' split' last_covers none'
  uncovered register known bit spared :=
    mean.uncovered register known bit fun setting member => spared setting (reordered.mem_iff.2 member)

end Settings

section Runs

variable {data : Bytes} {name : String} {count : Nat} {trace : Trace} {after : ByteMemory}

theorem run_forM_apply (settings : List Setting) (memory : ByteMemory) :
    (settings.forM Setting.apply).run (serve answers) memory =
      (some (), Settings.carry memory settings) := by
  induction settings generalizing memory with
  | nil => rfl
  | cons setting rest ih =>
    have first : setting.apply.run (serve answers) memory = (some (), setting.carry memory) := rfl
    change (setting.apply.bind fun _ => rest.forM Setting.apply).run (serve answers) memory = _
    rw [Program.run_bind, first]
    exact ih (setting.carry memory)

theorem stores_forM_apply (run : Runs (settings.forM Setting.apply) trace (some ())) :
    trace.stores.map Prod.fst = settings.map Setting.address := by
  induction settings generalizing trace with
  | nil =>
    rw [(Runs.done_iff.1 run).1]
    rfl
  | cons setting rest ih =>
    obtain ⟨here, later, _, rfl, applied, others⟩ := Runs.bind_some_iff.1 run
    obtain ⟨_, _, _, rfl, updated, told⟩ := Runs.bind_some_iff.1 applied
    obtain ⟨word, rfl, -⟩ := Runs.update_iff.1 updated
    rw [Trace.stores_append, List.map_append, ih others, (Runs.log_iff.1 told).1]
    rfl

/-- A node is carried out if it is accepted, and then by its settings one after the other. -/
theorem apply_accepted
    (accepted : (Settings.apply data name).run (serve answers) memory = (some (.ok count), after)) :
    ∃ settings : List Setting, Settings.Listed data name settings ∧
      Settings.ofBlob data name = .done (.ok settings) ∧ count = settings.length ∧
      Settings.apply data name =
        (settings.forM Setting.apply).bind fun _ => .done (.ok settings.length) := by
  rw [Settings.apply_eq] at accepted ⊢
  obtain ⟨settings, listed, collected, visits⟩ | ⟨stop, -, -, visits⟩ :=
    Settings.forEach_cases data name
  · rw [visits, Program.run_bind, run_forM_apply] at accepted
    cases accepted
    exact ⟨settings, listed, collected, rfl, visits _⟩
  · have run := Runs.of_run (serve answers) (Settings.forEach data name Setting.apply) memory
    rw [accepted, visits] at run
    obtain ⟨_, _, _, -, -, ended⟩ := Runs.bind_some_iff.1 run
    cases (Runs.done_iff.1 ended).2

/-- What carrying out settings does to a memory that holds `memory` before and `after` after. -/
structure Settings.Effect (answers : (op : Op) → op.Answer) (settings : List Setting)
    (memory after : ByteMemory) : Prop where
  mean : Mean settings memory after
  /-- Carrying the settings out once more changes nothing. -/
  again : (settings.forM Setting.apply).run (serve answers) after = (some (), after)
  /-- Two settings that are apart can be exchanged. -/
  exchanged : ∀ front first second rest, settings = front ++ first :: second :: rest →
    first.Apart second → ((front ++ second :: first :: rest).forM Setting.apply).run
      (serve answers) memory = (some (), after)
  /-- If all of them are apart, their order does not matter. -/
  reordered : ∀ order : List Setting, order.Perm settings → settings.Pairwise Setting.Apart →
    (order.forM Setting.apply).run (serve answers) memory = (some (), after)

theorem Settings.carry_perm {order : List Setting} (reordered : order.Perm settings)
    (apart : settings.Pairwise Setting.Apart)
    (aligned : ∀ setting ∈ settings, Aligned setting.address) :
    carry memory order = carry memory settings := by
  have order_aligned : ∀ setting ∈ order, Aligned setting.address := fun setting member =>
    aligned setting (reordered.mem_iff.1 member)
  exact (carry_mean order_aligned).unique ((carry_mean aligned).perm apart reordered)

theorem Settings.effect_of_aligned (aligned : ∀ setting ∈ settings, Aligned setting.address) :
    Effect answers settings memory (carry memory settings) where
  mean := carry_mean aligned
  again := by
    rw [run_forM_apply, (carry_mean aligned).unique (carry_mean aligned).again]
  exchanged front first second rest split apart := by
    subst split
    have ⟨_, pair⟩ := List.forall_mem_append.1 aligned
    have two : ∀ setting ∈ [first, second], Aligned setting.address := fun setting member =>
      pair setting (by simp at member ⊢; tauto)
    have swapped : carry (carry memory front) [second, first] =
        carry (carry memory front) [first, second] :=
      carry_perm (List.Perm.swap first second []) (List.pairwise_pair.2 apart) two
    have cut (one other : Setting) : front ++ one :: other :: rest = front ++ ([one, other] ++ rest) :=
      rfl
    rw [run_forM_apply, cut, cut, carry_append, carry_append, carry_append, carry_append, swapped]
  reordered order perm apart := by rw [run_forM_apply, carry_perm perm apart aligned]

end Runs

/-- A settings node that is accepted stores once for each of its settings, in document order, and
nothing else. If its registers are aligned, each bit is in the end what the last setting says that
covers it, and the others stay. Carrying the node out once more changes nothing, and settings that
are apart may come in any order. -/
theorem settings_meaning {data : Bytes} {name : String} {count : Nat} {after : ByteMemory}
    (accepted : (Settings.apply data name).run (serve answers) memory = (some (.ok count), after)) :
    ∃ settings : List Setting, Settings.Listed data name settings ∧
      Settings.ofBlob data name = .done (.ok settings) ∧ count = settings.length ∧
      (Trace.stores ((Settings.apply data name).trace (serve answers) memory)).map Prod.fst =
        settings.map Setting.address ∧
      ((∀ setting ∈ settings, Aligned setting.address) →
        Settings.Effect answers settings memory after ∧
        (Settings.apply data name).run (serve answers) after = (some (.ok count), after)) := by
  obtain ⟨settings, listed, collected, rfl, visits⟩ := apply_accepted accepted
  have carried (memory : ByteMemory) : (Settings.apply data name).run (serve answers) memory =
      (some (.ok settings.length), Settings.carry memory settings) := by
    rw [visits, Program.run_bind, run_forM_apply]
    rfl
  obtain rfl : Settings.carry memory settings = after :=
    (Prod.mk.inj ((carried memory).symm.trans accepted)).2
  refine ⟨settings, listed, collected, rfl, ?_, fun aligned => ?_⟩
  · have run := Runs.of_run (serve answers) (Settings.apply data name) memory
    rw [accepted, visits] at run
    obtain ⟨_, _, _, same, applied, ended⟩ := Runs.bind_some_iff.1 run
    rw [visits, same, (Runs.done_iff.1 ended).1, List.append_nil]
    exact stores_forM_apply applied
  · have effect : Settings.Effect answers settings memory (Settings.carry memory settings) :=
      Settings.effect_of_aligned aligned
    refine ⟨effect, ?_⟩
    rw [visits, Program.run_bind, effect.again]
    rfl

/-- On a memory full of ones, two registers are set: bit 0 stays and bit 1 is cleared in the first
one, and of the bits 4 to 7 in the second one two are cleared. -/
theorem settings_meaning_two_blocks :
    let node := Settings.apply (Dram.Rehearsal.blocks 8) Dram.interleavingOff
    let answers : (op : Op) → op.Answer := fun op => (Dram.Rehearsal.serve id op fun _ => 0).1
    let after := (node.run (serve answers) fun _ => 0xFF).2
    (node.run (serve answers) fun _ => 0xFF).1 = some (.ok 2) ∧
      Settings.Effect answers [⟨0x1000, 4, 1, 3⟩, ⟨0x2000, 8, 0xA0, 0xF0⟩] (fun _ => 0xFF) after ∧
      node.run (serve answers) after = (some (.ok 2), after) ∧
      after.word 0x1004 = 0xFFFFFFFD ∧ after.word 0x2008 = 0xFFFFFFAF := by
  intro node answers after
  have value : (node.run (serve answers) fun _ => 0xFF).1 = some (.ok 2) := by decide +kernel
  have accepted : node.run (serve answers) (fun _ => 0xFF) = (some (.ok 2), after) :=
    Prod.fst_eq_iff.1 value
  have ⟨settings, _, collected, _, _, meaning⟩ := settings_meaning accepted
  have known : ((Settings.ofBlob (Dram.Rehearsal.blocks 8) Dram.interleavingOff).run
      (Dram.Rehearsal.serve id) fun _ => 0).1 =
        some (.ok [⟨0x1000, 4, 1, 3⟩, ⟨0x2000, 8, 0xA0, 0xF0⟩]) := by decide +kernel
  rw [collected] at known
  cases known
  have ⟨effect, again⟩ := meaning (by decide)
  exact ⟨value, effect, again, by decide +kernel, by decide +kernel⟩

end BringUp.DeviceTree
