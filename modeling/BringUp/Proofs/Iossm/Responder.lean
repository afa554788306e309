import Mathlib.Logic.Function.Iterate
import BringUp.Iossm.Mailbox
import BringUp.Proofs.Program.Polling

/-! An IOSSM behind its mailbox registers. A store of a command word makes it clear the command
register at some tick and write an answer at some tick, both within the timeout of the mailbox. -/
namespace BringUp.Iossm

/-- The reaction to a command, within the timeout in milliseconds as the mailbox measures it. -/
structure Reaction (timeout : Nat) where
  /-- Ticks until the command register is cleared. -/
  freed : Nat
  /-- Ticks until the answer is written. -/
  answered : Nat
  answer : Answer
  freedInTime : freed ≤ intervals timeout
  answeredInTime : answered ≤ intervals timeout
  ready : Io96b.AnswerStatus.ready.read answer.status = true

/-- The reactions to all commands. A reaction may depend on the number of earlier commands, the
command word and the registers. -/
abbrev Reactions (timeout : Nat) := Nat → Word → (Nat → Word) → Reaction timeout

structure Responder where
  registers : Nat → Word
  /-- Ticks until the command register is cleared. -/
  freeing : Option Nat := none
  /-- Ticks until the answer is written, and the answer. -/
  answering : Option (Nat × Answer) := none
  /-- The commands so far with their answers. -/
  served : List (Word × Answer) := []

/-- The registers with the answer: the data words lie in descending order below the status. -/
def Answer.write (unit : Nat) (answer : Answer) (registers : Nat → Word) : Nat → Word :=
  Function.update (answer.data.toList.zipIdx.foldl (fun registers word =>
    Function.update registers (Io96b.base unit + 0x458 - 4 * word.2) word.1) registers)
      (Io96b.base unit + 0x45C) answer.status

namespace Responder

variable {timeout : Nat}

/-- Carries out what is due now. -/
def settle (unit : Nat) (responder : Responder) : Responder :=
  let freed := if responder.freeing = some 0 then
    Function.update responder.registers (Io96b.base unit + 0x43C) 0 else responder.registers
  { responder with
    registers := responder.answering.elim freed fun pending =>
      if pending.1 = 0 then pending.2.write unit freed else freed
    freeing := responder.freeing.filter (· != 0)
    answering := responder.answering.filter (·.1 != 0) }

/-- One polling interval passes. -/
def tick (unit : Nat) (responder : Responder) : Responder :=
  settle unit { responder with
    freeing := responder.freeing.map (· - 1)
    answering := responder.answering.map fun pending => (pending.1 - 1, pending.2) }

/-- A store to the command register makes the IOSSM react, and takes the place of what is still
pending. (A mailbox stores a command only when nothing is.) -/
def store (unit : Nat) (reactions : Reactions timeout) (responder : Responder) (address : Nat)
    (value : Word) : Responder :=
  let registers := Function.update responder.registers address value
  if address = Io96b.base unit + 0x43C then
    let reaction := reactions responder.served.length value registers
    settle unit {
      registers := registers
      freeing := some reaction.freed
      answering := some (reaction.answered, reaction.answer)
      served := responder.served ++ [(value, reaction.answer)] }
  else { responder with registers := registers }

/-- Answers where there is nothing. -/
def blank : (op : Op) → op.Answer
  | .load _ => 0
  | .store _ _ => ()
  | .loadCell _ => 0
  | .storeCell _ _ => ()
  | .pause => ()
  | .log _ _ => ()
  | .status _ => 0
  | .request _ _ => .error .notReady
  | .probe _ _ => 0
  | .getVariable _ => none
  | .setVariable _ _ => .ok ()
  | .manager _ => .ok ()

/-- Answers the questions of the mailbox. There is nothing else behind its registers. -/
def handle (unit : Nat) (reactions : Reactions timeout) :
    (op : Op) → Responder → op.Answer × Responder
  | .load address, responder => (responder.registers address, responder)
  | .store address value, responder => ((), responder.store unit reactions address value)
  | .pause, responder => ((), responder.tick unit)
  | op, responder => (blank op, responder)

/-- The ready bit of the answer status. -/
def readyBit (unit : Nat) (registers : Nat → Word) : Bool :=
  Io96b.AnswerStatus.ready.read (registers (Io96b.answerStatus unit))

/-- The answer stands in the registers. -/
structure Shows (unit : Nat) (answer : Answer) (registers : Nat → Word) : Prop where
  status : registers (Io96b.answerStatus unit) = answer.status
  data : ∀ index : Fin 3, registers (Io96b.answerData unit index) = answer.data.get index

/-- The registers agree, except perhaps in the command register. -/
def Alike (unit : Nat) (registers registers' : Nat → Word) : Prop :=
  ∀ address, address ≠ Io96b.commandWord unit → registers address = registers' address

/-- The command register is free, or it will be after at most `limit` ticks. -/
inductive CommandFrees (unit limit : Nat) (responder : Responder) : Prop
  | free (nothing : responder.freeing = none)
      (zero : responder.registers (Io96b.commandWord unit) = 0)
  | pending {left : Nat} (freeing : responder.freeing = some (left + 1)) (inTime : left + 1 ≤ limit)
      (held : responder.registers (Io96b.commandWord unit) ≠ 0)

/-- No answer is on its way, and the registers have not changed since `before`. -/
structure Quiet (unit : Nat) (before : Nat → Word) (responder : Responder) : Prop where
  nothing : responder.answering = none
  alike : Alike unit responder.registers before

/-- The answer is on its way, and will be there after `left` more ticks and one. The registers have
not changed since `before`. -/
structure Answering (unit : Nat) (before : Nat → Word) (answer : Answer) (left : Nat)
    (responder : Responder) : Prop where
  pending : responder.answering = some (left + 1, answer)
  alike : Alike unit responder.registers before

variable {unit limit left : Nat} {responder : Responder} {answer : Answer}
  {registers registers' registers'' before : Nat → Word}

section Registers

theorem answerStatus_ne_commandWord : Io96b.answerStatus unit ≠ Io96b.commandWord unit := by
  simp [Io96b.answerStatus, Io96b.commandWord]

theorem answerData_ne_commandWord (index : Nat) (h : index < 3) :
    Io96b.answerData unit index ≠ Io96b.commandWord unit := by
  simp only [Io96b.answerData, Io96b.commandWord]
  omega

theorem write_eq : answer.write unit registers =
    Function.update (Function.update (Function.update (Function.update registers
      (Io96b.base unit + 0x458) (answer.data.get 0)) (Io96b.base unit + 0x454) (answer.data.get 1))
        (Io96b.base unit + 0x450) (answer.data.get 2)) (Io96b.base unit + 0x45C) answer.status := by
  rw [Answer.write, Answer.toList_data]
  rfl

theorem write_command :
    answer.write unit registers (Io96b.commandWord unit) = registers (Io96b.commandWord unit) := by
  simp [write_eq, Io96b.commandWord]

theorem write_status :
    answer.write unit registers (Io96b.answerStatus unit) = answer.status := by
  simp [write_eq, Io96b.answerStatus]

theorem write_data (index : Fin 3) :
    answer.write unit registers (Io96b.answerData unit index) = answer.data.get index := by
  have cases : index = 0 ∨ index = 1 ∨ index = 2 := by omega
  rcases cases with rfl | rfl | rfl
  · simp [write_eq, Io96b.answerData]
  · simp [write_eq, Io96b.answerData]
  · simp [write_eq, Io96b.answerData]

theorem readyBit_write :
    readyBit unit (answer.write unit registers) = Io96b.AnswerStatus.ready.read answer.status := by
  rw [readyBit, write_status]

theorem shows_write : Shows unit answer (answer.write unit registers) :=
  ⟨write_status, write_data⟩

theorem Shows.words (h : Shows unit answer registers) :
    (⟨registers (Io96b.answerStatus unit), #v[registers (Io96b.answerData unit 0),
      registers (Io96b.answerData unit 1), registers (Io96b.answerData unit 2)]⟩ : Answer) =
        answer := by
  have data : #v[registers (Io96b.answerData unit 0), registers (Io96b.answerData unit 1),
      registers (Io96b.answerData unit 2)] = answer.data := by
    apply Vector.toList_inj.1
    rw [answer.toList_data, ← h.data 0, ← h.data 1, ← h.data 2]
    rfl
  rw [h.status, data]

theorem Alike.refl : Alike unit registers registers := fun _ _ => rfl

theorem Alike.trans (first : Alike unit registers registers')
    (second : Alike unit registers' registers'') : Alike unit registers registers'' :=
  fun address h => (first address h).trans (second address h)

theorem Alike.answerStatus (h : Alike unit registers registers') :
    registers (Io96b.answerStatus unit) = registers' (Io96b.answerStatus unit) :=
  h _ answerStatus_ne_commandWord

theorem Alike.readyBit (h : Alike unit registers registers') :
    readyBit unit registers = readyBit unit registers' :=
  congrArg Io96b.AnswerStatus.ready.read h.answerStatus

theorem alike_update_command {value : Word} :
    Alike unit (Function.update registers (Io96b.commandWord unit) value) registers :=
  fun _ h => Function.update_of_ne h _ _

theorem Alike.update (h : Alike unit registers registers') (address : Nat) (value : Word) :
    Alike unit (Function.update registers address value)
      (Function.update registers' address value) := by
  intro other distinct
  by_cases same : other = address
  · subst same
    rw [Function.update_self, Function.update_self]
  · rw [Function.update_of_ne same, Function.update_of_ne same]
    exact h other distinct

theorem Alike.update_command (h : Alike unit registers registers') (value : Word) :
    Function.update registers (Io96b.commandWord unit) value =
      Function.update registers' (Io96b.commandWord unit) value := by
  funext address
  by_cases same : address = Io96b.commandWord unit
  · subst same
    rw [Function.update_self, Function.update_self]
  · rw [Function.update_of_ne same, Function.update_of_ne same]
    exact h address same

theorem Alike.write (h : Alike unit registers registers') :
    Alike unit (answer.write unit registers) (answer.write unit registers') := by
  rw [write_eq, write_eq]
  exact (((h.update _ _).update _ _).update _ _).update _ _

end Registers

theorem store_of_ne {reactions : Reactions timeout} {address : Nat} {value : Word}
    (h : address ≠ Io96b.commandWord unit) : responder.store unit reactions address value =
      { responder with registers := Function.update responder.registers address value } :=
  if_neg h

section Settle

/-- The command register after what is due. An answer does not reach it. -/
theorem settle_command : (responder.settle unit).registers (Io96b.commandWord unit) =
    if responder.freeing = some 0 then 0 else responder.registers (Io96b.commandWord unit) := by
  have freed : (if responder.freeing = some 0 then
      Function.update responder.registers (Io96b.base unit + 0x43C) 0 else responder.registers)
        (Io96b.commandWord unit) =
      if responder.freeing = some 0 then 0 else responder.registers (Io96b.commandWord unit) := by
    split
    · exact Function.update_self _ _ _
    · rfl
  simp only [settle]
  cases responder.answering with
  | none => exact freed
  | some pending =>
    simp only [Option.elim_some]
    split
    · rw [write_command]
      exact freed
    · exact freed

/-- The other registers after what is due: an answer is written if it is due. -/
theorem settle_alike (unit : Nat) (responder : Responder) :
    Alike unit (responder.settle unit).registers (responder.answering.elim responder.registers
      fun pending => if pending.1 = 0 then pending.2.write unit responder.registers
        else responder.registers) := by
  have freed : Alike unit (if responder.freeing = some 0 then
      Function.update responder.registers (Io96b.base unit + 0x43C) 0 else responder.registers)
        responder.registers := by
    split
    · exact alike_update_command
    · exact .refl
  simp only [settle]
  cases responder.answering with
  | none => exact freed
  | some pending =>
    simp only [Option.elim_some]
    split
    · exact freed.write
    · exact freed

/-- The command register is free after what is due, or in time. -/
theorem settle_frees {ticks : Nat} (pending : responder.freeing = some ticks)
    (inTime : ticks ≤ limit) (held : responder.registers (Io96b.commandWord unit) ≠ 0) :
    CommandFrees unit limit (responder.settle unit) := by
  cases ticks with
  | zero =>
    refine .free ?_ ?_
    · simp [settle, pending]
    · rw [settle_command, if_pos pending]
  | succ left =>
    have waits : responder.freeing ≠ some 0 := by simp [pending]
    refine .pending ?_ inTime ?_
    · simp [settle, pending]
    · rw [settle_command, if_neg waits]
      exact held

theorem settle_free (nothing : responder.freeing = none)
    (zero : responder.registers (Io96b.commandWord unit) = 0) :
    CommandFrees unit limit (responder.settle unit) := by
  refine .free ?_ ?_
  · simp [settle, nothing]
  · rw [settle_command, nothing, if_neg (by simp)]
    exact zero

theorem settle_quiet (h : Quiet unit before responder) :
    Quiet unit before (responder.settle unit) := by
  have same := settle_alike unit responder
  rw [h.nothing] at same
  exact ⟨by simp [settle, h.nothing], same.trans h.alike⟩

theorem settle_answered (due : responder.answering = some (0, answer))
    (alike : Alike unit responder.registers before) :
    Quiet unit (answer.write unit before) (responder.settle unit) := by
  have written := settle_alike unit responder
  rw [due] at written
  exact ⟨by simp [settle, due], written.trans alike.write⟩

theorem settle_answering (pending : responder.answering = some (left + 1, answer))
    (alike : Alike unit responder.registers before) :
    Answering unit before answer left (responder.settle unit) := by
  have same := settle_alike unit responder
  rw [pending] at same
  exact ⟨by simp [settle, pending], same.trans alike⟩

end Settle

section Tick

theorem tick_frees (h : CommandFrees unit limit responder) :
    CommandFrees unit (limit - 1) (responder.tick unit) := by
  cases h with
  | free nothing zero =>
    apply settle_free
    · simp [nothing]
    · exact zero
  | @pending left freeing inTime held =>
    have closer : responder.freeing.map (· - 1) = some left := by simp [freeing]
    exact settle_frees closer (by omega) held

theorem tick_quiet (h : Quiet unit before responder) : Quiet unit before (responder.tick unit) := by
  apply settle_quiet
  exact ⟨by simp [h.nothing], h.alike⟩

theorem tick_answering (h : Answering unit before answer (left + 1) responder) :
    Answering unit before answer left (responder.tick unit) := by
  apply settle_answering
  · simp [h.pending]
  · exact h.alike

theorem tick_answered (h : Answering unit before answer 0 responder) :
    Quiet unit (answer.write unit before) (responder.tick unit) := by
  apply settle_answered
  · simp [h.pending]
  · exact h.alike

end Tick

section Waiting

theorem CommandFrees.mono {limit' : Nat} (h : CommandFrees unit limit responder)
    (le : limit ≤ limit') : CommandFrees unit limit' responder := by
  cases h with
  | free nothing zero => exact .free nothing zero
  | pending freeing inTime held => exact .pending freeing (Nat.le_trans inTime le) held

theorem CommandFrees.ticks (h : CommandFrees unit limit responder) :
    ∃ ticks ≤ limit, ((tick unit)^[ticks] responder).registers (Io96b.commandWord unit) = 0 := by
  induction limit generalizing responder with
  | zero =>
    cases h with
    | free _ zero => exact ⟨0, Nat.le_refl 0, zero⟩
    | pending _ inTime _ => omega
  | succ limit ih =>
    have ⟨ticks, inTime, zero⟩ := ih (tick_frees h)
    exact ⟨ticks + 1, Nat.succ_le_succ inTime, zero⟩

/-- Waiting for the command register is successful. -/
theorem settles_free (frees : CommandFrees unit limit responder)
    (quiet : Quiet unit before responder) :
    ∃ later, Settles (fun state : Responder => state.registers (Io96b.commandWord unit) == 0)
        (tick unit) limit responder later ∧
      Quiet unit before later ∧ later.served = responder.served := by
  induction limit generalizing responder with
  | zero =>
    cases frees with
    | free nothing zero => exact ⟨responder, .now (by simp [zero]), quiet, rfl⟩
    | pending _ inTime _ => omega
  | succ limit ih =>
    cases frees with
    | free nothing zero => exact ⟨responder, .now (by simp [zero]), quiet, rfl⟩
    | pending freeing inTime held =>
      have ⟨later, settles, rest⟩ := ih (tick_frees (.pending freeing inTime held))
        (tick_quiet quiet)
      exact ⟨later, .later (by simpa using held) settles, rest⟩

/-- Waiting for an answer that comes in time is successful, whenever the command register is
freed. -/
theorem settles_answered {pauses : Nat} (frees : CommandFrees unit limit responder)
    (answering : Answering unit before answer left responder) (inTime : left + 1 ≤ pauses)
    (unready : readyBit unit before = false)
    (ready : Io96b.AnswerStatus.ready.read answer.status = true) :
    ∃ later, Settles (fun state : Responder => readyBit unit state.registers) (tick unit) pauses
        responder later ∧
      Quiet unit (answer.write unit before) later ∧ CommandFrees unit limit later ∧
      later.served = responder.served := by
  induction left generalizing responder pauses with
  | zero =>
    obtain ⟨pauses, rfl⟩ : ∃ rest, pauses = rest + 1 := ⟨pauses - 1, by omega⟩
    have answered := tick_answered answering
    refine ⟨responder.tick unit, .later (answering.alike.readyBit.trans unready) (.now ?_),
      answered, (tick_frees frees).mono (Nat.sub_le _ _), rfl⟩
    rw [answered.alike.readyBit, readyBit_write]
    exact ready
  | succ left ih =>
    obtain ⟨pauses, rfl⟩ : ∃ rest, pauses = rest + 1 := ⟨pauses - 1, by omega⟩
    have ⟨later, settles, rest⟩ := ih ((tick_frees frees).mono (Nat.sub_le _ _))
      (tick_answering answering) (Nat.le_of_succ_le_succ inTime)
    exact ⟨later, .later (answering.alike.readyBit.trans unready) settles, rest⟩

/-- A command that was stored just now is answered within the timeout, and the command register is
freed within the timeout. -/
theorem settles_reaction {reaction : Reaction timeout}
    (freeing : responder.freeing = some reaction.freed)
    (answering : responder.answering = some (reaction.answered, reaction.answer))
    (held : responder.registers (Io96b.commandWord unit) ≠ 0)
    (unready : readyBit unit responder.registers = false) :
    ∃ later, Settles (fun state : Responder => readyBit unit state.registers) (tick unit)
        (intervals timeout) (responder.settle unit) later ∧
      Quiet unit (reaction.answer.write unit responder.registers) later ∧
      CommandFrees unit (intervals timeout) later ∧ later.served = responder.served := by
  have frees : CommandFrees unit (intervals timeout) (responder.settle unit) :=
    settle_frees freeing reaction.freedInTime held
  have inTime := reaction.answeredInTime
  cases ticks : reaction.answered with
  | zero =>
    rw [ticks] at answering
    have answered : Quiet unit (reaction.answer.write unit responder.registers)
        (responder.settle unit) := settle_answered answering .refl
    refine ⟨responder.settle unit, .now ?_, answered, frees, rfl⟩
    rw [answered.alike.readyBit, readyBit_write]
    exact reaction.ready
  | succ left =>
    rw [ticks] at answering inTime
    exact settles_answered frees (settle_answering answering .refl) inTime unready reaction.ready

end Waiting

end Responder
end BringUp.Iossm
