import Mathlib.Data.List.Induction
import BringUp.Proofs.Program.Content
import BringUp.Proofs.Program.History

/-! Registers that are only modified, by a read and a store of a related word. Main statement: what
such a register holds at any two moments of a run is related. -/
namespace BringUp

/-- What may be asked after the past: a store to the register follows a read of it, and changes the
word that was read as is admitted. -/
def Modifying (register : Nat) (admits : Word → Word → Prop) (past : Trace) : Op → Prop
  | .store address value => address = register →
    ∃ earlier word, past = earlier ++ [⟨.load register, word⟩] ∧ admits word value
  | _ => True

namespace Modifying

open Program (Obeys Uses)

variable {α : Type} {register : Nat} {admits : Word → Word → Prop} {initial : Word}
  {past trace before between after : Trace}

theorem obeys_update {change : Word → Word} (h : ∀ word, admits word (change word)) :
    (Program.update register change).Obeys (Modifying register admits) past :=
  ⟨trivial, fun word => ⟨fun _ => ⟨past, word, rfl, h word⟩, fun _ => trivial⟩⟩

theorem obeys_of_unwritten {p : Program α} {allowed : Op → Prop} (uses : p.Uses allowed)
    (unwritten : ∀ value, ¬ allowed (.store register value)) :
    p.Obeys (Modifying register admits) past := by
  refine uses.obeys fun later op asked => ?_
  cases op with
  | store address value =>
    rintro rfl
    exact absurd asked (unwritten value)
  | _ => trivial

/-- The next question changes the register as is admitted, or not at all. -/
theorem step (refl : ∀ word, admits word word) (tracks : trace.Tracks register initial)
    {event : Event} (split : trace = before ++ event :: after)
    (modifying : Modifying register admits before event.op) :
    admits (before.content register initial) ((before ++ [event]).content register initial) := by
  rw [Trace.content_append]
  obtain ⟨op, answer⟩ := event
  cases op with
  | store address value =>
    rw [Trace.content_store]
    split
    · next same =>
      obtain ⟨earlier, word, rfl, admitted⟩ := modifying same
      have read : word = Trace.content register initial earlier :=
        tracks earlier word (⟨.store address value, answer⟩ :: after) (by simpa using split)
      rw [Trace.content_append, ← read]
      exact admitted
    · exact refl _
  | _ => exact refl _

/-- What a register holds is related to what it holds later. -/
theorem related (refl : ∀ word, admits word word)
    (trans : ∀ {first second third}, admits first second → admits second third →
      admits first third)
    (tracks : trace.Tracks register initial)
    (law : ∀ before event after, trace = before ++ event :: after →
      Modifying register admits before event.op)
    (split : trace = before ++ (between ++ after)) :
    admits (before.content register initial) ((before ++ between).content register initial) := by
  induction between using List.reverseRecOn generalizing after with
  | nil =>
    rw [List.append_nil]
    exact refl _
  | append_singleton between event ih =>
    have cut : trace = (before ++ between) ++ event :: after := by simpa using split
    have shifted : trace = before ++ (between ++ event :: after) := by simpa using split
    have earlier := ih shifted
    have last := step refl tracks cut (law _ event after cut)
    rw [← List.append_assoc]
    exact trans earlier last

end Modifying

/-- A register that is read, written, and otherwise left alone holds what was written. -/
theorem Trace.content_of_update {register : Nat} {initial old value : Word} {before after : Trace}
    (tracks : Tracks register initial
      (before ++ ([⟨.load register, old⟩, ⟨.store register value, ()⟩] ++ after)))
    (early : ∀ store ∈ before.stores, store.1 ≠ register)
    (late : ∀ store ∈ after.stores, store.1 ≠ register) :
    old = initial ∧ Trace.content register initial
      (before ++ ([⟨.load register, old⟩, ⟨.store register value, ()⟩] ++ after)) = value := by
  have read : old = content register initial before :=
    tracks before old (⟨.store register value, ()⟩ :: after) (by simp)
  have written : content register old [⟨.load register, old⟩, ⟨.store register value, ()⟩] = value :=
    if_pos rfl
  rw [content_of_stores_ne early] at read
  subst read
  refine ⟨rfl, ?_⟩
  rw [content_append, content_append, content_of_stores_ne early, written, content_of_stores_ne late]

end BringUp
