import BringUp.Program.Lemmas

/-! Runs that something else interferes with. Main statement: what neither the answers nor the
changes in between destroy holds at the end of such a run. -/
namespace BringUp

variable {α σ : Type}

/-- The state answers the questions of the trace, and acts on its own in between. -/
inductive Interleaves (handle : (op : Op) → σ → op.Answer × σ) (acts : σ → σ → Prop) :
    σ → Trace → σ → Prop
  | done (state : σ) : Interleaves handle acts state [] state
  | act {state next last : σ} {trace : Trace} (first : acts state next)
      (rest : Interleaves handle acts next trace last) : Interleaves handle acts state trace last
  | ask {state last : σ} {trace : Trace} (op : Op)
      (rest : Interleaves handle acts (handle op state).2 trace last) :
      Interleaves handle acts state (⟨op, (handle op state).1⟩ :: trace) last

namespace Interleaves

variable {handle : (op : Op) → σ → op.Answer × σ} {acts : σ → σ → Prop} {state middle last : σ}
  {trace first second : Trace}

theorem of_run (program : Program α) (state : σ) : Interleaves handle acts state
    (program.trace handle state) (program.run handle state).2 := by
  induction program generalizing state with
  | done _ => exact .done state
  | fault => exact .done state
  | ask op next ih => exact .ask op (ih _ _)

theorem append (earlier : Interleaves handle acts state first middle)
    (later : Interleaves handle acts middle second last) :
    Interleaves handle acts state (first ++ second) last := by
  induction earlier with
  | done _ => exact later
  | act first _ ih => exact .act first (ih later)
  | ask op _ ih => exact .ask op (ih later)

/-- A question is answered by the state as it is then. -/
theorem cons_iff {op : Op} {answer : op.Answer} :
    Interleaves handle acts state (⟨op, answer⟩ :: trace) last ↔ ∃ middle,
      Interleaves handle acts state [] middle ∧ answer = (handle op middle).1 ∧
        Interleaves handle acts (handle op middle).2 trace last := by
  constructor
  · intro interleaved
    generalize whole : (⟨op, answer⟩ :: trace : Trace) = events at interleaved
    induction interleaved with
    | done _ => cases whole
    | act first _ ih =>
      obtain ⟨middle, early, answered, rest⟩ := ih whole
      exact ⟨middle, .act first early, answered, rest⟩
    | @ask state _ _ _ rest =>
      cases whole
      exact ⟨state, .done state, rfl, rest⟩
  · intro split
    obtain ⟨middle, early, rfl, rest⟩ := split
    exact early.append (.ask op rest)

theorem append_iff : Interleaves handle acts state (first ++ second) last ↔
    ∃ middle, Interleaves handle acts state first middle ∧
      Interleaves handle acts middle second last := by
  refine ⟨fun interleaved => ?_, fun split => split.choose_spec.1.append split.choose_spec.2⟩
  induction first generalizing state with
  | nil => exact ⟨state, .done state, interleaved⟩
  | cons event rest ih =>
    obtain ⟨middle, early, answered, further⟩ := cons_iff.1 interleaved
    obtain ⟨final, there, behind⟩ := ih further
    exact ⟨final, cons_iff.2 ⟨middle, early, answered, there⟩, behind⟩

theorem nil_of_still (still : ∀ next, ¬ acts state next)
    (interleaved : Interleaves handle acts state [] last) : last = state := by
  cases interleaved with
  | done _ => rfl
  | act first _ => exact absurd first (still _)

theorem cons_iff_of_still (still : ∀ next, ¬ acts state next) {op : Op} {answer : op.Answer} :
    Interleaves handle acts state (⟨op, answer⟩ :: trace) last ↔
      answer = (handle op state).1 ∧ Interleaves handle acts (handle op state).2 trace last := by
  rw [cons_iff]
  constructor
  · intro split
    obtain ⟨middle, early, answered, rest⟩ := split
    obtain rfl := early.nil_of_still still
    exact ⟨answered, rest⟩
  · intro split
    exact ⟨state, .done state, split⟩

theorem inv (Inv : σ → Prop) (allowed : Op → Prop)
    (acted : ∀ {state next}, Inv state → acts state next → Inv next)
    (answered : ∀ {op state}, allowed op → Inv state → Inv (handle op state).2)
    (uses : ∀ event ∈ trace, allowed event.op) (start : Inv state)
    (interleaved : Interleaves handle acts state trace last) : Inv last := by
  induction interleaved with
  | done _ => exact start
  | act first _ ih => exact ih uses (acted start first)
  | ask op _ ih =>
    exact ih (fun event member => uses event (List.mem_cons_of_mem _ member))
      (answered (uses _ List.mem_cons_self) start)

end Interleaves
end BringUp
