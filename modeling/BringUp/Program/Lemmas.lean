import BringUp.Program.Trace

/-!
Laws of programs: they form a lawful monad, and running a composed program runs its parts one
after the other.
-/
namespace BringUp.Program

variable {α β γ σ : Type}

@[simp] theorem pure_eq_done (value : α) : (pure value : Program α) = done value := rfl

@[simp] theorem bind_eq (p : Program α) (f : α → Program β) : p >>= f = p.bind f := rfl

@[simp] theorem done_bind (value : α) (f : α → Program β) : (done value).bind f = f value := rfl

@[simp] theorem fault_bind (f : α → Program β) : (fault : Program α).bind f = fault := rfl

@[simp] theorem ask_bind (op : Op) (next : op.Answer → Program α) (f : α → Program β) :
    (ask op next).bind f = ask op fun answer => (next answer).bind f := rfl

@[simp] theorem bind_done (p : Program α) : p.bind done = p := by
  induction p with
  | done _ => rfl
  | fault => rfl
  | ask op next ih => simp [ih]

theorem bind_assoc (p : Program α) (f : α → Program β) (g : β → Program γ) :
    (p.bind f).bind g = p.bind fun value => (f value).bind g := by
  induction p with
  | done _ => rfl
  | fault => rfl
  | ask op next ih => simp [ih]

instance : LawfulMonad Program :=
  LawfulMonad.mk' Program (fun p => bind_done p) (fun _ _ => rfl) (fun p f g => bind_assoc p f g)

/-- Running a composed program: the second part starts in the state that the first one leaves. -/
theorem run_bind (handle : (op : Op) → σ → op.Answer × σ) (p : Program α) (f : α → Program β)
    (state : σ) :
    (p.bind f).run handle state =
      match p.run handle state with
      | (some value, state) => (f value).run handle state
      | (none, state) => (none, state) := by
  induction p generalizing state with
  | done _ => rfl
  | fault => rfl
  | ask op next ih => simp [run, ih]

/-- A loop whose rounds come to an end does so too, in a state that has what every round keeps. -/
theorem run_forM {ι : Type} {handle : (op : Op) → σ → op.Answer × σ} {items : List ι}
    {visit : ι → Program Unit} (Inv : σ → Prop)
    (round : ∀ item state, Inv state →
      ∃ next, (visit item).run handle state = (some (), next) ∧ Inv next)
    {state : σ} (start : Inv state) :
    ∃ last, (items.forM visit).run handle state = (some (), last) ∧ Inv last := by
  induction items generalizing state with
  | nil => exact ⟨state, rfl, start⟩
  | cons item rest ih =>
    obtain ⟨next, visited, kept⟩ := round item state start
    obtain ⟨last, further, holds⟩ := ih kept
    refine ⟨last, ?_, holds⟩
    rw [← further]
    change ((visit item).bind fun _ => rest.forM visit).run handle state = _
    rw [run_bind, visited]

/-- The questions of a composed program: those of the first part, then those of the second part
from the state that the first one leaves. -/
theorem trace_bind (handle : (op : Op) → σ → op.Answer × σ) (p : Program α) (f : α → Program β)
    (state : σ) {value : α} (h : (p.run handle state).1 = some value) :
    (p.bind f).trace handle state =
      p.trace handle state ++ (f value).trace handle (p.run handle state).2 := by
  induction p generalizing state with
  | done _ => cases h; rfl
  | fault => cases h
  | ask op next ih =>
    have rest := ih _ _ h
    simp only [ask_bind, trace, rest, List.cons_append]
    rfl

end BringUp.Program
