import BringUp.Iossm.Sequence
import BringUp.Program.Lemmas

/-!
What the parts of a sequence do to the bookkeeping.

Each law says what program a part is when it is performed on given bookkeeping. Main statement: a
part that fails ends the sequence, with the bookkeeping as it is at that point.
-/
namespace BringUp.Iossm.Sequence

variable {α β ι : Type}

@[simp] theorem perform_pure (value : α) (subsystem : Subsystem) :
    (pure value : Sequence α).perform subsystem = .done (.ok value, subsystem) := rfl

@[simp] theorem perform_throw (cause : Error) (subsystem : Subsystem) :
    (throw cause : Sequence α).perform subsystem = .done (.error cause, subsystem) := rfl

@[simp] theorem perform_get (subsystem : Subsystem) :
    (get : Sequence Subsystem).perform subsystem = .done (.ok subsystem, subsystem) := rfl

@[simp] theorem perform_modify (change : Subsystem → Subsystem) (subsystem : Subsystem) :
    (modify change : Sequence Unit).perform subsystem = .done (.ok (), change subsystem) := rfl

theorem perform_bind (sequence : Sequence α) (f : α → Sequence β) (subsystem : Subsystem) :
    (sequence >>= f).perform subsystem = (sequence.perform subsystem).bind fun
      | (.ok value, subsystem) => (f value).perform subsystem
      | (.error cause, subsystem) => .done (.error cause, subsystem) := by
  simp only [perform, ExceptT.run_bind, StateT.run_bind, Program.bind_eq]
  congr 1
  funext ⟨result, _⟩
  cases result <;> rfl

/-- A plain program neither fails nor touches the bookkeeping. -/
@[simp] theorem perform_program (program : Program α) (subsystem : Subsystem) :
    (liftM program : Sequence α).perform subsystem =
      program.bind fun value => .done (.ok value, subsystem) := by
  change (program.bind fun value => Program.done (value, subsystem)).bind
    (fun result => Program.done (Except.ok result.1, result.2)) = _
  rw [Program.bind_assoc]
  rfl

theorem perform_send (unit : Nat) (command : Command) (subsystem : Subsystem) :
    (send unit command).perform subsystem = (Program.request unit command).bind fun
      | .ok answer => .done (.ok answer, subsystem)
      | .error cause => .done (.error (.mailbox unit cause), subsystem) := by
  rw [send, perform_bind]
  change ((liftM (Program.request unit command) : Sequence _).perform subsystem).bind _ = _
  rw [perform_program, Program.bind_assoc]
  congr 1
  funext result
  cases result <;> rfl

theorem perform_mapM_cons (visit : ι → Sequence α) (item : ι) (rest : List ι)
    (subsystem : Subsystem) :
    ((item :: rest).mapM visit).perform subsystem = ((visit item).perform subsystem).bind fun
      | (.ok value, subsystem) => ((rest.mapM visit).perform subsystem).bind fun
        | (.ok values, subsystem) => .done (.ok (value :: values), subsystem)
        | (.error cause, subsystem) => .done (.error cause, subsystem)
      | (.error cause, subsystem) => .done (.error cause, subsystem) := by
  rw [List.mapM_cons, perform_bind]
  congr 1
  funext ⟨result, _⟩
  cases result with
  | error _ => rfl
  | ok _ =>
    simp only [perform_bind]
    congr 1
    funext ⟨result, _⟩
    cases result <;> rfl

end BringUp.Iossm.Sequence
