import BringUp.Program.Lemmas

/-! Runs of the basic programs, and prefixes of runs. Main statement: programs are deterministic, so
a run of a composed program that starts with a run of the first part goes on with one of the second.
-/
namespace BringUp

/-- The program begins with the question. -/
def Program.Asks {α : Type} (op : Op) : Program α → Prop
  | .ask first _ => first = op
  | _ => False

theorem Program.Asks.bind {α β : Type} {op : Op} {p : Program α} {f : α → Program β}
    (h : p.Asks op) : (p.bind f).Asks op := by
  cases p with
  | ask _ _ => exact h
  | _ => exact h.elim

namespace Runs

variable {α β ε : Type} {trace : Trace}

theorem asks {op : Op} {p : Program α} {result : Option α} (run : Runs p trace result)
    (h : p.Asks op) : ∃ answer rest, trace = ⟨op, answer⟩ :: rest := by
  cases run with
  | ask answer _ =>
    obtain rfl := h
    exact ⟨answer, _, rfl⟩
  | _ => exact h.elim

theorem question_iff {op : Op} {result : Option op.Answer} :
    Runs (.ask op .done) trace result ↔ ∃ answer, trace = [⟨op, answer⟩] ∧ result = some answer := by
  rw [ask_iff]
  constructor
  · intro h
    obtain ⟨answer, rest, rfl, h⟩ := h
    obtain ⟨rfl, rfl⟩ := done_iff.1 h
    exact ⟨answer, rfl, rfl⟩
  · intro h
    obtain ⟨answer, rfl, rfl⟩ := h
    exact ⟨answer, [], rfl, .done answer⟩

theorem store_iff {address : Nat} {value : Word} {result : Option Unit} :
    Runs (Program.store address value) trace result ↔
      trace = [⟨.store address value, ()⟩] ∧ result = some () :=
  question_iff.trans ⟨fun ⟨_, h⟩ => h, fun h => ⟨(), h⟩⟩

theorem log_iff {level : Level} {text : String} {result : Option Unit} :
    Runs (Program.log level text) trace result ↔
      trace = [⟨.log level text, ()⟩] ∧ result = some () :=
  question_iff.trans ⟨fun ⟨_, h⟩ => h, fun h => ⟨(), h⟩⟩

theorem load_bind_iff {address : Nat} {f : Word → Program α} {result : Option α} :
    Runs (Program.load address >>= f) trace result ↔
      ∃ word rest, trace = ⟨.load address, word⟩ :: rest ∧ Runs (f word) rest result :=
  ask_iff

/-- An update is one read and one write. -/
theorem update_iff {address : Nat} {change : Word → Word} {result : Option Unit} :
    Runs (Program.update address change) trace result ↔
      ∃ word, trace = [⟨.load address, word⟩, ⟨.store address (change word), ()⟩] ∧
        result = some () := by
  rw [Program.update, Program.bind_eq, Program.load, Program.ask_bind, ask_iff]
  simp only [Program.done_bind, store_iff]
  constructor
  · intro h
    obtain ⟨word, rest, rfl, rfl, rfl⟩ := h
    exact ⟨word, rfl, rfl⟩
  · intro h
    obtain ⟨word, rfl, rfl⟩ := h
    exact ⟨word, _, rfl, rfl, rfl⟩

theorem of_run_eq {σ : Type} (handle : (op : Op) → σ → op.Answer × σ) (state : σ) {p : Program α}
    {result : Option α} (ended : (p.run handle state).1 = result) :
    Runs p (p.trace handle state) result :=
  ended ▸ of_run handle p state

/-- If the first part of a program has come to a value, the second part makes the rest of the
run. -/
theorem rest {p : Program α} {f : α → Program β} {first second : Trace} {value : α}
    {result : Option β} (run : Runs (p.bind f) (first ++ second) result)
    (h : Runs p first (some value)) : Runs (f value) second result := by
  induction p generalizing first with
  | done _ =>
    obtain ⟨rfl, same⟩ := done_iff.1 h
    cases same
    exact run
  | fault => exact absurd (fault_iff.1 h).2 (by simp)
  | ask op next ih =>
    obtain ⟨answer, tail, rfl, hp⟩ := ask_iff.1 h
    obtain ⟨answer', tail', same, hr⟩ := ask_iff.1 run
    cases same
    exact ih answer hr hp

/-- A run that begins like another one, up to the questions that have only one answer, such as the
messages that are told, is that run. -/
theorem determined {p : Program α} {common quiet rest : Trace} {result result' : Option α}
    (single : ∀ event ∈ quiet, ∀ answer : event.op.Answer, answer = event.answer)
    (run : Runs p (common ++ quiet) result) (run' : Runs p (common ++ rest) result') :
    rest = quiet ∧ result' = result := by
  generalize whole : common ++ quiet = trace at run
  induction run generalizing common quiet rest with
  | done _ =>
    obtain ⟨rfl, rfl⟩ := List.append_eq_nil_iff.1 whole
    exact done_iff.1 run'
  | fault =>
    obtain ⟨rfl, rfl⟩ := List.append_eq_nil_iff.1 whole
    exact fault_iff.1 run'
  | @ask op next trace result answer _ ih =>
    obtain ⟨answer', further, split, left⟩ := ask_iff.1 run'
    cases common with
    | nil =>
      obtain rfl : quiet = ⟨op, answer⟩ :: trace := whole
      obtain rfl : answer' = answer := single _ List.mem_cons_self answer'
      have others : ∀ event ∈ trace, ∀ answer : event.op.Answer, answer = event.answer :=
        fun event member => single event (List.mem_cons_of_mem _ member)
      obtain ⟨rfl, ended⟩ := @ih [] trace further others left rfl
      exact ⟨split, ended⟩
    | cons event common =>
      obtain ⟨rfl, remaining⟩ := List.cons.inj whole
      obtain ⟨here, rfl⟩ := List.cons.inj split
      cases here
      exact ih single left remaining

theorem bind_some_iff {p : Program α} {f : α → Program β} {result : β} :
    Runs (p.bind f) trace (some result) ↔ ∃ first second value, trace = first ++ second ∧
      Runs p first (some value) ∧ Runs (f value) second (some result) := by
  simp [bind_iff]

/-- Composed programs have the same runs if their first parts do, and what follows these. -/
theorem bind_iff_bind {p q : Program α} {f g : α → Program β} {result : Option β}
    (firsts : ∀ first second, trace = first ++ second →
      ∀ {value}, Runs p first value ↔ Runs q first value)
    (rests : ∀ first second value, trace = first ++ second → Runs p first (some value) →
      (Runs (f value) second result ↔ Runs (g value) second result)) :
    Runs (p.bind f) trace result ↔ Runs (q.bind g) trace result := by
  rw [bind_iff, bind_iff]
  refine or_congr (exists_congr fun first => exists_congr fun second => exists_congr fun value =>
    and_congr_right fun split => ?_) (and_congr_right fun _ => firsts trace [] (by simp))
  rw [← firsts first second split]
  exact and_congr_right (rests first second value split)

/-- A step that may fail ends the program with its failure, or is followed by the rest. -/
theorem run_bind_iff {m : ExceptT ε Program α} {f : α → ExceptT ε Program β}
    {result : Option (Except ε β)} :
    Runs (m >>= f).run trace result ↔
      (∃ first second value, trace = first ++ second ∧ Runs m.run first (some (.ok value)) ∧
        Runs (f value).run second result) ∨
      (∃ cause, result = some (.error cause) ∧ Runs m.run trace (some (.error cause))) ∨
      (result = none ∧ Runs m.run trace none) := by
  rw [ExceptT.run_bind, Program.bind_eq, bind_iff]
  constructor
  · intro h
    obtain ⟨first, second, cause | value, rfl, hm, hf⟩ | h := h
    · obtain ⟨rfl, rfl⟩ := done_iff.1 hf
      exact .inr (.inl ⟨cause, rfl, by simpa using hm⟩)
    · exact .inl ⟨first, second, value, rfl, hm, hf⟩
    · exact .inr (.inr h)
  · intro h
    obtain ⟨first, second, value, rfl, hm, hf⟩ | ⟨cause, rfl, hm⟩ | h := h
    · exact .inl ⟨first, second, .ok value, rfl, hm, hf⟩
    · exact .inl ⟨trace, [], .error cause, by simp, hm, .done _⟩
    · exact .inr h

theorem run_rest {m : ExceptT ε Program α} {f : α → ExceptT ε Program β} {first second : Trace}
    {value : α} {result : Option (Except ε β)} (run : Runs (m >>= f).run (first ++ second) result)
    (h : Runs m.run first (some (.ok value))) : Runs (f value).run second result := by
  rw [ExceptT.run_bind, Program.bind_eq] at run
  exact run.rest h

theorem run_bind_ok_iff {m : ExceptT ε Program α} {f : α → ExceptT ε Program β} {result : β} :
    Runs (m >>= f).run trace (some (.ok result)) ↔ ∃ first second value, trace = first ++ second ∧
      Runs m.run first (some (.ok value)) ∧ Runs (f value).run second (some (.ok result)) := by
  rw [run_bind_iff]
  simp

/-- A program whose failures are named differently fails where it failed before. -/
theorem run_adapt_iff {ε' : Type} {p : Program (Except ε α)} {name : ε → ε'}
    {result : Except ε' α} : Runs ((ExceptT.mk p).adapt name).run trace (some result) ↔
      ∃ plain, result = plain.mapError name ∧ Runs p trace (some plain) := by
  change Runs (p.bind fun plain => .done (plain.mapError name)) trace (some result) ↔ _
  rw [bind_some_iff]
  constructor
  · intro h
    obtain ⟨first, second, plain, rfl, hp, h⟩ := h
    obtain ⟨rfl, same⟩ := done_iff.1 h
    cases same
    exact ⟨plain, rfl, by simpa using hp⟩
  · intro h
    obtain ⟨plain, rfl, hp⟩ := h
    exact ⟨trace, [], plain, by simp, hp, .done _⟩

theorem run_adapt_none {ε' : Type} {p : Program (Except ε α)} {name : ε → ε'}
    (broken : Runs ((ExceptT.mk p).adapt name).run trace none) : Runs p trace none := by
  change Runs (p.bind fun plain => .done (plain.mapError name)) trace none at broken
  obtain ⟨_, _, _, -, -, ended⟩ | ⟨-, here⟩ := bind_iff.1 broken
  · cases (done_iff.1 ended).2
  · exact here

/-- A plain program among steps that may fail does not fail. -/
theorem run_program_iff {p : Program α} {result : Option (Except ε α)} :
    Runs (liftM p : ExceptT ε Program α).run trace result ↔
      ∃ plain, Runs p trace plain ∧ result = plain.map .ok := by
  change Runs (p.bind fun value => .done (.ok value)) trace result ↔ _
  rw [bind_iff]
  constructor
  · intro h
    obtain ⟨first, second, value, rfl, hp, h⟩ | ⟨rfl, hp⟩ := h
    · obtain ⟨rfl, rfl⟩ := done_iff.1 h
      exact ⟨some value, by simpa using hp, rfl⟩
    · exact ⟨none, hp, rfl⟩
  · intro h
    obtain ⟨_ | value, hp, rfl⟩ := h
    · exact .inr ⟨rfl, hp⟩
    · exact .inl ⟨trace, [], value, by simp, hp, .done _⟩

end Runs
end BringUp
