import BringUp.Proofs.Program.Footprint
import BringUp.Proofs.Program.Runs

/-! Runs that wait for a condition. Main statement: waiting ends with a look, which decides whether
it was successful, after no more pauses than fit into the timeout. -/
namespace BringUp

namespace Trace

variable {trace first second : Trace}

@[simp] theorem pauses_append : pauses (first ++ second) = pauses first + pauses second :=
  List.countP_append

theorem pauses_eq_zero (h : ∀ event ∈ trace, event.op ≠ .pause) : trace.pauses = 0 := by
  simpa [pauses, List.countP_eq_zero] using h

end Trace

variable {α β : Type} {trace : Trace}

/-- Looks at a condition with a pause after each but the last one, which meets the condition unless
all pauses are used up. -/
inductive Waited (looks : Bool → Trace → Prop) : Nat → Bool → Trace → Prop
  | met {pauses : Nat} {trace : Trace} (look : looks true trace) : Waited looks pauses true trace
  | expired {trace : Trace} (look : looks false trace) : Waited looks 0 false trace
  | later {pauses : Nat} {met : Bool} {first rest : Trace} (look : looks false first)
      (waited : Waited looks pauses met rest) :
      Waited looks (pauses + 1) met (first ++ ⟨.pause, ()⟩ :: rest)

namespace Waited

variable {looks : Bool → Trace → Prop} {pauses : Nat} {met : Bool}

/-- The wait ends with a look that shows what it came to. The pauses before it use up the timeout
unless the condition is met. -/
theorem last_look (still : ∀ held look, looks held look → look.pauses = 0)
    (waited : Waited looks pauses met trace) :
    ∃ waiting last, trace = waiting ++ last ∧ looks met last ∧ waiting.pauses ≤ pauses ∧
      (met = false → waiting.pauses = pauses) := by
  induction waited with
  | @met pauses trace look => exact ⟨[], trace, rfl, look, Nat.zero_le _, nofun⟩
  | @expired trace look => exact ⟨[], trace, rfl, look, Nat.le_refl 0, fun _ => rfl⟩
  | @later pauses met first rest look _ ih =>
    obtain ⟨waiting, last, rfl, shown, within, used⟩ := ih
    have count : Trace.pauses (first ++ ⟨.pause, ()⟩ :: waiting) = waiting.pauses + 1 := by
      rw [Trace.pauses_append, still _ _ look, Nat.zero_add]
      exact List.countP_cons_of_pos rfl
    refine ⟨first ++ ⟨.pause, ()⟩ :: waiting, last, by simp, shown, by omega, fun failed => ?_⟩
    rw [count, used failed]

end Waited

namespace Program

/-- One round of `await`. -/
def lookAt (condition : Program Bool) : Program (Look Unit Unit) :=
  condition.bind fun held => .done (if held then .settled () else .pending ())

theorem await_eq (condition : Program Bool) (milliseconds : Nat) :
    await condition milliseconds = (poll (fun _ => lookAt condition) (intervals milliseconds)).bind
      fun polled => .done (decide (polled.last = .settled ())) := by
  change (poll (fun _ => lookAt condition) (intervals milliseconds)).bind _ = _
  congr 1
  funext ⟨last, _⟩
  cases last <;> rfl

theorem returns_await {condition : Program Bool} {milliseconds : Nat}
    (h : condition.Returns) : (await condition milliseconds).Returns :=
  returns_bind (returns_poll fun _ => returns_bind h fun _ => trivial) fun polled => by
    cases polled.last <;> trivial

end Program

namespace Runs

theorem lookAt_iff {condition : Program Bool} {seen : Look Unit Unit} :
    Runs (Program.lookAt condition) trace (some seen) ↔
      ∃ held, seen = (if held then .settled () else .pending ()) ∧
        Runs condition trace (some held) := by
  rw [Program.lookAt, Runs.bind_some_iff]
  constructor
  · rintro ⟨first, _, held, rfl, run, ended⟩
    obtain ⟨rfl, same⟩ := Runs.done_iff.1 ended
    exact ⟨held, Option.some.inj same, by simpa using run⟩
  · rintro ⟨held, rfl, run⟩
    exact ⟨trace, [], held, by simp, run, .done _⟩

/-- From any look on, the rounds of `Program.await` are a wait. -/
theorem poll_go_iff {condition : Program Bool} {pauses : Nat} {seen : Look Unit Unit}
    (index : Nat) :
    (∃ looks, Runs (Program.poll.go (fun _ => Program.lookAt condition) index pauses) trace
        (some ⟨seen, looks⟩)) ↔
      ∃ met, seen = (if met then .settled () else .pending ()) ∧
        Waited (fun held look => Runs condition look (some held)) pauses met trace := by
  induction pauses generalizing index trace with
  | zero =>
    simp only [Program.poll_go_zero, Runs.bind_some_iff, lookAt_iff, Runs.done_iff]
    constructor
    · rintro ⟨_, first, _, _, rfl, ⟨held, rfl, run⟩, rfl, same⟩
      cases same
      rw [List.append_nil]
      cases held with
      | false => exact ⟨false, rfl, .expired run⟩
      | true => exact ⟨true, rfl, .met run⟩
    · rintro ⟨met, rfl, waited⟩
      refine ⟨index + 1, trace, [], _, (List.append_nil _).symm, ⟨met, rfl, ?_⟩, rfl, rfl⟩
      cases waited <;> assumption
  | succ pauses ih =>
    simp only [Program.poll_go_succ, Runs.bind_some_iff, lookAt_iff]
    constructor
    · rintro ⟨looks, first, _, _, rfl, ⟨held, rfl, run⟩, rest⟩
      cases held with
      | false =>
        change Runs (.ask .pause fun _ => Program.poll.go _ (index + 1) pauses) _ _ at rest
        obtain ⟨_, later, rfl, remaining⟩ := Runs.ask_iff.1 rest
        obtain ⟨met, rfl, waited⟩ := (ih (index + 1)).1 ⟨looks, remaining⟩
        exact ⟨met, rfl, .later run waited⟩
      | true =>
        obtain ⟨rfl, same⟩ := Runs.done_iff.1 rest
        cases same
        rw [List.append_nil]
        exact ⟨true, rfl, .met run⟩
    · rintro ⟨met, rfl, waited⟩
      cases waited with
      | met run =>
        exact ⟨index + 1, trace, [], _, (List.append_nil _).symm, ⟨true, rfl, run⟩, .done _⟩
      | @later _ _ first rest run waited =>
        obtain ⟨looks, remaining⟩ := (ih (index + 1)).2 ⟨met, rfl, waited⟩
        refine ⟨looks, first, _, _, rfl, ⟨false, rfl, run⟩, ?_⟩
        change Runs (.ask .pause fun _ => Program.poll.go _ (index + 1) pauses) _ _
        exact Runs.ask_iff.2 ⟨(), rest, rfl, remaining⟩

/-- To wait for a condition is to look at it until it holds or the timeout is used up. -/
theorem await_iff {condition : Program Bool} {milliseconds : Nat} {met : Bool} :
    Runs (Program.await condition milliseconds) trace (some met) ↔
      Waited (fun held look => Runs condition look (some held)) (intervals milliseconds) met
        trace := by
  rw [Program.await_eq]
  simp only [Runs.bind_some_iff, Runs.done_iff]
  constructor
  · rintro ⟨first, _, ⟨seen, looks⟩, rfl, polled, rfl, same⟩
    obtain ⟨held, rfl, waited⟩ := (poll_go_iff 0).1 ⟨looks, polled⟩
    cases same
    rw [List.append_nil]
    cases held <;> exact waited
  · intro waited
    obtain ⟨looks, polled⟩ := (poll_go_iff 0).2 ⟨met, rfl, waited⟩
    refine ⟨trace, [], _, (List.append_nil _).symm, polled, rfl, ?_⟩
    cases met <;> rfl

theorem await_look {condition : Program Bool} {milliseconds : Nat} {met : Bool}
    (still : condition.Uses fun op => op ≠ .pause)
    (run : Runs (Program.await condition milliseconds) trace (some met)) :
    ∃ waiting last, trace = waiting ++ last ∧ Runs condition last (some met) ∧
      waiting.pauses ≤ intervals milliseconds := by
  have quiet (held : Bool) (look : Trace) (looked : Runs condition look (some held)) :
      look.pauses = 0 := Trace.pauses_eq_zero (looked.uses still)
  obtain ⟨waiting, last, split, shown, within, -⟩ := (await_iff.1 run).last_look quiet
  exact ⟨waiting, last, split, shown, within⟩

end Runs

section Poll

/-- Looks from the index on that are pending, with a pause after each. -/
inductive Pended (look : Nat → Program (Look α β)) : Nat → Nat → Trace → Prop
  | none {index : Nat} : Pended look index 0 []
  | more {index count : Nat} {seen : α} {first rest : Trace}
      (pending : Runs (look index) first (some (.pending seen)))
      (later : Pended look (index + 1) count rest) :
      Pended look index (count + 1) (first ++ ⟨.pause, ()⟩ :: rest)

namespace Runs

variable {look : Nat → Program (Look α β)} {pauses : Nat} {polled : Polled α β}

/-- From any look on, polling is a number of pending looks and a last one, which is pending only if
all pauses are used up. -/
theorem poll_go_cases_iff (index : Nat) :
    Runs (Program.poll.go look index pauses) trace (some polled) ↔
      ∃ count waiting last, trace = waiting ++ last ∧ polled.looks = index + count + 1 ∧
        count ≤ pauses ∧ Pended look index count waiting ∧
        Runs (look (index + count)) last (some polled.last) ∧
        ∀ seen, polled.last = .pending seen → count = pauses := by
  induction pauses generalizing index trace with
  | zero =>
    simp only [Program.poll_go_zero, bind_some_iff, done_iff]
    constructor
    · rintro ⟨last, _, seen, rfl, run, rfl, same⟩
      cases same
      exact ⟨0, [], last, List.append_nil _, rfl, Nat.le_refl 0, .none, run, fun _ _ => rfl⟩
    · rintro ⟨count, waiting, last, rfl, looks, within, pended, run, -⟩
      obtain rfl := Nat.le_zero.1 within
      cases pended
      refine ⟨last, [], polled.last, (List.append_nil _).symm, run, rfl, ?_⟩
      rw [← looks]
  | succ pauses ih =>
    simp only [Program.poll_go_succ, bind_some_iff]
    constructor
    · rintro ⟨first, rest, seen, rfl, run, further⟩
      cases seen with
      | settled result =>
        obtain ⟨rfl, same⟩ := done_iff.1 further
        cases same
        exact ⟨0, [], first, List.append_nil _, rfl, Nat.zero_le _, .none, run,
          fun _ same => by cases same⟩
      | pending seen =>
        obtain ⟨_, rest, rfl, remaining⟩ := ask_iff.1 further
        obtain ⟨count, waiting, last, rfl, looks, within, pended, shown, expired⟩ :=
          (ih (index + 1)).1 remaining
        have next : index + 1 + count = index + (count + 1) := by omega
        rw [next] at looks shown
        exact ⟨count + 1, first ++ ⟨.pause, ()⟩ :: waiting, last, by simp, looks,
          Nat.succ_le_succ within, .more run pended, shown,
          fun seen same => congrArg (· + 1) (expired seen same)⟩
    · rintro ⟨count, waiting, last, rfl, looks, within, pended, run, expired⟩
      cases pended with
      | none =>
        obtain ⟨seen, count⟩ := polled
        cases seen with
        | pending seen => exact absurd (expired seen rfl) (Nat.succ_ne_zero _).symm
        | settled result =>
          obtain rfl : count = index + 1 := looks
          exact ⟨last, [], .settled result, (List.append_nil _).symm, run, .done _⟩
      | @more _ count seen first rest pending later =>
        have next : index + (count + 1) = index + 1 + count := by omega
        rw [next] at looks run
        refine ⟨first, ⟨.pause, ()⟩ :: (rest ++ last), .pending seen, by simp, pending,
          ask_iff.2 ⟨(), _, rfl, (ih (index + 1)).2 ⟨count, rest, last, rfl, looks,
            Nat.le_of_succ_le_succ within, later, run, fun seen same => ?_⟩⟩⟩
        exact Nat.succ.inj (expired seen same)

/-- Polling is a number of pending looks and a last one, which is pending only if all pauses are
used up. -/
theorem poll_iff : Runs (Program.poll look pauses) trace (some polled) ↔
    ∃ count waiting last, trace = waiting ++ last ∧ polled.looks = count + 1 ∧ count ≤ pauses ∧
      Pended look 0 count waiting ∧ Runs (look count) last (some polled.last) ∧
      ∀ seen, polled.last = .pending seen → count = pauses := by
  have polling : Runs (Program.poll look pauses) trace (some polled) ↔ _ := poll_go_cases_iff 0
  simp only [Nat.zero_add] at polling
  exact polling

end Runs

end Poll

/-- The pauses bring a state to one in which the condition holds, and no more of them are needed
than there are. -/
inductive Settles {σ : Type} (holds : σ → Bool) (tick : σ → σ) : Nat → σ → σ → Prop
  | now {pauses : Nat} {state : σ} (h : holds state = true) : Settles holds tick pauses state state
  | later {pauses : Nat} {state final : σ} (h : holds state = false)
      (rest : Settles holds tick pauses (tick state) final) :
      Settles holds tick (pauses + 1) state final

namespace Program

variable {σ : Type} {handle : (op : Op) → σ → op.Answer × σ}

theorem run_bind_of_some {p : Program α} {f : α → Program β} {state middle : σ} {value : α}
    (h : p.run handle state = (some value, middle)) :
    (p.bind f).run handle state = (f value).run handle middle := by
  rw [run_bind, h]

/-- Waiting for a condition that the handler's state comes to satisfy. -/
theorem run_await {condition : Program Bool} {milliseconds : Nat} {holds : σ → Bool} {tick : σ → σ}
    {state final : σ} (look : ∀ state, condition.run handle state = (some (holds state), state))
    (pause : ∀ state, handle .pause state = ((), tick state))
    (settles : Settles holds tick (intervals milliseconds) state final) :
    (await condition milliseconds).run handle state = (some true, final) := by
  have looked (state : σ) : (condition.bind fun held =>
      (done (if held then Look.settled () else Look.pending ()) : Program (Look Unit Unit))).run
        handle state =
          (some (if holds state then Look.settled () else Look.pending ()), state) := by
    rw [run_bind_of_some (look state)]
    rfl
  have polled {pauses : Nat} {state final : σ} (settles : Settles holds tick pauses state final) :
      ∀ index, ∃ looks, (poll.go (fun _ => condition.bind fun held =>
        (done (if held then Look.settled () else Look.pending ()) : Program (Look Unit Unit))) index
          pauses).run handle state = (some ⟨.settled (), looks⟩, final) := by
    induction settles with
    | @now pauses state h =>
      intro index
      refine ⟨index + 1, ?_⟩
      cases pauses with
      | zero =>
        rw [poll_go_zero, run_bind_of_some (looked state), h]
        rfl
      | succ pauses =>
        rw [poll_go_succ, run_bind_of_some (looked state), h]
        rfl
    | @later pauses state final h rest ih =>
      intro index
      have ⟨looks, further⟩ := ih (index + 1)
      refine ⟨looks, ?_⟩
      have paused : Program.pause.run handle state = (some (), tick state) := by
        change (some (handle .pause state).1, (handle .pause state).2) = _
        rw [pause]
      rw [poll_go_succ, run_bind_of_some (looked state), h]
      exact (run_bind_of_some paused).trans further
  have ⟨looks, result⟩ := polled settles 0
  exact run_bind_of_some result

end Program
end BringUp
