import BringUp.Program.Timer
import BringUp.Proofs.Program.Polling
import Mathlib.Algebra.Ring.Nat

/-! Runs that wait by a counter of microseconds. Main statement: the last call decides, and it does
not find the condition met only if all pauses that fit into the timeout are used up. -/
namespace BringUp.Timer

variable {σ ε : Type} {condition : Condition σ ε} {limit count : Nat} {timeout waited : Word}
  {memory : σ} {trace : Trace} {result : Option (Except ε Bool × σ)}

/-- The counter leaves so many pauses before the timeout is over. -/
def Leaves (timeout waited : Word) (limit : Nat) : Prop :=
  (timeout.toNat - waited.toNat + 99) / 100 = limit

theorem Leaves.over (leaves : Leaves timeout waited 0) : timeout ≤ waited := by
  rw [Leaves] at leaves
  rw [BitVec.le_def]
  omega

theorem Leaves.early (leaves : Leaves timeout waited (limit + 1)) : ¬ timeout ≤ waited := by
  rw [Leaves] at leaves
  rw [BitVec.le_def]
  omega

/-- A pause takes one of them, also where the counter is kept at its largest value. -/
theorem Leaves.advance (leaves : Leaves timeout waited (limit + 1)) :
    Leaves timeout (advance waited) limit := by
  have inside := timeout.isLt
  rw [Leaves] at leaves ⊢
  rw [toNat_advance]
  omega

theorem leaves_ofMilliseconds (milliseconds : Nat) :
    Leaves (ofMilliseconds milliseconds) 0 (intervals milliseconds) := rfl

/-- Calls that have not found the condition met, with a pause after each. -/
inductive Unmet (condition : Condition σ ε) : Nat → σ → Trace → σ → Prop
  | none {memory : σ} : Unmet condition 0 memory [] memory
  | more {count : Nat} {memory next last : σ} {first rest : Trace}
      (call : Runs (condition memory) first (some (.ok false, next)))
      (later : Unmet condition count next rest last) :
      Unmet condition (count + 1) memory (first ++ ⟨.pause, ()⟩ :: rest) last

/-- How a wait goes in which there may be up to `limit` pauses. There are `count` of them, and one
call more than that. -/
structure Course (condition : Condition σ ε) (limit count : Nat) (memory : σ) (trace : Trace)
    (result : Option (Except ε Bool × σ)) : Prop where
  within : count ≤ limit
  calls : ∃ waiting last middle, trace = waiting ++ last ∧
    Unmet condition count memory waiting middle ∧ Runs (condition middle) last result
  expired : ∀ final, result = some (.ok false, final) → count = limit

theorem course_zero_iff : Course condition limit 0 memory trace result ↔
    Runs (condition memory) trace result ∧
      ∀ final, result = some (.ok false, final) → limit = 0 := by
  constructor
  · rintro ⟨-, ⟨waiting, last, middle, rfl, unmet, call⟩, expired⟩
    cases unmet
    exact ⟨call, fun final same => (expired final same).symm⟩
  · rintro ⟨call, expired⟩
    exact ⟨Nat.zero_le _, ⟨[], trace, memory, rfl, .none, call⟩,
      fun final same => (expired final same).symm⟩

theorem course_succ_iff : Course condition (limit + 1) (count + 1) memory trace result ↔
    ∃ first rest next, trace = first ++ ⟨.pause, ()⟩ :: rest ∧
      Runs (condition memory) first (some (.ok false, next)) ∧
      Course condition limit count next rest result := by
  constructor
  · rintro ⟨within, ⟨waiting, last, middle, rfl, unmet, call⟩, expired⟩
    cases unmet with
    | @more _ _ next _ first rest unmet later =>
      exact ⟨first, rest ++ last, next, by simp, unmet, Nat.le_of_succ_le_succ within,
        ⟨rest, last, middle, rfl, later, call⟩,
        fun final same => Nat.succ.inj (expired final same)⟩
  · rintro ⟨first, rest, next, rfl, unmet, within, ⟨waiting, last, middle, rfl, later, call⟩,
      expired⟩
    exact ⟨Nat.succ_le_succ within,
      ⟨first ++ ⟨.pause, ()⟩ :: waiting, last, middle, by simp, .more unmet later, call⟩,
      fun final same => congrArg (· + 1) (expired final same)⟩

/-- If no call pauses itself, these are all pauses of a wait. -/
theorem Course.pauses_eq (course : Course condition limit count memory trace result)
    (still : ∀ memory, (condition memory).Uses fun op => op ≠ .pause) : trace.pauses = count := by
  have quiet (memory : σ) {trace : Trace} {result : Option (Except ε Bool × σ)}
      (call : Runs (condition memory) trace result) : trace.pauses = 0 :=
    Trace.pauses_eq_zero (call.uses (still memory))
  obtain ⟨-, ⟨waiting, last, middle, rfl, unmet, call⟩, -⟩ := course
  rw [Trace.pauses_append, quiet middle call, Nat.add_zero]
  clear call
  induction unmet with
  | none => rfl
  | @more count memory _ _ first rest call _ ih =>
    rw [Trace.pauses_append, quiet memory call, Nat.zero_add, ← ih]
    exact List.countP_cons_of_pos rfl

/-- The end of a wait after a number of pauses, with the counter at `waited` before them. -/
def endingAfter (waited count : Nat) (seen : Except ε Bool × σ) : Ending σ ε :=
  ⟨seen.1, BitVec.ofNat 32 (min (waited + 100 * count) 0xFFFFFFFF), seen.2⟩

theorem endingAfter_zero (seen : Except ε Bool × σ) :
    endingAfter waited.toNat 0 seen = ⟨seen.1, waited, seen.2⟩ := by
  have inside : waited.toNat ≤ 0xFFFFFFFF := Nat.le_of_lt_succ waited.isLt
  rw [endingAfter, Nat.mul_zero, Nat.add_zero, Nat.min_eq_left inside, BitVec.ofNat_toNat,
    BitVec.setWidth_eq]

/-- One round of a wait: either the call ends it, or there is a pause and the wait goes on with the
counter advanced. -/
theorem runs_round_iff {ending : Option (Ending σ ε)} :
    Runs (watch condition timeout waited memory) trace ending ↔
      (∃ result, Runs (condition memory) trace result ∧
        (∀ final, result = some (.ok false, final) → timeout ≤ waited) ∧
        ending = result.map (endingAfter waited.toNat 0)) ∨
      ∃ first rest next, ¬ timeout ≤ waited ∧ trace = first ++ ⟨.pause, ()⟩ :: rest ∧
        Runs (condition memory) first (some (.ok false, next)) ∧
        Runs (watch condition timeout (advance waited) next) rest ending := by
  rw [watch_eq, Runs.bind_iff]
  constructor
  · rintro (⟨first, second, ⟨answer, next⟩, rfl, call, further⟩ | ⟨rfl, broken⟩)
    · split at further
      · next goes =>
        obtain ⟨rfl, early⟩ := goes.imp_left isUnmet_iff.1
        obtain ⟨_, rest, rfl, later⟩ := Runs.ask_iff.1 further
        exact .inr ⟨first, rest, next, early, rfl, call, later⟩
      · next ends =>
        obtain ⟨rfl, rfl⟩ := Runs.done_iff.1 further
        refine .inl ⟨some (answer, next), by rwa [List.append_nil], fun final same => ?_, ?_⟩
        · cases same
          exact of_not_not fun early => ends ⟨rfl, early⟩
        · rw [Option.map_some, endingAfter_zero]
    · exact .inl ⟨none, broken, (fun _ same => by cases same), rfl⟩
  · rintro (⟨_ | seen, call, reached, rfl⟩ | ⟨first, rest, next, early, rfl, call, further⟩)
    · exact .inr ⟨rfl, call⟩
    · refine .inl ⟨trace, [], seen, (List.append_nil _).symm, call, ?_⟩
      have ends : ¬ (isUnmet seen.1 ∧ ¬ timeout ≤ waited) := fun goes =>
        goes.2 (reached seen.2 (congrArg some (Prod.ext (isUnmet_iff.1 goes.1) rfl)))
      rw [if_neg ends, Option.map_some, endingAfter_zero]
      exact .done _
    · exact .inl ⟨first, _, (.ok false, next), rfl, call,
        by rw [if_pos ⟨rfl, early⟩]; exact Runs.ask_iff.2 ⟨(), rest, rfl, further⟩⟩

/-- The calls and the pauses of a wait, and its counter at the end. -/
theorem runs_watch_iff {ending : Option (Ending σ ε)} (leaves : Leaves timeout waited limit) :
    Runs (watch condition timeout waited memory) trace ending ↔
      ∃ count result, Course condition limit count memory trace result ∧
        ending = result.map (endingAfter waited.toNat count) := by
  -- Each round but the last one uses up one of the pauses that are left.
  induction limit generalizing waited memory trace with
  | zero =>
    rw [runs_round_iff]
    constructor
    · rintro (⟨result, call, -, rfl⟩ | ⟨_, _, _, early, -⟩)
      · exact ⟨0, result, course_zero_iff.2 ⟨call, fun _ _ => rfl⟩, rfl⟩
      · exact absurd leaves.over early
    · rintro ⟨count, result, course, rfl⟩
      obtain rfl := Nat.le_zero.1 course.within
      exact .inl ⟨result, (course_zero_iff.1 course).1, fun _ _ => leaves.over, rfl⟩
  | succ limit ih =>
    have later (count : Nat) : (endingAfter (advance waited).toNat count : _ → Ending σ ε) =
        endingAfter waited.toNat (count + 1) := by
      have sum : min (min (waited.toNat + 100) 0xFFFFFFFF + 100 * count) 0xFFFFFFFF =
          min (waited.toNat + 100 * (count + 1)) 0xFFFFFFFF := by
        omega
      funext seen
      rw [endingAfter, endingAfter, toNat_advance, sum]
    rw [runs_round_iff]
    constructor
    · rintro (⟨result, call, reached, rfl⟩ | ⟨first, rest, next, -, rfl, call, further⟩)
      · exact ⟨0, result, course_zero_iff.2
          ⟨call, fun final same => absurd (reached final same) leaves.early⟩, rfl⟩
      · obtain ⟨count, result, course, rfl⟩ := (ih leaves.advance).1 further
        exact ⟨count + 1, result, course_succ_iff.2 ⟨first, rest, next, rfl, call, course⟩,
          by rw [later]⟩
    · rintro ⟨count, result, course, rfl⟩
      cases count with
      | zero =>
        obtain ⟨call, reached⟩ := course_zero_iff.1 course
        exact .inl ⟨result, call, fun final same => absurd (reached final same) (Nat.succ_ne_zero _),
          rfl⟩
      | succ count =>
        obtain ⟨first, rest, next, rfl, call, course⟩ := course_succ_iff.1 course
        exact .inr ⟨first, rest, next, leaves.early, rfl, call,
          (ih leaves.advance).2 ⟨count, result, course, by rw [later]⟩⟩

/-- Induction on the time that is left: before the timeout, a fact about a counter may use the one
about the counter after one more interval. -/
theorem counter_induction {motive : Word → Prop} (timeout : Word)
    (round : ∀ waited, (¬ timeout ≤ waited → motive (advance waited)) → motive waited)
    (waited : Word) : motive waited := by
  induction left : timeout.toNat - waited.toNat using Nat.strong_induction_on
    generalizing waited with
  | _ left ih => exact round waited fun early => ih _ (left ▸ lt_advance early) (advance waited) rfl

theorem watch_returns (returns : ∀ memory, (condition memory).Returns) (timeout waited : Word)
    (memory : σ) : (watch condition timeout waited memory).Returns := by
  induction waited using counter_induction timeout generalizing memory with
  | round waited ih =>
    rw [watch_eq]
    refine Program.returns_bind (returns memory) fun seen => ?_
    split
    · next goes => exact fun _ => ih goes.2 seen.2
    · trivial

theorem tryAwait_eq (condition : Condition σ ε) (timeout : Word) (memory : σ) :
    tryAwait condition timeout memory =
      (watch condition timeout 0 memory).bind fun ending => .done (ending.answer, ending.memory) :=
  rfl

theorem runs_tryAwait_iff (leaves : Leaves timeout 0 limit) :
    Runs (tryAwait condition timeout memory) trace result ↔
      ∃ count, Course condition limit count memory trace result := by
  rw [tryAwait_eq, Runs.bind_iff]
  constructor
  · rintro (⟨first, second, ending, rfl, watched, ended⟩ | ⟨rfl, broken⟩)
    · obtain ⟨count, decided, course, same⟩ := (runs_watch_iff leaves).1 watched
      obtain ⟨rfl, rfl⟩ := Runs.done_iff.1 ended
      obtain ⟨seen, rfl, rfl⟩ := Option.map_eq_some_iff.1 same.symm
      exact ⟨count, by rwa [List.append_nil]⟩
    · obtain ⟨count, decided, course, same⟩ := (runs_watch_iff leaves).1 broken
      obtain rfl := Option.map_eq_none_iff.1 same.symm
      exact ⟨count, course⟩
  · rintro ⟨count, course⟩
    cases result with
    | none => exact .inr ⟨rfl, (runs_watch_iff leaves).2 ⟨count, none, course, rfl⟩⟩
    | some seen =>
      exact .inl ⟨trace, [], _, (List.append_nil _).symm,
        (runs_watch_iff leaves).2 ⟨count, some seen, course, rfl⟩, .done _⟩

section Agreement

variable {τ ε' : Type} {condition' : Condition τ ε'} {answers : Except ε Bool → Except ε' Bool}
  {recalls : σ → τ}

/-- Two conditions that find the same may name it differently and remember different things. -/
structure Agrees (condition : Condition σ ε) (condition' : Condition τ ε')
    (answers : Except ε Bool → Except ε' Bool) (recalls : σ → τ) : Prop where
  unmet : ∀ answer, isUnmet (answers answer) = isUnmet answer
  call : ∀ memory, condition' (recalls memory) =
    (condition memory).bind fun seen => .done (answers seen.1, recalls seen.2)

theorem Agrees.watch (agrees : Agrees condition condition' answers recalls) (timeout waited : Word)
    (memory : σ) : watch condition' timeout waited (recalls memory) =
      (watch condition timeout waited memory).bind fun ending =>
        .done ⟨answers ending.answer, ending.waited, recalls ending.memory⟩ := by
  induction waited using counter_induction timeout generalizing memory with
  | round waited ih =>
    rw [watch_eq, watch_eq, agrees.call, Program.bind_assoc, Program.bind_assoc]
    congr 1
    funext seen
    simp only [Program.done_bind, agrees.unmet]
    split
    · next goes =>
      rw [Program.bind_assoc]
      congr 1
      funext _
      exact ih goes.2 seen.2
    · rw [Program.done_bind]

theorem Agrees.tryAwait (agrees : Agrees condition condition' answers recalls) (timeout : Word)
    (memory : σ) : tryAwait condition' timeout (recalls memory) =
      (tryAwait condition timeout memory).bind fun seen =>
        .done (answers seen.1, recalls seen.2) := by
  rw [tryAwait_eq, tryAwait_eq, agrees.watch, Program.bind_assoc, Program.bind_assoc]
  rfl

end Agreement

section Infallible

variable {condition : σ → Program (Bool × σ)}

theorem infallible_eq (condition : σ → Program (Bool × σ)) (memory : σ) :
    (infallible condition : Condition σ ε) memory =
      (condition memory).bind fun seen => .done (.ok seen.1, seen.2) := rfl

theorem await_eq (condition : σ → Program (Bool × σ)) (timeout : Word) (memory : σ) :
    await condition timeout memory =
      (tryAwait (infallible condition : Condition σ Empty) timeout memory).bind fun seen =>
        .done (isMet seen.1, seen.2) := rfl

theorem isUnmet_ok (met : Bool) : isUnmet (.ok met : Except ε Bool) = !met := by
  cases met <;> rfl

theorem isMet_ok (met : Bool) : isMet (.ok met : Except ε Bool) = met := by
  cases met <;> rfl

theorem infallible_agrees (condition : σ → Program (Bool × σ)) :
    Agrees (infallible condition : Condition σ Empty) (infallible condition : Condition σ ε)
      (fun answer => .ok (isMet answer)) id where
  unmet answer := by
    cases answer with
    | error cause => exact cause.elim
    | ok met => rw [isMet_ok, isUnmet_ok, isUnmet_ok]
  call memory := by
    rw [infallible_eq, infallible_eq, Program.bind_assoc]
    simp only [Program.done_bind, isMet_ok, id_eq]

theorem tryAwait_infallible (condition : σ → Program (Bool × σ)) (timeout : Word) (memory : σ) :
    tryAwait (infallible condition : Condition σ ε) timeout memory =
      (await condition timeout memory).bind fun seen => .done (.ok seen.1, seen.2) := by
  rw [await_eq, Program.bind_assoc]
  exact (infallible_agrees condition).tryAwait timeout memory

theorem await_recalls {τ : Type} {condition' : τ → Program (Bool × τ)} (recalls : σ → τ)
    (call : ∀ memory, condition' (recalls memory) =
      (condition memory).bind fun seen => .done (seen.1, recalls seen.2))
    (timeout : Word) (memory : σ) : await condition' timeout (recalls memory) =
      (await condition timeout memory).bind fun seen => .done (seen.1, recalls seen.2) := by
  have agrees : Agrees (infallible condition : Condition σ Empty)
      (infallible condition' : Condition τ Empty) id recalls := by
    refine ⟨fun _ => rfl, fun memory => ?_⟩
    rw [infallible_eq, infallible_eq, call, Program.bind_assoc, Program.bind_assoc]
    rfl
  rw [await_eq, await_eq, agrees.tryAwait, Program.bind_assoc, Program.bind_assoc]
  rfl

theorem watch_infallible (condition : σ → Program (Bool × σ)) (timeout waited : Word) (memory : σ) :
    watch (infallible condition : Condition σ ε) timeout waited memory =
      (condition memory).bind fun seen =>
        if seen.1 = false ∧ ¬ timeout ≤ waited then
          Program.pause.bind fun _ => watch (infallible condition) timeout (advance waited) seen.2
        else .done ⟨.ok seen.1, waited, seen.2⟩ := by
  rw [watch_eq, infallible_eq]
  simp only [Program.bind_assoc, Program.done_bind, isUnmet_ok, Bool.not_eq_true']

end Infallible

section Counting

variable {α β : Type} {look : Nat → Program (Look α β)} {pauses : Nat}

def isSettled : Look α β → Bool
  | .settled _ => true
  | .pending _ => false

/-- Looks as calls of a condition that remembers the last look and their number. -/
def noting (look : Nat → Program (Look α β)) (polled : Polled α β) :
    Program (Bool × Polled α β) :=
  (look polled.looks).bind fun seen => .done (isSettled seen, ⟨seen, polled.looks + 1⟩)

/-- Counting the pauses comes to the same as the counter of microseconds. -/
theorem poll_go_eq (leaves : Leaves timeout waited pauses) (polled : Polled α β) :
    (Program.poll.go look polled.looks pauses).bind (fun ended =>
        .done (isSettled ended.last, ended)) =
      (watch (infallible (noting look) : Condition _ Empty) timeout waited polled).bind
        fun ending => .done (isMet ending.answer, ending.memory) := by
  induction pauses generalizing waited polled with
  | zero =>
    rw [Program.poll_go_zero, watch_infallible, noting]
    simp only [Program.bind_assoc, Program.done_bind]
    congr 1
    funext seen
    rw [if_neg fun goes => goes.2 leaves.over, Program.done_bind, isMet_ok]
  | succ pauses ih =>
    rw [Program.poll_go_succ, watch_infallible, noting]
    simp only [Program.bind_assoc, Program.done_bind]
    congr 1
    funext seen
    cases seen with
    | settled result =>
      rw [if_neg fun goes => Bool.noConfusion goes.1, Program.done_bind, Program.done_bind, isMet_ok]
    | pending seen =>
      rw [if_pos ⟨rfl, leaves.early⟩]
      exact congrArg Program.pause.bind
        (funext fun _ => ih leaves.advance ⟨.pending seen, polled.looks + 1⟩)

/-- Polling with so many pauses as fit into a timeout is a wait by the counter, from any memory
without looks. -/
theorem poll_eq_await (milliseconds : Nat) (look : Nat → Program (Look α β)) (seen : Look α β) :
    (Program.poll look (intervals milliseconds)).bind (fun ended =>
        .done (isSettled ended.last, ended)) =
      await (noting look) (ofMilliseconds milliseconds) ⟨seen, 0⟩ := by
  rw [await_eq, tryAwait_eq, Program.bind_assoc]
  exact poll_go_eq (leaves_ofMilliseconds milliseconds) ⟨seen, 0⟩

/-- A program as a condition that remembers nothing. -/
def plainly (condition : Program Bool) (_ : Unit) : Program (Bool × Unit) :=
  condition.bind fun met => .done (met, ())

/-- All programs that wait for a condition do it as by the counter. -/
theorem await_eq_await (milliseconds : Nat) (condition : Program Bool) :
    Program.await condition milliseconds =
      (await (plainly condition) (ofMilliseconds milliseconds) ()).bind fun seen => .done seen.1 := by
  have forgets (polled : Polled Unit Unit) : plainly condition () =
      (noting (fun _ => Program.lookAt condition) polled).bind fun seen => .done (seen.1, ()) := by
    rw [plainly, noting, Program.lookAt]
    simp only [Program.bind_assoc, Program.done_bind]
    congr 1
    funext met
    cases met <;> rfl
  rw [Program.await_eq, await_recalls (fun _ => ()) forgets _ ⟨.pending (), 0⟩,
    ← poll_eq_await]
  simp only [Program.bind_assoc, Program.done_bind]
  congr 1
  funext ended
  cases ended.last <;> rfl

end Counting

/-- A wait with a timeout of `milliseconds` has a pause after each call that has not found the
condition met, and at most `10 * milliseconds` of them. The last call decides, and the counter shows
the pauses in full at its end. A wait for a condition of which no call fails is the same, and so is
a wait with counted pauses. -/
theorem polling_bounded {milliseconds : Nat} (fits : 1000 * milliseconds < 2 ^ 32)
    (condition : Condition σ ε) (memory : σ) :
    ((∀ memory, (condition memory).Returns) →
      (tryAwait condition (ofMilliseconds milliseconds) memory).Returns) ∧
    (∀ trace result, Runs (tryAwait condition (ofMilliseconds milliseconds) memory) trace result ↔
      ∃ count, Course condition (10 * milliseconds) count memory trace result ∧
        ((∀ memory, (condition memory).Uses fun op => op ≠ .pause) → trace.pauses = count)) ∧
    (∀ trace ending,
      Runs (watch condition (ofMilliseconds milliseconds) 0 memory) trace (some ending) →
      ∃ count, Course condition (10 * milliseconds) count memory trace
        (some (ending.answer, ending.memory)) ∧ ending.waited.toNat = 100 * count) ∧
    (∀ plain : σ → Program (Bool × σ),
      tryAwait (infallible plain : Condition σ ε) (ofMilliseconds milliseconds) memory =
        (await plain (ofMilliseconds milliseconds) memory).bind fun seen =>
          .done (.ok seen.1, seen.2)) ∧
    ∀ plain : Program Bool, Program.await plain milliseconds =
      (await (plainly plain) (ofMilliseconds milliseconds) ()).bind fun seen => .done seen.1 := by
  have leaves := leaves_ofMilliseconds milliseconds
  rw [intervals_eq fits] at leaves
  refine ⟨fun returns => ?_, fun trace result => ?_, fun trace ending run => ?_, fun plain => ?_,
    await_eq_await milliseconds⟩
  · exact Program.returns_bind (watch_returns returns _ _ _) fun _ => trivial
  · rw [runs_tryAwait_iff leaves]
    exact exists_congr fun count => (and_iff_left_of_imp Course.pauses_eq).symm
  · obtain ⟨count, result, course, same⟩ := (runs_watch_iff leaves).1 run
    obtain ⟨seen, rfl, rfl⟩ := Option.map_eq_some_iff.1 same.symm
    refine ⟨count, course, ?_⟩
    have within : count ≤ 10 * milliseconds := course.within
    change (BitVec.ofNat 32 (min (0 + 100 * count) 0xFFFFFFFF)).toNat = 100 * count
    rw [BitVec.toNat_ofNat]
    omega
  · exact tryAwait_infallible plain _ memory

/-- A condition that is met in its third call, and remembers how often it has been called. -/
def thirdCall (calls : Nat) : Program (Except Empty Bool × Nat) :=
  .done (.ok (calls == 2), calls + 1)

/-- It is met after two of the ten pauses that fit into a millisecond. -/
theorem polling_bounded_third : 1000 * 1 < 2 ^ 32 ∧
    Runs (tryAwait thirdCall (ofMilliseconds 1) 0) [⟨.pause, ()⟩, ⟨.pause, ()⟩]
      (some (.ok true, 3)) := by
  have fits : 1000 * 1 < 2 ^ 32 := by decide
  have unmet : Unmet thirdCall 2 0 ([] ++ ⟨.pause, ()⟩ :: ([] ++ [⟨.pause, ()⟩])) 2 :=
    .more (.done _) (.more (.done _) .none)
  obtain ⟨-, runs, -⟩ := polling_bounded fits thirdCall 0
  refine ⟨fits, (runs _ _).2 ⟨2, ⟨by decide, ⟨_, [], 2, rfl, unmet, .done _⟩, fun _ same => ?_⟩, ?_⟩⟩
  · cases same
  · exact fun _ => rfl

end BringUp.Timer
