import BringUp.Iossm.Sequence.Lemmas
import BringUp.Proofs.Program.Footprint
import BringUp.Proofs.Program.Runs

/-! Runs of sequences. `Performs` relates the bookkeeping before and after a run, the trace and the
result. Each way to build a sequence has one law. -/
namespace BringUp.Iossm.Sequence

variable {α β ι : Type} {before after : Subsystem} {trace : Trace} {allowed : Op → Prop}

/-- The sequence, performed on the bookkeeping `before`, ends with the result and leaves
`after`. -/
def Performs (sequence : Sequence α) (before : Subsystem) (trace : Trace) (result : Except Error α)
    (after : Subsystem) : Prop :=
  Runs (sequence.perform before) trace (some (result, after))

theorem performs_pure {value : α} {result : Except Error α} :
    Performs (pure value) before trace result after ↔
      trace = [] ∧ result = .ok value ∧ after = before := by
  simp [Performs]

theorem performs_throw {cause : Error} {result : Except Error α} :
    Performs (throw cause) before trace result after ↔
      trace = [] ∧ result = .error cause ∧ after = before := by
  simp [Performs]

theorem performs_get {result : Except Error Subsystem} :
    Performs get before trace result after ↔
      trace = [] ∧ result = .ok before ∧ after = before := by
  simp [Performs]

theorem performs_modify {change : Subsystem → Subsystem} {result : Except Error Unit} :
    Performs (modify change) before trace result after ↔
      trace = [] ∧ result = .ok () ∧ after = change before := by
  simp [Performs]

theorem performs_bind {sequence : Sequence α} {f : α → Sequence β} {result : Except Error β} :
    Performs (sequence >>= f) before trace result after ↔
      (∃ first second value middle, trace = first ++ second ∧
        Performs sequence before first (.ok value) middle ∧
        Performs (f value) middle second result after) ∨
      (∃ cause, result = .error cause ∧ Performs sequence before trace (.error cause) after) := by
  simp only [Performs, perform_bind, Runs.bind_iff]
  constructor
  · intro h
    obtain ⟨first, second, ⟨value | value, middle⟩, rfl, hs, hf⟩ | ⟨h, _⟩ := h
    · obtain ⟨rfl, h⟩ := Runs.done_iff.1 hf
      cases h
      exact .inr ⟨value, rfl, by simpa using hs⟩
    · exact .inl ⟨first, second, value, middle, rfl, hs, hf⟩
    · cases h
  · intro h
    obtain ⟨first, second, value, middle, rfl, hs, hf⟩ | ⟨cause, rfl, h⟩ := h
    · exact .inl ⟨first, second, (.ok value, middle), rfl, hs, hf⟩
    · exact .inl ⟨trace, [], (.error cause, after), by simp, h, .done _⟩

/-- A successful composed sequence is a successful run of both parts. -/
theorem performs_bind_ok {sequence : Sequence α} {f : α → Sequence β} {value : β} :
    Performs (sequence >>= f) before trace (.ok value) after ↔
      ∃ first second middle between, trace = first ++ second ∧
        Performs sequence before first (.ok between) middle ∧
        Performs (f between) middle second (.ok value) after := by
  rw [performs_bind]
  constructor
  · intro h
    obtain ⟨first, second, between, middle, h⟩ | ⟨cause, h, _⟩ := h
    · exact ⟨first, second, middle, between, h⟩
    · cases h
  · intro h
    obtain ⟨first, second, middle, between, h⟩ := h
    exact .inl ⟨first, second, between, middle, h⟩

theorem performs_get_bind {f : Subsystem → Sequence β} {result : Except Error β} :
    Performs (get >>= f) before trace result after ↔
      Performs (f before) before trace result after := by
  simp [Performs, perform_bind]

theorem performs_modify_bind {change : Subsystem → Subsystem} {f : Unit → Sequence β}
    {result : Except Error β} : Performs (modify change >>= f) before trace result after ↔
      Performs (f ()) (change before) trace result after := by
  simp [Performs, perform_bind]

theorem performs_program {program : Program α} {result : Except Error α} :
    Performs (liftM program) before trace result after ↔
      ∃ value, Runs program trace (some value) ∧ result = .ok value ∧ after = before := by
  rw [Performs, perform_program, Runs.bind_iff]
  constructor
  · intro h
    obtain ⟨first, second, value, rfl, hp, h⟩ | ⟨h, _⟩ := h
    · obtain ⟨rfl, h⟩ := Runs.done_iff.1 h
      cases h
      exact ⟨value, by simpa using hp, rfl, rfl⟩
    · cases h
  · intro h
    obtain ⟨value, hp, rfl, rfl⟩ := h
    exact .inl ⟨trace, [], value, by simp, hp, .done _⟩

theorem performs_log {level : Level} {text : String} {result : Except Error Unit} :
    Performs (liftM (Program.log level text)) before trace result after ↔
      trace = [⟨.log level text, ()⟩] ∧ result = .ok () ∧ after = before := by
  rw [performs_program]
  constructor
  · intro h
    obtain ⟨_, h, rfl, rfl⟩ := h
    exact ⟨(Runs.log_iff.1 h).1, rfl, rfl⟩
  · intro h
    obtain ⟨rfl, rfl, rfl⟩ := h
    exact ⟨(), Runs.log_iff.2 ⟨rfl, rfl⟩, rfl, rfl⟩

/-- A plain program does not fail, so what follows it makes the rest of the run. -/
theorem performs_program_bind {program : Program α} {f : α → Sequence β}
    {result : Except Error β} : Performs (liftM program >>= f) before trace result after ↔
      ∃ first second value, trace = first ++ second ∧ Runs program first (some value) ∧
        Performs (f value) before second result after := by
  rw [performs_bind]
  constructor
  · intro h
    obtain ⟨first, second, value, middle, rfl, here, later⟩ | ⟨cause, -, failed⟩ := h
    · obtain ⟨_, ran, same, rfl⟩ := performs_program.1 here
      cases same
      exact ⟨first, second, value, rfl, ran, later⟩
    · obtain ⟨_, -, same, -⟩ := performs_program.1 failed
      cases same
  · intro h
    obtain ⟨first, second, value, rfl, ran, later⟩ := h
    exact .inl ⟨first, second, value, before, rfl, performs_program.2 ⟨value, ran, rfl, rfl⟩, later⟩

theorem performs_log_bind {level : Level} {text : String} {f : Unit → Sequence β}
    {result : Except Error β} :
    Performs (liftM (Program.log level text) >>= f) before trace result after ↔
      ∃ rest, trace = ⟨.log level text, ()⟩ :: rest ∧ Performs (f ()) before rest result after := by
  rw [performs_program_bind]
  constructor
  · intro h
    obtain ⟨first, second, _, rfl, told, later⟩ := h
    obtain ⟨rfl, -⟩ := Runs.log_iff.1 told
    exact ⟨second, rfl, later⟩
  · intro h
    obtain ⟨rest, rfl, later⟩ := h
    exact ⟨[_], rest, (), rfl, Runs.log_iff.2 ⟨rfl, rfl⟩, later⟩

/-- A command is one question, whose answer decides. -/
theorem performs_send {unit : Nat} {command : Command} {result : Except Error Answer} :
    Performs (send unit command) before trace result after ↔
      ∃ reply, trace = [⟨.request unit command, reply⟩] ∧ after = before ∧
        result = reply.mapError (.mailbox unit) := by
  rw [Performs, perform_send]
  simp only [Program.request, Program.ask_bind, Program.done_bind, Runs.ask_iff]
  constructor
  · intro h
    obtain ⟨reply, rest, rfl, h⟩ := h
    cases reply with
    | ok answer => obtain ⟨rfl, h⟩ := Runs.done_iff.1 h; cases h; exact ⟨_, rfl, rfl, rfl⟩
    | error cause => obtain ⟨rfl, h⟩ := Runs.done_iff.1 h; cases h; exact ⟨_, rfl, rfl, rfl⟩
  · intro h
    obtain ⟨reply, rfl, rfl, rfl⟩ := h
    refine ⟨reply, [], rfl, ?_⟩
    cases reply <;> exact .done _

theorem performs_send_ok {unit : Nat} {command : Command} {answer : Answer} :
    Performs (send unit command) before trace (.ok answer) after ↔
      trace = [⟨.request unit command, .ok answer⟩] ∧ after = before := by
  rw [performs_send]
  constructor
  · rintro ⟨_ | reply, rfl, rfl, h⟩ <;> cases h
    exact ⟨rfl, rfl⟩
  · intro h
    obtain ⟨rfl, rfl⟩ := h
    exact ⟨_, rfl, rfl, rfl⟩

/-- A command without an answer ends the sequence. -/
theorem performs_send_bind {unit : Nat} {command : Command} {f : Answer → Sequence β}
    {result : Except Error β} : Performs (send unit command >>= f) before trace result after ↔
      (∃ answer rest, trace = ⟨.request unit command, .ok answer⟩ :: rest ∧
        Performs (f answer) before rest result after) ∨
      ∃ cause, trace = [⟨.request unit command, .error cause⟩] ∧
        result = .error (.mailbox unit cause) ∧ after = before := by
  rw [performs_bind]
  constructor
  · intro h
    obtain ⟨first, second, answer, middle, rfl, sent, later⟩ | ⟨cause, rfl, failed⟩ := h
    · obtain ⟨rfl, rfl⟩ := performs_send_ok.1 sent
      exact .inl ⟨answer, second, rfl, later⟩
    · obtain ⟨_ | answer, rfl, rfl, same⟩ := performs_send.1 failed
      · cases same
        exact .inr ⟨_, rfl, rfl, rfl⟩
      · cases same
  · intro h
    obtain ⟨answer, rest, rfl, later⟩ | ⟨cause, rfl, rfl, rfl⟩ := h
    · exact .inl ⟨[_], rest, answer, before, rfl, performs_send_ok.2 ⟨rfl, rfl⟩, later⟩
    · exact .inr ⟨_, rfl, performs_send.2 ⟨.error cause, rfl, rfl, rfl⟩⟩

theorem performs_requireMailbox {mailboxes unit : Nat} {result : Except Error Unit} :
    Performs (requireMailbox mailboxes unit) before trace result after ↔
      trace = [] ∧ after = before ∧
        result = if unit < mailboxes then .ok () else .error (.missingMailbox unit) := by
  unfold requireMailbox
  split <;> simp [performs_pure, performs_throw, and_comm]

/-- What the visits of a loop keep true of the items seen so far holds of all items at its end, or
up to an item whose visit fails. -/
theorem performs_foldlM_cases {visit : β → ι → Sequence β} {items : List ι} {start : β}
    {result : Except Error β} (Inv : List ι → β → Subsystem → Trace → Prop)
    (init : Inv [] start before [])
    (step : ∀ {seen : List ι} {item : ι} {state next : β} {middle left : Subsystem}
      {first second : Trace}, item ∈ items → Inv seen state middle first →
      Performs (visit state item) middle second (.ok next) left →
      Inv (seen ++ [item]) next left (first ++ second))
    (run : Performs (items.foldlM visit start) before trace result after) :
    (∃ value, result = .ok value ∧ Inv items value after trace) ∨
      ∃ cause seen item rest state middle first second, result = .error cause ∧
        items = seen ++ item :: rest ∧ trace = first ++ second ∧ Inv seen state middle first ∧
        Performs (visit state item) middle second (.error cause) after := by
  suffices ∀ rest seen, items = seen ++ rest → ∀ {state middle first second},
      Inv seen state middle first → Performs (rest.foldlM visit state) middle second result after →
      (∃ value, result = .ok value ∧ Inv items value after (first ++ second)) ∨
        ∃ cause seen item rest state middle before after', result = .error cause ∧
          items = seen ++ item :: rest ∧ first ++ second = before ++ after' ∧
          Inv seen state middle before ∧
          Performs (visit state item) middle after' (.error cause) after from
    this items [] rfl init run
  intro rest
  induction rest with
  | nil =>
    intro seen split state middle first second inv run
    obtain ⟨rfl, rfl, rfl⟩ := performs_pure.1 run
    rw [List.append_nil] at split ⊢
    exact .inl ⟨state, rfl, split ▸ inv⟩
  | cons item rest ih =>
    intro seen split state middle first second inv run
    have here : item ∈ items := by simp [split]
    obtain ⟨visited, left, next, between, rfl, visitRun, restRun⟩ | ⟨cause, rfl, failed⟩ :=
      performs_bind.1 run
    · rw [← List.append_assoc]
      exact ih (seen ++ [item]) (by simp [split]) (step here inv visitRun) restRun
    · exact .inr ⟨cause, seen, item, rest, state, middle, first, second, rfl, split, rfl, inv,
        failed⟩

/-- What the visits of a loop keep true of the items seen so far holds of all items at its end. -/
theorem performs_foldlM {visit : β → ι → Sequence β} {items : List ι} {start result : β}
    (Inv : List ι → β → Subsystem → Trace → Prop) (init : Inv [] start before [])
    (step : ∀ {seen : List ι} {item : ι} {state next : β} {middle left : Subsystem}
      {first second : Trace}, item ∈ items → Inv seen state middle first →
      Performs (visit state item) middle second (.ok next) left →
      Inv (seen ++ [item]) next left (first ++ second))
    (run : Performs (items.foldlM visit start) before trace (.ok result) after) :
    Inv items result after trace := by
  obtain ⟨_, same, inv⟩ | ⟨_, _, _, _, _, _, _, _, same, _⟩ :=
    performs_foldlM_cases Inv init step run
  · cases same
    exact inv
  · cases same

theorem forM_eq_foldlM (visit : ι → Sequence Unit) (items : List ι) :
    items.forM visit = items.foldlM (fun _ item => visit item) () := by
  induction items with
  | nil => rfl
  | cons item rest ih => exact congrArg (visit item >>= ·) (funext fun _ => ih)

theorem performs_forM_cases {visit : ι → Sequence Unit} {items : List ι}
    {result : Except Error Unit} (Inv : List ι → Subsystem → Trace → Prop) (init : Inv [] before [])
    (step : ∀ {seen : List ι} {item : ι} {middle left : Subsystem} {first second : Trace},
      item ∈ items → Inv seen middle first →
      Performs (visit item) middle second (.ok ()) left → Inv (seen ++ [item]) left (first ++ second))
    (run : Performs (items.forM visit) before trace result after) :
    (result = .ok () ∧ Inv items after trace) ∨
      ∃ cause seen item rest middle first second, result = .error cause ∧
        items = seen ++ item :: rest ∧ trace = first ++ second ∧ Inv seen middle first ∧
        Performs (visit item) middle second (.error cause) after := by
  rw [forM_eq_foldlM] at run
  obtain ⟨_, same, inv⟩ | ⟨cause, seen, item, rest, _, middle, first, second, failed⟩ :=
    performs_foldlM_cases (fun seen _ => Inv seen) init (fun member inv run => step member inv run)
      run
  · exact .inl ⟨same, inv⟩
  · exact .inr ⟨cause, seen, item, rest, middle, first, second, failed⟩

theorem performs_forM {visit : ι → Sequence Unit} {items : List ι}
    (Inv : List ι → Subsystem → Trace → Prop) (init : Inv [] before [])
    (step : ∀ {seen : List ι} {item : ι} {middle left : Subsystem} {first second : Trace},
      item ∈ items → Inv seen middle first →
      Performs (visit item) middle second (.ok ()) left → Inv (seen ++ [item]) left (first ++ second))
    (run : Performs (items.forM visit) before trace (.ok ()) after) : Inv items after trace := by
  obtain ⟨-, inv⟩ | ⟨_, _, _, _, _, _, _, same, _⟩ := performs_forM_cases Inv init step run
  · exact inv
  · cases same

theorem performs_unique {sequence : Sequence α} {result result' : Except Error α}
    {after' : Subsystem} (run : Performs sequence before trace result after)
    (run' : Performs sequence before trace result' after') : result' = result ∧ after' = after := by
  have quiet : ∀ event ∈ ([] : Trace), ∀ answer : event.op.Answer, answer = event.answer :=
    fun _ member => absurd member List.not_mem_nil
  rw [Performs, ← List.append_nil trace] at run run'
  obtain ⟨-, same⟩ := Runs.determined quiet run run'
  cases same
  exact ⟨rfl, rfl⟩

/-- A visit of the instances sees each of them once, in order and as it was at the start, up to one
that fails. -/
theorem performs_forInstances_cases {visit : Nat → Instance → Sequence α}
    {result : Except Error (List α)} (Inv : List α → Subsystem → Trace → Prop)
    (init : Inv [] before [])
    (step : ∀ {seen : List α} {record : Instance} {value : α} {middle left : Subsystem}
      {first second : Trace}, before.instances[seen.length]? = some record → Inv seen middle first →
      Performs (visit seen.length record) middle second (.ok value) left →
      Inv (seen ++ [value]) left (first ++ second))
    (run : Performs (forInstances visit) before trace result after) :
    (∃ results, result = .ok results ∧ results.length = before.instances.length ∧
        Inv results after trace) ∨
      ∃ (cause : Error) (seen : List α) (record : Instance) (middle : Subsystem)
        (first second : Trace), result = .error cause ∧ trace = first ++ second ∧
        before.instances[seen.length]? = some record ∧ Inv seen middle first ∧
        Performs (visit seen.length record) middle second (.error cause) after := by
  change Performs (before.instances.zipIdx.mapM fun item => visit item.2 item.1) before trace result
    after at run
  suffices ∀ (rest : List Instance) (seen : List α) {middle first second result},
      before.instances.drop seen.length = rest → seen.length ≤ before.instances.length →
      Inv seen middle first →
      Performs ((rest.zipIdx seen.length).mapM fun item => visit item.2 item.1) middle second
        result after →
      (∃ results, result = .ok results ∧ (seen ++ results).length = before.instances.length ∧
          Inv (seen ++ results) after (first ++ second)) ∨
        ∃ (cause : Error) (seen : List α) (record : Instance) (middle : Subsystem)
          (early late : Trace), result = .error cause ∧ first ++ second = early ++ late ∧
          before.instances[seen.length]? = some record ∧ Inv seen middle early ∧
          Performs (visit seen.length record) middle late (.error cause) after from
    this before.instances [] rfl (Nat.zero_le _) init run
  intro rest
  induction rest with
  | nil =>
    intro seen middle first second result left inside inv run
    obtain ⟨rfl, rfl, rfl⟩ := performs_pure.1 run
    have := List.drop_eq_nil_iff.1 left
    exact .inl ⟨[], rfl, by simpa using Nat.le_antisymm inside this, by simpa using inv⟩
  | cons record rest ih =>
    intro seen middle first second result left inside inv run
    have found : before.instances[seen.length]? = some record := by
      have := congrArg List.head? left
      simpa using this
    rw [List.zipIdx_cons, List.mapM_cons] at run
    obtain ⟨visited, _, value, between, rfl, visitRun, run⟩ | ⟨cause, rfl, failed⟩ :=
      performs_bind.1 run
    · have remaining : before.instances.drop (seen ++ [value]).length = rest := by
        rw [List.length_append, ← List.drop_drop, left]
        rfl
      have further : (seen ++ [value]).length ≤ before.instances.length := by
        rw [List.length_append]
        exact (List.getElem?_eq_some_iff.1 found).1
      have visits : ∀ {late result}, Performs ((rest.zipIdx (seen.length + 1)).mapM fun item =>
          visit item.2 item.1) between late result after → _ := fun tail =>
        ih (seen ++ [value]) remaining further (step found inv visitRun) (by simpa using tail)
      simp only [List.append_assoc, List.singleton_append] at visits
      obtain ⟨late, _, values, _, rfl, tail, done⟩ | ⟨cause, rfl, failed⟩ := performs_bind.1 run
      · obtain ⟨rfl, rfl, rfl⟩ := performs_pure.1 done
        obtain ⟨_, same, all, inv⟩ | ⟨_, _, _, _, _, _, same, _⟩ := visits tail
        · cases same
          exact .inl ⟨value :: values, rfl, all, by simpa using inv⟩
        · cases same
      · obtain ⟨_, same, _⟩ | failure := visits failed
        · cases same
        · exact .inr failure
    · exact .inr ⟨cause, seen, record, middle, first, second, rfl, rfl, found, inv, failed⟩

theorem performs_forInstances {visit : Nat → Instance → Sequence α} {results : List α}
    (Inv : List α → Subsystem → Trace → Prop) (init : Inv [] before [])
    (step : ∀ {seen : List α} {record : Instance} {value : α} {middle left : Subsystem}
      {first second : Trace}, before.instances[seen.length]? = some record → Inv seen middle first →
      Performs (visit seen.length record) middle second (.ok value) left →
      Inv (seen ++ [value]) left (first ++ second))
    (run : Performs (forInstances visit) before trace (.ok results) after) :
    results.length = before.instances.length ∧ Inv results after trace := by
  obtain ⟨_, same, all⟩ | ⟨_, _, _, _, _, _, same, _⟩ := performs_forInstances_cases Inv init step run
  · cases same
    exact all
  · cases same

end BringUp.Iossm.Sequence
