import BringUp.Program.Lemmas
import BringUp.Program.Poll

/-! What a program asks for. `p.Uses allowed` says that `p` asks only questions of a kind, whatever
the answers are. Main statement: in every run all questions are of that kind. -/
namespace BringUp.Program

variable {α β ε ι : Type} {allowed : Op → Prop}

/-- Some run of the program ends with the value. -/
def Yields (p : Program α) (value : α) : Prop :=
  ∃ trace, Runs p trace (some value)

/-- Questions that only tell something. -/
def Logging : Op → Prop
  | .log _ _ => True
  | _ => False

/-- The program asks only allowed questions. -/
def Uses (allowed : Op → Prop) : Program α → Prop
  | done _ => True
  | fault => True
  | ask op next => allowed op ∧ ∀ answer, (next answer).Uses allowed

@[simp] theorem yields_done {value result : α} : (done value).Yields result ↔ result = value := by
  simp [Yields]

@[simp] theorem yields_ask {op : Op} {next : op.Answer → Program α} {result : α} :
    (ask op next).Yields result ↔ ∃ answer, (next answer).Yields result := by
  constructor
  · intro h
    obtain ⟨trace, h⟩ := h
    obtain ⟨answer, rest, -, h⟩ := Runs.ask_iff.1 h
    exact ⟨answer, rest, h⟩
  · intro h
    obtain ⟨answer, rest, h⟩ := h
    exact ⟨_, .ask answer h⟩

@[simp] theorem uses_done {value : α} : (done value).Uses allowed := trivial

@[simp] theorem uses_fault : (fault : Program α).Uses allowed := trivial

@[simp] theorem uses_ask {op : Op} {next : op.Answer → Program α} :
    (ask op next).Uses allowed ↔ allowed op ∧ ∀ answer, (next answer).Uses allowed := Iff.rfl

theorem uses_bind {p : Program α} {f : α → Program β} (first : p.Uses allowed)
    (rest : ∀ value, p.Yields value → (f value).Uses allowed) : (p.bind f).Uses allowed := by
  induction p with
  | done value => exact rest value (yields_done.2 rfl)
  | fault => trivial
  | ask op next ih =>
    exact ⟨first.1, fun answer => ih answer (first.2 answer)
      fun value h => rest value (yields_ask.2 ⟨answer, h⟩)⟩

theorem bind_congr {p : Program α} {f g : α → Program β}
    (h : ∀ value, p.Yields value → f value = g value) : p.bind f = p.bind g := by
  induction p with
  | done value => exact h value (yields_done.2 rfl)
  | fault => rfl
  | ask op next ih =>
    rw [ask_bind, ask_bind]
    congr 1
    funext answer
    exact ih answer fun value later => h value (yields_ask.2 ⟨answer, later⟩)

theorem uses_log {level : Level} {text : String} (h : allowed (.log level text)) :
    (log level text).Uses allowed := ⟨h, fun _ => trivial⟩

theorem uses_update {address : Nat} {change : Word → Word} (read : allowed (.load address))
    (write : ∀ value, allowed (.store address value)) : (update address change).Uses allowed :=
  ⟨read, fun _ => ⟨write _, fun _ => trivial⟩⟩

theorem Uses.mono {p : Program α} {other : Op → Prop} (uses : p.Uses allowed)
    (h : ∀ op, allowed op → other op) : p.Uses other := by
  induction p with
  | done _ => trivial
  | fault => trivial
  | ask op next ih => exact ⟨h op uses.1, fun answer => ih answer (uses.2 answer)⟩

theorem Uses.run_congr {σ : Type} {handle handle' : (op : Op) → σ → op.Answer × σ} {p : Program α}
    (uses : p.Uses allowed) (same : ∀ op, allowed op → ∀ state, handle op state = handle' op state)
    (state : σ) : p.run handle state = p.run handle' state := by
  induction p generalizing state with
  | done _ => rfl
  | fault => rfl
  | ask op next ih =>
    simp only [run]
    rw [same op uses.1]
    exact ih _ (uses.2 _) _

/-- The program never breaks off. -/
def Returns : Program α → Prop
  | done _ => True
  | fault => False
  | ask _ next => ∀ answer, (next answer).Returns

theorem returns_bind {p : Program α} {f : α → Program β} (first : p.Returns)
    (rest : ∀ value, (f value).Returns) : (p.bind f).Returns := by
  induction p with
  | done value => exact rest value
  | fault => exact first.elim
  | ask op next ih => exact fun answer => ih answer (first answer)

theorem Returns.run {σ : Type} {p : Program α} (returns : p.Returns)
    (handle : (op : Op) → σ → op.Answer × σ) (state : σ) :
    ∃ value, (p.run handle state).1 = some value := by
  induction p generalizing state with
  | done value => exact ⟨value, rfl⟩
  | fault => exact returns.elim
  | ask op next ih => exact ih _ (returns _) _

theorem returns_forM {items : List ι} {visit : ι → Program Unit}
    (h : ∀ item, (visit item).Returns) : (items.forM visit).Returns := by
  induction items with
  | nil => trivial
  | cons item rest ih => exact returns_bind (h item) fun _ => ih

theorem returns_poll {look : Nat → Program (Look α β)} {pauses : Nat}
    (h : ∀ index, (look index).Returns) : (poll look pauses).Returns := by
  suffices ∀ index, (poll.go look index pauses).Returns from this 0
  induction pauses with
  | zero => exact fun index => returns_bind (h index) fun _ => trivial
  | succ pauses ih =>
    intro index
    rw [poll_go_succ]
    refine returns_bind (h index) fun seen => ?_
    cases seen with
    | pending _ => exact fun _ => ih (index + 1)
    | settled _ => trivial

theorem view_run {σ τ : Type} {handle : (op : Op) → σ → op.Answer × σ} (view : σ → τ) (p : Program α)
    {state : σ} (keep : ∀ event ∈ p.trace handle state, ∀ state,
      view (handle event.op state).2 = view state) :
    view (p.run handle state).2 = view state := by
  induction p generalizing state with
  | done _ => rfl
  | fault => rfl
  | ask op next ih =>
    have here := keep _ List.mem_cons_self state
    exact (ih _ fun event member => keep event (List.mem_cons_of_mem _ member)).trans here

/-- A program that only tells something ends with at most one value. -/
theorem Yields.unique {p : Program α} {first second : α} (uses : p.Uses Logging)
    (h : p.Yields first) (h' : p.Yields second) : first = second := by
  induction p with
  | done _ => exact (yields_done.1 h).trans (yields_done.1 h').symm
  | fault =>
    have ⟨_, run⟩ := h
    cases run
  | ask op next ih =>
    cases op with
    | log level text =>
      have ⟨_, rest⟩ := yields_ask.1 h
      have ⟨_, rest'⟩ := yields_ask.1 h'
      exact ih () (uses.2 ()) rest rest'
    | _ => exact uses.1.elim

theorem uses_forM {items : List ι} {visit : ι → Program Unit}
    (h : ∀ item ∈ items, (visit item).Uses allowed) : (items.forM visit).Uses allowed := by
  induction items with
  | nil => trivial
  | cons item rest ih =>
    exact uses_bind (h item List.mem_cons_self)
      fun _ _ => ih fun item h' => h item (List.mem_cons_of_mem _ h')

theorem uses_foldlM {items : List ι} {visit : β → ι → Program β} {start : β}
    (h : ∀ state, ∀ item ∈ items, (visit state item).Uses allowed) :
    (items.foldlM visit start).Uses allowed := by
  induction items generalizing start with
  | nil => trivial
  | cons item rest ih =>
    exact uses_bind (h start item List.mem_cons_self)
      fun _ _ => ih fun state item h' => h state item (List.mem_cons_of_mem _ h')

theorem uses_poll {look : Nat → Program (Look α β)} {pauses : Nat}
    (h : ∀ index, (look index).Uses allowed) (pause : allowed .pause) :
    (poll look pauses).Uses allowed := by
  suffices ∀ index, (poll.go look index pauses).Uses allowed from this 0
  induction pauses with
  | zero => exact fun index => uses_bind (h index) fun _ _ => trivial
  | succ pauses ih =>
    intro index
    rw [poll_go_succ]
    refine uses_bind (h index) fun seen _ => ?_
    cases seen with
    | pending _ => exact ⟨pause, fun _ => ih (index + 1)⟩
    | settled _ => trivial

theorem uses_await {condition : Program Bool} {milliseconds : Nat}
    (h : condition.Uses allowed) (pause : allowed .pause) :
    (await condition milliseconds).Uses allowed := by
  refine uses_bind (uses_poll (fun _ => uses_bind h fun holds _ => ?_) pause) fun polled _ => ?_
  · cases holds <;> trivial
  · cases polled.last <;> trivial

theorem uses_run_bind {m : ExceptT ε Program α} {f : α → ExceptT ε Program β}
    (first : m.run.Uses allowed) (rest : ∀ value, m.run.Yields (.ok value) →
      (f value).run.Uses allowed) : (m >>= f).run.Uses allowed := by
  rw [ExceptT.run_bind]
  refine uses_bind first fun result h => ?_
  cases result with
  | error _ => trivial
  | ok value => exact rest value h

theorem uses_run_program {p : Program α} (h : p.Uses allowed) :
    (liftM p : ExceptT ε Program α).run.Uses allowed :=
  uses_bind h fun _ _ => trivial

end BringUp.Program

namespace BringUp.Runs

variable {α : Type} {trace : Trace} {p : Program α} {result : Option α} {allowed : Op → Prop}

/-- All questions of a run are of the kind that the program asks. -/
theorem uses (run : Runs p trace result) (h : p.Uses allowed) : ∀ event ∈ trace, allowed event.op := by
  induction run with
  | done _ => simp
  | fault => simp
  | ask answer _ ih =>
    rintro event (_ | ⟨_, member⟩)
    · exact h.1
    · exact ih (h.2 answer) event member

theorem returned (run : Runs p trace result) (h : p.Returns) : ∃ value, result = some value := by
  induction run with
  | done value => exact ⟨value, rfl⟩
  | fault => exact h.elim
  | ask answer _ ih => exact ih (h answer)

theorem bind_returned {β : Type} {f : α → Program β} {result : Option β}
    (run : Runs (p.bind f) trace result) (h : p.Returns) : ∃ first second value,
      trace = first ++ second ∧ Runs p first (some value) ∧ Runs (f value) second result := by
  obtain parts | ⟨-, broken⟩ := bind_iff.1 run
  · exact parts
  · obtain ⟨_, same⟩ := broken.returned h
    cases same

theorem run_program_returned {β ε : Type} {f : α → ExceptT ε Program β}
    {result : Option (Except ε β)}
    (run : Runs ((liftM p : ExceptT ε Program α) >>= f).run trace result) (h : p.Returns) :
    ∃ first second value, trace = first ++ second ∧ Runs p first (some value) ∧
      Runs (f value).run second result := by
  refine bind_returned ?_ h
  rw [ExceptT.run_bind] at run
  change Runs ((p.bind fun value => Program.done (Except.ok value)).bind _) trace result at run
  rw [Program.bind_assoc] at run
  exact run

theorem result_of_logging {σ : Type} (handle : (op : Op) → σ → op.Answer × σ) (state : σ)
    (run : Runs p trace result) (h : p.Uses Program.Logging) :
    (p.run handle state).1 = result := by
  induction run generalizing state with
  | done _ => rfl
  | fault => rfl
  | @ask op next rest result answer _ ih =>
    cases op with
    | log level text => exact ih _ (h.2 answer)
    | _ => exact h.1.elim

end BringUp.Runs
