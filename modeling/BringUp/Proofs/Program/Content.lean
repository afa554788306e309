import BringUp.Proofs.Program.Runs

/-! The content of a register during a run. `Trace.content` is the word that the run stored to it
last, and `Trace.Tracks` says that all reads of the trace agree with it. -/
namespace BringUp.Trace

variable {trace first second : Trace} {address : Nat} {initial : Word}

/-- Content of the register at an address after the trace, if it was `initial` before. -/
def content (address : Nat) (initial : Word) (trace : Trace) : Word :=
  trace.foldl (fun word event =>
    match event.op with
    | .store target value => if target = address then value else word
    | _ => word) initial

/-- Every read of the register gets its content, so nobody else has written it. -/
def Tracks (address : Nat) (initial : Word) (trace : Trace) : Prop :=
  ∀ before answer after, trace = before ++ ⟨.load address, answer⟩ :: after →
    answer = content address initial before

@[simp] theorem content_nil : content address initial [] = initial := rfl

@[simp] theorem content_append : content address initial (first ++ second) =
    content address (content address initial first) second :=
  List.foldl_append

theorem content_store {target : Nat} {value : Word} {answer : Unit} :
    content address initial [⟨.store target value, answer⟩] =
      if target = address then value else initial := rfl

/-- Stores to other addresses leave the register alone. -/
theorem content_of_stores_ne (h : ∀ store ∈ trace.stores, store.1 ≠ address) :
    content address initial trace = initial := by
  induction trace generalizing initial with
  | nil => rfl
  | cons event rest ih =>
    have tail : ∀ store ∈ stores rest, store.1 ≠ address := by
      intro store member
      apply h store
      rw [← List.singleton_append, stores_append]
      exact List.mem_append_right _ member
    obtain ⟨op, answer⟩ := event
    cases op with
    | store target value =>
      have ne : target ≠ address := h (target, value) (mem_stores.2 List.mem_cons_self)
      simpa [content, ne] using ih tail
    | _ => exact ih tail

/-- Content of the register at an address after these stores, if it was `initial` before. -/
def written (address : Nat) (initial : Word) (stores : List (Nat × Word)) : Word :=
  stores.foldl (fun word store => if store.1 = address then store.2 else word) initial

@[simp] theorem written_nil : written address initial [] = initial := rfl

@[simp] theorem written_cons {store : Nat × Word} {stores : List (Nat × Word)} :
    written address initial (store :: stores) =
      written address (if store.1 = address then store.2 else initial) stores := rfl

theorem content_eq_written : content address initial trace = written address initial trace.stores := by
  induction trace generalizing initial with
  | nil => rfl
  | cons event rest ih =>
    obtain ⟨op, answer⟩ := event
    cases op with
    | store target value =>
      have split : stores (⟨.store target value, answer⟩ :: rest) = (target, value) :: stores rest :=
        rfl
      rw [split, written_cons, ← ih]
      rfl
    | _ => exact ih

/-- Stores to other addresses may be left out. -/
theorem written_filter {keep : Nat × Word → Bool} (kept : ∀ value, keep (address, value) = true)
    (stores : List (Nat × Word)) :
    written address initial (stores.filter keep) = written address initial stores := by
  induction stores generalizing initial with
  | nil => rfl
  | cons store rest ih =>
    obtain ⟨target, value⟩ := store
    by_cases same : target = address
    · subst same
      rw [List.filter_cons_of_pos (kept value), written_cons, written_cons, ih]
    · cases chosen : keep (target, value) with
      | false => rw [List.filter_cons_of_neg (by simp [chosen]), written_cons, if_neg same, ih]
      | true => rw [List.filter_cons_of_pos chosen, written_cons, written_cons, ih]

/-- A register that is written, and always with the same value, holds that value. -/
theorem content_of_stores_eq {value : Word} (written : (address, value) ∈ trace.stores)
    (same : ∀ other, (address, other) ∈ trace.stores → other = value) :
    content address initial trace = value := by
  induction trace generalizing initial with
  | nil => simp [stores] at written
  | cons event rest ih =>
    have split : stores (event :: rest) = stores [event] ++ stores rest := by
      rw [← stores_append, List.singleton_append]
    rw [split] at written same
    by_cases later : (address, value) ∈ stores rest
    · exact ih later fun other member => same other (List.mem_append_right _ member)
    · have head := (List.mem_append.1 written).resolve_right later
      have same_event := List.mem_singleton.1 (mem_stores.1 head)
      rw [← List.singleton_append, content_append, ← same_event]
      rw [content_store, if_pos rfl]
      apply content_of_stores_ne
      rintro ⟨target, other⟩ member rfl
      rw [same other (List.mem_append_right _ member)] at member
      exact later member

theorem content_of_allowed {allowed : Op → Prop} (h : ∀ event ∈ trace, allowed event.op)
    (other : ∀ value, ¬ allowed (.store address value)) : content address initial trace = initial := by
  apply content_of_stores_ne
  rintro ⟨target, value⟩ member rfl
  exact other value (h _ (mem_stores.1 member))

theorem stores_eq_nil {allowed : Op → Prop} (h : ∀ event ∈ trace, allowed event.op)
    (other : ∀ address value, ¬ allowed (.store address value)) : trace.stores = [] :=
  List.eq_nil_iff_forall_not_mem.2 fun (_, _) member => other _ _ (h _ (mem_stores.1 member))

theorem requests_eq_nil {allowed : Op → Prop} (h : ∀ event ∈ trace, allowed event.op)
    (other : ∀ unit command, ¬ allowed (.request unit command)) : trace.requests = [] :=
  List.eq_nil_iff_forall_not_mem.2 fun (_, _, _) member => other _ _ (h _ (mem_requests.1 member))

theorem probes_eq_nil {allowed : Op → Prop} (h : ∀ event ∈ trace, allowed event.op)
    (other : ∀ start size, ¬ allowed (.probe start size)) : trace.probes = [] :=
  List.eq_nil_iff_forall_not_mem.2 fun (_, _, _) member => other _ _ (h _ (mem_probes.1 member))

theorem Tracks.left (h : Tracks address initial (first ++ second)) :
    Tracks address initial first := by
  intro before answer after split
  subst split
  exact h before answer (after ++ second) (by simp)

theorem Tracks.right (h : Tracks address initial (first ++ second)) :
    Tracks address (content address initial first) second := by
  intro before answer after split
  subst split
  rw [← content_append]
  exact h (first ++ before) answer after (by simp)

theorem Tracks.head {answer : Word} (h : Tracks address initial (⟨.load address, answer⟩ :: trace)) :
    answer = initial :=
  h [] answer trace rfl

/-- A handler that keeps the register as a part of its state is nobody else. -/
theorem tracks_of_handler {α σ : Type} {handle : (op : Op) → σ → op.Answer × σ} (view : σ → Word)
    (load : ∀ state, (handle (.load address) state).1 = view state)
    (keep : ∀ op state, view (handle op state).2 = content address (view state) [⟨op, (handle op state).1⟩])
    (p : Program α) (state : σ) : Tracks address (view state) (p.trace handle state) := by
  induction p generalizing state with
  | done _ => rintro (_ | _) _ _ h <;> cases h
  | fault => rintro (_ | _) _ _ h <;> cases h
  | ask op next ih =>
    rintro (_ | ⟨event, before⟩) answer after h
    · injection h with head
      cases head
      exact load state
    · injection h with head tail
      subst head
      have := ih _ _ before answer after tail
      rw [keep] at this
      simpa [content] using this

end BringUp.Trace

namespace BringUp.Runs

theorem stores_of_forM {ι : Type} {trace : Trace} {items : List ι} {visit : ι → Program Unit}
    {written : ι → List (Nat × Word)}
    (each : ∀ item trace, Runs (visit item) trace (some ()) → trace.stores = written item)
    (run : Runs (items.forM visit) trace (some ())) : trace.stores = items.flatMap written := by
  induction items generalizing trace with
  | nil =>
    have ⟨nothing, _⟩ := done_iff.1 run
    rw [nothing]
    rfl
  | cons item rest ih =>
    obtain ⟨here, there, _, rfl, first, second⟩ := bind_some_iff.1 run
    rw [Trace.stores_append, each item here first, ih second, List.flatMap_cons]

theorem update_tracked {address : Nat} {change : Word → Word} {initial : Word} {trace : Trace}
    {result : Option Unit} (run : Runs (Program.update address change) trace result)
    (tracks : trace.Tracks address initial) : trace.stores = [(address, change initial)] := by
  obtain ⟨word, rfl, -⟩ := update_iff.1 run
  rw [tracks.head]
  rfl

end BringUp.Runs
