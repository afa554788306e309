import BringUp.Proofs.Iossm.Bookkeeping
import BringUp.Proofs.Iossm.Completion
import BringUp.Proofs.Iossm.Inventory
import BringUp.Proofs.Iossm.Replies

/-! Agreement on the technology. Main statement: an inquiry that is answered succeeds exactly if no
known technology is followed by a different one, and names the first interface where one is. -/
namespace BringUp.Iossm

open Sequence

/-- The technology that an answer reports. -/
def Answer.technology (answer : Answer) : Technology :=
  Technology.ofCode (answer.shortData &&& 0b111).toNat

section Types

variable {types : List Technology} {type : Technology} {index : Nat}

/-- No known technology is followed by a different one. -/
def Uniform (types : List Technology) : Prop :=
  types.Pairwise fun earlier later => earlier = .unknown ∨ later = earlier

/-- All technologies are the same. -/
def Unanimous (types : List Technology) : Prop :=
  ∀ type ∈ types, ∀ other ∈ types, type = other

/-- Unknown technologies come before known ones, which are all the same. -/
def UnknownFirst (types : List Technology) : Prop :=
  ∃ unknowns known shared, shared ≠ Technology.unknown ∧
    types = List.replicate (unknowns + 1) .unknown ++ List.replicate (known + 1) shared

/-- The technology of the last interface, which is unknown if there is none. -/
def common (types : List Technology) : Technology :=
  types.getLast?.getD .unknown

/-- The first technology that differs from a known one before it. -/
def FirstMismatch (types : List Technology) (index : Nat) : Prop :=
  Uniform (types.take index) ∧ common (types.take index) ≠ .unknown ∧
    ∃ type, types[index]? = some type ∧ type ≠ common (types.take index)

@[simp] theorem common_append_singleton : common (types ++ [type]) = type := by
  simp [common]

theorem Unanimous.uniform (unanimous : Unanimous types) : Uniform types :=
  List.pairwise_of_forall_mem_list fun earlier before later after =>
    .inr (unanimous later after earlier before)

theorem Unanimous.common_eq (unanimous : Unanimous types) (member : type ∈ types) :
    common types = type := by
  obtain ⟨front, last, rfl⟩ := (List.eq_nil_or_concat types).resolve_left (List.ne_nil_of_mem member)
  rw [List.concat_eq_append] at unanimous member ⊢
  rw [common_append_singleton]
  exact unanimous last (by simp) type member

/-- One more interface agrees if the common technology is unknown or is its own. -/
theorem uniform_append_singleton_iff :
    Uniform (types ++ [type]) ↔ Uniform types ∧ (common types = .unknown ∨ type = common types) := by
  rw [Uniform, List.pairwise_append]
  simp only [List.pairwise_singleton, List.mem_singleton, true_and]
  refine and_congr_right fun uniform => ?_
  obtain rfl | ⟨front, last, rfl⟩ := List.eq_nil_or_concat types
  · simp [common]
  · rw [List.concat_eq_append, List.pairwise_append] at uniform
    rw [List.concat_eq_append, common_append_singleton]
    constructor
    · exact fun agrees => agrees last (by simp) type rfl
    · -- A known technology before the last one is that of the last one.
      rintro agrees earlier member _ rfl
      obtain before | same := List.mem_append.1 member
      · obtain none | rfl := uniform.2.2 earlier before last (by simp)
        · exact .inl none
        · exact agrees
      · obtain rfl := List.mem_singleton.1 same
        exact agrees

theorem firstMismatch_append {front later : List Technology} (uniform : Uniform front)
    (known : common front ≠ .unknown) (differs : type ≠ common front) :
    FirstMismatch (front ++ type :: later) front.length := by
  rw [FirstMismatch, List.take_left]
  exact ⟨uniform, known, type, by simp, differs⟩

theorem FirstMismatch.not_uniform (mismatch : FirstMismatch types index) : ¬ Uniform types := by
  obtain ⟨-, known, type, found, differs⟩ := mismatch
  intro uniform
  have upTo : types.take (index + 1) = types.take index ++ [type] := by
    rw [List.take_add_one, found, Option.toList_some]
  have earlier : Uniform (types.take index ++ [type]) :=
    upTo ▸ List.Pairwise.sublist (List.take_sublist _ _) uniform
  exact (uniform_append_singleton_iff.1 earlier).2.elim known differs

/-- Unknown technologies come first, and the others are all the same. -/
theorem uniform_iff : Uniform types ↔ ∃ unknowns known shared,
    types = List.replicate unknowns .unknown ++ List.replicate known shared := by
  constructor
  · intro uniform
    induction types with
    | nil => exact ⟨0, 0, .unknown, rfl⟩
    | cons type rest ih =>
      obtain ⟨agrees, uniform⟩ := List.pairwise_cons.1 uniform
      by_cases none : type = .unknown
      · obtain ⟨unknowns, known, shared, rfl⟩ := ih uniform
        exact ⟨unknowns + 1, known, shared, by rw [none]; rfl⟩
      · refine ⟨0, rest.length + 1, type, ?_⟩
        have same : rest = List.replicate rest.length type :=
          List.eq_replicate_iff.2 ⟨rfl, fun later member => (agrees later member).resolve_left none⟩
        exact congrArg (type :: ·) same
  · rintro ⟨unknowns, known, shared, rfl⟩
    rw [Uniform, List.pairwise_append]
    refine ⟨?_, ?_, fun earlier before _ _ => .inl (List.eq_of_mem_replicate before)⟩
    · exact List.pairwise_replicate.2 (.inr (.inl rfl))
    · exact List.pairwise_replicate.2 (.inr (.inr rfl))

theorem unanimous_replicate {count : Nat} : Unanimous (List.replicate count type) := by
  intro first here second there
  rw [List.eq_of_mem_replicate here, List.eq_of_mem_replicate there]

theorem UnknownFirst.uniform (first : UnknownFirst types) : Uniform types := by
  obtain ⟨_, _, _, -, rfl⟩ := first
  exact uniform_iff.2 ⟨_, _, _, rfl⟩

theorem UnknownFirst.not_unanimous (first : UnknownFirst types) : ¬ Unanimous types := by
  obtain ⟨unknowns, known, shared, different, rfl⟩ := first
  exact fun unanimous => different (unanimous _ (by simp) _ (by simp))

/-- To agree is to be the same, unless unknown technologies come before known ones. -/
theorem uniform_iff_unanimous : (Uniform types ↔ Unanimous types) ↔ ¬ UnknownFirst types := by
  constructor
  · exact fun same first => first.not_unanimous (same.1 first.uniform)
  · refine fun apart => ⟨fun uniform => ?_, Unanimous.uniform⟩
    obtain ⟨unknowns, known, shared, rfl⟩ := uniform_iff.1 uniform
    cases unknowns with
    | zero => simpa using unanimous_replicate
    | succ unknowns =>
      cases known with
      | zero => simpa using unanimous_replicate
      | succ known =>
        by_cases none : shared = .unknown
        · rw [none, List.replicate_append_replicate]
          exact unanimous_replicate
        · exact absurd ⟨unknowns, known, shared, none, rfl⟩ apart

theorem UnknownFirst.reverse_not_uniform (first : UnknownFirst types) : ¬ Uniform types.reverse := by
  obtain ⟨unknowns, known, shared, different, rfl⟩ := first
  rw [List.reverse_append, List.reverse_replicate, List.reverse_replicate, Uniform,
    List.pairwise_append]
  rintro ⟨-, -, agrees⟩
  obtain none | same := agrees shared (by simp) .unknown (by simp)
  · exact different none
  · exact different same.symm

/-- The order does not matter, unless it can put unknown technologies before known ones. -/
theorem uniform_perm_iff : (∀ others, others.Perm types → (Uniform others ↔ Uniform types)) ↔
    ¬ ∃ others, others.Perm types ∧ UnknownFirst others := by
  constructor
  · -- One order agrees and the reverse one does not, so one of them differs from `types`.
    rintro same ⟨others, order, first⟩
    have backwards : others.reverse.Perm types := others.reverse_perm.trans order
    exact first.reverse_not_uniform ((same _ backwards).2 ((same others order).1 first.uniform))
  · intro apart others order
    have there : Uniform others ↔ Unanimous others :=
      uniform_iff_unanimous.2 fun first => apart ⟨others, order, first⟩
    have here : Uniform types ↔ Unanimous types :=
      uniform_iff_unanimous.2 fun first => apart ⟨types, .refl _, first⟩
    rw [there, here]
    simp only [Unanimous, order.mem_iff]

end Types

/-- The question for the technology of an interface. -/
def technologyCommand (target : Target) : Command :=
  { target := target, kind := .memoryInfo, opcode := .technology }

/-- The question for the technology of an interface, with its answer. -/
def technologyRequest (place : Nat × Target) (answer : Answer) : Request :=
  (place.1, technologyCommand place.2, .ok answer)

/-- The part of the inquiry that is about one interface. -/
def askTechnology (unit : Nat) (target : Target) : Sequence Unit := do
  let answer ← send unit (technologyCommand target)
  agreeOnTechnology unit answer.technology

/-- The part of the inquiry that is about one instance. -/
def askInstance (mailboxes unit : Nat) (record : Instance) : Sequence Unit := do
  requireMailbox mailboxes unit
  record.interfaces.forM (askTechnology unit)

theorem readTechnology_eq {mailboxes : Nat} : readTechnology mailboxes = (do
    modify fun subsystem => { subsystem with technology := .unknown }
    let _ ← forInstances (askInstance mailboxes)) := rfl

variable {mailboxes unit : Nat} {target : Target} {before middle after : Subsystem}
  {trace earlier : Trace} {result : Except Error Unit} {answers : List Answer}
  {seen places : List (Nat × Target)} {cause : Error}

theorem agreeOnTechnology_cases {technology : Technology}
    (run : (agreeOnTechnology unit technology).Performs before trace result after) :
    trace.requests = [] ∧
      (((before.technology = .unknown ∨ technology = before.technology) ∧ result = .ok () ∧
        after = { before with technology := technology }) ∨
      (before.technology ≠ .unknown ∧ technology ≠ before.technology ∧
        result = .error (.technologyMismatch unit) ∧ after = before)) := by
  have run₁ := performs_get_bind.1 run
  dsimp only at run₁
  split at run₁
  · next none =>
    obtain ⟨rfl, rfl, rfl⟩ := performs_modify.1 run₁
    exact ⟨rfl, .inl ⟨.inl none, rfl, rfl⟩⟩
  · next known =>
    split at run₁
    · next differs =>
      obtain ⟨rest, rfl, thrown⟩ := performs_log_bind.1 run₁
      obtain ⟨rfl, rfl, rfl⟩ := performs_throw.1 thrown
      exact ⟨rfl, .inr ⟨known, Ne.symm differs, rfl, rfl⟩⟩
    · next same =>
      obtain rfl : before.technology = technology := by simpa using same
      obtain ⟨rfl, rfl, rfl⟩ := performs_pure.1 run₁
      exact ⟨rfl, .inl ⟨.inr rfl, rfl, rfl⟩⟩

/-- These interfaces have given these answers so far, which agree. -/
structure Heard (before : Subsystem) (seen : List (Nat × Target)) (answers : List Answer)
    (trace : Trace) (after : Subsystem) : Prop where
  count : seen.length = answers.length
  requests : trace.requests = List.zipWith technologyRequest seen answers
  uniform : Uniform (answers.map Answer.technology)
  recorded : after = { before with technology := common (answers.map Answer.technology) }

/-- After interfaces that agree, the next one contradicts them or gives no answer. -/
inductive Halted (before : Subsystem) (places : List (Nat × Target)) :
    Trace → Error → Subsystem → Prop
  | mismatch {seen : List (Nat × Target)} {answers : List Answer} {answer : Answer}
      {earlier late : Trace} {unit : Nat} {target : Target} {after : Subsystem}
      (heard : Heard before seen answers earlier after)
      (next : seen ++ [(unit, target)] <+: places)
      (asked : late.requests = [technologyRequest (unit, target) answer])
      (known : after.technology ≠ .unknown) (differs : answer.technology ≠ after.technology) :
      Halted before places (earlier ++ late) (.technologyMismatch unit) after
  | unanswered {seen : List (Nat × Target)} {answers : List Answer} {earlier : Trace} {unit : Nat}
      {target : Target} {cause : MailboxError} {after : Subsystem}
      (heard : Heard before seen answers earlier after)
      (next : seen ++ [(unit, target)] <+: places) :
      Halted before places
        (earlier ++ [⟨.request unit (technologyCommand target), .error cause⟩])
        (.mailbox unit cause) after

theorem Halted.mono {others : List (Nat × Target)} (halted : Halted before places trace cause after)
    (further : places <+: others) : Halted before others trace cause after := by
  cases halted with
  | mismatch heard next asked known differs =>
    exact .mismatch heard (next.trans further) asked known differs
  | unanswered heard next => exact .unanswered heard (next.trans further)

/-- One more interface agrees, contradicts or gives no answer. -/
theorem Heard.askTechnology_cases (heard : Heard before seen answers earlier middle)
    (run : (askTechnology unit target).Performs middle trace result after) :
    (result = .ok () ∧ ∃ answer,
        Heard before (seen ++ [(unit, target)]) (answers ++ [answer]) (earlier ++ trace) after) ∨
      ∃ cause, result = .error cause ∧
        Halted before (seen ++ [(unit, target)]) (earlier ++ trace) cause after := by
  obtain ⟨answer, late, rfl, agreeing⟩ | ⟨cause, rfl, rfl, rfl⟩ := performs_send_bind.1 run
  · obtain ⟨quiet, ⟨agrees, rfl, rfl⟩ | ⟨known, differs, rfl, rfl⟩⟩ :=
      agreeOnTechnology_cases agreeing
    · refine .inl ⟨rfl, answer, ?_, ?_, ?_, ?_⟩
      · simp [heard.count]
      · rw [List.zipWith_append heard.count, ← heard.requests, Trace.requests_append]
        exact congrArg (earlier.requests ++ technologyRequest (unit, target) answer :: ·) quiet
      · rw [List.map_append]
        refine uniform_append_singleton_iff.2 ⟨heard.uniform, ?_⟩
        rwa [heard.recorded] at agrees
      · rw [List.map_append, List.map_singleton, common_append_singleton, heard.recorded]
    · have asked := congrArg (technologyRequest (unit, target) answer :: ·) quiet
      exact .inr ⟨_, rfl, .mismatch heard (List.prefix_refl _) asked known differs⟩
  · exact .inr ⟨_, rfl, .unanswered heard (List.prefix_refl _)⟩

/-- The interfaces of an instance are asked one after the other. -/
theorem Heard.askInterfaces_cases {interfaces : List Target}
    (heard : Heard before seen answers earlier middle)
    (run : (interfaces.forM (askTechnology unit)).Performs middle trace result after) :
    (result = .ok () ∧ ∃ answers,
        Heard before (seen ++ interfaces.map (unit, ·)) answers (earlier ++ trace) after) ∨
      ∃ cause, result = .error cause ∧
        Halted before (seen ++ interfaces.map (unit, ·)) (earlier ++ trace) cause after := by
  obtain ⟨rfl, agreed⟩ | ⟨cause, asked, next, rest, left, first, second, rfl, rfl, rfl,
      ⟨answers, heard⟩, failed⟩ := performs_forM_cases
    (fun asked left first => ∃ answers,
      Heard before (seen ++ asked.map (unit, ·)) answers (earlier ++ first) left)
    ⟨answers, by simpa using heard⟩
    (fun {asked target left next first second} _ ⟨answers, heard⟩ visit => by
      obtain ⟨-, answer, further⟩ | ⟨_, same, -⟩ := heard.askTechnology_cases visit
      · exact ⟨answers ++ [answer], by simpa using further⟩
      · cases same) run
  · exact .inl ⟨rfl, agreed⟩
  · obtain ⟨same, -⟩ | ⟨_, same, halted⟩ := heard.askTechnology_cases failed
    · cases same
    · cases same
      have upTo : seen ++ asked.map (unit, ·) ++ [(unit, next)] <+:
          seen ++ (asked ++ next :: rest).map (unit, ·) := ⟨rest.map (unit, ·), by simp⟩
      rw [← List.append_assoc]
      exact .inr ⟨cause, rfl, halted.mono upTo⟩

/-- The interfaces of an instance with a mailbox are asked after those of the instances before. -/
theorem Heard.askInstance_cases {record : Instance} {index : Nat}
    (found : before.instances[index]? = some record)
    (heard : Heard before (interfacesOf (before.targets.take index)) answers earlier middle)
    (run : (askInstance mailboxes index record).Performs middle trace result after) :
    (result = .ok () ∧ ∃ answers,
        Heard before (interfacesOf (before.targets.take (index + 1))) answers (earlier ++ trace)
          after) ∨
      (∃ cause, result = .error cause ∧
        Halted before (interfacesOf (before.targets.take (index + 1))) (earlier ++ trace) cause
          after) ∨
      (mailboxes ≤ index ∧ result = .error (.missingMailbox index)) := by
  have here : before.targets[index]? = some record.interfaces := by
    rw [Subsystem.targets, List.getElem?_map, found, Option.map_some]
  rw [interfacesOf_take_succ here]
  obtain ⟨first, second, _, _, rfl, present, asking⟩ | ⟨_, rfl, absent⟩ := performs_bind.1 run
  · obtain ⟨rfl, rfl, -⟩ := performs_requireMailbox.1 present
    exact (heard.askInterfaces_cases asking).imp_right .inl
  · obtain ⟨-, -, missing⟩ := performs_requireMailbox.1 absent
    split at missing
    · cases missing
    · next outside => exact .inr (.inr ⟨Nat.le_of_not_lt outside, missing⟩)

/-- An inquiry ends because all interfaces agree, at one of them, or at an instance without
mailbox. -/
theorem readTechnology_cases
    (run : (readTechnology mailboxes).Performs before trace result after) :
    (result = .ok () ∧ ∃ answers, Heard before (interfacesOf before.targets) answers trace after) ∨
      (∃ cause, result = .error cause ∧
        Halted before (interfacesOf before.targets) trace cause after) ∨
      ∃ unit < before.instances.length, mailboxes ≤ unit ∧ result = .error (.missingMailbox unit) := by
  rw [readTechnology_eq] at run
  -- Invariant: the interfaces of the instances so far agree.
  have visits {trace : Trace} {result : Except Error (List Unit)} {after : Subsystem} := @
    performs_forInstances_cases Unit { before with technology := .unknown } after trace
      (askInstance mailboxes) result (fun seen left first => ∃ answers,
        Heard before (interfacesOf (before.targets.take seen.length)) answers first left)
      ⟨[], rfl, rfl, List.Pairwise.nil, rfl⟩
      (fun {seen record _ left next first second} found ⟨answers, heard⟩ visit => by
        have here : before.instances[seen.length]? = some record := found
        rw [List.length_append, List.length_singleton]
        obtain ⟨-, agreed⟩ | ⟨_, same, -⟩ | ⟨-, same⟩ := heard.askInstance_cases here visit
        · exact agreed
        · cases same
        · cases same)
  obtain ⟨first, _, values, _, rfl, visited, ended⟩ | ⟨cause, rfl, failed⟩ :=
    performs_bind.1 (performs_modify_bind.1 run)
  · obtain ⟨rfl, rfl, rfl⟩ := performs_pure.1 ended
    obtain ⟨_, same, count, agreed⟩ | ⟨_, _, _, _, _, _, same, -⟩ := visits visited
    · cases same
      rw [count, List.take_of_length_le (by simp [Subsystem.targets])] at agreed
      exact .inl ⟨rfl, by simpa using agreed⟩
    · cases same
  · obtain ⟨_, same, -⟩ | ⟨_, seen, record, middle, first, second, same, rfl, found,
        ⟨answers, heard⟩, visit⟩ := visits failed
    · cases same
    · cases same
      have here : before.instances[seen.length]? = some record := found
      obtain ⟨same, -⟩ | ⟨_, same, halted⟩ | ⟨missing, same⟩ := heard.askInstance_cases here visit
      · cases same
      · cases same
        exact .inr (.inl ⟨cause, rfl, halted.mono (interfacesOf_mono (List.take_prefix _ _))⟩)
      · cases same
        exact .inr (.inr ⟨_, (List.getElem?_eq_some_iff.1 here).1, missing, rfl⟩)

theorem readTechnology_ends : (readTechnology mailboxes).Ends := by
  rw [readTechnology_eq]
  refine ends_bind ends_modify fun _ => ends_bind (ends_forInstances fun unit record => ?_)
    fun _ => ends_pure
  refine ends_bind ends_requireMailbox fun _ => ends_forM fun target _ =>
    ends_bind ends_send fun answer => ends_bind ends_get fun subsystem => ?_
  dsimp only
  split
  · exact ends_modify
  · split
    · exact ends_bind ends_log fun _ => ends_throw
    · exact ends_pure

theorem Heard.replies_eq (heard : Heard before seen answers trace after) :
    replies trace = answers.map .ok := by
  rw [replies, heard.requests, List.map_zipWith]
  have width := heard.count
  clear heard
  induction seen generalizing answers with
  | nil => simp [List.length_eq_zero_iff.1 width.symm]
  | cons place seen ih =>
    obtain ⟨answer, rest, rfl⟩ := List.exists_cons_of_length_eq_add_one width.symm
    simpa [technologyRequest] using ih (Nat.succ.inj width)

/-- An inquiry with these answers. -/
inductive Inquiry (before : Subsystem) (places : List (Nat × Target)) (answers : List Answer) :
    Trace → Except Error Unit → Subsystem → Prop
  | agreed {trace : Trace} {after : Subsystem} (heard : Heard before places answers trace after) :
      Inquiry before places answers trace (.ok ()) after
  | mismatch {trace : Trace} {after : Subsystem} {index unit : Nat} {target : Target}
      (first : FirstMismatch (answers.map Answer.technology) index)
      (here : places[index]? = some (unit, target))
      (asked : trace.requests = (List.zipWith technologyRequest places answers).take (index + 1))
      (recorded : after = { before with
        technology := common ((answers.map Answer.technology).take index) }) :
      Inquiry before places answers trace (.error (.technologyMismatch unit)) after

theorem map_ok_prefix_iff {others : List Answer} :
    (answers.map .ok : List (Except MailboxError Answer)) <+: others.map .ok ↔ answers <+: others :=
  List.prefix_map_iff_of_injective fun _ _ => Except.ok.inj

theorem Heard.inquiry {told : List Answer} (heard : Heard before places told trace after)
    (count : places.length = answers.length) (answered : replies trace <+: answers.map .ok) :
    Inquiry before places answers trace (.ok ()) after := by
  rw [heard.replies_eq, map_ok_prefix_iff] at answered
  obtain rfl : told = answers := answered.eq_of_length (heard.count.symm.trans count)
  exact .agreed heard

/-- Where all questions are answered, an inquiry stops at the first mismatch only. -/
theorem Halted.inquiry (halted : Halted before places trace cause after)
    (answered : replies trace <+: answers.map .ok) :
    Inquiry before places answers trace (.error cause) after := by
  cases halted with
  | @mismatch seen told answer earlier late unit target _ heard next asked known differs =>
    obtain ⟨others, rfl⟩ := next
    have all : replies (earlier ++ late) = (told ++ [answer]).map .ok := by
      rw [replies, Trace.requests_append, List.map_append, ← replies, heard.replies_eq, asked]
      simp [technologyRequest]
    rw [all, map_ok_prefix_iff] at answered
    obtain ⟨rest, rfl⟩ := answered
    have index : seen.length = (told.map Answer.technology).length := by
      rw [List.length_map, heard.count]
    have types : ((told ++ [answer]) ++ rest).map Answer.technology =
        told.map Answer.technology ++ answer.technology :: rest.map Answer.technology := by
      simp
    have last : after.technology = common (told.map Answer.technology) :=
      congrArg Subsystem.technology heard.recorded
    have first := @firstMismatch_append _ _ (rest.map Answer.technology) heard.uniform
      (last ▸ known) (last ▸ differs)
    rw [← types, ← index] at first
    have both : (seen ++ [(unit, target)]).length = (told ++ [answer]).length := by
      simp [heard.count]
    have here : ((seen ++ [(unit, target)]) ++ others)[seen.length]? = some (unit, target) := by
      simp
    refine .mismatch first here ?_ (by rw [types, index, List.take_left, heard.recorded])
    rw [List.zipWith_append both, List.take_left' (by simp [heard.count]),
      List.zipWith_append heard.count, Trace.requests_append, heard.requests, asked]
    rfl
  | @unanswered seen told earlier unit target failure _ heard next =>
    have there : .error failure ∈ replies (earlier ++
        [⟨.request unit (technologyCommand target), .error failure⟩]) := by
      simp [replies, Trace.requests]
    obtain ⟨_, -, same⟩ := List.mem_map.1 (answered.subset there)
    cases same

theorem readTechnology_inquiry (present : before.instances.length ≤ mailboxes)
    (count : (interfacesOf before.targets).length = answers.length)
    (answered : replies trace <+: answers.map .ok)
    (run : (readTechnology mailboxes).Performs before trace result after) :
    Inquiry before (interfacesOf before.targets) answers trace result after := by
  obtain ⟨rfl, _, heard⟩ | ⟨_, rfl, halted⟩ | ⟨unit, inside, missing, -⟩ :=
    readTechnology_cases run
  · exact heard.inquiry count answered
  · exact halted.inquiry answered
  · exact absurd missing (Nat.not_le_of_lt (Nat.lt_of_lt_of_le inside present))

/-- With a mailbox for every instance and an answer to every question, an inquiry comes to a result.
It succeeds exactly if no known technology is followed by a different one, and records the last one.
Else it names the instance of the first interface that differs from a known technology before it. A
success means the same as to have one technology everywhere, unless unknown technologies come before
known ones, and no other order of the technologies has another result, unless it brings them there. -/
theorem technology_agreed_iff {outcome : Option (Except Error Unit × Subsystem)}
    (present : before.instances.length ≤ mailboxes)
    (count : (interfacesOf before.targets).length = answers.length)
    (answered : replies trace <+: answers.map .ok)
    (run : Runs ((readTechnology mailboxes).perform before) trace outcome) :
    ∃ result after, outcome = some (result, after) ∧
      Inquiry before (interfacesOf before.targets) answers trace result after ∧
      (result = .ok () ↔ Uniform (answers.map Answer.technology)) ∧
      ((result = .ok () ↔ Unanimous (answers.map Answer.technology)) ↔
        ¬ UnknownFirst (answers.map Answer.technology)) ∧
      (Unanimous (answers.map Answer.technology) →
        ∀ answer ∈ answers, after.technology = answer.technology) ∧
      ((∀ types, types.Perm (answers.map Answer.technology) → (Uniform types ↔ result = .ok ())) ↔
        ¬ ∃ types, types.Perm (answers.map Answer.technology) ∧ UnknownFirst types) := by
  obtain ⟨result, after, rfl, performed⟩ := performs_of_returns run (readTechnology_ends before)
  have inquiry := readTechnology_inquiry present count answered performed
  have agree : result = .ok () ↔ Uniform (answers.map Answer.technology) := by
    cases inquiry with
    | agreed heard => simp [heard.uniform]
    | mismatch first => simp [first.not_uniform]
  refine ⟨result, after, rfl, inquiry, agree, ?_, fun unanimous answer member => ?_, ?_⟩
  · rw [agree]
    exact uniform_iff_unanimous
  · cases inquiry with
    | agreed heard =>
      rw [heard.recorded]
      exact unanimous.common_eq (List.mem_map_of_mem member)
    | mismatch first => exact (first.not_uniform unanimous.uniform).elim
  · rw [agree]
    exact uniform_perm_iff

/-- An answer without data, whose status has the technology code in its upper half. -/
def technologyAnswer (status : Word) : Answer := ⟨status, Vector.replicate 3 0⟩

/-- The second interface is the first with a known technology, so the third one is named. -/
theorem technology_agreed_iff_third : ∃ trace after,
    Runs ((readTechnology 2).perform threeInterfaces) trace
        (some (.error (.technologyMismatch 1), after)) ∧
      after.technology = .ddr4 ∧ ¬ Uniform [.unknown, .ddr4, .ddr5] := by
  have run : Runs ((readTechnology 2).perform threeInterfaces) _
      (some (.error (.technologyMismatch 1), { threeInterfaces with technology := .ddr4 })) :=
    Runs.of_run_eq answerInTurn
      [technologyAnswer 0x60001, technologyAnswer 1, technologyAnswer 0x10001]
      (by with_unfolding_all rfl)
  obtain ⟨_, _, same, -, agreed, -⟩ := @technology_agreed_iff 2 threeInterfaces _
    [technologyAnswer 0x60001, technologyAnswer 1, technologyAnswer 0x10001] _ (by decide) rfl
    ⟨[], by with_unfolding_all rfl⟩ run
  cases same
  exact ⟨_, _, run, rfl, fun uniform => absurd (agreed.2 uniform) (by simp)⟩

/-- An unknown technology before a known one is accepted, and after it is refused. -/
theorem unknown_technology_accepted :
    Reachable 1 1 0 twoInterfaces ∧
      (∃ trace, Runs ((readTechnology 1).perform twoInterfaces) trace
          (some (.ok (), { twoInterfaces with technology := .ddr4 })) ∧
        replies trace = [.ok (technologyAnswer 0x60001), .ok (technologyAnswer 1)]) ∧
      (∃ trace, Runs ((readTechnology 1).perform twoInterfaces) trace
          (some (.error (.technologyMismatch 0), { twoInterfaces with technology := .ddr4 })) ∧
        replies trace = [.ok (technologyAnswer 1), .ok (technologyAnswer 0x60001)]) ∧
      ¬ Unanimous [(technologyAnswer 0x60001).technology, (technologyAnswer 1).technology] := by
  refine ⟨?_, ?_, ?_, ?_⟩
  · have run : Runs ((discoverInterfaces 1).perform (Subsystem.fresh 1 1 0)) _
        (some (.ok (), twoInterfaces)) :=
      Runs.of_run_eq answerInTurn [⟨1, #v[0x20000000, 0x21000000, 0]⟩]
        (by with_unfolding_all rfl)
    exact .call (.discoverInterfaces 1) .fresh run
  · have run : Runs ((readTechnology 1).perform twoInterfaces) _
        (some (.ok (), { twoInterfaces with technology := .ddr4 })) :=
      Runs.of_run_eq answerInTurn [technologyAnswer 0x60001, technologyAnswer 1]
        (by with_unfolding_all rfl)
    exact ⟨_, run, by with_unfolding_all rfl⟩
  · have run : Runs ((readTechnology 1).perform twoInterfaces) _
        (some (.error (.technologyMismatch 0), { twoInterfaces with technology := .ddr4 })) :=
      Runs.of_run_eq answerInTurn [technologyAnswer 1, technologyAnswer 0x60001]
        (by with_unfolding_all rfl)
    exact ⟨_, run, by with_unfolding_all rfl⟩
  · exact fun unanimous => absurd (unanimous .unknown (by decide) .ddr4 (by decide)) (by decide)

end BringUp.Iossm
