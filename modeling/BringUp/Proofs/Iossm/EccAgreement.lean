import Mathlib.Data.Set.List
import BringUp.Proofs.Iossm.Completion
import BringUp.Proofs.Iossm.Inventory
import BringUp.Proofs.Iossm.Replies

/-! Agreement on the error correction. Main statement: the inquiry succeeds exactly if all
interfaces answer and report the same, in whichever order, and else names the first instance that
does not. -/
namespace BringUp.Iossm

open Sequence

/-- Whether an answer reports error correction. Different codes may stand for it. -/
def Answer.ecc (answer : Answer) : Bool := answer.shortData &&& 0b11 != 0

/-- The question whether an interface has error correction. -/
def eccCommand (target : Target) : Command :=
  { target := target, kind := .controllerOperation, opcode := .eccStatus }

section Answers

variable {answers : List Answer} {answer : Answer} {told others : List (Except MailboxError Answer)}

/-- What the first answer reports. -/
def firstEcc (answers : List Answer) : Option Bool := answers.head?.map Answer.ecc

/-- All answers report what the first one does. -/
def Agreeing (answers : List Answer) : Prop :=
  ∀ answer ∈ answers, firstEcc answers = some answer.ecc

/-- Every interface answers, and all of them report the same. -/
structure Concordant (told : List (Except MailboxError Answer)) : Prop where
  answered : ∀ reply ∈ told, ∃ answer, reply = .ok answer
  same : ∀ answer other, .ok answer ∈ told → .ok other ∈ told → answer.ecc = other.ecc

/-- The first answer that differs from the very first one comes from this instance. -/
def ContradictedAt (places : List (Nat × Target)) (told : List (Except MailboxError Answer))
    (unit : Nat) : Prop :=
  ∃ (answers : List Answer) (last : Answer) (agreed : Bool)
    (rest : List (Except MailboxError Answer)) (target : Target),
    told = answers.map .ok ++ .ok last :: rest ∧ Agreeing answers ∧ firstEcc answers = some agreed ∧
      agreed ≠ last.ecc ∧ places[answers.length]? = some (unit, target)

/-- The answers agree up to an interface of this instance that fails to answer. -/
def UnansweredAt (places : List (Nat × Target)) (told : List (Except MailboxError Answer))
    (unit : Nat) (failure : MailboxError) : Prop :=
  ∃ (answers : List Answer) (rest : List (Except MailboxError Answer)) (target : Target),
    told = answers.map .ok ++ .error failure :: rest ∧ Agreeing answers ∧
      places[answers.length]? = some (unit, target)

theorem firstEcc_append_singleton :
    firstEcc (answers ++ [answer]) = (firstEcc answers).or (some answer.ecc) := by
  cases answers <;> rfl

theorem agreeing_append_singleton (agreeing : Agreeing answers)
    (same : firstEcc answers = none ∨ firstEcc answers = some answer.ecc) :
    Agreeing (answers ++ [answer]) ∧ firstEcc (answers ++ [answer]) = some answer.ecc := by
  have last : firstEcc (answers ++ [answer]) = some answer.ecc := by
    rw [firstEcc_append_singleton]
    obtain none | some := same
    · rw [none, Option.none_or]
    · rw [some, Option.some_or]
  refine ⟨fun other member => ?_, last⟩
  obtain before | here := List.mem_append.1 member
  · rw [firstEcc_append_singleton, agreeing other before, Option.some_or]
  · rw [List.mem_singleton.1 here]
    exact last

/-- The first answer that differs, or the first question without an answer, ends the agreement. -/
theorem agreeing_cases (told : List (Except MailboxError Answer)) :
    (∃ answers : List Answer, told = answers.map .ok ∧ Agreeing answers) ∨
      (∃ (answers : List Answer) (last : Answer) (agreed : Bool) (rest : _),
        told = answers.map .ok ++ .ok last :: rest ∧ Agreeing answers ∧
          firstEcc answers = some agreed ∧ agreed ≠ last.ecc) ∨
      ∃ (answers : List Answer) (cause : MailboxError) (rest : _),
        told = answers.map .ok ++ .error cause :: rest ∧ Agreeing answers := by
  -- The answers so far agree.
  suffices ∀ (rest : List (Except MailboxError Answer)) (answers : List Answer),
      told = answers.map .ok ++ rest → Agreeing answers → _ from
    this told [] rfl fun _ member => by cases member
  intro rest
  induction rest with
  | nil => exact fun answers split agreeing => .inl ⟨answers, by simpa using split, agreeing⟩
  | cons reply rest ih =>
    intro answers split agreeing
    cases reply with
    | error cause => exact .inr (.inr ⟨answers, cause, rest, split, agreeing⟩)
    | ok answer =>
      by_cases same : firstEcc answers = none ∨ firstEcc answers = some answer.ecc
      · exact ih (answers ++ [answer]) (by simpa using split)
          (agreeing_append_singleton agreeing same).1
      · obtain ⟨known, differs⟩ := not_or.1 same
        obtain ⟨agreed, first⟩ := Option.ne_none_iff_exists'.1 known
        refine .inr (.inl ⟨answers, answer, agreed, rest, split, agreeing, first, ?_⟩)
        rintro rfl
        exact differs first

/-- To agree with the first one is to agree with each other. -/
theorem concordant_iff :
    Concordant told ↔ ∃ answers : List Answer, told = answers.map .ok ∧ Agreeing answers := by
  constructor
  · intro concordant
    obtain ⟨answers, rfl⟩ : told ∈ Set.range (List.map Except.ok) := by
      rw [Set.range_list_map]
      exact fun reply member => (concordant.answered reply member).imp fun _ => Eq.symm
    refine ⟨answers, rfl, fun answer member => ?_⟩
    cases answers with
    | nil => cases member
    | cons first rest =>
      exact congrArg some (concordant.same first answer (by simp) (List.mem_map_of_mem member))
  · rintro ⟨answers, rfl, agreeing⟩
    refine ⟨fun reply member => ?_, fun answer other here there => ?_⟩
    · obtain ⟨answer, -, rfl⟩ := List.mem_map.1 member
      exact ⟨answer, rfl⟩
    · have found {one : Answer}
          (member : (.ok one : Except MailboxError Answer) ∈ answers.map .ok) :
          firstEcc answers = some one.ecc := by
        obtain ⟨_, inside, same⟩ := List.mem_map.1 member
        cases same
        exact agreeing _ inside
      exact Option.some.inj ((found here).symm.trans (found there))

theorem Concordant.perm (concordant : Concordant told) (order : others.Perm told) :
    Concordant others :=
  ⟨fun reply member => concordant.answered reply (order.mem_iff.1 member),
    fun answer other here there =>
      concordant.same answer other (order.mem_iff.1 here) (order.mem_iff.1 there)⟩

end Answers

section Inquiry

variable {mailboxes unit : Nat} {target : Target} {before after : Subsystem}
  {common : Option Bool} {agreed : Bool} {answer : Answer} {answers : List Answer}
  {reply : Except MailboxError Answer} {told rest : List (Except MailboxError Answer)}
  {places : List (Nat × Target)} {asked : List Request} {cause : Error}

/-- The part of the inquiry that is about one interface. -/
def askEcc (common : Option Bool) (place : Nat × Target) : Sequence (Option Bool) :=
  agreeOnEcc place.1 [place.2] common

/-- The part of the inquiry that is about one instance. -/
def askInstanceEcc (mailboxes : Nat) (common : Option Bool) (visit : Instance × Nat) :
    Sequence (Option Bool) := do
  requireMailbox mailboxes visit.2
  agreeOnEcc visit.2 visit.1.interfaces common

theorem readEcc_eq : readEcc mailboxes = (do
    let subsystem ← get
    let common ← subsystem.instances.zipIdx.foldlM (askInstanceEcc mailboxes) none
    modify fun subsystem => { subsystem with ecc := common.getD false }
    Program.log .debug ("IOSSM: ECC enable status: " ++ toString (common.getD false))) := rfl

theorem agreeOnEcc_eq {interfaces : List Target} : agreeOnEcc unit interfaces common =
    (interfaces.map (unit, ·)).foldlM askEcc common := by
  induction interfaces generalizing common with
  | nil => rfl
  | cons target rest ih =>
    have single : agreeOnEcc unit (target :: rest) common =
        agreeOnEcc unit [target] common >>= agreeOnEcc unit rest := by
      simp only [agreeOnEcc, List.foldlM_cons, List.foldlM_nil, bind_pure]
      rfl
    rw [single, List.map_cons, List.foldlM_cons]
    exact congrArg (askEcc common (unit, target) >>= ·) (funext fun _ => ih)

/-- Where every instance has a mailbox, its interfaces come after those of the instances before. -/
theorem askInstances_eq {visits : List (Instance × Nat)}
    (present : ∀ visit ∈ visits, visit.2 < mailboxes) :
    visits.foldlM (askInstanceEcc mailboxes) common =
      (visits.flatMap fun visit => visit.1.interfaces.map (visit.2, ·)).foldlM askEcc common := by
  induction visits generalizing common with
  | nil => rfl
  | cons visit rest ih =>
    obtain ⟨here, later⟩ := List.forall_mem_cons.1 present
    have visited : askInstanceEcc mailboxes common visit =
        (visit.1.interfaces.map (visit.2, ·)).foldlM askEcc common := by
      rw [askInstanceEcc, requireMailbox, if_pos here, pure_bind, agreeOnEcc_eq]
    rw [List.foldlM_cons, List.flatMap_cons, List.foldlM_append, visited]
    exact congrArg (_ >>= ·) (funext fun _ => ih later)

theorem comesTo_askEcc (agrees : common = none ∨ common = some answer.ecc) :
    ComesTo (askEcc common (unit, target)) before [(unit, eccCommand target, .ok answer)]
      (.ok (some answer.ecc)) before := by
  simp only [askEcc, agreeOnEcc, List.foldlM_cons, List.foldlM_nil, bind_pure]
  refine comesTo_send_ok ?_
  obtain rfl | rfl := agrees
  · exact comesTo_pure
  · dsimp only
    split
    · next differs => exact absurd rfl differs
    · exact comesTo_pure

theorem comesTo_askEcc_differs (differs : agreed ≠ answer.ecc) :
    ComesTo (askEcc (some agreed) (unit, target)) before [(unit, eccCommand target, .ok answer)]
      (.error (.eccMismatch unit)) before := by
  simp only [askEcc, agreeOnEcc, List.foldlM_cons, List.foldlM_nil, bind_pure]
  refine comesTo_send_ok ?_
  split
  · exact comesTo_quiet_bind comesTo_log (comesTo_bind_error comesTo_throw)
  · next same => exact absurd differs same

theorem comesTo_askEcc_error {failure : MailboxError} :
    ComesTo (askEcc common (unit, target)) before [(unit, eccCommand target, .error failure)]
      (.error (.mailbox unit failure)) before := by
  simp only [askEcc, agreeOnEcc, List.foldlM_cons, List.foldlM_nil, bind_pure]
  exact comesTo_send_error

/-- Interfaces that agree are all asked. -/
theorem comesTo_agreeing (common : Option Bool) (before : Subsystem)
    (count : places.length = answers.length)
    (agreeing : ∀ answer ∈ answers, common.or (firstEcc answers) = some answer.ecc) :
    ComesTo (places.foldlM askEcc common) before (dialogue eccCommand places (answers.map .ok))
      (.ok (common.or (firstEcc answers))) before := by
  induction answers generalizing places common with
  | nil =>
    obtain rfl := List.length_eq_zero_iff.1 count
    rw [firstEcc, List.head?_nil, Option.map_none, Option.or_none]
    exact comesTo_pure
  | cons answer rest ih =>
    obtain ⟨place, others, rfl⟩ := List.exists_cons_of_length_eq_add_one count
    have here : common.or (firstEcc (answer :: rest)) = some answer.ecc :=
      agreeing answer List.mem_cons_self
    have agrees : common = none ∨ common = some answer.ecc := by
      cases common with
      | none => exact .inl rfl
      | some agreed => exact .inr here
    rw [here] at agreeing ⊢
    refine comesTo_bind (comesTo_askEcc agrees) (ih _ (Nat.succ.inj count) fun other member => ?_)
    exact agreeing other (List.mem_cons_of_mem _ member)

/-- An interface that contradicts, or does not answer, is the last one that is asked. -/
theorem comesTo_stop {name : Nat → Error} (agreeing : Agreeing answers)
    (count : places.length = (answers.map Except.ok ++ reply :: rest).length)
    (fails : ∀ unit target, ComesTo (askEcc (firstEcc answers) (unit, target)) before
      [(unit, eccCommand target, reply)] (.error (name unit)) before) :
    ∃ unit target asked, places[answers.length]? = some (unit, target) ∧
      asked <+: dialogue eccCommand places (answers.map .ok ++ reply :: rest) ∧
      ComesTo (places.foldlM askEcc none) before asked (.error (name unit)) before := by
  obtain ⟨seen, ⟨unit, target⟩, others, rfl, size, -⟩ := exists_cut count
  rw [List.length_map] at size
  have agreed := comesTo_agreeing none before size
    fun answer member => (Option.none_or).trans (agreeing answer member)
  rw [Option.none_or] at agreed
  refine ⟨unit, target, _, ?_, dialogue_upTo (by simpa using size),
    comesTo_foldlM_stop agreed (fails unit target)⟩
  rw [← size, List.getElem?_append_right (Nat.le_refl _), Nat.sub_self]
  rfl

theorem comesTo_readEcc (present : before.instances.length ≤ mailboxes)
    (agreed : ComesTo ((interfacesOf before.targets).foldlM askEcc none) before asked (.ok common)
      before) :
    ComesTo (readEcc mailboxes) before asked (.ok ()) { before with ecc := common.getD false } := by
  rw [← flatMap_interfaces, ← askInstances_eq (unit_lt_of_mem_visits present)] at agreed
  rw [readEcc_eq, ← List.append_nil asked]
  exact comesTo_quiet_bind comesTo_get
    (comesTo_bind agreed (comesTo_quiet_bind comesTo_modify comesTo_log))

theorem comesTo_readEcc_error (present : before.instances.length ≤ mailboxes)
    (failed : ComesTo ((interfacesOf before.targets).foldlM askEcc none) before asked (.error cause)
      before) :
    ComesTo (readEcc mailboxes) before asked (.error cause) before := by
  rw [← flatMap_interfaces, ← askInstances_eq (unit_lt_of_mem_visits present)] at failed
  rw [readEcc_eq]
  exact comesTo_quiet_bind comesTo_get (comesTo_bind_error failed)

theorem agreeOnEcc_ends {interfaces : List Target} : (agreeOnEcc unit interfaces common).Ends := by
  refine ends_foldlM fun common target _ => ends_bind ends_send fun answer => ?_
  cases common with
  | none => exact ends_pure
  | some agreed =>
    dsimp only
    split
    · exact ends_bind ends_log fun _ => ends_bind ends_throw fun _ => ends_pure
    · exact ends_pure

theorem readEcc_ends : (readEcc mailboxes).Ends := by
  rw [readEcc_eq]
  refine ends_bind ends_get fun subsystem => ends_bind (ends_foldlM fun common visit _ => ?_)
    fun _ => ends_bind ends_modify fun _ => ends_log
  exact ends_bind ends_requireMailbox fun _ => agreeOnEcc_ends

/-- What an inquiry with these answers finds out. -/
structure EccInquiry (before : Subsystem) (told : List (Except MailboxError Answer)) (trace : Trace)
    (result : Except Error Unit) (after : Subsystem) : Prop where
  asked : trace.requests <+: dialogue eccCommand (interfacesOf before.targets) told
  ok_iff : result = .ok () ↔ Concordant told
  recorded : result = .ok () → ∀ answer, .ok answer ∈ told → after.ecc = answer.ecc
  /-- Memory without interfaces has no error correction. -/
  absent : told = [] → after.ecc = false
  mismatch_iff : ∀ unit, result = .error (.eccMismatch unit) ↔
    ContradictedAt (interfacesOf before.targets) told unit
  unanswered_iff : ∀ unit failure, result = .error (.mailbox unit failure) ↔
    UnansweredAt (interfacesOf before.targets) told unit failure
  failed : ∀ cause, result = .error cause → after = before ∧
    ∃ unit, cause = .eccMismatch unit ∨ ∃ failure, cause = .mailbox unit failure
  frame : after = { before with ecc := after.ecc }

section Answered

variable {failure : MailboxError} {later : List (Except MailboxError Answer)} {last : Answer}
  {result : Except Error Unit} {trace : Trace} (present : before.instances.length ≤ mailboxes)
  (count : (interfacesOf before.targets).length = told.length)
  (answered : replies trace <+: told ++ later)
  (run : (readEcc mailboxes).Performs before trace result after)

include present count answered run

theorem readEcc_agreeing (same : told = answers.map .ok) (agreeing : Agreeing answers) :
    result = .ok () ∧ after = { before with ecc := (firstEcc answers).getD false } ∧
      trace.requests = dialogue eccCommand (interfacesOf before.targets) told := by
  subst same
  have all := comesTo_agreeing none before (by simpa using count)
    fun answer member => (Option.none_or).trans (agreeing answer member)
  rw [Option.none_or] at all
  exact (comesTo_readEcc present all).result_eq (List.prefix_refl _) count run answered

theorem readEcc_concordant (concordant : Concordant told) : result = .ok () := by
  obtain ⟨answers, same, agreeing⟩ := concordant_iff.1 concordant
  exact (readEcc_agreeing present count answered run same agreeing).1

theorem readEcc_stop (name : Nat → Error) (split : told = answers.map .ok ++ reply :: rest)
    (agreeing : Agreeing answers)
    (fails : ∀ unit target, ComesTo (askEcc (firstEcc answers) (unit, target)) before
      [(unit, eccCommand target, reply)] (.error (name unit)) before) :
    ∃ unit target, (interfacesOf before.targets)[answers.length]? = some (unit, target) ∧
      result = .error (name unit) ∧ after = before ∧
      trace.requests <+: dialogue eccCommand (interfacesOf before.targets) told := by
  obtain ⟨unit, target, asked, here, upTo, stopped⟩ := comesTo_stop agreeing (split ▸ count) fails
  rw [← split] at upTo
  obtain ⟨ended, left, same⟩ :=
    (comesTo_readEcc_error present stopped).result_eq upTo count run answered
  exact ⟨unit, target, here, ended, left, same ▸ upTo⟩

theorem readEcc_contradicted
    (contradicted : ContradictedAt (interfacesOf before.targets) told unit) :
    result = .error (.eccMismatch unit) := by
  obtain ⟨answers, last, agreed, rest, target, split, agreeing, first, differs, here⟩ :=
    contradicted
  obtain ⟨_, _, there, ended, -⟩ := readEcc_stop present count answered run .eccMismatch
    split agreeing fun _ _ => first ▸ comesTo_askEcc_differs differs
  cases here.symm.trans there
  exact ended

theorem readEcc_unanswered (silent : UnansweredAt (interfacesOf before.targets) told unit failure) :
    result = .error (.mailbox unit failure) := by
  obtain ⟨answers, rest, target, split, agreeing, here⟩ := silent
  obtain ⟨_, _, there, ended, -⟩ := readEcc_stop present count answered run
    (fun unit => .mailbox unit failure) split agreeing fun _ _ => comesTo_askEcc_error
  cases here.symm.trans there
  exact ended

/-- All interfaces agree, or the inquiry stops at the first one that contradicts or is silent. -/
theorem readEcc_cases : trace.requests <+: dialogue eccCommand (interfacesOf before.targets) told ∧
    ((∃ answers : List Answer, told = answers.map .ok ∧ Agreeing answers ∧ result = .ok () ∧
        after = { before with ecc := (firstEcc answers).getD false }) ∨
      told ≠ [] ∧ after = before ∧ ∃ unit,
        (result = .error (.eccMismatch unit) ∧
          ContradictedAt (interfacesOf before.targets) told unit) ∨
        ∃ failure, result = .error (.mailbox unit failure) ∧
          UnansweredAt (interfacesOf before.targets) told unit failure) := by
  obtain ⟨answers, same, agreeing⟩ |
    ⟨answers, last, agreed, rest, split, agreeing, first, differs⟩ |
    ⟨answers, failure, rest, split, agreeing⟩ := agreeing_cases told
  · obtain ⟨ended, recorded, asked⟩ := readEcc_agreeing present count answered run same agreeing
    exact ⟨asked ▸ List.prefix_refl _, .inl ⟨answers, same, agreeing, ended, recorded⟩⟩
  · obtain ⟨unit, target, here, ended, left, asked⟩ := readEcc_stop present count
      answered run .eccMismatch split agreeing fun _ _ => first ▸ comesTo_askEcc_differs differs
    exact ⟨asked, .inr ⟨by simp [split], left, unit, .inl ⟨ended, answers, last, agreed, rest,
      target, split, agreeing, first, differs, here⟩⟩⟩
  · obtain ⟨unit, target, here, ended, left, asked⟩ := readEcc_stop present count answered run
      (fun unit => .mailbox unit failure) split agreeing fun _ _ => comesTo_askEcc_error
    exact ⟨asked, .inr ⟨by simp [split], left, unit, .inr ⟨failure, ended, answers, rest, target,
      split, agreeing, here⟩⟩⟩

theorem ecc_inquiry : EccInquiry before told trace result after := by
  obtain ⟨asked, known⟩ := readEcc_cases present count answered run
  -- What decides leads to its result whatever the others do, so only the converses need the cases.
  refine ⟨asked, ⟨fun same => ?_, readEcc_concordant present count answered run⟩, fun same => ?_,
    fun none => ?_, fun unit => ⟨fun same => ?_, readEcc_contradicted present count answered run⟩,
    fun unit failure => ⟨fun same => ?_, readEcc_unanswered present count answered run⟩,
    fun cause same => ?_, ?_⟩
  · obtain ⟨answers, all, agreeing, -⟩ | ⟨-, -, _, ⟨ended, -⟩ | ⟨_, ended, -⟩⟩ := known
    · exact concordant_iff.2 ⟨answers, all, agreeing⟩
    · cases ended.symm.trans same
    · cases ended.symm.trans same
  · obtain ⟨answers, rfl, agreeing, -, rfl⟩ | ⟨-, -, _, ⟨ended, -⟩ | ⟨_, ended, -⟩⟩ := known
    · intro answer member
      obtain ⟨_, inside, found⟩ := List.mem_map.1 member
      cases found
      rw [agreeing answer inside, Option.getD_some]
    · cases ended.symm.trans same
    · cases ended.symm.trans same
  · obtain ⟨answers, all, -, -, rfl⟩ | ⟨some, -⟩ := known
    · obtain rfl := List.map_eq_nil_iff.1 (all.symm.trans none)
      rfl
    · exact absurd none some
  · obtain ⟨_, -, -, ended, -⟩ | ⟨-, -, _, ⟨ended, there⟩ | ⟨_, ended, -⟩⟩ := known
    · cases ended.symm.trans same
    · cases ended.symm.trans same
      exact there
    · cases ended.symm.trans same
  · obtain ⟨_, -, -, ended, -⟩ | ⟨-, -, _, ⟨ended, -⟩ | ⟨_, ended, there⟩⟩ := known
    · cases ended.symm.trans same
    · cases ended.symm.trans same
    · cases ended.symm.trans same
      exact there
  · obtain ⟨_, -, -, ended, -⟩ | ⟨-, left, unit, ⟨ended, -⟩ | ⟨failure, ended, -⟩⟩ := known
    · cases ended.symm.trans same
    · cases ended.symm.trans same
      exact ⟨left, unit, .inl rfl⟩
    · cases ended.symm.trans same
      exact ⟨left, unit, .inr ⟨failure, rfl⟩⟩
  · obtain ⟨_, -, -, -, rfl⟩ | ⟨-, rfl, -⟩ := known
    · rfl
    · rfl

end Answered

/-- The same answers in another order lead to the same. -/
theorem EccInquiry.unordered {other left : Subsystem} {trace trace' : Trace}
    {result result' : Except Error Unit} {told' : List (Except MailboxError Answer)}
    (inquiry : EccInquiry before told trace result after)
    (again : EccInquiry other told' trace' result' left) (order : told'.Perm told) :
    (result' = .ok () ↔ result = .ok ()) ∧ (result = .ok () → left.ecc = after.ecc) := by
  have both : result' = .ok () ↔ result = .ok () := by
    rw [again.ok_iff, inquiry.ok_iff]
    exact ⟨fun concordant => concordant.perm order.symm, fun concordant => concordant.perm order⟩
  refine ⟨both, fun agreed => ?_⟩
  cases told with
  | nil =>
    rw [inquiry.absent rfl, again.absent order.eq_nil]
  | cons reply rest =>
    obtain ⟨answer, rfl⟩ := (inquiry.ok_iff.1 agreed).answered reply List.mem_cons_self
    rw [inquiry.recorded agreed answer List.mem_cons_self,
      again.recorded (both.2 agreed) answer (order.mem_iff.2 List.mem_cons_self)]

/-- With a mailbox for every instance, an inquiry comes to a result after at most one question to
each interface. The answers that the interfaces have given, and those that the others would have
given, decide on it as described, and their order does not matter for a success. -/
theorem ecc_agreed {trace : Trace} {outcome : Option (Except Error Unit × Subsystem)}
    (present : before.instances.length ≤ mailboxes)
    (run : Runs ((readEcc mailboxes).perform before) trace outcome) :
    ∃ result after, outcome = some (result, after) ∧
      (replies trace).length ≤ (interfacesOf before.targets).length ∧
      ∀ told : List (Except MailboxError Answer),
        told.length = (interfacesOf before.targets).length → replies trace <+: told →
        EccInquiry before told trace result after ∧
        ∀ (other : Subsystem) (told' : List (Except MailboxError Answer)) (trace' : Trace)
          (outcome' : Option (Except Error Unit × Subsystem)),
          other.instances.length ≤ mailboxes → told'.Perm told →
          told'.length = (interfacesOf other.targets).length → replies trace' <+: told' →
          Runs ((readEcc mailboxes).perform other) trace' outcome' →
          ∃ result' after', outcome' = some (result', after') ∧
            (result' = .ok () ↔ result = .ok ()) ∧ (result = .ok () → after'.ecc = after.ecc) := by
  obtain ⟨result, after, rfl, performed⟩ := performs_of_returns run (readEcc_ends before)
  refine ⟨result, after, rfl, ?_, fun told count answered => ?_⟩
  · exact length_replies_le eccCommand fun told later count answered =>
      (ecc_inquiry present count.symm answered performed).asked
  · rw [← List.append_nil told] at answered
    have inquiry := ecc_inquiry present count.symm answered performed
    refine ⟨inquiry, fun other told' trace' outcome' present' order count' answered' run' => ?_⟩
    obtain ⟨result', after', rfl, performed'⟩ := performs_of_returns run' (readEcc_ends other)
    rw [← List.append_nil told'] at answered'
    have again := ecc_inquiry present' count'.symm answered' performed'
    exact ⟨result', after', rfl, inquiry.unordered again order⟩

end Inquiry

/-- An answer with this code in its short data. -/
def eccAnswer (code : Word) : Answer := ⟨code <<< 16, Vector.replicate 3 0⟩

/-- Three different codes stand for error correction. -/
theorem ecc_agreed_codes : ∃ trace after,
    Runs ((readEcc 2).perform threeInterfaces) trace (some (.ok (), after)) ∧ after.ecc = true ∧
      Concordant [.ok (eccAnswer 1), .ok (eccAnswer 2), .ok (eccAnswer 3)] := by
  have run : Runs ((readEcc 2).perform threeInterfaces) _
      (some (.ok (), { threeInterfaces with ecc := true })) :=
    Runs.of_run_eq answerInTurn [eccAnswer 1, eccAnswer 2, eccAnswer 3] (by with_unfolding_all rfl)
  obtain ⟨_, _, same, -, decides⟩ := ecc_agreed (by decide) run
  cases same
  obtain ⟨inquiry, -⟩ := decides [.ok (eccAnswer 1), .ok (eccAnswer 2), .ok (eccAnswer 3)] rfl
    ⟨[], by with_unfolding_all rfl⟩
  exact ⟨_, _, run, rfl, inquiry.ok_iff.1 rfl⟩

end BringUp.Iossm
