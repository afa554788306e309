import BringUp.Proofs.Iossm.Performs
import BringUp.Proofs.Iossm.Requests
import BringUp.Proofs.Iossm.Responder

/-! Sequences whose commands are answered in a known way. `ComesTo` says what a sequence comes to
with given answers, and each way to build a sequence has a rule. -/
namespace BringUp.Iossm

/-- The answers of a trace. -/
def replies (trace : Trace) : List (Except MailboxError Answer) :=
  trace.requests.map fun request => request.2.2

@[simp] theorem replies_append {first second : Trace} :
    replies (first ++ second) = replies first ++ replies second := by
  simp [replies]

/-- IOSSMs that give these answers in turn, and no further ones. -/
def answerInTurn : (op : Op) → List Answer → op.Answer × List Answer
  | .request _ _, answer :: rest => (.ok answer, rest)
  | op, answers => (Responder.blank op, answers)

/-- One instance with two interfaces. -/
def twoInterfaces : Subsystem :=
  { portCount := 1, plls := 0, instances := [{ interfaces := [⟨1, 0⟩, ⟨1, 1⟩] }] }

/-- Three interfaces of two instances. -/
def threeInterfaces : Subsystem :=
  { portCount := 1, plls := 0,
    instances := [{ interfaces := [⟨1, 0⟩, ⟨1, 1⟩] }, { interfaces := [⟨1, 0⟩] }] }

theorem exists_cut {α β : Type} {items : List α} {seen later : List β} {next : β}
    (count : items.length = (seen ++ next :: later).length) :
    ∃ front item back, items = front ++ item :: back ∧ front.length = seen.length ∧
      back.length = later.length := by
  rw [List.length_append, List.length_cons] at count
  have inside : seen.length < items.length := by omega
  refine ⟨items.take seen.length, items.get ⟨_, inside⟩, items.drop (seen.length + 1), ?_, ?_, ?_⟩
  · rw [List.get_eq_getElem, ← List.drop_eq_getElem_cons inside, List.take_append_drop]
  · exact List.length_take_of_le (Nat.le_of_lt inside)
  · rw [List.length_drop]
    omega

section Dialogue

variable {command : Target → Command} {places others : List (Nat × Target)}
  {told later : List (Except MailboxError Answer)}

/-- The commands for these places, one after the other, with these answers. -/
def dialogue (command : Target → Command) (places : List (Nat × Target))
    (told : List (Except MailboxError Answer)) : List Request :=
  (places.zip told).map fun asked => (asked.1.1, command asked.1.2, asked.2)

theorem dialogue_append (count : places.length = told.length) :
    dialogue command (places ++ others) (told ++ later) =
      dialogue command places told ++ dialogue command others later := by
  rw [dialogue, List.zip_append count, List.map_append]
  rfl

theorem dialogue_upTo {unit : Nat} {target : Target} {reply : Except MailboxError Answer}
    (count : places.length = told.length) :
    dialogue command places told ++ [(unit, command target, reply)] <+:
      dialogue command (places ++ (unit, target) :: others) (told ++ reply :: later) := by
  rw [dialogue_append count]
  exact (List.prefix_append_right_inj _).2 (List.prefix_append [_] _)

theorem length_dialogue_le : (dialogue command places told).length ≤ places.length := by
  rw [dialogue, List.length_map, List.length_zip]
  exact Nat.min_le_left _ _

theorem dialogue_replies (command : Target → Command) (count : places.length = told.length) :
    (dialogue command places told).map (fun request => request.2.2) = told := by
  rw [dialogue, List.map_map]
  exact List.map_snd_zip count.ge

/-- If a trace is the beginning of such a dialogue whatever comes after its answers, it has not more
answers than there are places. -/
theorem length_replies_le {trace : Trace} (command : Target → Command)
    (asked : ∀ told later : List (Except MailboxError Answer), told.length = places.length →
      replies trace <+: told ++ later → trace.requests <+: dialogue command places told) :
    (replies trace).length ≤ places.length := by
  let told := replies trace ++ List.replicate places.length (.error .notReady)
  have upTo : replies trace <+: told.take places.length ++ told.drop places.length := by
    rw [List.take_append_drop]
    exact List.prefix_append _ _
  have requests := asked _ _ (List.length_take_of_le (by simp [told])) upTo
  rw [replies, List.length_map]
  exact requests.length_le.trans length_dialogue_le

end Dialogue

namespace Sequence

variable {α β ι : Type} {before middle after : Subsystem} {trace : Trace}
  {first second : List Request} {sequence : Sequence α} {value : α} {cause : Error}

/-- Every run that gets the answers of this dialogue, and then possibly others, is this dialogue and
ends with this result. -/
def ComesTo (sequence : Sequence α) (before : Subsystem) (dialogue : List Request)
    (result : Except Error α) (after : Subsystem) : Prop :=
  ∀ trace outcome left later, sequence.Performs before trace outcome left →
    replies trace <+: dialogue.map (fun request => request.2.2) ++ later →
    outcome = result ∧ left = after ∧ trace.requests = dialogue

/-- The answers may be those of a longer dialogue, of which the sequence has the beginning only. -/
theorem ComesTo.result_eq {result outcome : Except Error α} {left : Subsystem}
    {command : Target → Command} {places : List (Nat × Target)}
    {told later : List (Except MailboxError Answer)}
    (comes : ComesTo sequence before first result after)
    (upTo : first <+: dialogue command places told) (count : places.length = told.length)
    (run : sequence.Performs before trace outcome left)
    (answered : replies trace <+: told ++ later) :
    outcome = result ∧ left = after ∧ trace.requests = first := by
  obtain ⟨rest, split⟩ := upTo
  rw [← dialogue_replies command count, ← split, List.map_append,
    List.append_assoc] at answered
  exact comes _ _ _ _ run answered

theorem comesTo_pure : ComesTo (pure value) before [] (.ok value) before := by
  intro trace outcome left later run answered
  obtain ⟨rfl, rfl, rfl⟩ := performs_pure.1 run
  exact ⟨rfl, rfl, rfl⟩

theorem comesTo_throw : ComesTo (throw cause : Sequence α) before [] (.error cause) before := by
  intro trace outcome left later run answered
  obtain ⟨rfl, rfl, rfl⟩ := performs_throw.1 run
  exact ⟨rfl, rfl, rfl⟩

theorem comesTo_get : ComesTo get before [] (.ok before) before := by
  intro trace outcome left later run answered
  obtain ⟨rfl, rfl, rfl⟩ := performs_get.1 run
  exact ⟨rfl, rfl, rfl⟩

theorem comesTo_modify {change : Subsystem → Subsystem} :
    ComesTo (modify change) before [] (.ok ()) (change before) := by
  intro trace outcome left later run answered
  obtain ⟨rfl, rfl, rfl⟩ := performs_modify.1 run
  exact ⟨rfl, rfl, rfl⟩

theorem comesTo_log {level : Level} {text : String} :
    ComesTo (liftM (Program.log level text)) before [] (.ok ()) before := by
  intro trace outcome left later run answered
  obtain ⟨rfl, rfl, rfl⟩ := performs_log.1 run
  exact ⟨rfl, rfl, rfl⟩

theorem comesTo_requireMailbox {mailboxes unit : Nat} (present : unit < mailboxes) :
    ComesTo (requireMailbox mailboxes unit) before [] (.ok ()) before := by
  intro trace outcome left later run answered
  obtain ⟨rfl, rfl, rfl⟩ := performs_requireMailbox.1 run
  exact ⟨if_pos present, rfl, rfl⟩

theorem comesTo_send {unit : Nat} {command : Command} (reply : Except MailboxError Answer) :
    ComesTo (send unit command) before [(unit, command, reply)]
      (reply.mapError (.mailbox unit)) before := by
  intro trace outcome left later run answered
  obtain ⟨other, rfl, rfl, rfl⟩ := performs_send.1 run
  obtain rfl : other = reply := (List.cons_prefix_cons.1 answered).1
  exact ⟨rfl, rfl, rfl⟩

/-- The second part goes on with the answers that the first one leaves. -/
theorem comesTo_bind {f : α → Sequence β} {result : Except Error β}
    (begins : ComesTo sequence before first (.ok value) middle)
    (ends : ComesTo (f value) middle second result after) :
    ComesTo (sequence >>= f) before (first ++ second) result after := by
  intro trace outcome left later run answered
  rw [List.map_append, List.append_assoc] at answered
  obtain ⟨early, late, found, between, rfl, run₁, run₂⟩ | ⟨cause, rfl, failed⟩ :=
    performs_bind.1 run
  · obtain ⟨same, rfl, asked⟩ :=
      begins _ _ _ _ run₁ ((List.prefix_append _ (replies late)).trans (replies_append ▸ answered))
    cases same
    rw [replies_append, replies, asked, List.prefix_append_right_inj] at answered
    obtain ⟨rfl, rfl, asked'⟩ := ends _ _ _ _ run₂ answered
    exact ⟨rfl, rfl, by rw [Trace.requests_append, asked, asked']⟩
  · cases (begins _ _ _ _ failed answered).1

theorem comesTo_bind_error {f : α → Sequence β}
    (fails : ComesTo sequence before first (.error cause) after) :
    ComesTo (sequence >>= f) before first (.error cause) after := by
  intro trace outcome left later run answered
  obtain ⟨early, late, found, between, rfl, run₁, -⟩ | ⟨_, rfl, failed⟩ := performs_bind.1 run
  · cases (fails _ _ _ _ run₁
      ((List.prefix_append _ (replies late)).trans (replies_append ▸ answered))).1
  · obtain ⟨same, rfl, asked⟩ := fails _ _ _ _ failed answered
    cases same
    exact ⟨rfl, rfl, asked⟩

theorem comesTo_send_error {unit : Nat} {command : Command} {f : Answer → Sequence α}
    {failure : MailboxError} : ComesTo (send unit command >>= f) before
      [(unit, command, .error failure)] (.error (.mailbox unit failure)) before :=
  comesTo_bind_error (comesTo_send (.error failure))

theorem comesTo_send_ok {unit : Nat} {command : Command} {f : Answer → Sequence α} {answer : Answer}
    {result : Except Error α} (goesOn : ComesTo (f answer) before second result after) :
    ComesTo (send unit command >>= f) before ((unit, command, .ok answer) :: second) result after :=
  comesTo_bind (comesTo_send (.ok answer)) goesOn

theorem comesTo_quiet_bind {f : α → Sequence β} {result : Except Error β}
    (quiet : ComesTo sequence before [] (.ok value) middle)
    (ends : ComesTo (f value) middle second result after) :
    ComesTo (sequence >>= f) before second result after :=
  comesTo_bind quiet ends

theorem comesTo_foldlM_stop {visit : β → ι → Sequence β} {seen rest : List ι} {item : ι}
    {start next : β} (here : ComesTo (seen.foldlM visit start) before first (.ok next) middle)
    (fails : ComesTo (visit next item) middle second (.error cause) after) :
    ComesTo ((seen ++ item :: rest).foldlM visit start) before (first ++ second) (.error cause)
      after := by
  rw [List.foldlM_append]
  exact comesTo_bind here (comesTo_bind_error fails)

theorem comesTo_mapM_cons {visit : ι → Sequence α} {item : ι} {rest : List ι} {values : List α}
    (here : ComesTo (visit item) before first (.ok value) middle)
    (there : ComesTo (rest.mapM visit) middle second (.ok values) after) :
    ComesTo ((item :: rest).mapM visit) before (first ++ second) (.ok (value :: values)) after := by
  rw [List.mapM_cons, ← List.append_nil second]
  exact comesTo_bind here (comesTo_bind there comesTo_pure)

theorem comesTo_mapM_stop {visit : ι → Sequence α} {seen rest : List ι} {item : ι} {values : List α}
    (here : ComesTo (seen.mapM visit) before first (.ok values) middle)
    (fails : ComesTo (visit item) middle second (.error cause) after) :
    ComesTo ((seen ++ item :: rest).mapM visit) before (first ++ second) (.error cause) after := by
  rw [List.mapM_append, List.mapM_cons]
  exact comesTo_bind here (comesTo_bind_error (comesTo_bind_error fails))

theorem comesTo_forInstances {visit : Nat → Instance → Sequence α} {result : Except Error (List α)}
    (visited : ComesTo (before.instances.zipIdx.mapM fun item => visit item.2 item.1) before first
      result after) : ComesTo (forInstances visit) before first result after :=
  comesTo_quiet_bind comesTo_get visited

end Sequence
end BringUp.Iossm
