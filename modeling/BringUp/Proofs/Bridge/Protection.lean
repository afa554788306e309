import BringUp.Proofs.Bridge.Handshake
import BringUp.Proofs.Dram.Rehearsal
import BringUp.Proofs.Program.Modification

/-! What any number of calls can do to the bridges. Main statement: they never put the DDR scheduler
or the bridge from the FPGA into reset, and never change a bridge outside of their masks. -/
namespace BringUp.Bridge

open Program (Logging obeys_bind obeys_mapM)
open ResetManager (bridgeReset)
open SystemManager

variable {platform : Platform} {enable met : Bool} {mask value initial : Word}
  {address pauses : Nat} {trace first second waiting rest : Trace} {result : Except Error Unit}

/-- A read of the register shows the masked bits with the value after no more pauses than the timeout
has, and is followed by the rest. -/
def Shows (address : Nat) (mask value : Word) (trace rest : Trace) : Prop :=
  ∃ (waiting : Trace) (word : Word), trace = waiting ++ ⟨.load address, word⟩ :: rest ∧
    word &&& mask = value ∧ waiting.pauses ≤ intervals idleTimeout

/-- The acknowledge and after it the status shows that the masked bridges are idle, each of them in
time. -/
def Idles (mask : Word) (trace : Trace) : Prop :=
  ∃ acknowledged rest, Shows nocIdleAcknowledge mask mask trace acknowledged ∧
    Shows nocIdleStatus mask mask acknowledged rest

/-- What a call does that puts bridges into reset. -/
structure Quiesced (mask : Word) (trace : Trace) (result : Except Error Unit) : Prop where
  ok_iff : result = .ok () ↔ Idles mask trace
  held : result = .ok () → ∃ (before : Trace) (old : Word) (after : Trace),
    trace = before ++ ([⟨.load bridgeReset, old⟩,
      ⟨.store bridgeReset (old ||| (mask &&& ~~~ 0x44)), ()⟩] ++ after) ∧ Idles mask before ∧
    before.stores = [(nocIdleRequestSet, mask), (nocTimeout, 1)] ∧ after.stores = [(nocTimeout, 0)]
  spared : result ≠ .ok () →
    trace.stores = [(nocIdleRequestSet, mask), (nocTimeout, 1), (nocTimeout, 0)]
  unacknowledged_iff : result = .error .acknowledgeTimeout ↔
    ¬ ∃ rest, Shows nocIdleAcknowledge mask mask trace rest
  /-- A call does not give up before the timeout is used up. -/
  patient : result ≠ .ok () → intervals idleTimeout ≤ trace.pauses

/-- What a call does that takes bridges out of reset. -/
structure Released (mask : Word) (trace : Trace) (result : Except Error Unit) : Prop where
  ok_iff : result = .ok () ↔ ∃ rest, Shows nocIdleAcknowledge mask 0 trace rest
  released : ∃ (before : Trace) (old : Word) (after : Trace),
    trace = before ++ ([⟨.load bridgeReset, old⟩, ⟨.store bridgeReset (old &&& ~~~ mask), ()⟩] ++
      after) ∧
    before.stores = [(nocIdleRequestClear, mask)] ∧ after.stores = []
  patient : result ≠ .ok () → intervals idleTimeout ≤ trace.pauses

section Observation

/-- No read of the register shows the masked bits with the value. -/
def Hides (address : Nat) (mask value : Word) (trace : Trace) : Prop :=
  ∀ word : Word, ⟨.load address, word⟩ ∈ trace → word &&& mask ≠ value

theorem hides_append : Hides address mask value (first ++ second) ↔
    Hides address mask value first ∧ Hides address mask value second := by
  simp only [Hides, List.mem_append, or_imp, forall_and]

theorem hides_of_allowed {allowed : Op → Prop} (h : ∀ event ∈ trace, allowed event.op)
    (other : ¬ allowed (.load address)) : Hides address mask value trace :=
  fun _ member => absurd (h _ member) other

theorem Shows.not_hides (shows : Shows address mask value trace rest) :
    ¬ Hides address mask value trace := by
  obtain ⟨waiting, word, rfl, shown, -⟩ := shows
  exact fun hides => hides word (by simp) shown

theorem mem_reads {shown : Bool} {look : Trace} (reads : Reads address mask value shown look) :
    ∀ event ∈ look, ∃ word : Word, event = ⟨.load address, word⟩ ∧
      (shown = false → word &&& mask ≠ value) := by
  obtain ⟨word, rfl, rfl⟩ := reads
  exact fun event member => ⟨word, List.mem_singleton.1 member, fun hidden => by simpa using hidden⟩

/-- A wait only pauses and reads its register, and no read meets the condition of a wait that is not
met. -/
theorem mem_waited (waited : Waited (Reads address mask value) pauses met waiting) :
    ∀ event ∈ waiting, event = ⟨.pause, ()⟩ ∨ ∃ word : Word, event = ⟨.load address, word⟩ ∧
      (met = false → word &&& mask ≠ value) := by
  induction waited with
  | met look => exact fun event member => .inr (mem_reads look event member)
  | expired look => exact fun event member => .inr (mem_reads look event member)
  | later look _ ih =>
    intro event member
    rcases List.mem_append.1 member with here | later
    · obtain ⟨word, same, hidden⟩ := mem_reads look event here
      exact .inr ⟨word, same, fun _ => hidden rfl⟩
    · rcases List.mem_cons.1 later with pause | there
      · exact .inl pause
      · exact ih event there

theorem stores_waited (waited : Waited (Reads address mask value) pauses met waiting) :
    waiting.stores = [] := by
  refine List.eq_nil_iff_forall_not_mem.2 fun (target, word) member => ?_
  rcases mem_waited waited _ (Trace.mem_stores.1 member) with same | ⟨_, same, -⟩ <;> cases same

theorem hides_waited (waited : Waited (Reads address mask value) pauses false waiting) :
    Hides address mask value waiting := by
  intro word member
  rcases mem_waited waited _ member with same | ⟨_, same, hidden⟩
  · cases same
  · cases same
    exact hidden rfl

theorem hides_waited_other {other : Nat} {mask' value' : Word} (ne : other ≠ address)
    (waited : Waited (Reads address mask value) pauses met waiting) :
    Hides other mask' value' waiting := by
  intro word member
  rcases mem_waited waited _ member with same | ⟨_, same, -⟩
  · cases same
  · cases same
    exact absurd rfl ne

theorem reads_still {shown : Bool} {look : Trace} (reads : Reads address mask value shown look) :
    look.pauses = 0 := by
  obtain ⟨word, rfl, -⟩ := reads
  rfl

theorem shows_awaits {early : Trace} (quick : early.pauses = 0)
    (waited : Awaits address mask value true waiting) :
    Shows address mask value (early ++ (waiting ++ rest)) rest := by
  obtain ⟨before, _, rfl, ⟨word, rfl, shown⟩, within, -⟩ :=
    waited.last_look fun _ _ => reads_still
  refine ⟨early ++ before, word, by simp, by simpa using shown.symm, ?_⟩
  rw [Trace.pauses_append, quick, Nat.zero_add]
  exact within

theorem pauses_awaits (waited : Awaits address mask value false waiting) :
    waiting.pauses = intervals idleTimeout := by
  obtain ⟨before, last, rfl, reads, -, used⟩ := waited.last_look fun _ _ => reads_still
  rw [Trace.pauses_append, reads_still reads, used rfl, Nat.add_zero]

end Observation

section Calls

theorem stores_sampling {ready : Bool} {sampling : Trace}
    (sampled : Runs platform.fpgaReady sampling (some ready)) : sampling.stores = [] :=
  Trace.stores_eq_nil (sampled.uses fpgaReady_uses) fun _ _ asked => asked

theorem stores_quiet {told : Trace} (quiet : ∀ event ∈ told, Logging event.op) : told.stores = [] :=
  Trace.stores_eq_nil quiet fun _ _ asked => asked

theorem pauses_opening {ready : Bool} {sampling requests : Trace}
    (sampled : Runs platform.fpgaReady sampling (some ready)) (still : requests.pauses = 0) :
    Trace.pauses (sampling ++ requests) = 0 := by
  have quick : sampling.pauses = 0 := by
    refine Trace.pauses_eq_zero fun event member same => ?_
    have asked := sampled.uses fpgaReady_uses event member
    rw [same] at asked
    exact asked
  rw [Trace.pauses_append, quick, still]

theorem hides_sampling {ready : Bool} {sampling : Trace}
    (sampled : Runs platform.fpgaReady sampling (some ready))
    (other : address = nocIdleAcknowledge ∨ address = nocIdleStatus) :
    Hides address mask value sampling := by
  have unsampled : address ≠ revision ∧ address ≠ fpgaState := by
    rcases other with rfl | rfl <;> decide
  exact hides_of_allowed (sampled.uses fpgaReady_uses) (not_or.2 unsampled)

theorem hides_quiet {told : Trace} (quiet : ∀ event ∈ told, Logging event.op) :
    Hides address mask value told :=
  hides_of_allowed quiet id

variable {early shaking : Trace}

theorem idles_of_awaits {acknowledging settling : Trace} (quick : early.pauses = 0)
    (acknowledged : Awaits nocIdleAcknowledge mask mask true acknowledging)
    (settled : Awaits nocIdleStatus mask mask true settling) :
    Idles mask (early ++ (acknowledging ++ (settling ++ rest))) := by
  have at_once : Trace.pauses [] = 0 := rfl
  exact ⟨_, _, shows_awaits quick acknowledged, shows_awaits at_once settled⟩

/-- A handshake that fails has not seen the acknowledge, or has seen it and not the status. -/
theorem Handshake.fails (handshake : Handshake mask shaking result) (failed : result ≠ .ok ()) :
    (result = .error .acknowledgeTimeout ∧ Hides nocIdleAcknowledge mask mask shaking) ∨
    (result = .error .statusTimeout ∧ Hides nocIdleStatus mask mask shaking ∧
      ∀ early rest : Trace, early.pauses = 0 →
        ∃ later, Shows nocIdleAcknowledge mask mask (early ++ (shaking ++ rest)) later) := by
  cases handshake with
  | idle _ _ => exact absurd rfl failed
  | unacknowledged missing => exact .inl ⟨rfl, hides_waited missing⟩
  | busy acknowledged missing =>
    have other : Hides nocIdleStatus mask mask _ := hides_waited_other (by decide) acknowledged
    refine .inr ⟨rfl, hides_append.2 ⟨other, hides_waited missing⟩, fun early rest quick => ?_⟩
    rw [List.append_assoc]
    exact ⟨_, shows_awaits quick acknowledged⟩

theorem Handshake.spares (handshake : Handshake mask shaking result) (failed : result ≠ .ok ()) :
    shaking.stores = [] := by
  cases handshake with
  | idle _ _ => exact absurd rfl failed
  | unacknowledged missing => exact stores_waited missing
  | busy acknowledged missing =>
    rw [Trace.stores_append, stores_waited acknowledged, stores_waited missing, List.append_nil]

theorem Handshake.patient (handshake : Handshake mask shaking result) (failed : result ≠ .ok ()) :
    intervals idleTimeout ≤ shaking.pauses := by
  cases handshake with
  | idle _ _ => exact absurd rfl failed
  | unacknowledged missing => exact Nat.le_of_eq (pauses_awaits missing).symm
  | busy _ missing =>
    rw [Trace.pauses_append, pauses_awaits missing]
    exact Nat.le_add_left _ _

/-- What lies before and behind a handshake: it enables the timeout of the network on chip, and
disables it again. -/
structure Encloses (mask : Word) (before after : Trace) : Prop where
  quick : before.pauses = 0
  enabled : before.stores = [(nocIdleRequestSet, mask), (nocTimeout, 1)]
  disabled : after.stores = [(nocTimeout, 0)]
  unread : ∀ address, address = nocIdleAcknowledge ∨ address = nocIdleStatus →
    Hides address mask mask before ∧ Hides address mask mask after

variable {before after : Trace}

theorem Encloses.hides (encloses : Encloses mask before after)
    (other : address = nocIdleAcknowledge ∨ address = nocIdleStatus)
    (hidden : Hides address mask mask shaking) :
    Hides address mask mask (before ++ (shaking ++ after)) := by
  have ⟨early, late⟩ := encloses.unread address other
  exact hides_append.2 ⟨early, hides_append.2 ⟨hidden, late⟩⟩

theorem not_idles_of_hides (hides : Hides nocIdleStatus mask mask trace) : ¬ Idles mask trace := by
  rintro ⟨acknowledged, rest, ⟨waiting, word, split, -⟩, settles⟩
  rw [split] at hides
  exact settles.not_hides fun word member =>
    hides word (List.mem_append_right _ (List.mem_cons_of_mem _ member))

theorem Handshake.quiesced (handshake : Handshake mask shaking result)
    (encloses : Encloses mask before after) :
    Quiesced mask (before ++ (shaking ++ after)) result := by
  by_cases failed : result ≠ .ok ()
  · have unwritten : Trace.stores (before ++ (shaking ++ after)) =
        [(nocIdleRequestSet, mask), (nocTimeout, 1), (nocTimeout, 0)] := by
      rw [Trace.stores_append, Trace.stores_append, encloses.enabled, handshake.spares failed,
        encloses.disabled]
      rfl
    have patient : intervals idleTimeout ≤ Trace.pauses (before ++ (shaking ++ after)) := by
      have enough := handshake.patient failed
      simp only [Trace.pauses_append]
      omega
    rcases handshake.fails failed with ⟨rfl, hidden⟩ | ⟨rfl, hidden, acknowledged⟩
    · have unseen := encloses.hides (.inl rfl) hidden
      refine ⟨⟨nofun, ?_⟩, nofun, fun _ => unwritten, ⟨?_, fun _ => rfl⟩, fun _ => patient⟩
      · rintro ⟨_, _, acknowledges, _⟩
        exact absurd unseen acknowledges.not_hides
      · rintro _ ⟨_, acknowledges⟩
        exact acknowledges.not_hides unseen
    · have busy := not_idles_of_hides (encloses.hides (.inr rfl) hidden)
      refine ⟨⟨nofun, fun idles => absurd idles busy⟩, nofun, fun _ => unwritten, ⟨nofun, ?_⟩,
        fun _ => patient⟩
      exact fun unseen => absurd (acknowledged before after encloses.quick) unseen
  · obtain rfl := Decidable.not_not.1 failed
    cases handshake with
    | @idle acknowledging settling old acknowledged settled =>
      have idles (rest : Trace) : Idles mask (before ++ (acknowledging ++ (settling ++ rest))) :=
        idles_of_awaits encloses.quick acknowledged settled
      rw [List.append_assoc, List.append_assoc]
      refine ⟨⟨fun _ => idles _, fun _ => rfl⟩, fun _ => ?_, fun failed => absurd rfl failed,
        ⟨nofun, fun unseen => ?_⟩, fun failed => absurd rfl failed⟩
      · refine ⟨before ++ (acknowledging ++ (settling ++ [])), old, after, ?_, idles [], ?_,
          encloses.disabled⟩
        · simp only [List.append_assoc, List.append_nil]
          rfl
        · simp only [Trace.stores_append, encloses.enabled, stores_waited acknowledged,
            stores_waited settled]
          rfl
      · obtain ⟨_, _, acknowledges, -⟩ := idles _
        exact absurd ⟨_, acknowledges⟩ unseen

theorem quiesced_of_course (course : Course platform mask false trace result)
    (ready : result ≠ .error .fpgaNotReady) : Quiesced mask trace result := by
  cases course with
  | refused _ _ => exact absurd rfl ready
  | @held sampling shaking told _ sampled handshake quiet =>
    rw [← List.append_assoc]
    refine handshake.quiesced ⟨pauses_opening sampled rfl, ?_, ?_, fun address other => ?_⟩
    · rw [Trace.stores_append, stores_sampling sampled]
      rfl
    · rw [Trace.stores_append, stores_quiet quiet]
      rfl
    · rw [hides_append, hides_append]
      exact ⟨⟨hides_sampling sampled other, by simp [Hides]⟩, by simp [Hides], hides_quiet quiet⟩

theorem released_of_course (course : Course platform mask true trace result)
    (ready : result ≠ .error .fpgaNotReady) : Released mask trace result := by
  cases course with
  | refused _ _ => exact absurd rfl ready
  | @released sampling waiting told old met sampled waited quiet =>
    refine ⟨⟨?_, ?_⟩, ?_, ?_⟩
    · intro succeeded
      cases met with
      | false => cases succeeded
      | true =>
        rw [← List.append_assoc]
        exact ⟨told, shows_awaits (pauses_opening sampled rfl) waited⟩
    · rintro ⟨rest, shows⟩
      cases met with
      | true => rfl
      | false =>
        refine absurd ?_ shows.not_hides
        have unread : Hides nocIdleAcknowledge mask 0 [⟨.store nocIdleRequestClear mask, ()⟩,
            ⟨.load bridgeReset, old⟩, ⟨.store bridgeReset (old &&& ~~~ mask), ()⟩] := by
          have other : (nocIdleAcknowledge : Nat) ≠ bridgeReset := by decide
          intro word member
          simp [other] at member
        simp only [hides_append]
        exact ⟨hides_sampling sampled (.inl rfl), unread, hides_waited waited, hides_quiet quiet⟩
    · refine ⟨sampling ++ [⟨.store nocIdleRequestClear mask, ()⟩], old, waiting ++ told, by simp, ?_, ?_⟩
      · rw [Trace.stores_append, stores_sampling sampled]
        rfl
      · rw [Trace.stores_append, stores_waited waited, stores_quiet quiet, List.append_nil]
    · intro failed
      cases met with
      | true => exact absurd rfl failed
      | false =>
        simp only [Trace.pauses_append, pauses_awaits waited]
        omega

/-- The state of the FPGA, which a call samples first, decides whether it is refused. -/
theorem sampled_of_course (course : Course platform mask enable trace result) :
    ∃ sampling rest ready, trace = sampling ++ rest ∧
      Runs platform.fpgaReady sampling (some ready) ∧
      (result = .error .fpgaNotReady ↔ ready = false) := by
  cases course with
  | refused sampled quiet => exact ⟨_, _, false, rfl, sampled, by simp⟩
  | @released _ _ _ _ met sampled waited quiet =>
    exact ⟨_, _, true, rfl, sampled, by cases met <;> simp⟩
  | held sampled handshake quiet =>
    exact ⟨_, _, true, rfl, sampled, by cases handshake <;> simp⟩

theorem stores_of_refused (course : Course platform mask enable trace (.error .fpgaNotReady)) :
    trace.stores = [] := by
  generalize failed : (.error .fpgaNotReady : Except Error Unit) = result at course
  cases course with
  | refused sampled quiet =>
    rw [Trace.stores_append, stores_sampling sampled, stores_quiet quiet, List.append_nil]
  | @released _ _ _ _ met _ _ _ => cases met <;> cases failed
  | held _ handshake _ => cases handshake <;> cases failed

end Calls

section Sequences

/-- A call, which takes the bridges in the mask out of reset or puts them into it. -/
structure Call where
  platform : Platform
  enable : Bool
  mask : Word

def Call.perform (call : Call) : Program (Except Error Unit) :=
  reset call.platform call.enable call.mask

/-- Calls one after another, whatever comes out of each of them. -/
def performAll (calls : List Call) : Program (List (Except Error Unit)) :=
  calls.mapM Call.perform

/-- What calls with these masks may make of the resets: bits 2 and 6 are not set, and bits outside of
all masks stay. -/
structure Guarded (masks : List Word) (first second : Word) : Prop where
  active : ∀ bit ∈ [2, 6], first.getLsbD bit = false → second.getLsbD bit = false
  outside : ∀ bit, (∀ mask ∈ masks, mask.getLsbD bit = false) →
    second.getLsbD bit = first.getLsbD bit

namespace Guarded

variable {masks : List Word} {first second third old : Word}

theorem refl (word : Word) : Guarded masks word word :=
  ⟨fun _ _ => id, fun _ _ => rfl⟩

theorem trans (earlier : Guarded masks first second) (later : Guarded masks second third) :
    Guarded masks first third where
  active bit known clear := later.active bit known (earlier.active bit known clear)
  outside bit apart := (later.outside bit apart).trans (earlier.outside bit apart)

theorem release (member : mask ∈ masks) : Guarded masks old (old &&& ~~~ mask) where
  active bit _ clear := by simp [clear]
  outside bit apart := by
    rw [BitVec.getLsbD_and, BitVec.getLsbD_not, apart mask member]
    by_cases inside : bit < 32
    · simp [inside]
    · simp [BitVec.getLsbD_of_ge _ _ (Nat.not_lt.1 inside)]

theorem hold (member : mask ∈ masks) :
    Guarded masks old (old ||| (mask &&& ~~~ ResetManager.BridgeReset.keepActive)) where
  active bit known clear := by
    have kept : ∀ bit ∈ [2, 6], ResetManager.BridgeReset.keepActive.getLsbD bit = true := by decide
    simp [clear, kept bit known]
  outside bit apart := by simp [apart mask member]

end Guarded

variable {masks : List Word} {past : Trace}

/-- Questions that do not write a register. -/
def Observing : Op → Prop
  | .store _ _ => False
  | _ => True

theorem await_masked_uses :
    (Program.await (masked address mask value) idleTimeout).Uses Observing :=
  Program.uses_await ⟨trivial, fun _ => trivial⟩ trivial

theorem fpgaReady_observes : platform.fpgaReady.Uses Observing :=
  fpgaReady_uses.mono fun op sampling => by cases op <;> trivial

theorem reset_obeys (member : mask ∈ masks) :
    (reset platform enable mask).Obeys (Modifying bridgeReset (Guarded masks)) past := by
  have observes {α : Type} {p : Program α} {past : Trace} (uses : p.Uses Observing) :
      p.Obeys (Modifying bridgeReset (Guarded masks)) past :=
    Modifying.obeys_of_unwritten uses fun _ asked => asked
  have elsewhere {target : Nat} {word : Word} {past : Trace} (other : target ≠ bridgeReset) :
      (Program.store target word).Obeys (Modifying bridgeReset (Guarded masks)) past :=
    ⟨fun same => absurd same other, fun _ => trivial⟩
  refine obeys_bind (observes fpgaReady_observes) fun _ ready _ => ?_
  cases ready with
  | false => exact obeys_bind (observes (Program.uses_log trivial)) fun _ _ _ => trivial
  | true =>
    cases enable with
    | true =>
      refine obeys_bind (elsewhere (by decide)) fun _ _ _ => ?_
      refine obeys_bind (Modifying.obeys_update fun _ => .release member) fun _ _ _ => ?_
      refine obeys_bind (observes await_masked_uses) fun _ met _ => ?_
      cases met with
      | true => trivial
      | false => exact obeys_bind (observes (Program.uses_log trivial)) fun _ _ _ => trivial
    | false =>
      refine obeys_bind (elsewhere (by decide)) fun _ _ _ => ?_
      refine obeys_bind (elsewhere (by decide)) fun _ _ _ => ?_
      refine obeys_bind ?_ fun _ result _ => obeys_bind (elsewhere (by decide)) fun _ _ _ => ?_
      · refine obeys_bind (observes await_masked_uses) fun _ acknowledged _ => ?_
        cases acknowledged with
        | false => trivial
        | true =>
          refine obeys_bind (observes await_masked_uses) fun _ settled _ => ?_
          cases settled with
          | false => trivial
          | true => exact obeys_bind (Modifying.obeys_update fun _ => .hold member) fun _ _ _ => trivial
      · cases result with
        | ok _ => trivial
        | error _ => exact obeys_bind (observes (Program.uses_log trivial)) fun _ _ _ => trivial

theorem performAll_obeys {calls : List Call} :
    (performAll calls).Obeys (Modifying bridgeReset (Guarded (calls.map Call.mask))) past :=
  obeys_mapM fun _ member _ => reset_obeys (List.mem_map_of_mem member)

/-- Whatever the calls are and whatever comes out of them, the resets are guarded from each moment of
the run to each later one. -/
theorem performAll_guarded {calls : List Call} {outcome : Option (List (Except Error Unit))}
    {before between after : Trace} (run : Runs (performAll calls) trace outcome)
    (tracks : trace.Tracks bridgeReset initial) (split : trace = before ++ (between ++ after)) :
    Guarded (calls.map Call.mask) (Trace.content bridgeReset initial before)
      (Trace.content bridgeReset initial (before ++ between)) := by
  have obeyed : (performAll calls).Obeys (Modifying bridgeReset (Guarded (calls.map Call.mask))) [] :=
    performAll_obeys
  exact Modifying.related Guarded.refl Guarded.trans tracks (run.obeys obeyed) split

theorem release_hold (clear : initial &&& mask = 0) :
    (initial ||| (mask &&& ~~~ 0x44)) &&& ~~~ mask = initial := by
  apply BitVec.eq_of_getLsbD_eq
  intro bit inside
  have apart := congrArg (fun word : Word => word.getLsbD bit) clear
  simp only [BitVec.getLsbD_and, BitVec.getLsbD_or, BitVec.getLsbD_not, inside, decide_true,
    Bool.true_and] at apart ⊢
  cases held : mask.getLsbD bit <;> simp_all

/-- Bridges that were put into reset and taken out of it are as before, if none of them was in reset. -/
theorem content_of_round_trip {first second : Trace} (quiesced : Quiesced mask first (.ok ()))
    (released : Released mask second (.ok ()))
    (tracks : Trace.Tracks bridgeReset initial (first ++ second)) (clear : initial &&& mask = 0) :
    Trace.content bridgeReset initial (first ++ second) = initial := by
  have apart : ∀ register ∈ [nocIdleRequestSet, nocIdleRequestClear, nocTimeout],
      register ≠ bridgeReset := by decide
  obtain ⟨before, old, after, rfl, -, early, late⟩ := quiesced.held rfl
  obtain ⟨before', old', after', rfl, early', late'⟩ := released.released
  obtain ⟨rfl, holding⟩ := Trace.content_of_update tracks.left (by simp [early, apart])
    (by simp [late, apart])
  have tracks' := tracks.right
  rw [holding] at tracks'
  obtain ⟨rfl, releasing⟩ := Trace.content_of_update tracks' (by simp [early', apart])
    (by simp [late'])
  rw [Trace.content_append, holding, releasing, release_hold clear]

end Sequences

/-- A call writes no register if the FPGA is not ready. Otherwise it puts the bridges of its mask into
reset, but for two that stay active, exactly if they become idle in time, or takes them out of it. The
timeout of the network on chip is disabled at the end in any case. If nobody else writes the resets,
calls with any masks never set bits 2 and 6, never change a bit outside of their masks, and give back
the bridges that they have taken. -/
theorem bridges_protected :
    (∀ platform enable mask trace outcome, Runs (reset platform enable mask) trace outcome →
      ∃ result, outcome = some result ∧
        (∃ sampling rest ready, trace = sampling ++ rest ∧
          Runs platform.fpgaReady sampling (some ready) ∧
          (result = .error .fpgaNotReady ↔ ready = false)) ∧
        (result = .error .fpgaNotReady → trace.stores = []) ∧
        (result ≠ .error .fpgaNotReady → enable = false → Quiesced mask trace result) ∧
        (result ≠ .error .fpgaNotReady → enable = true → Released mask trace result)) ∧
    (∀ calls trace outcome initial, Runs (performAll calls) trace outcome →
      trace.Tracks bridgeReset initial → ∀ before between after,
        trace = before ++ (between ++ after) → Guarded (calls.map Call.mask)
          (Trace.content bridgeReset initial before)
          (Trace.content bridgeReset initial (before ++ between))) ∧
    ∀ platform platform' mask first second initial,
      Runs (reset platform false mask) first (some (.ok ())) →
      Runs (reset platform' true mask) second (some (.ok ())) →
      Trace.Tracks bridgeReset initial (first ++ second) → initial &&& mask = 0 →
        Trace.content bridgeReset initial (first ++ second) = initial := by
  refine ⟨fun platform enable mask trace outcome run => ?_, fun calls trace outcome initial run tracks
    before between after split => performAll_guarded run tracks split,
    fun platform platform' mask first second initial run run' tracks clear => ?_⟩
  · obtain ⟨result, rfl, course⟩ := runs_reset run
    refine ⟨result, rfl, sampled_of_course course, fun refused => ?_, fun ready disable => ?_,
      fun ready enables => ?_⟩
    · subst refused
      exact stores_of_refused course
    · subst disable
      exact quiesced_of_course course ready
    · subst enables
      exact released_of_course course ready
  · obtain ⟨_, same, course⟩ := runs_reset run
    obtain ⟨_, same', course'⟩ := runs_reset run'
    cases same
    cases same'
    exact content_of_round_trip (quiesced_of_course course nofun) (released_of_course course' nofun)
      tracks clear

namespace Rehearsal

open Dram.Rehearsal (Registers serve)

/-- Answers every question. The network on chip takes a request at once, and the acknowledge and the
status follow while the program pauses. -/
def react : (op : Op) → Registers → op.Answer × Registers
  | .store address value, registers => ((), fun other =>
      if other = nocIdleRequest then
        if address = nocIdleRequestSet then registers other ||| value
        else if address = nocIdleRequestClear then registers other &&& ~~~ value
        else registers other
      else if address = other then value else registers other)
  | .pause, registers => ((), fun other =>
      if other = nocIdleAcknowledge ∨ other = nocIdleStatus then registers nocIdleRequest
      else registers other)
  | op, registers => serve id op registers

/-- The FPGA is ready, and some resets are set that no mask names. -/
def ready : Registers := fun address =>
  if address = fpgaState then 3 else if address = bridgeReset then 0x100 else 0

/-- Nobody but the program writes the resets. -/
theorem tracks_reset {α : Type} (p : Program α) (registers : Registers) :
    (p.trace react registers).Tracks bridgeReset (registers bridgeReset) := by
  refine Trace.tracks_of_handler (fun registers : Registers => registers bridgeReset) (fun _ => rfl)
    (fun op registers => ?_) p registers
  cases op <;> rfl

end Rehearsal

/-- All bridges are put into reset but for the DDR scheduler and the bridge from the FPGA, and then
taken out of it. -/
theorem bridges_protected_round_trip :
    let held := (reset {} false 0x7F).run Rehearsal.react Rehearsal.ready
    let first := (reset {} false 0x7F).trace Rehearsal.react Rehearsal.ready
    let second := (reset {} true 0x7F).trace Rehearsal.react held.2
    held.1 = some (.ok ()) ∧ ((reset {} true 0x7F).run Rehearsal.react held.2).1 = some (.ok ()) ∧
      Trace.content bridgeReset 0x100 first = 0x13B ∧ Idles 0x7F first ∧
      Trace.content bridgeReset 0x100 (first ++ second) = 0x100 := by
  intro held first second
  have holds : held.1 = some (.ok ()) := by decide +kernel
  have releases : ((reset {} true 0x7F).run Rehearsal.react held.2).1 = some (.ok ()) := by
    decide +kernel
  have holding : Runs (reset {} false 0x7F) first (some (.ok ())) :=
    Runs.of_run_eq Rehearsal.react Rehearsal.ready holds
  have releasing : Runs (reset {} true 0x7F) second (some (.ok ())) :=
    Runs.of_run_eq Rehearsal.react held.2 releases
  have tracks : Trace.Tracks bridgeReset 0x100 (first ++ second) := by
    have both := Rehearsal.tracks_reset
      ((reset {} false 0x7F).bind fun _ => reset {} true 0x7F) Rehearsal.ready
    rwa [Program.trace_bind _ _ _ _ holds] at both
  obtain ⟨result, same, -, -, quiesced, -⟩ := bridges_protected.1 _ _ _ _ _ holding
  cases same
  exact ⟨holds, releases, by decide +kernel, (quiesced nofun rfl).ok_iff.1 rfl,
    bridges_protected.2.2 _ _ _ _ _ _ holding releasing tracks (by decide)⟩

end BringUp.Bridge
