import BringUp.Bridge
import BringUp.Proofs.Program.Content
import BringUp.Proofs.Program.Polling

/-! The course of a call that resets bridges. Main statement: every call comes to a result, on one
of the courses that are listed here with all their questions. -/
namespace BringUp.Bridge

open Program (Logging returns_await returns_bind uses_bind)
open ResetManager (bridgeReset)
open SystemManager

variable {platform : Platform} {enable shown met : Bool} {mask value : Word} {address : Nat}
  {trace : Trace} {outcome : Option (Except Error Unit)}

/-- One read of a register, and whether it shows the masked bits with the value. -/
def Reads (address : Nat) (mask value : Word) (shown : Bool) (look : Trace) : Prop :=
  ∃ word, look = [⟨.load address, word⟩] ∧ shown = (word &&& mask == value)

/-- A wait for the masked bits of a register, which the timeout ends if they are not met. -/
abbrev Awaits (address : Nat) (mask value : Word) (met : Bool) (waiting : Trace) : Prop :=
  Waited (Reads address mask value) (intervals idleTimeout) met waiting

/-- Bridges go into reset if the acknowledge and then the status shows that all of them are idle. -/
inductive Handshake (mask : Word) : Trace → Except Error Unit → Prop
  | idle {acknowledging settling : Trace} {old : Word}
      (acknowledged : Awaits nocIdleAcknowledge mask mask true acknowledging)
      (settled : Awaits nocIdleStatus mask mask true settling) :
      Handshake mask (acknowledging ++ (settling ++ [⟨.load bridgeReset, old⟩,
        ⟨.store bridgeReset (old ||| (mask &&& ~~~ ResetManager.BridgeReset.keepActive)), ()⟩]))
        (.ok ())
  | unacknowledged {acknowledging : Trace}
      (missing : Awaits nocIdleAcknowledge mask mask false acknowledging) :
      Handshake mask acknowledging (.error .acknowledgeTimeout)
  | busy {acknowledging settling : Trace}
      (acknowledged : Awaits nocIdleAcknowledge mask mask true acknowledging)
      (missing : Awaits nocIdleStatus mask mask false settling) :
      Handshake mask (acknowledging ++ settling) (.error .statusTimeout)

/-- The courses of a call. -/
inductive Course (platform : Platform) (mask : Word) : Bool → Trace → Except Error Unit → Prop
  /-- The FPGA is not ready. -/
  | refused {enable : Bool} {sampling told : Trace}
      (sampled : Runs platform.fpgaReady sampling (some false))
      (quiet : ∀ event ∈ told, Logging event.op) :
      Course platform mask enable (sampling ++ told) (.error .fpgaNotReady)
  /-- The bridges come out of reset, and then the acknowledge has to vanish. -/
  | released {sampling waiting told : Trace} {old : Word} {met : Bool}
      (sampled : Runs platform.fpgaReady sampling (some true))
      (waited : Awaits nocIdleAcknowledge mask 0 met waiting)
      (quiet : ∀ event ∈ told, Logging event.op) :
      Course platform mask true (sampling ++ ([⟨.store nocIdleRequestClear mask, ()⟩,
        ⟨.load bridgeReset, old⟩, ⟨.store bridgeReset (old &&& ~~~ mask), ()⟩] ++ (waiting ++ told)))
        (if met then .ok () else .error .acknowledgeTimeout)
  /-- The timeout of the network on chip is enabled as long as the handshake takes, whatever comes
  out of it. -/
  | held {sampling shaking told : Trace} {result : Except Error Unit}
      (sampled : Runs platform.fpgaReady sampling (some true))
      (handshake : Handshake mask shaking result) (quiet : ∀ event ∈ told, Logging event.op) :
      Course platform mask false (sampling ++ ([⟨.store nocIdleRequestSet mask, ()⟩,
        ⟨.store nocTimeout 1, ()⟩] ++ (shaking ++ ([⟨.store nocTimeout 0, ()⟩] ++ told)))) result

theorem masked_iff : Runs (masked address mask value) trace (some shown) ↔
    Reads address mask value shown trace := by
  change Runs ((Program.load address).bind fun word => .done (word &&& mask == value)) _ _ ↔ _
  rw [Runs.bind_some_iff]
  constructor
  · rintro ⟨_, _, word, rfl, loaded, ended⟩
    obtain ⟨_, rfl, same⟩ := Runs.question_iff.1 loaded
    cases same
    obtain ⟨rfl, same⟩ := Runs.done_iff.1 ended
    exact ⟨word, by simp, Option.some.inj same⟩
  · rintro ⟨word, rfl, rfl⟩
    exact ⟨[⟨.load address, word⟩], [], word, rfl, .ask word (.done word), .done _⟩

theorem await_masked_iff : Runs (Program.await (masked address mask value) idleTimeout) trace
    (some met) ↔ Awaits address mask value met trace := by
  have same : (fun held look => Runs (masked address mask value) look (some held)) =
      Reads address mask value := by
    funext held look
    exact propext masked_iff
  rw [Runs.await_iff, same]

theorem await_masked_returns : (Program.await (masked address mask value) idleTimeout).Returns :=
  returns_await fun _ => trivial

theorem bind_awaits {α : Type} {f : Bool → Program α} {result : Option α}
    (run : Runs ((Program.await (masked address mask value) idleTimeout).bind f) trace result) :
    ∃ waiting rest met, trace = waiting ++ rest ∧ Awaits address mask value met waiting ∧
      Runs (f met) rest result := by
  obtain ⟨waiting, rest, met, rfl, waited, run₁⟩ := run.bind_returned await_masked_returns
  exact ⟨waiting, rest, met, rfl, await_masked_iff.1 waited, run₁⟩

/-- Questions about the state of the FPGA. -/
def Sampling : Op → Prop
  | .load address => address = revision ∨ address = fpgaState
  | .log _ _ => True
  | _ => False

theorem fpgaReady_uses : platform.fpgaReady.Uses Sampling := by
  have sampled : (Program.load fpgaState).Uses Sampling := ⟨.inr rfl, fun _ => trivial⟩
  have revised : (Program.load revision).Uses Sampling := ⟨.inl rfl, fun _ => trivial⟩
  unfold Platform.fpgaReady
  split
  · refine uses_bind (uses_bind revised fun _ _ => ?_) fun revisionA _ => ?_
    · exact uses_bind (Program.uses_log trivial) fun _ _ => trivial
    · change Program.Uses _ (if _ then _ else _)
      split
      · exact uses_bind revised fun _ _ => trivial
      · exact uses_bind sampled fun _ _ => trivial
  · exact uses_bind sampled fun _ _ => trivial

theorem fpgaReady_returns : platform.fpgaReady.Returns := by
  unfold Platform.fpgaReady
  split
  · refine returns_bind (fun _ _ => trivial) fun revisionA => ?_
    change Program.Returns (if _ then _ else _)
    split <;> exact fun _ => trivial
  · exact fun _ => trivial

theorem quiesce_returns : (quiesce mask).Returns := by
  refine returns_bind await_masked_returns fun acknowledged => ?_
  cases acknowledged with
  | false => trivial
  | true =>
    refine returns_bind await_masked_returns fun idle => ?_
    cases idle with
    | false => trivial
    | true => exact fun _ _ => trivial

theorem runs_quiesce {result : Except Error Unit} (run : Runs (quiesce mask) trace (some result)) :
    Handshake mask trace result := by
  obtain ⟨acknowledging, _, acknowledged, rfl, waited, run₁⟩ := bind_awaits run
  cases acknowledged with
  | false =>
    obtain ⟨rfl, same⟩ := Runs.done_iff.1 run₁
    cases same
    rw [List.append_nil]
    exact .unacknowledged waited
  | true =>
    obtain ⟨settling, _, settled, rfl, waited', run₂⟩ := bind_awaits run₁
    cases settled with
    | false =>
      obtain ⟨rfl, same⟩ := Runs.done_iff.1 run₂
      cases same
      rw [List.append_nil]
      exact .busy waited waited'
    | true =>
      obtain ⟨_, _, _, rfl, updated, ended⟩ := Runs.bind_some_iff.1 run₂
      obtain ⟨old, rfl, -⟩ := Runs.update_iff.1 updated
      obtain ⟨rfl, same⟩ := Runs.done_iff.1 ended
      cases same
      exact .idle waited waited'

/-- What is left of a call once the FPGA has turned out to be ready. -/
theorem runs_hold {sampling rest : Trace} (sampled : Runs platform.fpgaReady sampling (some true))
    (run : Runs (hold mask) rest outcome) :
    ∃ result, outcome = some result ∧ Course platform mask false (sampling ++ rest) result := by
  obtain ⟨_, _, rfl, run₁⟩ := Runs.ask_iff.1 run
  obtain ⟨_, _, rfl, run₂⟩ := Runs.ask_iff.1 run₁
  obtain ⟨shaking, _, result, rfl, shaken, run₃⟩ := run₂.bind_returned (p := quiesce mask)
    quiesce_returns
  have handshake := runs_quiesce shaken
  obtain ⟨_, told, rfl, run₄⟩ := Runs.ask_iff.1 run₃
  cases result with
  | ok _ =>
    obtain ⟨rfl, rfl⟩ := Runs.done_iff.1 run₄
    exact ⟨_, rfl, .held sampled handshake (by simp)⟩
  | error cause =>
    obtain ⟨_, _, rfl, ended⟩ := Runs.ask_iff.1 run₄
    obtain ⟨rfl, rfl⟩ := Runs.done_iff.1 ended
    exact ⟨_, rfl, .held sampled handshake (by simp [Logging])⟩

theorem runs_release {sampling rest : Trace} (sampled : Runs platform.fpgaReady sampling (some true))
    (run : Runs (release mask) rest outcome) :
    ∃ result, outcome = some result ∧ Course platform mask true (sampling ++ rest) result := by
  obtain ⟨_, _, rfl, run₁⟩ := Runs.ask_iff.1 run
  obtain ⟨_, _, _, rfl, updated, run₂⟩ := run₁.bind_returned (p := Program.update bridgeReset _)
    fun _ _ => trivial
  obtain ⟨old, rfl, -⟩ := Runs.update_iff.1 updated
  obtain ⟨waiting, told, met, rfl, waited, run₃⟩ := bind_awaits run₂
  cases met with
  | true =>
    obtain ⟨rfl, rfl⟩ := Runs.done_iff.1 run₃
    exact ⟨_, rfl, .released sampled waited (by simp)⟩
  | false =>
    obtain ⟨_, _, rfl, run₄⟩ := Runs.ask_iff.1 run₃
    obtain ⟨rfl, rfl⟩ := Runs.done_iff.1 run₄
    exact ⟨_, rfl, .released sampled waited (by simp [Logging])⟩

theorem runs_reset (run : Runs (reset platform enable mask) trace outcome) :
    ∃ result, outcome = some result ∧ Course platform mask enable trace result := by
  obtain ⟨sampling, rest, ready, rfl, sampled, run₁⟩ := run.bind_returned fpgaReady_returns
  cases ready with
  | false =>
    obtain ⟨_, _, rfl, run₂⟩ := Runs.ask_iff.1 run₁
    obtain ⟨rfl, rfl⟩ := Runs.done_iff.1 run₂
    exact ⟨_, rfl, .refused sampled (by simp [Logging])⟩
  | true =>
    cases enable with
    | false => exact runs_hold sampled run₁
    | true => exact runs_release sampled run₁

end BringUp.Bridge
