import BringUp.Proofs.Dram.Coverage
import BringUp.Proofs.Dram.Inventory

/-! Memory that is still closed. Main statement: a bring-up neither probes the memory nor opens it
before it comes to its size check, and if it does not come there, it never does. -/
namespace BringUp.Dram

open Iossm (Subsystem Sequence Supervision)
open SystemManager (progress)

variable {mailboxes : Nat} {table : List Word} {blob : DeviceTree.Bytes} {options : Options}
  {trace before first second : Trace}

theorem start_leavesClosed {opening : Trace} {found : Start}
    (started : Runs start opening (some found)) :
    ∀ event ∈ opening, LeavesClosed blob event.op := by
  obtain ⟨record, sample, current, rfl, -⟩ := runs_start started
  have marked : LeavesClosed blob (.store progress (SystemManager.inProgress.put true current)) :=
    leavesClosed_store (by simp)
  simpa [LeavesClosed] using marked

theorem survey_leavesClosed {result : Option (Except Error (Layout × Subsystem))}
    (run : Runs (survey mailboxes table blob options).run trace result) :
    ∀ event ∈ trace, LeavesClosed blob event.op := by
  intro event member
  exact Surveying.leavesClosed _ (run.uses survey_uses event member)

theorem prepareEcc_leavesClosed {timeouts : Iossm.Timeouts} {found : Start} {surveyed : Subsystem}
    {result : Option (Except Error (Unit × Subsystem))}
    (run : Runs (stage (prepareEcc mailboxes timeouts found) surveyed).run trace result) :
    ∀ event ∈ trace, LeavesClosed blob event.op := by
  intro event member
  exact Supervision.leavesClosed _ (run.uses (stage_uses prepareEcc_uses) event member)

theorem closed_of_reachesSizeCheck {surveyed : Subsystem}
    (reached : ReachesSizeCheck mailboxes table blob options surveyed before) :
    ∀ event ∈ before, LeavesClosed blob event.op := by
  cases reached with
  | mk started passed ready =>
    rw [List.forall_mem_append, List.forall_mem_append]
    exact ⟨start_leavesClosed started, survey_leavesClosed passed,
      prepareEcc_leavesClosed (stage_ok_iff.2 ready)⟩

/-- A bring-up that comes to its size check leaves the memory closed until then, and every other one
does so to its end. -/
theorem reachesSizeCheck_or_closed {result : Option (Except Error Ram)}
    (run : Runs (bringUp mailboxes table blob options).run trace result) :
    (∃ surveyed before rest, trace = before ++ rest ∧
      ReachesSizeCheck mailboxes table blob options surveyed before) ∨
    ∀ event ∈ trace, LeavesClosed blob event.op := by
  obtain ⟨opening, _, found, rfl, started, run₁⟩ := bringUp_starts run
  rw [List.forall_mem_append]
  obtain ⟨surveying, _, ⟨layout, surveyed⟩, rfl, passed, run₂⟩ | ⟨cause, -, failed⟩ | ⟨-, broken⟩ :=
    Runs.run_bind_iff.1 run₁
  · rw [List.forall_mem_append]
    obtain ⟨preparing, rest, ⟨_, prepared⟩, rfl, ready, -⟩ | ⟨cause, -, failed⟩ | ⟨-, broken⟩ :=
      Runs.run_bind_iff.1 run₂
    · exact .inl ⟨surveyed, opening ++ (surveying ++ preparing), rest, by simp,
        .mk started passed (stage_ok_iff.1 ready)⟩
    · exact .inr ⟨start_leavesClosed started, survey_leavesClosed passed,
        prepareEcc_leavesClosed failed⟩
    · exact .inr ⟨start_leavesClosed started, survey_leavesClosed passed,
        prepareEcc_leavesClosed broken⟩
  · exact .inr ⟨start_leavesClosed started, survey_leavesClosed failed⟩
  · exact .inr ⟨start_leavesClosed started, survey_leavesClosed broken⟩

/-- Questions other than commands. -/
def Commandless : Op → Prop
  | .request _ _ => False
  | _ => True

theorem start_commandless : start.Uses Commandless := by
  have asked {address : Nat} : (Program.load address).Uses Commandless :=
    ⟨trivial, fun _ => trivial⟩
  refine Program.uses_bind asked fun _ _ => ?_
  refine Program.uses_bind (Program.uses_bind asked fun _ _ => trivial) fun _ _ => ?_
  refine Program.uses_bind (Program.uses_log trivial) fun _ _ => ?_
  exact Program.uses_bind (Program.uses_update trivial fun _ => trivial) fun _ _ => trivial

theorem verifySize_commandless {banks : List Bank} {size : Nat} :
    (verifySize banks size).Uses Commandless := by
  refine verifySize_uses.mono fun op probing => ?_
  cases op with
  | request _ _ => exact probing
  | _ => trivial

theorem finish_commandless {layout : Layout} : (finish options layout).Uses Commandless := by
  have opening (op : Op) (allowed : Opening op) : Commandless op := by
    cases op with
    | request _ _ => exact allowed
    | _ => trivial
  refine Program.uses_bind (openBanks_uses.mono opening) fun _ _ => ?_
  refine Program.uses_bind (openRegisters_uses.mono opening) fun _ _ => ?_
  refine Program.uses_bind (Program.uses_log trivial) fun _ _ => ?_
  exact Program.uses_bind (Program.uses_update trivial fun _ => trivial) fun _ _ =>
    Program.uses_log trivial

/-- No register of a firewall is written, but for those that the settings of the device tree
name. -/
def StaysClosed (blob : DeviceTree.Bytes) (trace : Trace) : Prop :=
  ∀ address value, (address, value) ∈ trace.stores →
    IsFirewall address ∨ IsMpfeFirewall address → NamedBySettings blob address

theorem staysClosed_append :
    StaysClosed blob (first ++ second) ↔ StaysClosed blob first ∧ StaysClosed blob second := by
  simp only [StaysClosed, Trace.stores_append, List.mem_append]
  constructor
  · intro h
    exact ⟨fun address value member => h address value (.inl member),
      fun address value member => h address value (.inr member)⟩
  · rintro ⟨h, h'⟩ address value (member | member)
    · exact h address value member
    · exact h' address value member

theorem staysClosed_of_leavesClosed (h : ∀ event ∈ trace, LeavesClosed blob event.op) :
    StaysClosed blob trace := by
  intro address value member
  exact h _ (Trace.mem_stores.1 member)

theorem verifySize_staysClosed {banks : List Bank} {size : Nat}
    {result : Option (Except SizeError Nat)} (run : Runs (verifySize banks size) trace result) :
    StaysClosed blob trace := by
  intro address value member
  have probing := run.uses verifySize_uses _ (Trace.mem_stores.1 member)
  exact probing.elim

/-- The course of a bring-up that succeeds, with the point at which it begins to open the memory. -/
inductive OpeningCourse (blob : DeviceTree.Bytes) (options : Options) : Trace → Ram → Prop
  | mk {before opening : Trace} {layout : Layout} {ram : Ram} (closed : StaysClosed blob before)
      (opens : Runs (finish options layout) opening (some ())) (banks : ram.banks = layout.banks)
      (base : ram.base = (layout.banks.head?.map Bank.start).getD 0)
      (few : layout.banks.length ≤ maxBanks) (positive : 0 < layout.size)
      (populated : ∃ (index : Nat) (bank : Bank),
        layout.banks[index]? = some bank ∧ bank.isEmpty = false)
      (origin : ∃ available memory,
        (DeviceTree.Memory.ofBlob blob options.bankCount).Yields (.ok memory) ∧
          layout.Origin available options.bankCount memory) :
      OpeningCourse blob options (before ++ opening) ram

theorem bringUp_opens {ram : Ram}
    (run : Runs (bringUp mailboxes table blob options).run trace (some (.ok ram))) :
    OpeningCourse blob options trace ram := by
  cases bringUp_course run with
  | @completes opening surveying preparing checking finishing found layout surveyed prepared total
      started passed ready verified finished =>
    have ⟨positive, few, origin⟩ := survey_layout passed
    have reached := closed_of_reachesSizeCheck (.mk started passed ready)
    have checked : StaysClosed blob checking := verifySize_staysClosed verified
    have closed := staysClosed_append.2 ⟨staysClosed_of_leavesClosed reached, checked⟩
    have populated := exists_filled_of_verified positive verified
    have whole : opening ++ (surveying ++ (preparing ++ (checking ++ finishing))) =
        (opening ++ (surveying ++ preparing) ++ checking) ++ finishing := by
      simp only [List.append_assoc]
    rw [whole]
    exact .mk closed finished rfl rfl few positive populated origin

end BringUp.Dram
