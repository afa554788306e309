import BringUp.Proofs.Iossm.Frame
import BringUp.Proofs.Iossm.Requests

/-! What a successful inventory records. Main statement: the recorded interfaces are those that the
instances described, and the recorded size is the sum of the reported ones. -/
namespace BringUp.Iossm

open Sequence

/-- Recorded interfaces, each with its instance. -/
def interfacesOf (targets : List (List Target)) : List (Nat × Target) :=
  targets.zipIdx.flatMap fun (interfaces, unit) => interfaces.map (unit, ·)

theorem interfacesOf_append_singleton (targets : List (List Target)) (last : List Target) :
    interfacesOf (targets ++ [last]) =
      interfacesOf targets ++ last.map (targets.length, ·) := by
  simp [interfacesOf, List.zipIdx_append]

theorem interfacesOf_take_succ {targets : List (List Target)} {index : Nat}
    {interfaces : List Target} (h : targets[index]? = some interfaces) :
    interfacesOf (targets.take (index + 1)) =
      interfacesOf (targets.take index) ++ interfaces.map (index, ·) := by
  have width : (targets.take index).length = index :=
    List.length_take_of_le (Nat.le_of_lt (List.getElem?_eq_some_iff.1 h).1)
  rw [List.take_add_one, h, Option.toList_some, interfacesOf_append_singleton, width]

theorem interfacesOf_mono {few many : List (List Target)} (h : few <+: many) :
    interfacesOf few <+: interfacesOf many := by
  obtain ⟨others, rfl⟩ := h
  rw [interfacesOf, interfacesOf, List.zipIdx_append, List.flatMap_append]
  exact List.prefix_append _ _

theorem flatMap_interfaces {subsystem : Subsystem} :
    subsystem.instances.zipIdx.flatMap (fun visit => visit.1.interfaces.map (visit.2, ·)) =
      interfacesOf subsystem.targets := by
  simp [interfacesOf, Subsystem.targets, List.zipIdx_map, List.flatMap_map]

theorem unit_lt_of_mem_visits {subsystem : Subsystem} {mailboxes : Nat}
    (enough : subsystem.instances.length ≤ mailboxes) :
    ∀ visit ∈ subsystem.instances.zipIdx, visit.2 < mailboxes := fun _ member =>
  Nat.lt_of_lt_of_le (List.snd_lt_of_mem_zipIdx member) (by simpa using enough)

theorem take_targets_record {subsystem : Subsystem} {index : Nat} {found : List Target}
    (h : index < subsystem.instances.length) :
    (subsystem.modifyInstance index fun record =>
      { record with interfaces := found }).targets.take (index + 1) =
        subsystem.targets.take index ++ [found] := by
  have size : min index subsystem.instances.length = index := Nat.min_eq_left (Nat.le_of_lt h)
  simp [Subsystem.targets, Subsystem.modifyInstance, List.modify_eq_take_cons_drop h,
    List.take_append, size]

variable {mailboxes : Nat} {before after : Subsystem} {trace : Trace}

/-- One instance is asked with one command. -/
theorem discoverInstance_ok {unit : Nat}
    (run : (discoverInstance mailboxes unit).Performs before trace (.ok ()) after) :
    ∃ answer : Answer, trace.requests = [(unit,
        { target := .manager, kind := .systemInfo, opcode := .listInterfaces }, .ok answer)] ∧
      after = before.modifyInstance unit fun record =>
        { record with interfaces := answer.interfaces } := by
  obtain ⟨_, _, _, _, rfl, found, run₁⟩ := performs_bind_ok.1 run
  obtain ⟨rfl, rfl, -⟩ := performs_requireMailbox.1 found
  obtain ⟨_, _, _, answer, rfl, sent, run₂⟩ := performs_bind_ok.1 run₁
  obtain ⟨rfl, rfl⟩ := performs_send_ok.1 sent
  obtain ⟨_, _, _, _, rfl, changed, told⟩ := performs_bind_ok.1 run₂
  obtain ⟨rfl, -, rfl⟩ := performs_modify.1 changed
  obtain ⟨rfl, -, rfl⟩ := performs_log.1 told
  exact ⟨answer, rfl, rfl⟩

/-- Every instance is asked once, and its interfaces are recorded as it describes them. -/
theorem discoverInterfaces_ok
    (run : (discoverInterfaces mailboxes).Performs before trace (.ok ()) after) :
    trace.listed = List.range before.instances.length ∧
      trace.interfaces = interfacesOf after.targets ∧
      after.instances.length = before.instances.length := by
  obtain ⟨visits, _, _, results, rfl, visited, run⟩ := performs_bind_ok.1 run
  obtain ⟨rfl, -, rfl⟩ := performs_pure.1 run
  obtain ⟨count, listed, recorded, size⟩ := performs_forInstances
    (fun seen middle first => first.listed = List.range seen.length ∧
      first.interfaces = interfacesOf (middle.targets.take seen.length) ∧
      middle.instances.length = before.instances.length)
    ⟨rfl, rfl, rfl⟩
    (fun {seen record value middle left first second} found ⟨listed, recorded, size⟩ visit => by
      obtain ⟨answer, requests, rfl⟩ := discoverInstance_ok visit
      have asked : second.listed = [seen.length] := by
        simp [Trace.listed, Trace.requestsOf, requests, Request.opcode]
      have described : second.interfaces = answer.interfaces.map (seen.length, ·) := by
        simp [Trace.interfaces, Trace.requestsOf, requests, Request.opcode]
      have inside : seen.length < middle.instances.length := by
        rw [size]
        exact (List.getElem?_eq_some_iff.1 found).1
      refine ⟨?_, ?_, ?_⟩
      · simp [listed, asked, List.range_succ]
      · have width : (middle.targets.take seen.length).length = seen.length := by
          simp [Subsystem.targets, Nat.le_of_lt inside]
        rw [Trace.interfaces_append, recorded, described, List.length_append, List.length_singleton,
          take_targets_record inside, interfacesOf_append_singleton, width]
      · simpa [Subsystem.modifyInstance] using size) visited
  have whole : after.targets.take results.length = after.targets :=
    List.take_of_length_le (by simp [Subsystem.targets, count, size])
  rw [List.append_nil, listed, recorded, whole, count]
  exact ⟨rfl, rfl, size⟩

/-- Every interface of an instance is asked for its size once. -/
theorem instanceSize_ok {unit size : Nat} {interfaces : List Target}
    (run : (instanceSize unit interfaces).Performs before trace (.ok size) after) :
    size = min trace.gigabits 0xFFFF ∧ trace.measured = interfaces.map (unit, ·) := by
  obtain ⟨asking, _, _, total, rfl, asked, run₁⟩ := performs_bind_ok.1 run
  obtain ⟨sum, each⟩ := performs_foldlM
    (fun seen total _ first => total = min first.gigabits 0xFFFF ∧
      first.measured = seen.map (unit, ·)) ⟨rfl, rfl⟩
    (fun {seen target total next middle left first second} _ ⟨sum, each⟩ visit => by
      obtain ⟨_, _, _, answer, rfl, sent, run₂⟩ := performs_bind_ok.1 visit
      obtain ⟨rfl, rfl⟩ := performs_send_ok.1 sent
      obtain ⟨rfl, same, rfl⟩ := performs_pure.1 run₂
      cases same
      subst sum
      have word : answer.data.get 1 = answer.data[1] := rfl
      have reported : Trace.gigabits [⟨.request unit
          { target := target, kind := .memoryInfo, opcode := .width }, .ok answer⟩] =
          (answer.data[1] &&& 0xFF).toNat := by
        simp [Trace.gigabits, Trace.requestsOf, Trace.requests, Request.opcode, word]
      rw [List.append_nil, Trace.gigabits_append, Trace.measured_append, reported, each]
      refine ⟨?_, by simp [Trace.measured, Trace.requestsOf, Trace.requests, Request.opcode]⟩
      rw [Subsystem.addGigabits]
      omega) asked
  dsimp only at run₁
  split at run₁
  · obtain ⟨_, _, _, _, rfl, told, run₂⟩ := performs_bind_ok.1 run₁
    obtain ⟨_, _, _, _, rfl, thrown, _⟩ := performs_bind_ok.1 run₂
    cases (performs_throw.1 thrown).2.1
  · obtain ⟨rfl, same, rfl⟩ := performs_pure.1 run₁
    cases same
    rw [List.append_nil]
    exact ⟨sum, each⟩

theorem measureInstance_ok {unit size : Nat} {interfaces : List Target}
    (run : (measureInstance mailboxes unit interfaces).Performs before trace (.ok size) after) :
    size = min trace.gigabits 0xFFFF ∧ trace.measured = interfaces.map (unit, ·) := by
  obtain ⟨_, _, _, _, rfl, found, run₁⟩ := performs_bind_ok.1 run
  obtain ⟨rfl, rfl, -⟩ := performs_requireMailbox.1 found
  obtain ⟨asking, _, _, _, rfl, asked, run₂⟩ := performs_bind_ok.1 run₁
  obtain ⟨_, _, _, _, rfl, changed, run₃⟩ := performs_bind_ok.1 run₂
  obtain ⟨rfl, -, rfl⟩ := performs_modify.1 changed
  obtain ⟨rfl, same, rfl⟩ := performs_pure.1 run₃
  cases same
  simpa using instanceSize_ok asked

/-- Every recorded interface is asked for its size once. The recorded size is what they report, up
to the largest size, and is not zero. -/
theorem readSizes_ok (run : (readSizes mailboxes).Performs before trace (.ok ()) after) :
    after.gigabits = min trace.gigabits 0xFFFF ∧ after.gigabits ≠ 0 ∧
      trace.measured = interfacesOf before.targets := by
  obtain ⟨visits, _, _, sizes, rfl, visited, run₁⟩ := performs_bind_ok.1 run
  obtain ⟨count, sum, each⟩ := performs_forInstances
    (fun seen _ first => seen.foldl Subsystem.addGigabits 0 = min first.gigabits 0xFFFF ∧
      first.measured = interfacesOf (before.targets.take seen.length)) ⟨rfl, rfl⟩
    (fun {seen record size middle left first second} found ⟨sum, each⟩ visit => by
      obtain ⟨size, measured⟩ := measureInstance_ok visit
      have interfaces : before.targets[seen.length]? = some record.interfaces := by
        simp [Subsystem.targets, found]
      rw [List.foldl_append, sum, size, Trace.gigabits_append, Trace.measured_append, each,
        measured, List.length_append, List.length_singleton, interfacesOf_take_succ interfaces]
      simp only [List.foldl_cons, List.foldl_nil, Subsystem.addGigabits]
      exact ⟨by omega, trivial⟩) visited
  rw [List.take_of_length_le (by simp [Subsystem.targets, count])] at each
  dsimp only at run₁
  split at run₁
  · obtain ⟨_, _, _, _, rfl, thrown, _⟩ := performs_bind_ok.1 run₁
    cases (performs_throw.1 thrown).2.1
  · next h =>
    obtain ⟨rfl, -, rfl⟩ := performs_modify.1 run₁
    rw [List.append_nil]
    exact ⟨sum, h, each⟩

/-- An instance without interfaces has no size. -/
theorem instanceSize_described {unit size : Nat} {interfaces : List Target}
    (run : (instanceSize unit interfaces).Performs before trace (.ok size) after) :
    interfaces ≠ [] := by
  rintro rfl
  obtain ⟨_, _, _, total, rfl, asked, run₁⟩ := performs_bind_ok.1 run
  obtain ⟨rfl, same, rfl⟩ := performs_pure.1 asked
  cases same
  dsimp only at run₁
  rw [if_pos rfl] at run₁
  obtain ⟨_, _, _, _, rfl, told, run₂⟩ := performs_bind_ok.1 run₁
  obtain ⟨_, _, _, _, rfl, thrown, _⟩ := performs_bind_ok.1 run₂
  cases (performs_throw.1 thrown).2.1

/-- Where all sizes are known, every instance has an interface. -/
theorem readSizes_described (run : (readSizes mailboxes).Performs before trace (.ok ()) after) :
    ∀ interfaces ∈ before.targets, interfaces ≠ [] := by
  obtain ⟨visits, _, _, sizes, rfl, visited, run₁⟩ := performs_bind_ok.1 run
  have ⟨count, described⟩ := performs_forInstances
    (fun seen _ _ => ∀ interfaces ∈ before.targets.take seen.length, interfaces ≠ []) (by simp)
    (fun {seen record size middle left first second} found earlier visit => by
      have here : before.targets[seen.length]? = some record.interfaces := by
        simp [Subsystem.targets, found]
      obtain ⟨_, _, _, _, rfl, present, run₂⟩ := performs_bind_ok.1 visit
      obtain ⟨_, _, _, _, rfl, asked, _⟩ := performs_bind_ok.1 run₂
      have populated := instanceSize_described asked
      rw [List.length_append, List.length_singleton, List.take_add_one, here, Option.toList_some,
        List.forall_mem_append, List.forall_mem_singleton]
      exact ⟨earlier, populated⟩) visited
  rwa [List.take_of_length_le (by simp [Subsystem.targets, count])] at described

theorem agreeOnEcc_ok {unit : Nat} {interfaces : List Target} {common agreed : Option Bool}
    (run : (agreeOnEcc unit interfaces common).Performs before trace (.ok agreed) after)
    (h : agreed ≠ none) : common ≠ none ∨ interfaces ≠ [] := by
  cases interfaces with
  | nil =>
    obtain ⟨-, same, -⟩ := performs_pure.1 run
    cases same
    exact .inl h
  | cons target rest => exact .inr (by simp)

/-- Every instance has its mailbox, the interfaces stay recorded as they were, and only an
interface can be the reason for error correction. -/
theorem readEcc_ok (run : (readEcc mailboxes).Performs before trace (.ok ()) after) :
    before.instances.length ≤ mailboxes ∧ after.targets = before.targets ∧
      (after.ecc = true → ∃ interfaces ∈ before.targets, interfaces ≠ []) := by
  obtain ⟨_, _, _, _, rfl, got, run⟩ := performs_bind_ok.1 run
  obtain ⟨rfl, same, unchanged⟩ := performs_get.1 got
  cases same
  rw [unchanged] at run
  obtain ⟨asking, _, _, common, rfl, asked, run₁⟩ := performs_bind_ok.1 run
  obtain ⟨_, _, _, _, rfl, recorded, told⟩ := performs_bind_ok.1 run₁
  obtain ⟨rfl, -, rfl⟩ := performs_modify.1 recorded
  obtain ⟨rfl, -, rfl⟩ := performs_log.1 told
  obtain ⟨kept, units, reason⟩ := performs_foldlM
    (fun seen common middle _ => middle = before ∧ (∀ visit ∈ seen, visit.2 < mailboxes) ∧
      (common ≠ none → ∃ visit ∈ seen, visit.1.interfaces ≠ []))
    ⟨rfl, by simp, fun h => absurd rfl h⟩
    (fun {seen visit common agreed middle left first second} _ ⟨same, units, reason⟩ run => by
      obtain ⟨record, unit⟩ := visit
      obtain ⟨_, _, _, _, rfl, found, run₁⟩ := performs_bind_ok.1 run
      obtain ⟨rfl, rfl, enough⟩ := performs_requireMailbox.1 found
      have inside : unit < mailboxes := by
        by_contra missing
        rw [if_neg missing] at enough
        cases enough
      have kept : (agreeOnEcc unit record.interfaces common).Keeps id := agreeOnEcc_keeps
      refine ⟨(kept _ _ _ _ run₁).trans same, ?_, fun h => ?_⟩
      · simpa [or_imp, forall_and, inside] using units
      · rcases agreeOnEcc_ok run₁ h with known | interfaces
        · obtain ⟨visit, member, h⟩ := reason known
          exact ⟨visit, List.mem_append_left _ member, h⟩
        · exact ⟨(record, unit), by simp, interfaces⟩) asked
  have targets := congrArg Subsystem.targets kept
  refine ⟨?_, targets, fun enabled => ?_⟩
  · by_contra few
    have inside : mailboxes < before.instances.length := Nat.lt_of_not_le few
    have last : (before.instances[mailboxes], mailboxes) ∈ before.instances.zipIdx :=
      List.mk_mem_zipIdx_iff_getElem?.2 (List.getElem?_eq_getElem inside)
    exact Nat.lt_irrefl _ (units _ last)
  · have known : common ≠ none := by
      rintro rfl
      cases enabled
    obtain ⟨⟨record, unit⟩, member, h⟩ := reason known
    exact ⟨_, List.mem_map_of_mem (List.mem_of_getElem? (List.mk_mem_zipIdx_iff_getElem?.1 member)), h⟩

end BringUp.Iossm
