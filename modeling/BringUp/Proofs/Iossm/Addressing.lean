import BringUp.Proofs.Iossm.Footprint
import BringUp.Proofs.Iossm.Inventory
import BringUp.Proofs.Program.History

/-! Who the commands go to. Main statement: each instance is asked for its interfaces first, and
from then on the commands go to these or to the IOSSM itself. -/
namespace BringUp.Iossm

open Sequence

/-- Commands to the IOSSM itself. -/
def managerOpcodes : List Opcode := [.listInterfaces, .calibrationStatus]

/-- Commands to a memory interface. -/
def interfaceOpcodes : List Opcode :=
  [.calibrate, .technology, .width, .eccStatus, .startMemoryInit, .memoryInitStatus]

/-- One of the two descriptors in the answer is in use and names the interface. -/
def Answer.Describes (answer : Answer) (target : Target) : Prop :=
  target.ipType ≠ 0 ∧ ∃ word ∈ answer.data.toList.take maxInterfaces,
    target = ⟨Io96b.Descriptor.ipType.read word, Io96b.Descriptor.ipInstance.read word⟩

theorem Answer.describes_of_mem {answer : Answer} {target : Target}
    (h : target ∈ answer.interfaces) : answer.Describes target := by
  obtain ⟨word, member, named⟩ := List.mem_filterMap.1 h
  dsimp only [Target.ofDescriptor?] at named
  split at named
  · cases named
  · next used =>
    cases named
    exact ⟨used, word, member, rfl⟩

/-- What `count` instances may be asked after the past. -/
structure Directed (count : Nat) (past : Trace) (unit : Nat) (command : Command) : Prop where
  /-- Only instances in use get commands. -/
  inUse : unit < count
  /-- An instance is asked for its interfaces first of all, and only then. -/
  listing : command.opcode = .listInterfaces ↔ ∀ request ∈ past.requests, request.1 ≠ unit
  manager : command.opcode ∈ managerOpcodes → command.target = .manager
  /-- Any other command is about an interface that the instance itself has described. -/
  interface : command.opcode ∉ managerOpcodes → command.opcode ∈ interfaceOpcodes ∧
    ∃ listing answer, (unit, listing, .ok answer) ∈ past.requests ∧
      listing.opcode = .listInterfaces ∧ answer.Describes command.target

/-- The rule for the commands; other questions are permitted at any time. -/
def Directs (count : Nat) (past : Trace) : Op → Prop
  | .request unit command => Directed count past unit command
  | _ => True

/-- Questions whose commands go to the IOSSM itself, for its calibration status, or to one of the
interfaces of their instance. -/
def Addressing (targets : List (List Target)) : Op → Prop
  | .request unit command => ∃ interfaces, targets[unit]? = some interfaces ∧
      (command.opcode = .calibrationStatus ∧ command.target = .manager ∨
        command.opcode ∈ interfaceOpcodes ∧ command.target ∈ interfaces)
  | _ => True

/-- The instances were asked for their interfaces, and the targets are what they described. -/
structure Informed (targets : List (List Target)) (past : Trace) : Prop where
  listed : ∀ unit < targets.length, unit ∈ past.listed
  described : ∀ item ∈ interfacesOf targets, item ∈ past.interfaces

theorem mem_interfacesOf {targets : List (List Target)} {unit : Nat} {target : Target} :
    (unit, target) ∈ interfacesOf targets ↔
      ∃ interfaces, targets[unit]? = some interfaces ∧ target ∈ interfaces := by
  simp only [interfacesOf, List.mem_flatMap, Prod.exists, List.mk_mem_zipIdx_iff_getElem?,
    List.mem_map, Prod.mk.injEq]
  constructor
  · rintro ⟨interfaces, _, found, _, member, rfl, rfl⟩
    exact ⟨interfaces, found, member⟩
  · rintro ⟨interfaces, found, member⟩
    exact ⟨interfaces, unit, found, target, member, rfl, rfl⟩

variable {targets : List (List Target)} {past later trace : Trace} {count : Nat}

theorem Informed.frame (informed : Informed targets trace) :
    Informed targets (past ++ trace ++ later) := by
  refine ⟨fun unit inside => ?_, fun item member => ?_⟩
  · simp [informed.listed unit inside]
  · simp [informed.described item member]

/-- Once the instances have described their interfaces, these may be addressed. -/
theorem Addressing.directs (informed : Informed targets past) (op : Op)
    (addressing : Addressing targets op) : Directs targets.length past op := by
  cases op with
  | request unit command =>
    obtain ⟨interfaces, found, h⟩ := addressing
    have inside : unit < targets.length := (List.getElem?_eq_some_iff.1 found).1
    obtain ⟨listing, reply, member, -⟩ := Trace.mem_listed.1 (informed.listed unit inside)
    have asked : ¬ ∀ request ∈ past.requests, request.1 ≠ unit := fun h => h _ member rfl
    rcases h with ⟨opcode, target⟩ | ⟨opcode, recorded⟩
    · have notListing : command.opcode ≠ .listInterfaces := by simp [opcode]
      refine ⟨inside, iff_of_false notListing asked, fun _ => target, fun other => ?_⟩
      simp [opcode, managerOpcodes] at other
    · have described := informed.described _ (mem_interfacesOf.2 ⟨interfaces, found, recorded⟩)
      obtain ⟨first, answer, earlier, kind, named⟩ := Trace.mem_interfaces.1 described
      have others : ∀ code ∈ interfaceOpcodes, code ≠ .listInterfaces ∧ code ∉ managerOpcodes := by
        decide
      have ⟨notListing, notManager⟩ := others _ opcode
      exact ⟨inside, iff_of_false notListing asked, fun h => absurd h notManager, fun _ =>
        ⟨opcode, first, answer, earlier, kind, Answer.describes_of_mem named⟩⟩
  | _ => trivial

theorem Supervision.directs (op : Op) (quiet : Supervision [] op) : Directs count past op := by
  cases op with
  | request _ _ => exact absurd quiet List.not_mem_nil
  | _ => trivial

theorem Supervision.addressing (op : Op) (quiet : Supervision [] op) : Addressing targets op := by
  cases op with
  | request _ _ => exact absurd quiet List.not_mem_nil
  | _ => trivial

namespace Sequence

variable {α β : Type} {permitted : Trace → Op → Prop} {before : Subsystem}

theorem perform_bind_obeys {sequence : Sequence α} {f : α → Sequence β}
    (first : (sequence.perform before).Obeys permitted past)
    (rest : ∀ trace value after, sequence.Performs before trace (.ok value) after →
      ((f value).perform after).Obeys permitted (past ++ trace)) :
    ((sequence >>= f).perform before).Obeys permitted past := by
  rw [perform_bind]
  refine Program.obeys_bind first fun trace ⟨result, after⟩ run => ?_
  cases result with
  | ok value => exact rest trace value after run
  | error _ => trivial

theorem perform_send_obeys {unit : Nat} {command : Command}
    (h : permitted past (.request unit command)) :
    ((send unit command).perform before).Obeys permitted past := by
  rw [perform_send]
  refine ⟨h, fun reply => ?_⟩
  cases reply <;> trivial

/-- A visit of the instances obeys a rule if each visit does after those of the instances before. -/
theorem perform_forInstances_obeys {visit : Nat → Instance → Sequence α} (Inv : Nat → Trace → Prop)
    (init : Inv 0 past)
    (step : ∀ {unit record past} middle, before.instances[unit]? = some record → Inv unit past →
      ((visit unit record).perform middle).Obeys permitted past ∧
      ∀ trace value after, (visit unit record).Performs middle trace (.ok value) after →
        Inv (unit + 1) (past ++ trace)) :
    ((forInstances visit).perform before).Obeys permitted past := by
  change ((before.instances.zipIdx.mapM fun item => visit item.2 item.1).perform before).Obeys
    permitted past
  suffices ∀ rest unit past middle, before.instances.drop unit = rest → Inv unit past →
      (((rest.zipIdx unit).mapM fun item => visit item.2 item.1).perform middle).Obeys permitted past
    from this before.instances 0 past before rfl init
  intro rest
  induction rest with
  | nil => exact fun _ _ _ _ _ => trivial
  | cons record rest ih =>
    intro unit past middle left inv
    have found : before.instances[unit]? = some record := by
      have := congrArg List.head? left
      simpa using this
    have remaining : before.instances.drop (unit + 1) = rest := by
      rw [← List.drop_drop, left]
      rfl
    have ⟨here, kept⟩ := step middle found inv
    rw [List.zipIdx_cons, List.mapM_cons]
    refine perform_bind_obeys here fun trace value after run => ?_
    exact perform_bind_obeys (ih _ _ _ remaining (kept trace value after run)) fun _ _ _ _ => trivial

end Sequence

variable {mailboxes : Nat} {timeouts : Timeouts} {before after : Subsystem}

/-- The discovery asks each instance once, before anybody else has asked it. -/
theorem perform_discoverInterfaces_obeys (fresh : past.requests = []) :
    ((discoverInterfaces mailboxes).perform before).Obeys (Directs before.instances.length)
      past := by
  refine perform_bind_obeys (perform_forInstances_obeys
    (fun unit past => ∀ request ∈ past.requests, request.1 < unit) (by simp [fresh])
    fun {unit record past} middle found earlier => ⟨?_, fun trace _ left run => ?_⟩)
    fun _ _ _ _ => trivial
  · have listing : Directed before.instances.length past unit
        { target := .manager, kind := .systemInfo, opcode := .listInterfaces } :=
      ⟨(List.getElem?_eq_some_iff.1 found).1,
        iff_of_true rfl fun request member => Nat.ne_of_lt (earlier request member), fun _ => rfl,
        fun other => absurd List.mem_cons_self other⟩
    have told {level : Level} {text : String} :
        Sequence.Uses (Supervision []) (liftM (Program.log level text) : Sequence Unit) :=
      uses_log trivial
    refine perform_bind_obeys (Program.Uses.obeys (uses_requireMailbox middle)
      fun _ => Supervision.directs) fun _ _ _ passed => ?_
    obtain ⟨rfl, rfl, -⟩ := performs_requireMailbox.1 passed
    rw [List.append_nil]
    refine perform_bind_obeys (perform_send_obeys listing) fun _ _ _ _ => ?_
    exact Program.Uses.obeys (uses_bind uses_modifyInstance (fun _ => told) _)
      fun _ => Supervision.directs
  · obtain ⟨answer, requests, -⟩ := discoverInstance_ok run
    simp only [Trace.requests_append, requests, List.forall_mem_append, List.forall_mem_singleton]
    exact ⟨fun request member => Nat.lt_succ_of_lt (earlier request member), Nat.lt_succ_self _⟩

theorem informed_of_discovered
    (run : (discoverInterfaces mailboxes).Performs before trace (.ok ()) after) :
    Informed after.targets trace := by
  obtain ⟨listed, interfaces, size⟩ := discoverInterfaces_ok run
  refine ⟨fun unit inside => ?_, fun item member => interfaces ▸ member⟩
  rw [listed, List.mem_range, ← size]
  simpa [Subsystem.targets] using inside

theorem getElem?_targets {unit : Nat} {record : Instance}
    (found : before.instances[unit]? = some record) :
    before.targets[unit]? = some record.interfaces := by
  simp [Subsystem.targets, found]

theorem addressing_interface {unit : Nat} {record : Instance} {command : Command}
    (found : before.instances[unit]? = some record) (opcode : command.opcode ∈ interfaceOpcodes)
    (target : command.target ∈ record.interfaces) :
    Addressing before.targets (.request unit command) :=
  ⟨_, getElem?_targets found, .inr ⟨opcode, target⟩⟩

theorem perform_recalibrate_addressing :
    ((recalibrate mailboxes timeouts).perform before).Uses (Addressing before.targets) :=
  perform_recalibrate_uses Supervision.addressing
    (fun _ _ found _ => ⟨_, getElem?_targets found, .inl ⟨rfl, rfl⟩⟩)
    fun _ _ found _ _ member => addressing_interface found (by simp [interfaceOpcodes]) member

theorem perform_readTechnology_addressing :
    ((readTechnology mailboxes).perform before).Uses (Addressing before.targets) :=
  perform_readTechnology_uses Supervision.addressing
    fun _ _ found _ member => addressing_interface found (by simp [interfaceOpcodes]) member

theorem perform_readSizes_addressing :
    ((readSizes mailboxes).perform before).Uses (Addressing before.targets) :=
  perform_readSizes_uses Supervision.addressing
    fun _ _ found _ member => addressing_interface found (by simp [interfaceOpcodes]) member

theorem perform_readEcc_addressing :
    ((readEcc mailboxes).perform before).Uses (Addressing before.targets) :=
  perform_readEcc_uses Supervision.addressing
    fun _ _ found _ member => addressing_interface found (by simp [interfaceOpcodes]) member

theorem perform_initializeMemory_addressing :
    ((initializeMemory mailboxes timeouts).perform before).Uses (Addressing before.targets) :=
  perform_initializeMemory_uses Supervision.addressing fun _ _ found _ member =>
    ⟨addressing_interface found (by simp [interfaceOpcodes, startCommand, Command.withParameter])
        member,
      addressing_interface found (by simp [interfaceOpcodes, statusCommand]) member⟩

section Inquiries

variable {β : Type} {opcode : Opcode} {unit : Nat} {interfaces : List Target}

theorem asked_send {command : Command} {reply : (Op.request unit command).Answer}
    (h : command.opcode = opcode) :
    Trace.asked opcode [⟨.request unit command, reply⟩] = [(unit, command.target)] := by
  simp [Trace.asked, Trace.requestsOf, Trace.requests, Request.opcode, h]

theorem asked_of_supervision (quiet : ∀ event ∈ trace, Supervision [] event.op) :
    trace.asked opcode = [] :=
  Trace.asked_of_allowed quiet fun _ _ asked => absurd asked List.not_mem_nil

theorem foldlM_asked {visit : β → Target → Sequence β} {start last : β}
    (each : ∀ {state target middle trace next left},
      (visit state target).Performs middle trace (.ok next) left →
      trace.asked opcode = [(unit, target)])
    (run : (interfaces.foldlM visit start).Performs before trace (.ok last) after) :
    trace.asked opcode = interfaces.map (unit, ·) := by
  refine performs_foldlM (fun seen _ _ first => first.asked opcode = seen.map (unit, ·)) rfl
    (fun {seen target state next middle left first second} _ earlier visit => ?_) run
  rw [Trace.asked_append, earlier, each visit, List.map_append, List.map_singleton]

/-- Every recorded interface is asked for its technology once. -/
theorem readTechnology_asked
    (run : (readTechnology mailboxes).Performs before trace (.ok ()) after) :
    trace.asked .technology = interfacesOf before.targets := by
  obtain ⟨_, _, _, _, rfl, cleared, run₁⟩ := performs_bind_ok.1 run
  obtain ⟨rfl, -, rfl⟩ := performs_modify.1 cleared
  obtain ⟨visits, _, _, results, rfl, visited, run₂⟩ := performs_bind_ok.1 run₁
  obtain ⟨rfl, -, rfl⟩ := performs_pure.1 run₂
  obtain ⟨count, each⟩ := performs_forInstances
    (fun seen _ first => first.asked .technology = interfacesOf (before.targets.take seen.length))
    rfl
    (fun {seen record _ middle left first second} found earlier visit => by
      obtain ⟨_, asking, _, _, rfl, present, loop⟩ := performs_bind_ok.1 visit
      obtain ⟨rfl, rfl, -⟩ := performs_requireMailbox.1 present
      rw [forM_eq_foldlM] at loop
      have asked : asking.asked .technology = record.interfaces.map (seen.length, ·) :=
        foldlM_asked (fun visit => by
          obtain ⟨_, agreeing, _, answer, rfl, sent, agreed⟩ := performs_bind_ok.1 visit
          obtain ⟨rfl, rfl⟩ := performs_send_ok.1 sent
          have quiet := Runs.uses agreed (agreeOnTechnology_uses (fun _ h => h) _)
          rw [Trace.asked_append, asked_of_supervision quiet, List.append_nil]
          exact asked_send rfl) loop
      have here : before.targets[seen.length]? = some record.interfaces := getElem?_targets found
      rw [Trace.asked_append, earlier, List.nil_append, asked, List.length_append,
        List.length_singleton, interfacesOf_take_succ here]) visited
  rw [List.take_of_length_le (by simp [Subsystem.targets, count])] at each
  simpa using each

/-- The interfaces of an instance are asked for their error correction once. -/
theorem agreeOnEcc_asked {common agreed : Option Bool}
    (run : (agreeOnEcc unit interfaces common).Performs before trace (.ok agreed) after) :
    trace.asked .eccStatus = interfaces.map (unit, ·) := by
  refine foldlM_asked (fun {common target middle trace next left} visit => ?_) run
  obtain ⟨_, rest, _, answer, rfl, sent, decided⟩ := performs_bind_ok.1 visit
  obtain ⟨rfl, rfl⟩ := performs_send_ok.1 sent
  have quiet : rest = [] := by
    cases common with
    | none => exact (performs_pure.1 decided).1
    | some agreed =>
      dsimp only at decided
      split at decided
      · obtain ⟨_, _, _, _, -, -, run₁⟩ := performs_bind_ok.1 decided
        obtain ⟨_, _, _, _, -, thrown, -⟩ := performs_bind_ok.1 run₁
        cases (performs_throw.1 thrown).2.1
      · exact (performs_pure.1 decided).1
  rw [quiet, List.append_nil]
  exact asked_send rfl

/-- Every recorded interface is asked for its error correction once. -/
theorem readEcc_asked (run : (readEcc mailboxes).Performs before trace (.ok ()) after) :
    trace.asked .eccStatus = interfacesOf before.targets := by
  obtain ⟨_, _, _, _, rfl, got, run₁⟩ := performs_bind_ok.1 run
  obtain ⟨rfl, same, unchanged⟩ := performs_get.1 got
  cases same
  rw [unchanged] at run₁
  obtain ⟨asking, _, _, common, rfl, visited, run₂⟩ := performs_bind_ok.1 run₁
  obtain ⟨_, _, _, _, rfl, recorded, told⟩ := performs_bind_ok.1 run₂
  obtain ⟨rfl, -, rfl⟩ := performs_modify.1 recorded
  obtain ⟨rfl, -, rfl⟩ := performs_log.1 told
  have each := performs_foldlM
    (fun seen _ _ first => first.asked .eccStatus =
      seen.flatMap fun visit => visit.1.interfaces.map (visit.2, ·)) rfl
    (fun {seen visit common agreed middle left first second} _ earlier run => by
      obtain ⟨_, _, _, _, rfl, present, run₁⟩ := performs_bind_ok.1 run
      obtain ⟨rfl, rfl, -⟩ := performs_requireMailbox.1 present
      rw [Trace.asked_append, earlier, List.nil_append, agreeOnEcc_asked run₁, List.flatMap_append,
        List.flatMap_singleton]) visited
  have quiet : Trace.asked .eccStatus [⟨.log .debug
      ("IOSSM: ECC enable status: " ++ toString (common.getD false)), ()⟩] = [] := rfl
  simp only [List.nil_append, Trace.asked_append, each, quiet, List.append_nil, interfacesOf,
    Subsystem.targets, List.zipIdx_map, List.flatMap_map]
  rfl

end Inquiries

end BringUp.Iossm
