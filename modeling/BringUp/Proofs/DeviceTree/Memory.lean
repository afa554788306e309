import Mathlib.Data.List.Basic
import BringUp.DeviceTree.Memory
import BringUp.Proofs.Iossm.Responder

/-! The memory that is read from a device tree. Main statement: the regions of all memory nodes, in
their order, are the banks, as many of them as there is room for, and the size is that of these
banks. -/
namespace BringUp.DeviceTree

variable {limit : Nat} {blob : Blob} {node : Node} {trace : Trace}

def Region.bank (region : Region) : Dram.Bank :=
  ⟨region.start, region.size.getD 0⟩

/-- The memory of these regions. -/
def Memory.ofRegions (limit : Nat) (regions : List Region) : Memory :=
  let banks := (regions.map Region.bank).take (min limit Dram.maxBanks)
  ⟨Dram.totalSize banks, banks⟩

namespace Blob

/-- The device type of a node, if it has one that is text. -/
def deviceType? (blob : Blob) (node : Node) : Option String := do
  let property ← (blob.properties node.body).items.find? (·.name == "device_type")
  Bytes.text? (Bytes.withoutPadding property.value)

def isMemoryNode (blob : Blob) (node : Node) : Bool :=
  match blob.deviceType? node with
  | some deviceType => deviceType == "memory"
  | none => Node.baseName node.name == "memory"

/-- The regions of a node. There are none if they are missing, or of an unsupported kind. -/
def regionsOf (blob : Blob) (node : Node) : List Region :=
  (blob.regions? node).toOption.join.getD []

def memoryNodes (blob : Blob) : List Node :=
  blob.nodes.items.filter blob.isMemoryNode

/-- The regions of all memory nodes. -/
def memoryRegions (blob : Blob) : List Region :=
  blob.memoryNodes.flatMap blob.regionsOf

/-- What is looked at of a node can be read. -/
structure Legible (blob : Blob) (node : Node) : Prop where
  deviceType : ∃ value, blob.property? node "device_type" = .ok value
  regions : blob.isMemoryNode node = true → ∃ regions, blob.regions? node = .ok regions

/-- What is looked at of a blob can be read. -/
structure Readable (blob : Blob) : Prop where
  complete : blob.nodes.defect = none
  legible : ∀ node ∈ blob.nodes.items, blob.Legible node

end Blob

section Regions

variable {regions more : List Region} {region : Region} {outcome : Option Memory}

theorem length_ofRegions : (Memory.ofRegions limit regions).banks.length =
    min (min limit Dram.maxBanks) regions.length := by
  simp [Memory.ofRegions]

theorem ofRegions_nil (limit : Nat) : Memory.ofRegions limit [] = {} := by
  simp [Memory.ofRegions, Dram.totalSize]

theorem ofRegions_full (full : min limit Dram.maxBanks ≤ regions.length) :
    Memory.ofRegions limit (regions ++ more) = Memory.ofRegions limit regions := by
  have same : ((regions ++ more).map Region.bank).take (min limit Dram.maxBanks) =
      (regions.map Region.bank).take (min limit Dram.maxBanks) := by
    rw [List.map_append, List.take_append_of_le_length (by simpa using full)]
  simp only [Memory.ofRegions, same]

theorem ofRegions_room (room : regions.length < min limit Dram.maxBanks) :
    Memory.ofRegions limit (regions ++ [region]) =
      ⟨(Memory.ofRegions limit regions).size + region.bank.size,
        (Memory.ofRegions limit regions).banks ++ [region.bank]⟩ := by
  have whole : (regions.map Region.bank).take (min limit Dram.maxBanks) = regions.map Region.bank :=
    List.take_of_length_le (by simpa using Nat.le_of_lt room)
  have longer : ((regions ++ [region]).map Region.bank).take (min limit Dram.maxBanks) =
      regions.map Region.bank ++ [region.bank] := by
    rw [List.take_of_length_le (by rw [List.length_map, List.length_append]; exact room),
      List.map_append, List.map_singleton]
  simp only [Memory.ofRegions, whole, longer, Dram.totalSize_append, Dram.totalSize, Nat.add_zero]

theorem runs_record (run : Runs (Memory.record limit (.ofRegions limit regions) region) trace
    outcome) : outcome = some (.ofRegions limit (regions ++ [region])) := by
  unfold Memory.record at run
  dsimp only at run
  rw [length_ofRegions] at run
  split at run
  · next full =>
    obtain ⟨_, _, _, -, -, ended⟩ | ⟨-, told⟩ := Runs.bind_iff.1 run
    · rw [(Runs.done_iff.1 ended).2, ofRegions_full (by omega)]
    · cases (Runs.log_iff.1 told).2
  · next room =>
    rw [(Runs.done_iff.1 run).2, ofRegions_room (by omega)]
    rfl

theorem runs_records
    (run : Runs (more.foldlM (Memory.record limit) (.ofRegions limit regions)) trace outcome) :
    outcome = some (.ofRegions limit (regions ++ more)) := by
  induction more generalizing regions trace with
  | nil => rw [(Runs.done_iff.1 run).2, List.append_nil]
  | cons region rest ih =>
    obtain ⟨first, second, _, rfl, here, there⟩ | ⟨-, failed⟩ := Runs.bind_iff.1 run
    · cases runs_record here
      rw [ih there, List.append_assoc, List.singleton_append]
    · cases runs_record failed

end Regions

section Nodes

variable {nodes : List Node} {seen : List Region} {found : Bool}
  {outcome : Option (Memory × Bool)}

theorem find?_items {α : Type} {test : α → Bool} {listing : Listing α} {item : Option α}
    (read : listing.find? test = .ok item) : listing.items.find? test = item := by
  unfold Listing.find? at read
  cases same : listing.items.find? test <;> cases ended : listing.defect <;>
    rw [same, ended] at read <;> cases read <;> rfl

theorem deviceType?_eq {value : Option Bytes}
    (read : blob.property? node "device_type" = .ok value) :
    blob.deviceType? node = value.bind fun value => Bytes.text? (Bytes.withoutPadding value) := by
  unfold Blob.deviceType?
  cases search : (blob.properties node.body).find? (·.name == "device_type") with
  | error _ =>
    rw [Blob.property?, search] at read
    cases read
  | ok property =>
    rw [Blob.property?, search] at read
    cases read
    rw [find?_items search]
    cases property <;> rfl

theorem isMemory_eq {value : Option Bytes}
    (read : blob.property? node "device_type" = .ok value) :
    blob.isMemory node = .ok (blob.isMemoryNode node) := by
  unfold Blob.isMemory Blob.isMemoryNode
  rw [deviceType?_eq read, read]
  change (match value.bind fun value => Bytes.text? (Bytes.withoutPadding value) with
    | some deviceType => _
    | none => _) = _
  cases value.bind fun value => Bytes.text? (Bytes.withoutPadding value) <;> rfl

/-- The visit of a node adds its regions, if it is a memory node. -/
theorem runs_visitMemory
    (run : Runs (blob.visitMemory limit (.ofRegions limit seen, found) node) trace outcome) :
    outcome = none ∧ ¬ blob.Legible node ∨
      blob.Legible node ∧ outcome =
        some (.ofRegions limit (seen ++ if blob.isMemoryNode node then blob.regionsOf node else []),
          found || blob.isMemoryNode node) := by
  cases read : blob.property? node "device_type" with
  | error cause =>
    have unread : blob.isMemory node = .error cause := by
      rw [Blob.isMemory, read]
      rfl
    rw [Blob.visitMemory, unread] at run
    refine .inl ⟨(Runs.fault_iff.1 run).2, fun legible => ?_⟩
    obtain ⟨_, other⟩ := legible.deviceType
    rw [read] at other
    cases other
  | ok value =>
    rw [Blob.visitMemory, isMemory_eq read] at run
    change Runs (if _ then _ else _) _ _ at run
    split at run
    · next memory =>
      rw [memory, if_pos rfl, Bool.or_true]
      cases regions : blob.regions? node with
      | error cause =>
        rw [regions] at run
        refine .inl ⟨(Runs.fault_iff.1 run).2, fun legible => ?_⟩
        obtain ⟨_, other⟩ := legible.regions memory
        rw [regions] at other
        cases other
      | ok described =>
        rw [regions] at run
        have given : described.getD [] = blob.regionsOf node := by
          rw [Blob.regionsOf, regions]
          rfl
        change Runs (((described.getD []).foldlM (Memory.record limit) (.ofRegions limit seen) :
          Program Memory).bind _) _ _ at run
        rw [given] at run
        refine .inr ⟨⟨⟨value, read⟩, fun _ => ⟨described, regions⟩⟩, ?_⟩
        obtain ⟨_, _, _, -, records, ended⟩ | ⟨-, failed⟩ := Runs.bind_iff.1 run
        · cases runs_records records
          exact (Runs.done_iff.1 ended).2
        · cases runs_records failed
    · next other =>
      rw [if_neg other, List.append_nil, Bool.eq_false_iff.2 other, Bool.or_false]
      exact .inr ⟨⟨⟨value, read⟩, fun memory => absurd memory other⟩, (Runs.done_iff.1 run).2⟩

theorem runs_visits
    (run : Runs (nodes.foldlM (blob.visitMemory limit) (.ofRegions limit seen, found)) trace
      outcome) :
    outcome = none ∧ (∃ node ∈ nodes, ¬ blob.Legible node) ∨
      (∀ node ∈ nodes, blob.Legible node) ∧
        outcome = some (.ofRegions limit
          (seen ++ (nodes.filter blob.isMemoryNode).flatMap blob.regionsOf),
            found || nodes.any blob.isMemoryNode) := by
  -- Invariant: the memory is that of the regions seen so far.
  induction nodes generalizing seen found trace with
  | nil =>
    rw [(Runs.done_iff.1 run).2]
    exact .inr ⟨by simp, by simp⟩
  | cons node rest ih =>
    obtain ⟨first, second, visited, rfl, here, there⟩ | ⟨rfl, failed⟩ := Runs.bind_iff.1 run
    · obtain ⟨same, -⟩ | ⟨legible, same⟩ := runs_visitMemory here
      · cases same
      · cases same
        obtain ⟨rfl, bad, member, defect⟩ | ⟨others, rfl⟩ := ih there
        · exact .inl ⟨rfl, bad, List.mem_cons_of_mem _ member, defect⟩
        · refine .inr ⟨List.forall_mem_cons.2 ⟨legible, others⟩, ?_⟩
          cases memory : blob.isMemoryNode node <;> simp [memory]
    · obtain ⟨-, defect⟩ | ⟨-, same⟩ := runs_visitMemory failed
      · exact .inl ⟨rfl, node, List.mem_cons_self, defect⟩
      · cases same

end Nodes

section Blob

variable {data : Bytes} {outcome : Option (Except Error Memory)}

theorem any_isMemoryNode (blob : Blob) :
    blob.nodes.items.any blob.isMemoryNode = !blob.memoryNodes.isEmpty := by
  rw [Bool.eq_iff_iff]
  simp [Blob.memoryNodes]

theorem runs_ofBlob (parsed : Blob.parse data = .ok blob)
    (run : Runs (Memory.ofBlob data limit) trace outcome) :
    outcome = none ∧ ¬ blob.Readable ∨ blob.Readable ∧ outcome =
      some (if blob.memoryNodes.isEmpty then .error .noMemoryNode
        else .ok (.ofRegions limit blob.memoryRegions)) := by
  rw [Memory.ofBlob, parsed] at run
  obtain ⟨first, second, visited, rfl, visits, run₁⟩ | ⟨rfl, failed⟩ := Runs.bind_iff.1 run
  · rw [← ofRegions_nil limit] at visits
    obtain ⟨same, -⟩ | ⟨legible, same⟩ := runs_visits visits
    · cases same
    · cases same
      cases defect : blob.nodes.defect with
      | some _ =>
        rw [Listing.toList, defect] at run₁
        refine .inl ⟨(Runs.fault_iff.1 run₁).2, fun readable => ?_⟩
        rw [readable.complete] at defect
        cases defect
      | none =>
        refine .inr ⟨⟨defect, legible⟩, ?_⟩
        rw [Listing.toList, defect, Bool.false_or, any_isMemoryNode] at run₁
        change Runs (if _ then _ else _) _ _ at run₁
        split at run₁
        · next none =>
          rw [if_pos (by simpa using none)]
          exact (Runs.done_iff.1 run₁).2
        · next some =>
          rw [if_neg (by simpa using some)]
          obtain ⟨_, _, _, -, -, ended⟩ | ⟨-, told⟩ := Runs.bind_iff.1 run₁
          · exact (Runs.done_iff.1 ended).2
          · cases (Runs.log_iff.1 told).2
  · rw [← ofRegions_nil limit] at failed
    obtain ⟨-, node, member, defect⟩ | ⟨-, same⟩ := runs_visits failed
    · exact .inl ⟨rfl, fun readable => defect (readable.legible node member)⟩
    · cases same

theorem memory_ofBlob_ok {memory : Memory}
    (run : Runs (Memory.ofBlob data limit) trace (some (.ok memory))) :
    ∃ regions, memory = .ofRegions limit regions := by
  cases parsed : Blob.parse data with
  | error _ =>
    rw [Memory.ofBlob, parsed] at run
    cases (Runs.done_iff.1 run).2
  | ok blob =>
    obtain ⟨none, -⟩ | ⟨-, same⟩ := runs_ofBlob parsed run
    · cases none
    · split at same
      · cases same
      · cases same
        exact ⟨blob.memoryRegions, rfl⟩

/-- The size of the described memory is the sum over its banks, also where regions are ignored. -/
theorem memory_ofBlob_size {memory : Memory}
    (run : Runs (Memory.ofBlob data limit) trace (some (.ok memory))) :
    memory.size = Dram.totalSize memory.banks := by
  obtain ⟨_, rfl⟩ := memory_ofBlob_ok run
  rfl

theorem memory_ofBlob_length {memory : Memory}
    (run : Runs (Memory.ofBlob data limit) trace (some (.ok memory))) :
    memory.banks.length ≤ Dram.maxBanks := by
  obtain ⟨_, rfl⟩ := memory_ofBlob_ok run
  rw [length_ofRegions]
  omega

end Blob

/-- What reading the memory of a blob comes to, with at most `limit` banks. -/
structure Decoded (data : Bytes) (blob : Blob) (limit : Nat)
    (outcome : Option (Except Error Memory)) : Prop where
  /-- Reading breaks off only where something cannot be read. -/
  returns_iff : (∃ result, outcome = some result) ↔ blob.Readable
  missing_iff : ∀ result, outcome = some result →
    (result = .error .noMemoryNode ↔ blob.memoryNodes = [])
  described : ∀ result, outcome = some result → blob.memoryNodes ≠ [] →
    ∃ memory, result = .ok memory ∧
      memory.banks = (blob.memoryRegions.map Region.bank).take (min limit Dram.maxBanks) ∧
      memory.size = Dram.totalSize memory.banks
  /-- A higher limit adds banks at the end. -/
  grows : ∀ more trace memory memory', limit ≤ more → outcome = some (.ok memory) →
    Runs (Memory.ofBlob data more) trace (some (.ok memory')) → memory.banks <+: memory'.banks

/-- The memory of a blob that can be read is that of all regions of all memory nodes, up to the
limit. -/
theorem memory_decoded {data : Bytes} {outcome : Option (Except Error Memory)}
    (parsed : Blob.parse data = .ok blob) (run : Runs (Memory.ofBlob data limit) trace outcome) :
    Decoded data blob limit outcome := by
  obtain ⟨rfl, defect⟩ | ⟨readable, rfl⟩ := runs_ofBlob parsed run
  · constructor
    case returns_iff => exact iff_of_false nofun defect
    case missing_iff => exact nofun
    case described => exact nofun
    case grows => exact fun _ _ _ _ _ => nofun
  · constructor
    case returns_iff => exact iff_of_true ⟨_, rfl⟩ readable
    case missing_iff =>
      rintro _ ⟨⟩
      split
      · next none => exact iff_of_true rfl (List.isEmpty_iff.1 none)
      · next some => exact iff_of_false nofun fun none => some (List.isEmpty_iff.2 none)
    case described =>
      rintro _ ⟨⟩ some
      rw [if_neg fun none => some (List.isEmpty_iff.1 none)]
      exact ⟨_, rfl, rfl, rfl⟩
    case grows =>
      intro more trace' memory memory' wider same run'
      obtain ⟨absurd, -⟩ | ⟨-, same'⟩ := runs_ofBlob parsed run'
      · cases absurd
      · split at same
        · cases same
        · next some =>
          rw [if_neg some] at same'
          cases same
          cases same'
          exact List.take_prefix_take_left (by omega)

/-- A device tree with five nodes that may be taken for memory: one without regions, one in a bus whose
regions have no sizes, one with two regions, one that is of type `cpu`, and one that has no type. -/
def severalMemories : Bytes :=
  [0xd0, 0x0d, 0xfe, 0xed, 0, 0, 1, 104, 0, 0, 0, 40, 0, 0, 1, 76, 0, 0, 0, 0, 0, 0, 0, 17,
    0, 0, 0, 16, 0, 0, 0, 0, 0, 0, 0, 28, 0, 0, 1, 36] ++
  [0, 0, 0, 1, 0, 0, 0, 0] ++
  [0, 0, 0, 1] ++ [109, 101, 109, 111, 114, 121, 64, 48, 0, 0, 0, 0] ++
  [0, 0, 0, 3, 0, 0, 0, 7, 0, 0, 0, 0] ++ [109, 101, 109, 111, 114, 121, 0, 0] ++
  [0, 0, 0, 2] ++
  [0, 0, 0, 1] ++ [98, 117, 115, 0] ++
  [0, 0, 0, 3, 0, 0, 0, 4, 0, 0, 0, 12] ++ [0, 0, 0, 0] ++
  [0, 0, 0, 1] ++ [109, 101, 109, 111, 114, 121, 64, 53, 0, 0, 0, 0] ++
  [0, 0, 0, 3, 0, 0, 0, 8, 0, 0, 0, 24] ++ [0, 0, 0, 0, 0, 0, 0, 5] ++
  [0, 0, 0, 2] ++ [0, 0, 0, 2] ++
  [0, 0, 0, 1] ++ [114, 97, 109, 0] ++
  [0, 0, 0, 3, 0, 0, 0, 7, 0, 0, 0, 0] ++ [109, 101, 109, 111, 114, 121, 0, 0] ++
  [0, 0, 0, 3, 0, 0, 0, 24, 0, 0, 0, 24] ++
  [0, 0, 0, 0, 0x80, 0, 0, 0, 0x40, 0, 0, 0] ++ [0, 0, 0, 8, 0x80, 0, 0, 0, 0, 0, 0, 0x10] ++
  [0, 0, 0, 2] ++
  [0, 0, 0, 1] ++ [109, 101, 109, 111, 114, 121, 64, 57, 0, 0, 0, 0] ++
  [0, 0, 0, 3, 0, 0, 0, 4, 0, 0, 0, 0] ++ [99, 112, 117, 0] ++
  [0, 0, 0, 3, 0, 0, 0, 12, 0, 0, 0, 24] ++ [0, 0, 0, 0, 0, 0, 0, 9, 0, 0, 0, 9] ++
  [0, 0, 0, 2] ++
  [0, 0, 0, 1] ++ [109, 101, 109, 111, 114, 121, 0, 0] ++
  [0, 0, 0, 3, 0, 0, 0, 12, 0, 0, 0, 24] ++ [0, 0, 0, 0, 0, 0, 0, 7, 0, 0, 0, 7] ++
  [0, 0, 0, 2] ++
  [0, 0, 0, 2] ++ [0, 0, 0, 9] ++
  [100, 101, 118, 105, 99, 101, 95, 116, 121, 112, 101, 0] ++
  [35, 115, 105, 122, 101, 45, 99, 101, 108, 108, 115, 0] ++ [114, 101, 103, 0]

def quiet : (op : Op) → Unit → op.Answer × Unit
  | op, state => (Iossm.Responder.blank op, state)

/-- There is room for three of the four regions, and the last node is left out. -/
theorem memory_decoded_several : ∃ blob memory,
    Blob.parse severalMemories = .ok blob ∧
      Runs (Memory.ofBlob severalMemories 3) ((Memory.ofBlob severalMemories 3).trace quiet ())
        (some (.ok memory)) ∧
      Decoded severalMemories blob 3 (some (.ok memory)) ∧
      memory = ⟨0x40000010, [⟨5, 0⟩, ⟨0x80000000, 0x40000000⟩, ⟨0x880000000, 0x10⟩]⟩ := by
  have accepted : (Blob.parse severalMemories).isOk = true := by decide +kernel
  obtain ⟨blob, parsed⟩ : ∃ blob, Blob.parse severalMemories = .ok blob := by
    cases parsed : Blob.parse severalMemories with
    | error _ => simp [parsed, Except.isOk, Except.toBool] at accepted
    | ok blob => exact ⟨blob, rfl⟩
  have ended : ((Memory.ofBlob severalMemories 3).run quiet ()).1 = some (.ok ⟨0x40000010,
      [⟨5, 0⟩, ⟨0x80000000, 0x40000000⟩, ⟨0x880000000, 0x10⟩]⟩) := by decide +kernel
  have run := Runs.of_run_eq quiet () ended
  exact ⟨blob, _, parsed, run, memory_decoded parsed run, rfl⟩

end BringUp.DeviceTree
