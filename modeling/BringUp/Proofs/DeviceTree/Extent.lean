import BringUp.Proofs.Dram.Settings

/-! Accesses of settings and the register blocks that they belong to. Main statement: an access
starts inside the block of its child, and stays inside unless its offset is one of the last three
bytes of the block. -/
namespace BringUp

/-- Address of the word that is read or written. -/
def Op.word? : Op → Option Nat
  | .load address => some address
  | .store address _ => some address
  | _ => none

namespace DeviceTree

variable {data value : Bytes} {blob : Blob} {child : Node} {name : String} {region : Region}
  {setting : Setting} {settings : List Setting} {visit : Setting → Program Unit} {trace : Trace}

/-- Number of bytes of a region. -/
def Region.extent (region : Region) : Nat :=
  region.size.getD 0

/-- The four bytes of the word at an address belong to the region. -/
def Region.ContainsWord (region : Region) (address : Nat) : Prop :=
  region.start ≤ address ∧ address + 4 ≤ region.start + region.extent

/-- A child gives a setting: it is a triple of the child, whose first region is the block. -/
inductive Blob.Gives (blob : Blob) (child : Node) : Region → Setting → Prop
  | mk {value : Bytes} {regions : Option (List Region)} {region : Region} {position : Nat}
      (present : blob.property? child settingsProperty = .ok (some value))
      (read : blob.regions? child = .ok regions) (first : regions.bind List.head? = some region)
      (within : position < value.length / 12) :
      Blob.Gives blob child region (Setting.triple region.start value position)

/-- A child of the first node with the name gives the setting. -/
inductive Settings.Gives (data : Bytes) (name : String) (region : Region) (setting : Setting) : Prop
  | mk {blob : Blob} {node child : Node} (parsed : Blob.parse data = .ok blob)
      (found : blob.nodes.items.find? (fun node => Node.baseName node.name == name) = some node)
      (member : child ∈ (blob.children node).items) (given : blob.Gives child region setting)

/-- Whatever is read, carrying the setting out accesses nothing but words of the region. -/
def Setting.Stays (region : Region) (setting : Setting) : Prop :=
  ∀ trace outcome, Runs setting.apply trace outcome → ∀ event ∈ trace, ∀ address,
    event.op.word? = some address → region.ContainsWord address

section Single

theorem Setting.apply_words (setting : Setting) : setting.apply.Uses fun op =>
    ∀ address, op.word? = some address → address = setting.address := by
  refine Program.uses_bind (Program.uses_update ?_ fun word => ?_) fun _ _ =>
    Program.uses_log fun address none => ?_
  · intro address same
    exact (Option.some.inj same).symm
  · intro address same
    exact (Option.some.inj same).symm
  · cases none

theorem Setting.stays_iff : setting.Stays region ↔ region.ContainsWord setting.address := by
  constructor
  · intro stays
    have run : Runs setting.apply _ (some ()) := .ask (0 : Word) (.ask () (.ask () (.done ())))
    exact stays _ _ run _ List.mem_cons_self setting.address rfl
  · intro contains trace outcome run event member address same
    rw [run.uses setting.apply_words event member address same]
    exact contains

theorem Blob.Describes.inside (describes : blob.Describes child settings)
    (given : blob.Gives child region setting) :
    setting ∈ settings ∧ setting.base = region.start ∧ setting.offset.toNat < region.extent := by
  obtain ⟨present, read, first, within⟩ := given
  cases describes with
  | nothing absent => cases absent.symm.trans present
  | block present' read' first' whole inside =>
    cases present.symm.trans present'
    cases read.symm.trans read'
    cases first.symm.trans first'
    exact ⟨List.mem_map_of_mem (List.mem_range.2 within), rfl, inside _ within⟩

theorem Blob.Describes.gives (describes : blob.Describes child settings)
    (member : setting ∈ settings) : ∃ region, blob.Gives child region setting := by
  cases describes with
  | nothing absent => cases member
  | block present read first whole inside =>
    obtain ⟨position, within, rfl⟩ := List.mem_map.1 member
    exact ⟨_, .mk present read first (List.mem_range.1 within)⟩

/-- Where an access starts inside a block, the rest of its word is inside as well or among the next
three bytes. -/
theorem Blob.Gives.stays_iff (given : blob.Gives child region setting) :
    setting.Stays region ↔ setting.offset.toNat + 4 ≤ region.extent := by
  obtain ⟨present, read, first, within⟩ := given
  rw [Setting.stays_iff]
  simp only [Region.ContainsWord, Setting.address, Setting.triple]
  omega

end Single

namespace Settings

/-- The settings of a node are those that its children give. -/
theorem Listed.mem_iff (listed : Listed data name settings) :
    setting ∈ settings ↔ ∃ region, Gives data name region setting := by
  obtain ⟨blob, node, parts, parsed, found, each, rfl⟩ := listed
  constructor
  · intro member
    obtain ⟨part, known, inside⟩ := List.mem_flatten.1 member
    obtain ⟨child, given, describes⟩ := exists_child each known
    have ⟨region, gives⟩ := describes.gives inside
    exact ⟨region, .mk parsed found given gives⟩
  · rintro ⟨region, parsed', found', given, gives⟩
    cases parsed.symm.trans parsed'
    cases found.symm.trans found'
    obtain ⟨part, known, describes⟩ := exists_part each given
    exact List.mem_flatten.2 ⟨part, known, (describes.inside gives).1⟩

theorem Listed.inside (listed : Listed data name settings) (given : Gives data name region setting) :
    setting.base = region.start ∧ setting.offset.toNat < region.extent := by
  obtain ⟨blob, node, parts, parsed, found, each, rfl⟩ := listed
  obtain ⟨parsed', found', known, gives⟩ := given
  cases parsed.symm.trans parsed'
  cases found.symm.trans found'
  obtain ⟨part, -, describes⟩ := exists_part each known
  exact (describes.inside gives).2

/-- Carrying out a node accesses the words of its settings only. -/
theorem apply_words {outcome : Option (Except Error Nat)} {event : Event} {address : Nat}
    (run : Runs (apply data name) trace outcome) (member : event ∈ trace)
    (accessed : event.op.word? = some address) :
    ∃ region setting, Gives data name region setting ∧ address = setting.address := by
  rw [apply_eq] at run
  obtain ⟨settings, listed, -, visits⟩ | ⟨stop, stops, -, visits⟩ := forEach_cases data name
  · have words : (settings.forM Setting.apply).Uses fun op =>
        ∀ address, op.word? = some address → ∃ setting ∈ settings, address = setting.address :=
      Program.uses_forM fun setting known =>
        setting.apply_words.mono fun _ own address same => ⟨setting, known, own address same⟩
    rw [visits] at run
    have ⟨setting, known, same⟩ := run.uses (Program.uses_bind words fun _ _ => trivial) event member
      address accessed
    have ⟨region, given⟩ := listed.mem_iff.1 known
    exact ⟨region, setting, given, same⟩
  · rw [visits] at run
    have quiet : Program.Logging event.op :=
      run.uses (Program.uses_bind stops.uses fun _ _ => trivial) event member
    cases same : event.op <;> simp [same, Program.Logging, Op.word?] at quiet accessed

end Settings

/-- A run that is accepted visits exactly the settings that the children of the node give. Carrying
one of them out accesses nothing else than the word at its address, which starts inside the block of
the child, and stays inside exactly if four bytes of the block remain from the offset on. Words of a
block of whole words do. -/
theorem setting_confined_iff {count : Nat}
    (run : Runs (Settings.forEach data name visit) trace (some (.ok count))) :
    (∃ settings : List Setting, count = settings.length ∧ Runs (settings.forM visit) trace (some ()) ∧
      ∀ setting, setting ∈ settings ↔ ∃ region, Settings.Gives data name region setting) ∧
    (∀ applied outcome, Runs (Settings.apply data name) applied outcome →
      ∀ event ∈ applied, ∀ address, event.op.word? = some address →
        ∃ region setting, Settings.Gives data name region setting ∧ address = setting.address) ∧
    ∀ region setting, Settings.Gives data name region setting →
      (region.start ≤ setting.address ∧ setting.address < region.start + region.extent) ∧
      (setting.Stays region ↔ setting.offset.toNat + 4 ≤ region.extent) ∧
      (region.extent % 4 = 0 → setting.offset.toNat % 4 = 0 → setting.Stays region) := by
  obtain ⟨settings, same, listed, visiting⟩ | ⟨_, failed, -⟩ := Settings.runs_forEach run
  · cases same
    refine ⟨⟨settings, rfl, visiting, fun setting => listed.mem_iff⟩,
      fun _ _ applies _ member _ accessed => Settings.apply_words applies member accessed,
      fun region setting given => ?_⟩
    have ⟨base, inside⟩ := listed.inside given
    have stays : setting.Stays region ↔ setting.offset.toNat + 4 ≤ region.extent := by
      cases given with
      | mk _ _ _ given => exact given.stays_iff
    refine ⟨?_, stays, fun whole aligned => stays.2 ?_⟩
    · simp only [Setting.address, base]
      omega
    · omega
  · cases failed

/-- A device tree whose settings node has two blocks. The first one has so many bytes and a setting
at offset 4. -/
def sizedBlock (size : UInt8) : Bytes := (Dram.Rehearsal.blocks 8).set 119 size

theorem sizedBlock_gives : ∀ size ∈ [(6 : UInt8), 0x20], Settings.Gives (sizedBlock size)
    Dram.interleavingOff ⟨0x1000, some size.toNat⟩ ⟨0x1000, 4, 1, 3⟩ := by
  let blob (size : UInt8) : Blob := ⟨Blob.block (sizedBlock size)
      (Blob.headerWord (sizedBlock size) 2) (Blob.headerWord (sizedBlock size) 9),
    Blob.block (sizedBlock size) (Blob.headerWord (sizedBlock size) 3)
      (Blob.headerWord (sizedBlock size) 8)⟩
  let tokens (size : UInt8) : Bytes := ((sizedBlock size).drop 40).take 180
  let node (size : UInt8) : Node :=
    ⟨Dram.interleavingOff, (tokens size).drop 48, some ((tokens size).drop 8)⟩
  let child (size : UInt8) : Node := ⟨"a", (tokens size).drop 56, some (node size).body⟩
  have header : ∀ size ∈ [(6 : UInt8), 0x20], Blob.headerBytes ≤ (sizedBlock size).length ∧
      Blob.headerWord (sizedBlock size) 0 = Blob.magic ∧
      Blob.headerWord (sizedBlock size) 1 ≤ (sizedBlock size).length := by
    decide +kernel
  have parsed : ∀ size ∈ [(6 : UInt8), 0x20], Blob.parse (sizedBlock size) = .ok (blob size) := by
    intro size known
    have ⟨long, magic, total⟩ := header size known
    rw [Blob.parse, if_neg (Nat.not_lt.2 long), if_neg (not_not.2 magic), if_neg (Nat.not_lt.2 total)]
  have found : ∀ size ∈ [(6 : UInt8), 0x20], (blob size).nodes.items.find?
      (fun node => Node.baseName node.name == Dram.interleavingOff) = some (node size) := by
    decide +kernel
  have member : ∀ size ∈ [(6 : UInt8), 0x20], child size ∈ ((blob size).children (node size)).items := by
    decide +kernel
  have present : ∀ size ∈ [(6 : UInt8), 0x20], (blob size).property? (child size) settingsProperty =
      .ok (some [0, 0, 0, 4, 0, 0, 0, 1, 0, 0, 0, 3]) := by decide +kernel
  have read : ∀ size ∈ [(6 : UInt8), 0x20], (blob size).regions? (child size) =
      .ok (some [⟨0x1000, some size.toNat⟩]) := by decide +kernel
  have within : 0 < [0, 0, 0, 4, 0, 0, 0, 1, 0, 0, 0, 3].length / 12 := by decide
  intro size known
  exact .mk (parsed size known) (found size known) (member size known)
    (.mk (present size known) (read size known) rfl within)

/-- In a block of 32 bytes the word at offset 4 stays inside. -/
theorem setting_confined_aligned :
    ((Settings.forEach (sizedBlock 0x20) Dram.interleavingOff Setting.apply).run
        (Dram.Rehearsal.serve id) (Dram.Rehearsal.afterWarmReset 0)).1 = some (.ok 2) ∧
      Settings.Gives (sizedBlock 0x20) Dram.interleavingOff ⟨0x1000, some 0x20⟩ ⟨0x1000, 4, 1, 3⟩ ∧
      Setting.Stays ⟨0x1000, some 0x20⟩ ⟨0x1000, 4, 1, 3⟩ := by
  have set : ((Settings.forEach (sizedBlock 0x20) Dram.interleavingOff Setting.apply).run
      (Dram.Rehearsal.serve id) (Dram.Rehearsal.afterWarmReset 0)).1 = some (.ok 2) := by
    decide +kernel
  have run := Runs.of_run (Dram.Rehearsal.serve id)
    (Settings.forEach (sizedBlock 0x20) Dram.interleavingOff Setting.apply)
    (Dram.Rehearsal.afterWarmReset 0)
  rw [set] at run
  have gives := sizedBlock_gives 0x20 (by decide)
  exact ⟨set, gives, ((setting_confined_iff run).2.2 _ _ gives).2.1.2 (by decide)⟩

/-- In a block of six bytes the offset 4 is accepted as well, and the last two bytes of its word are
outside. -/
theorem block_overrun :
    ((Settings.apply (sizedBlock 6) Dram.interleavingOff).run (Dram.Rehearsal.serve id)
        (Dram.Rehearsal.afterWarmReset 0)).1 = some (.ok 2) ∧
      (0x1004, 1) ∈ Trace.stores ((Settings.apply (sizedBlock 6) Dram.interleavingOff).trace
        (Dram.Rehearsal.serve id) (Dram.Rehearsal.afterWarmReset 0)) ∧
      Settings.Gives (sizedBlock 6) Dram.interleavingOff ⟨0x1000, some 6⟩ ⟨0x1000, 4, 1, 3⟩ ∧
      ¬ Region.ContainsWord ⟨0x1000, some 6⟩ 0x1004 ∧
      ¬ Setting.Stays ⟨0x1000, some 6⟩ ⟨0x1000, 4, 1, 3⟩ := by
  have outside : ¬ Region.ContainsWord ⟨0x1000, some 6⟩ 0x1004 := by
    simp [Region.ContainsWord, Region.extent]
  refine ⟨by decide +kernel, by decide +kernel, sizedBlock_gives 6 (by decide), outside,
    fun stays => ?_⟩
  exact outside (Setting.stays_iff.1 stays)

end DeviceTree
end BringUp
