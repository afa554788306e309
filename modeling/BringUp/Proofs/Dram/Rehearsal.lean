import BringUp.Proofs.Dram.Footprint
import BringUp.Proofs.Dram.Stages
import BringUp.Proofs.Program.Content

/-! A small board on which a bring-up can be followed. Its registers are plain memory, and one IO96B
instance has one interface with 8 gigabits and error correction. -/
namespace BringUp.Dram.Rehearsal

instance decidableEqExcept {ε α : Type} [DecidableEq ε] [DecidableEq α] :
    DecidableEq (Except ε α)
  | .ok first, .ok second => decidable_of_iff (first = second) (by simp)
  | .error first, .error second => decidable_of_iff (first = second) (by simp)
  | .ok _, .error _ => isFalse (by simp)
  | .error _, .ok _ => isFalse (by simp)

/-- A device tree with the settings node for no interleaving and a memory node, both of them
empty. -/
def blob : DeviceTree.Bytes :=
  [0xd0, 0x0d, 0xfe, 0xed, 0, 0, 0, 116, 0, 0, 0, 40, 0, 0, 0, 0, 0, 0, 0, 0, 0, 0, 0, 17,
    0, 0, 0, 16, 0, 0, 0, 0, 0, 0, 0, 0, 0, 0, 0, 76] ++
  [0, 0, 0, 1, 0, 0, 0, 0] ++
  [0, 0, 0, 1] ++ [115, 111, 99, 102, 112, 103, 97, 45, 115, 101, 99, 114, 101, 103, 45, 99, 99,
    117, 45, 105, 110, 116, 101, 114, 108, 101, 97, 118, 105, 110, 103, 45, 111, 102, 102, 0] ++
  [0, 0, 0, 2] ++
  [0, 0, 0, 1] ++ [109, 101, 109, 111, 114, 121, 0, 0] ++ [0, 0, 0, 2] ++
  [0, 0, 0, 2] ++ [0, 0, 0, 9]

/-- A handoff table for a single port and a single IO96B instance. -/
def table : List Word := [0, 0, 0, 0, 0]

abbrev Registers := Nat → Word

/-- Registers after a warm reset without errors, with this content of the progress register. -/
def afterWarmReset (progress : Word) : Registers := fun address =>
  if address = SystemManager.progress then progress
  else if address = SystemManager.resetRecord then 0x08000000
  else if address = SystemManager.clockStatus then 0x30000
  else 0

/-- Registers after a warm reset of a bring-up that did not complete. -/
def afterHang : Registers := afterWarmReset 0x12345679

/-- Answer of the only IOSSM. -/
def reply : Iossm.Opcode → Iossm.Answer
  | .listInterfaces => ⟨1, #v[0x20000000, 0, 0]⟩
  | .width => ⟨1, #v[0, 8, 0]⟩
  | _ => ⟨0x10001, #v[1, 0, 0]⟩

/-- Answers every question. Of the bytes that are probed, as many are confirmed as `confirm`
says. -/
def serve (confirm : Nat → Nat) : (op : Op) → Registers → op.Answer × Registers
  | .load address, registers => (registers address, registers)
  | .store address value, registers =>
    ((), fun other => if address = other then value else registers other)
  | .loadCell _, registers => (0, registers)
  | .storeCell _ _, registers => ((), registers)
  | .pause, registers => ((), registers)
  | .log _ _, registers => ((), registers)
  | .status _, registers => (1, registers)
  | .request _ command, registers => (.ok (reply command.opcode), registers)
  | .probe _ size, registers => (min (confirm size) size, registers)
  | .getVariable _, registers => (none, registers)
  | .setVariable _ _, registers => (.ok (), registers)
  | .manager _, registers => (.ok (), registers)

/-- Answers every question but commands of one kind, for which the mailbox is never ready. -/
def serveWithout (silent : Iossm.Opcode) (op : Op) (registers : Registers) :
    op.Answer × Registers :=
  match op with
  | .request _ command =>
    (if command.opcode = silent then .error .notReady else .ok (reply command.opcode), registers)
  | op => serve id op registers

/-- A bring-up on the board. -/
def bringUp : Program (Except Error Ram) :=
  (Dram.bringUp 1 table blob {}).run

/-- The bookkeeping about the board after a survey. -/
def described : Iossm.Subsystem :=
  ⟨1, 0, true, true, .ddr5, true, 8, [⟨true, 8, [⟨1, 0⟩]⟩]⟩

variable {α : Type} {confirm : Nat → Nat} {registers : Registers}

theorem tracks (p : Program α) (address : Nat) :
    (p.trace (serve confirm) registers).Tracks address (registers address) := by
  refine Trace.tracks_of_handler (fun registers : Registers => registers address) (fun _ => rfl)
    (fun op registers => ?_) p registers
  cases op <;> rfl

/-- Every probe is answered as `confirm` says. -/
theorem probes_eq (p : Program α) : ∀ probe ∈ (p.trace (serve confirm) registers).probes,
    probe.2.2 = min (confirm probe.2.1) probe.2.1 := by
  rintro ⟨start, size, found⟩ member
  have event := Trace.mem_probes.1 member
  clear member
  induction p generalizing registers with
  | done _ => cases event
  | fault => cases event
  | ask op next ih =>
    rcases List.mem_cons.1 event with same | later
    · cases same
      rfl
    · exact ih _ later

theorem probes_le (p : Program α) :
    ∀ probe ∈ (p.trace (serve confirm) registers).probes, probe.2.2 ≤ probe.2.1 :=
  fun probe member => Nat.le_trans (Nat.le_of_eq (probes_eq p probe member)) (Nat.min_le_right _ _)

theorem settings_of_yields {data : DeviceTree.Bytes} {node : String}
    {settings : Except DeviceTree.Error (List DeviceTree.Setting)}
    (yields : (DeviceTree.Settings.ofBlob data node).Yields settings) :
    ((DeviceTree.Settings.ofBlob data node).run (serve id) (afterWarmReset 0)).1 = some settings := by
  obtain ⟨trace, run⟩ := yields
  exact run.result_of_logging (serve id) (afterWarmReset 0) DeviceTree.settings_ofBlob_uses

theorem not_namedBySettings {address : Nat} : ¬ NamedBySettings blob address := by
  rintro ⟨node, member, settings, yields, setting, inside, -⟩
  have result := settings_of_yields yields
  simp only [List.mem_cons, List.not_mem_nil, or_false] at member
  rcases member with rfl | rfl
  · have none : ((DeviceTree.Settings.ofBlob blob interleavingOn).run (serve id)
        (afterWarmReset 0)).1 = some (.error (.nodeNotFound interleavingOn)) := by decide +kernel
    cases none.symm.trans result
  · have empty : ((DeviceTree.Settings.ofBlob blob interleavingOff).run (serve id)
        (afterWarmReset 0)).1 = some (.ok []) := by decide +kernel
    cases empty.symm.trans result
    cases inside

theorem start_afterHang : (start.run (serve id) afterHang).1 = some ⟨some .warm, true⟩ := by
  decide +kernel

theorem survey_afterHang : ((survey 1 table blob {}).run.run (serve id)
    (start.run (serve id) afterHang).2).1 =
      some (.ok (⟨0x40000000, [⟨0x80000000, 0x40000000⟩]⟩, described)) := by
  decide +kernel

theorem prepareEcc_afterHang : (((prepareEcc 1 {} ⟨some .warm, true⟩).perform described).run
    (serve id) ((survey 1 table blob {}).run.run (serve id)
      (start.run (serve id) afterHang).2).2).1 = some (.ok (), described) := by
  decide +kernel

end BringUp.Dram.Rehearsal
