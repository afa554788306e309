import BringUp.Proofs.DeviceTree.Settings
import BringUp.Proofs.Dram.Rehearsal

/-! Settings of the interleaving. Main statement: every run over the settings of a node uses all of
them, each of them once and in order, or ends before the first of them is used. -/
namespace BringUp.Dram

open DeviceTree
open Program (Logging)

/-- The settings node that fits a configuration. -/
def interleavingNode (configuration : Configuration) : String :=
  if configuration.dualPort || configuration.dualEmif then interleavingOn else interleavingOff

/-- Setting the interleaving tells something, applies the settings of the node and passes their
failure on. -/
theorem setInterleaving_eq (data : Bytes) (configuration : Configuration) :
    ∃ text next, setInterleaving data configuration =
        ((Program.log .debug text).bind fun _ =>
          (Settings.apply data (interleavingNode configuration)).bind next) ∧
      (∀ count, next (.ok count) = .done (.ok ())) ∧
      ∀ cause, ∃ message, next (.error cause) =
        (Program.log .error message).bind fun _ => .done (.error (.settings cause)) := by
  unfold setInterleaving
  dsimp only
  split
  · next multiple =>
    rw [show interleavingNode configuration = interleavingOn from if_pos multiple]
    exact ⟨_, _, rfl, fun _ => rfl, fun _ => ⟨_, rfl⟩⟩
  · next single =>
    rw [show interleavingNode configuration = interleavingOff from if_neg single]
    exact ⟨_, _, rfl, fun _ => rfl, fun _ => ⟨_, rfl⟩⟩

/-- All settings of the node that fits the configuration are carried out, or nothing happens that is
more than a log record. -/
theorem runs_setInterleaving {data : Bytes} {configuration : Configuration} {trace : Trace}
    {result : Option (Except Error Unit)}
    (run : Runs (setInterleaving data configuration) trace result) :
    (∃ settings told setting, result = some (.ok ()) ∧ trace = told ++ setting ∧
      (∀ event ∈ told, Logging event.op) ∧
      Settings.Listed data (interleavingNode configuration) settings ∧
      Runs (settings.forM Setting.apply) setting (some ())) ∨
    (result ≠ some (.ok ()) ∧ ∀ event ∈ trace, Logging event.op) := by
  obtain ⟨text, next, same, done, failed⟩ := setInterleaving_eq data configuration
  rw [same, Settings.apply_eq] at run
  obtain ⟨settings, listed, -, visits⟩ | ⟨stop, stops, -, visits⟩ :=
    Settings.forEach_cases data (interleavingNode configuration)
  · rw [visits] at run
    simp only [Program.log, Program.ask_bind, Program.bind_assoc, Program.done_bind, done] at run
    obtain ⟨_, rest, rfl, run₁⟩ := Runs.ask_iff.1 run
    have returns : (settings.forM Setting.apply).Returns :=
      Program.returns_forM fun _ => fun _ => fun _ => fun _ => trivial
    obtain ⟨part, last, _, rfl, visiting, ended⟩ | ⟨-, broken⟩ := Runs.bind_iff.1 run₁
    · obtain ⟨rfl, rfl⟩ := Runs.done_iff.1 ended
      rw [List.append_nil]
      exact .inl ⟨settings, [_], part, rfl, rfl, by simp [Logging], listed, visiting⟩
    · obtain ⟨_, same⟩ := broken.returned returns
      cases same
  · rw [visits] at run
    have reports (cause : DeviceTree.Error) : (next (.error cause)).Uses Logging := by
      obtain ⟨message, same⟩ := failed cause
      rw [same]
      exact ⟨trivial, fun _ => trivial⟩
    simp only [fail, Program.bind_assoc, Program.done_bind] at run
    refine .inr ⟨?_, run.uses (Program.uses_bind (Program.uses_log trivial) fun _ _ =>
      Program.uses_bind stops.uses fun cause _ => reports cause)⟩
    rintro rfl
    obtain ⟨_, _, _, rfl, -, run₁⟩ := Runs.bind_some_iff.1 run
    obtain ⟨_, _, cause, rfl, -, reported⟩ := Runs.bind_some_iff.1 run₁
    obtain ⟨message, same⟩ := failed cause
    rw [same] at reported
    obtain ⟨_, _, rfl, ended⟩ := Runs.ask_iff.1 reported
    cases (Runs.done_iff.1 ended).2

theorem setInterleaving_error {data : Bytes} {configuration : Configuration} {trace : Trace}
    {cause : Error} (run : Runs (setInterleaving data configuration) trace (some (.error cause))) :
    ∀ event ∈ trace, Logging event.op := by
  obtain ⟨_, _, _, success, -⟩ | ⟨-, quiet⟩ := runs_setInterleaving run
  · cases success
  · exact quiet

/-- Settings are carried out as a whole or not at all. The two passes over a node do what collecting
its settings and then visiting them does. They visit all settings that the node lists, one after the
other, or end before the first visit, as they do for every visitor. The reason is that one of its
children is refused, that there is no such node, or that the device tree is unreadable. So no
register is written if the interleaving cannot be set. -/
theorem settings_all_or_nothing :
    (∀ (data : Bytes) (name : String),
      Settings.apply data name = Settings.forEach data name Setting.apply ∧
        ∀ visit, Settings.forEach data name visit =
          (Settings.ofBlob data name).bind (Settings.visitAll visit)) ∧
    (∀ (data : Bytes) (name : String) (visit : Setting → Program Unit) (trace : Trace)
      (result : Except DeviceTree.Error Nat),
      Runs (Settings.forEach data name visit) trace (some result) →
        ((∃ settings, result = .ok settings.length ∧ Settings.Listed data name settings ∧
            Runs (settings.forM visit) trace (some ())) ∨
          ∃ cause, result = .error cause ∧ (∀ event ∈ trace, Logging event.op) ∧
            ∀ other, Runs (Settings.forEach data name other) trace (some (.error cause))) ∧
        (result = .error (.invalidSettings name) ↔ Settings.Refused data name) ∧
        (result = .error (.nodeNotFound name) ↔ Settings.Missing data name)) ∧
    ∀ (data : Bytes) (configuration : Configuration) (trace : Trace) (cause : Error),
      Runs (setInterleaving data configuration) trace (some (.error cause)) →
        ∀ event ∈ trace, Logging event.op := by
  refine ⟨fun data name => ⟨Settings.apply_eq data name, Settings.forEach_eq data name⟩,
    fun data name visit trace result run => ?_,
    fun data configuration trace cause run => setInterleaving_error run⟩
  obtain ⟨settings, rfl, listed, visiting⟩ | ⟨cause, rfl, reason, quiet, others⟩ :=
    Settings.runs_forEach run
  · refine ⟨.inl ⟨settings, rfl, listed, visiting⟩, ?_, ?_⟩
    · exact ⟨fun same => (nomatch same), fun refused => absurd refused listed.not_refused⟩
    · exact ⟨fun same => (nomatch same), fun missing => absurd listed missing.not_listed⟩
  · exact ⟨.inr ⟨cause, rfl, quiet, others⟩, reason.invalidSettings_iff, reason.nodeNotFound_iff⟩

/-- A device tree with the settings node for no interleaving. Its two children have one triple each,
and the offset of the second one is this. -/
def Rehearsal.blocks (offset : UInt8) : Bytes :=
  [0xd0, 0x0d, 0xfe, 0xed, 0, 0, 0, 246, 0, 0, 0, 40, 0, 0, 0, 220, 0, 0, 0, 0, 0, 0, 0, 17,
    0, 0, 0, 16, 0, 0, 0, 0, 0, 0, 0, 26, 0, 0, 0, 180] ++
  [0, 0, 0, 1, 0, 0, 0, 0] ++
  [0, 0, 0, 1] ++ [115, 111, 99, 102, 112, 103, 97, 45, 115, 101, 99, 114, 101, 103, 45, 99, 99,
    117, 45, 105, 110, 116, 101, 114, 108, 101, 97, 118, 105, 110, 103, 45, 111, 102, 102, 0] ++
  [0, 0, 0, 1, 97, 0, 0, 0] ++
  [0, 0, 0, 3, 0, 0, 0, 12, 0, 0, 0, 0] ++ [0, 0, 0, 0, 0, 0, 0x10, 0, 0, 0, 0, 0x20] ++
  [0, 0, 0, 3, 0, 0, 0, 12, 0, 0, 0, 4] ++ [0, 0, 0, 4, 0, 0, 0, 1, 0, 0, 0, 3] ++
  [0, 0, 0, 2] ++
  [0, 0, 0, 1, 98, 0, 0, 0] ++
  [0, 0, 0, 3, 0, 0, 0, 12, 0, 0, 0, 0] ++ [0, 0, 0, 0, 0, 0, 0x20, 0, 0, 0, 0, 0x20] ++
  [0, 0, 0, 3, 0, 0, 0, 12, 0, 0, 0, 4] ++ [0, 0, 0, offset, 0, 0, 0, 0xa0, 0, 0, 0, 0xf0] ++
  [0, 0, 0, 2] ++ [0, 0, 0, 2] ++ [0, 0, 0, 2] ++ [0, 0, 0, 9] ++
  [114, 101, 103, 0] ++ [105, 110, 116, 101, 108, 44, 111, 102, 102, 115, 101, 116, 45, 115, 101,
    116, 116, 105, 110, 103, 115, 0]

/-- Both blocks are set if both offsets are inside their blocks. The first block is not set either
if the second offset is outside. -/
theorem settings_all_or_nothing_two_blocks :
    ((Settings.forEach (Rehearsal.blocks 8) interleavingOff Setting.apply).run
        (Rehearsal.serve id) (Rehearsal.afterWarmReset 0)).1 = some (.ok 2) ∧
      (∃ settings, settings.length = 2 ∧
        Settings.Listed (Rehearsal.blocks 8) interleavingOff settings) ∧
      ((setInterleaving (Rehearsal.blocks 0x20) (.ofWord 0)).run
        (Rehearsal.serve id) (Rehearsal.afterWarmReset 0)).1 =
          some (.error (.settings (.invalidSettings interleavingOff))) ∧
      ∀ event ∈ (setInterleaving (Rehearsal.blocks 0x20) (.ofWord 0)).trace
        (Rehearsal.serve id) (Rehearsal.afterWarmReset 0), Logging event.op := by
  have set : ((Settings.forEach (Rehearsal.blocks 8) interleavingOff Setting.apply).run
      (Rehearsal.serve id) (Rehearsal.afterWarmReset 0)).1 = some (.ok 2) := by decide +kernel
  have refused : ((setInterleaving (Rehearsal.blocks 0x20) (.ofWord 0)).run
      (Rehearsal.serve id) (Rehearsal.afterWarmReset 0)).1 =
        some (.error (.settings (.invalidSettings interleavingOff))) := by decide +kernel
  have setting := Runs.of_run (Rehearsal.serve id)
    (Settings.forEach (Rehearsal.blocks 8) interleavingOff Setting.apply)
    (Rehearsal.afterWarmReset 0)
  have refusing := Runs.of_run (Rehearsal.serve id) (setInterleaving (Rehearsal.blocks 0x20) (.ofWord 0))
    (Rehearsal.afterWarmReset 0)
  rw [set] at setting
  rw [refused] at refusing
  obtain ⟨settings, count, listed, -⟩ | ⟨cause, failed, -⟩ :=
    (settings_all_or_nothing.2.1 _ _ _ _ _ setting).1
  · have two : settings.length = 2 := (Except.ok.inj count).symm
    exact ⟨set, ⟨settings, two, listed⟩, refused, settings_all_or_nothing.2.2 _ _ _ _ refusing⟩
  · cases failed

end BringUp.Dram
