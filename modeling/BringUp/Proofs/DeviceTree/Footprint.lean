import BringUp.DeviceTree.Memory
import BringUp.DeviceTree.Settings
import BringUp.Proofs.Program.Footprint

/-! Reading a device tree touches nothing: it only writes log records, until settings are carried
out. -/
namespace BringUp.DeviceTree

open Program

variable {α : Type} {allowed : Op → Prop} {data : Bytes} {blob : Blob} {name : String}

theorem readable_uses {result : Except Defect α} : (readable result).Uses allowed := by
  cases result <;> trivial

theorem blockSettings_uses {child : Node} : (blob.blockSettings name child).Uses Logging := by
  refine uses_bind readable_uses fun value _ => ?_
  cases value with
  | none => trivial
  | some value =>
    refine uses_bind readable_uses fun regions _ => ?_
    dsimp only
    split
    · trivial
    · split
      · trivial
      · split
        · exact uses_bind (uses_log trivial) fun _ _ => trivial
        · trivial

theorem allSettings_uses {children : List Node} : (blob.allSettings name children).Uses Logging := by
  induction children with
  | nil => trivial
  | cons child rest ih =>
    refine uses_bind blockSettings_uses fun settings _ => ?_
    cases settings with
    | error _ => trivial
    | ok _ =>
      refine uses_bind ih fun others _ => ?_
      cases others <;> trivial

theorem settings_ofBlob_uses : (Settings.ofBlob data name).Uses Logging := by
  unfold Settings.ofBlob
  split
  · trivial
  · refine uses_bind readable_uses fun node _ => ?_
    cases node with
    | none => trivial
    | some node =>
      refine uses_bind allSettings_uses fun settings _ => ?_
      cases settings with
      | error _ => trivial
      | ok _ => exact uses_bind readable_uses fun _ _ => trivial

theorem record_uses {limit : Nat} {memory : Memory} {region : Region} :
    (Memory.record limit memory region).Uses Logging := by
  unfold Memory.record
  dsimp only
  split
  · exact uses_bind (uses_log trivial) fun _ _ => trivial
  · trivial

theorem visitMemory_uses {limit : Nat} {found : Memory × Bool} {node : Node} :
    (blob.visitMemory limit found node).Uses Logging := by
  refine uses_bind readable_uses fun isMemory _ => ?_
  split
  · refine uses_bind readable_uses fun regions _ => ?_
    exact uses_bind (uses_foldlM fun _ _ _ => record_uses) fun _ _ => trivial
  · trivial

theorem memory_ofBlob_uses {limit : Nat} : (Memory.ofBlob data limit).Uses Logging := by
  unfold Memory.ofBlob
  split
  · trivial
  · refine uses_bind (uses_foldlM fun _ _ _ => visitMemory_uses) fun result _ => ?_
    refine uses_bind readable_uses fun _ _ => ?_
    split
    · trivial
    · exact uses_bind (uses_log trivial) fun _ _ => trivial

end BringUp.DeviceTree
