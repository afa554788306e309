import BringUp.Iossm.Sequence
import BringUp.Program.Poll
import BringUp.Register.SystemManager

/-!
Calibration of the memory interfaces.

The IOSSM calibrates its interfaces by itself. The check at the start only records the result; an
instance that failed it is calibrated again, interface by interface.
-/
namespace BringUp.Iossm

def clockLocked (unit : Nat) : Program Bool := do
  return (SystemManager.clockLocks.read (← Program.load SystemManager.clockStatus)).getLsbD unit

/-- The IOSSM is not calibrating. -/
def idle (unit : Nat) : Program Bool := do
  return !Io96b.SubsystemStatus.busy.read (← Program.status unit)

/-- Checks one instance. Only a passed check is recorded. -/
def checkInstance (awaitClock : Bool) (timeouts : Timeouts) (unit : Nat) : Sequence Bool := do
  if awaitClock then
    if !(← Program.await (clockLocked unit) timeouts.clock) then
      Program.log .error ("IOSSM: clock generator of " ++ unitName unit ++ " is not locked")
      throw (.clockNotLocked unit)
  let becameIdle ← Program.await (idle unit) timeouts.calibration
  let status ← Program.status unit
  if becameIdle && Io96b.SubsystemStatus.succeeded.read status
      && !Io96b.SubsystemStatus.failed.read status then
    Sequence.modifyInstance unit fun record => { record with calibrated := true }
    return true
  Program.log .debug ("IOSSM: initial DDR calibration " ++ unitName unit ++ " failed, status "
    ++ Text.hex status.toNat)
  return false

/-- Checks all instances. The subsystem counts as calibrated if every instance passes; an
instance that does not pass is no error. -/
def checkCalibration (mailboxes : Nat) (timeouts : Timeouts) : Sequence Unit := do
  modify fun subsystem => { subsystem with calibrated := false }
  let awaitClock := (← get).awaitClock
  let passed ← Sequence.forInstances fun unit _ => do
    Sequence.requireMailbox mailboxes unit
    checkInstance awaitClock timeouts unit
  if passed.all id then
    modify fun subsystem => { subsystem with calibrated := true }

/-- Attempts to calibrate an interface again before it is given up. -/
def maxRetries : Nat := 3

/-- The calibration status of an interface is in the low bits of the data word of its position. -/
def interfaceStatus (unit position : Nat) : Sequence Word := do
  let answer ← Sequence.send unit
    { target := .manager, kind := .calibrationOperation, opcode := .calibrationStatus }
  match answer.data[position]? with
  | some word => return word &&& 0b111
  | none => (Program.fault : Program Word)

/-- The status of an interface that is calibrated. -/
def calibratedStatus : Word := 0b001

/-- Calibrates an interface until its status is good or no retry is left. -/
def recalibrateInterface (timeouts : Timeouts) (unit position : Nat) (target : Target) :
    Sequence Unit := do
  go maxRetries (← interfaceStatus unit position)
where
  go (left : Nat) (status : Word) : Sequence Unit :=
    if status = calibratedStatus then return ()
    else
      match left with
      | 0 => do
        Program.log .error ("IOSSM: calibration of " ++ unitName unit ++ " interface "
          ++ toString position ++ " failed after " ++ toString maxRetries ++ " retries")
        throw (.calibrationFailed unit position maxRetries)
      | left + 1 => do
        Program.log .debug ("IOSSM: re-calibrating " ++ unitName unit ++ " interface "
          ++ toString position ++ ", attempt " ++ toString (maxRetries - left))
        let _ ← Sequence.send unit
          { target := target, kind := .calibrationOperation, opcode := .calibrate }
        if !(← Program.await (idle unit) timeouts.calibration) then
          Program.log .warning ("IOSSM: " ++ unitName unit ++ " still busy after re-calibration")
        go left (← interfaceStatus unit position)

/-- Calibrates the instances again that are not marked as calibrated. -/
def recalibrate (mailboxes : Nat) (timeouts : Timeouts) : Sequence Unit := do
  let _ ← Sequence.forInstances fun unit record => do
    if !record.calibrated then
      Sequence.requireMailbox mailboxes unit
      record.interfaces.zipIdx.forM fun (target, position) =>
        recalibrateInterface timeouts unit position target
      Sequence.modifyInstance unit fun record => { record with calibrated := true }
  modify fun subsystem => { subsystem with calibrated := true }

end BringUp.Iossm
