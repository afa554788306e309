import BringUp.Dram.Fabric
import BringUp.Dram.Layout
import BringUp.Dram.Opening
import BringUp.Iossm.Calibration
import BringUp.Iossm.Inventory
import BringUp.Iossm.MemoryInit
import BringUp.ResetHistory

/-!
The complete bring-up of the DRAM.

The progress bit is set at the start and cleared at the end, so it stays set when the bring-up
fails. The firewalls are opened only after the size of every bank was checked.
-/
namespace BringUp.Dram

open Program

structure Options where
  /-- Number of banks that the rest of the boot flow can handle. -/
  bankCount : Nat := windows.length
  /-- The secure monitor occupies the first mebibyte of memory. -/
  secureMonitor : Bool := true
  timeouts : Iossm.Timeouts := {}
deriving DecidableEq, Repr

/-- The memory that was brought up. -/
structure Ram where
  base : Nat
  size : Nat
  banks : List Bank
  technology : Iossm.Technology
  ecc : Bool
deriving DecidableEq, Repr

/-- Decodes the handoff table into the configuration and the bookkeeping for the instances. -/
def decodeHandoff (table : List Word) :
    Program (Except Error (Configuration × Iossm.Subsystem)) := do
  match ← Configuration.ofTable table with
  | .error cause => return .error (.handoff cause)
  | .ok configuration =>
    let subsystem := Iossm.Subsystem.fresh configuration.instanceCount configuration.portCount
      configuration.plls
    (List.range subsystem.instances.length).forM fun unit =>
      log .debug ("DDR: " ++ Iossm.unitName unit ++ " CSR enabled at "
        ++ Text.hex (Io96b.base unit))
    return .ok (configuration, subsystem)

/-- Memory with error correction may keep its content only over a warm or cold reset, and only
if nothing went wrong before. -/
def contentLost (resetType : Option ResetType) (ocramError ddrError hung : Bool) : Bool :=
  ocramError || ddrError || hung || !(resetType == some .warm || resetType == some .cold)

/-- Calibrates again what did not pass the check. After a double bit error that is everything. -/
def recoverCalibration (mailboxes : Nat) (timeouts : Iossm.Timeouts) : Iossm.Sequence Unit := do
  if ← ResetHistory.ddrError then
    modify Iossm.Subsystem.invalidateCalibration
  if !(← get).calibrated then
    log .info "DDR: re-calibration in progress"
    Iossm.recalibrate mailboxes timeouts

/-- Calibrates the memory and asks for its technology and size. -/
def calibrateAndMeasure (mailboxes : Nat) (timeouts : Iossm.Timeouts) : Iossm.Sequence Unit := do
  Iossm.checkCalibration mailboxes timeouts
  Iossm.discoverInterfaces mailboxes
  recoverCalibration mailboxes timeouts
  log .info "DDR: calibration success"
  Iossm.readTechnology mailboxes
  Iossm.readSizes mailboxes

/-- What the boot scratch registers tell at the start of a bring-up. -/
structure Start where
  resetType : Option ResetType
  /-- The last bring-up did not complete. -/
  hung : Bool
deriving DecidableEq, Repr

/-- Asks for earlier boots, and only then sets the progress bit. -/
def start : Program Start := do
  let resetType := ResetType.ofRecord? (← load SystemManager.resetRecord)
  let hung ← ResetHistory.bringUpHung
  log .debug ("DDR: SDRAM init in progress, reset type " ++ ResetType.describe resetType)
  ResetHistory.markInProgress true
  return ⟨resetType, hung⟩

/-- Initializes memory with error correction, unless its content can be kept. -/
def prepareEcc (mailboxes : Nat) (timeouts : Iossm.Timeouts) (found : Start) :
    Iossm.Sequence Unit := do
  if (← get).ecc then
    let ocramError ← ResetHistory.ocramError
    let ddrError ← ResetHistory.ddrError
    if contentLost found.resetType ocramError ddrError found.hung then
      Iossm.initializeMemory mailboxes timeouts
    log .info "SDRAM-ECC: initialized success"

/-- Runs a sequence on the bookkeeping as a stage of the bring-up. -/
def stage {α : Type} (sequence : Iossm.Sequence α) (subsystem : Iossm.Subsystem) :
    ExceptT Error Program (α × Iossm.Subsystem) := do
  match ← sequence.perform subsystem with
  | (.ok value, subsystem) => return (value, subsystem)
  | (.error cause, _) => throw (.iossm cause)

/-- Configures the fabric, calibrates the memory and finds out about its layout and its error
correction. -/
def survey (mailboxes : Nat) (table : List Word) (blob : DeviceTree.Bytes) (options : Options) :
    ExceptT Error Program (Layout × Iossm.Subsystem) := do
  let (configuration, subsystem) ← ExceptT.mk (decodeHandoff table)
  announceModes configuration
  ExceptT.mk (setInterleaving blob configuration)
  let (_, subsystem) ← stage (calibrateAndMeasure mailboxes options.timeouts)
    { subsystem with awaitClock := true }
  let layout ← ExceptT.mk
    (resolveLayout blob (hardwareBytes subsystem.gigabits) options.bankCount)
  log .info (subsystem.technology.name ++ ": " ++ mebibytes layout.size)
  let (_, subsystem) ← stage (Iossm.readEcc mailboxes) subsystem
  return (layout, subsystem)

/-- Opens the checked memory and finishes the bring-up. -/
def finish (options : Options) (layout : Layout) : Program Unit := do
  openBanks Firewall.Dmi.all layout.banks options.secureMonitor
  openRegisters
  log .info "DDR: firewall init success"
  ResetHistory.markInProgress false
  log .info "DDR: init success"

/-- Prepares the error correction of the surveyed memory, checks its size and opens it. -/
def complete (mailboxes : Nat) (options : Options) (found : Start) (layout : Layout)
    (surveyed : Iossm.Subsystem) : ExceptT Error Program Ram := do
  let (_, prepared) ← stage (prepareEcc mailboxes options.timeouts found) surveyed
  let _ ← (ExceptT.mk (verifySize layout.banks layout.size)).adapt Error.sizeCheck
  finish options layout
  return { base := (layout.banks.head?.map Bank.start).getD 0
           size := layout.size
           banks := layout.banks
           technology := prepared.technology
           ecc := prepared.ecc }

/-- Brings up the DRAM with the given number of mailboxes. -/
def bringUp (mailboxes : Nat) (table : List Word) (blob : DeviceTree.Bytes)
    (options : Options) : ExceptT Error Program Ram := do
  let found ← start
  let (layout, surveyed) ← survey mailboxes table blob options
  complete mailboxes options found layout surveyed

end BringUp.Dram
