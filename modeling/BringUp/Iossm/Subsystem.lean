import BringUp.Iossm.Command

/-!
Bookkeeping for the memory subsystems in use.

It records, per IO96B instance, the calibration, the size and the memory interfaces, and for all
instances together the facts that are gathered over them.
-/
namespace BringUp.Iossm

/-- DDR memory technology. -/
inductive Technology where
  | ddr4
  | ddr5
  | ddr5Rdimm
  | lpddr4
  | lpddr5
  | qdriv
  | unknown
deriving DecidableEq, Repr

namespace Technology

def ofCode : Nat → Technology
  | 0 => ddr4
  | 1 => ddr5
  | 2 => ddr5Rdimm
  | 3 => lpddr4
  | 4 => lpddr5
  | 5 => qdriv
  | _ => unknown

def name : Technology → String
  | ddr4 => "DDR4"
  | ddr5 => "DDR5"
  | ddr5Rdimm => "DDR5_RDIMM"
  | lpddr4 => "LPDDR4"
  | lpddr5 => "LPDDR5"
  | qdriv => "QDRIV"
  | unknown => "UNKNOWN"

end Technology

/-- Bookkeeping for one IO96B instance. -/
structure Instance where
  calibrated : Bool := false
  gigabits : Nat := 0
  interfaces : List Target := []
deriving DecidableEq, Repr

/-- Bookkeeping for all instances in use. -/
structure Subsystem where
  portCount : Nat
  /-- Mask of the enabled IO96B PLLs. -/
  plls : BitVec 4
  /-- Wait for the clock generator lock before the calibration is checked. -/
  awaitClock : Bool := false
  calibrated : Bool := false
  technology : Technology := .unknown
  ecc : Bool := false
  gigabits : Nat := 0
  instances : List Instance
deriving DecidableEq, Repr

/-- Number of memory interfaces behind an instance. -/
def maxInterfaces : Nat := 2

namespace Subsystem

/-- Bookkeeping in which nothing is known yet. -/
def fresh (instanceCount portCount : Nat) (plls : BitVec 4) : Subsystem where
  portCount := portCount
  plls := plls
  instances := List.replicate (min instanceCount Io96b.maxInstances) {}

/-- Marks all instances as not calibrated, so that they are calibrated again. -/
def invalidateCalibration (subsystem : Subsystem) : Subsystem :=
  { subsystem with
    calibrated := false
    instances := subsystem.instances.map fun unit => { unit with calibrated := false } }

def modifyInstance (index : Nat) (change : Instance → Instance) (subsystem : Subsystem) :
    Subsystem :=
  { subsystem with instances := subsystem.instances.modify index change }

/-- Sizes are kept in 16 bits and stop at the largest value. -/
def addGigabits (a b : Nat) : Nat :=
  min (a + b) 0xFFFF

end Subsystem

end BringUp.Iossm
