import BringUp.Iossm.Error
import BringUp.Iossm.Subsystem
import BringUp.Program.Basic

/-!
Sequences of commands to the IOSSMs.

A sequence works on the bookkeeping for the subsystems and may fail. What it has recorded stays
recorded when it fails.
-/
namespace BringUp.Iossm

/-- Timeouts in milliseconds. -/
structure Timeouts where
  clock : Nat := 1000
  calibration : Nat := 15000
  memoryInit : Nat := 120000
deriving DecidableEq, Repr

/-- A program over the bookkeeping that may fail. -/
abbrev Sequence (α : Type) :=
  ExceptT Error (StateT Subsystem Program) α

namespace Sequence

variable {α : Type}

/-- Runs a sequence: its result, and the bookkeeping as it was left. -/
def perform (sequence : Sequence α) (subsystem : Subsystem) :
    Program (Except Error α × Subsystem) :=
  StateT.run (ExceptT.run sequence) subsystem

/-- Instance `unit` has to be among the available mailboxes. -/
def requireMailbox (mailboxes unit : Nat) : Sequence Unit :=
  if unit < mailboxes then return () else throw (.missingMailbox unit)

def send (unit : Nat) (command : Command) : Sequence Answer := do
  match ← Program.request unit command with
  | .ok answer => return answer
  | .error cause => throw (.mailbox unit cause)

/-- Visits the instances in order. A visit sees its instance as it was at the start. -/
def forInstances (visit : Nat → Instance → Sequence α) : Sequence (List α) := do
  (← get).instances.zipIdx.mapM fun (unit, index) => visit index unit

def modifyInstance (index : Nat) (change : Instance → Instance) : Sequence Unit :=
  modify (Subsystem.modifyInstance index change)

end Sequence
end BringUp.Iossm
