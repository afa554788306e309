import BringUp.Iossm.Sequence

/-!
What the IOSSMs tell about the attached memory: the interfaces of each instance, and their
technology, size and error correction.
-/
namespace BringUp.Iossm

/-- The memory interfaces that an answer describes. An unused descriptor describes none. -/
def Answer.interfaces (answer : Answer) : List Target :=
  (answer.data.toList.take maxInterfaces).filterMap Target.ofDescriptor?

/-- Records the memory interfaces of an instance. -/
def discoverInstance (mailboxes unit : Nat) : Sequence Unit := do
  Sequence.requireMailbox mailboxes unit
  let answer ← Sequence.send unit
    { target := .manager, kind := .systemInfo, opcode := .listInterfaces }
  Sequence.modifyInstance unit fun record => { record with interfaces := answer.interfaces }
  Program.log .debug ("IOSSM: " ++ unitName unit ++ " has "
    ++ toString answer.interfaces.length ++ " memory interface(s)")

/-- Records the memory interfaces of every instance. -/
def discoverInterfaces (mailboxes : Nat) : Sequence Unit := do
  let _ ← Sequence.forInstances fun unit _ => discoverInstance mailboxes unit

/-- Takes the technology of an interface into account. As long as the common technology is
unknown, it is the one of the interface. -/
def agreeOnTechnology (unit : Nat) (technology : Technology) : Sequence Unit := do
  let common := (← get).technology
  if common = .unknown then
    modify fun subsystem => { subsystem with technology := technology }
  else if common ≠ technology then
    Program.log .error ("IOSSM: mismatch DDR type on " ++ unitName unit)
    throw (.technologyMismatch unit)

/-- Records the technology, which has to be the same for all interfaces. -/
def readTechnology (mailboxes : Nat) : Sequence Unit := do
  modify fun subsystem => { subsystem with technology := .unknown }
  let _ ← Sequence.forInstances fun unit record => do
    Sequence.requireMailbox mailboxes unit
    record.interfaces.forM fun target => do
      let answer ← Sequence.send unit
        { target := target, kind := .memoryInfo, opcode := .technology }
      agreeOnTechnology unit (Technology.ofCode (answer.shortData &&& 0b111).toNat)

/-- The size of an instance is the sum over its interfaces. An instance without memory is an
error. -/
def instanceSize (unit : Nat) (interfaces : List Target) : Sequence Nat := do
  let size ← interfaces.foldlM (fun size target => do
    let answer ← Sequence.send unit
      { target := target, kind := .memoryInfo, opcode := .width }
    return Subsystem.addGigabits size (answer.data[1] &&& 0xFF).toNat) 0
  if size = 0 then
    Program.log .error ("IOSSM: failed to get memory size of " ++ unitName unit)
    throw (.noMemorySize unit)
  return size

/-- Records the size of an instance. -/
def measureInstance (mailboxes unit : Nat) (interfaces : List Target) : Sequence Nat := do
  Sequence.requireMailbox mailboxes unit
  let size ← instanceSize unit interfaces
  Sequence.modifyInstance unit fun record => { record with gigabits := size }
  return size

/-- Records the size of every instance and of all together. -/
def readSizes (mailboxes : Nat) : Sequence Unit := do
  let sizes ← Sequence.forInstances fun unit record =>
    measureInstance mailboxes unit record.interfaces
  let total := sizes.foldl Subsystem.addGigabits 0
  if total = 0 then
    throw .noTotalSize
  modify fun subsystem => { subsystem with gigabits := total }

/-- Asks the interfaces of an instance for their error correction. All of them have to agree
with `common`, if it is known, and with each other. -/
def agreeOnEcc (unit : Nat) (interfaces : List Target) (common : Option Bool) :
    Sequence (Option Bool) :=
  interfaces.foldlM (fun common target => do
    let answer ← Sequence.send unit
      { target := target, kind := .controllerOperation, opcode := .eccStatus }
    let enabled := answer.shortData &&& 0b11 != 0
    match common with
    | none => return some enabled
    | some agreed =>
      if agreed ≠ enabled then
        Program.log .error ("IOSSM: mismatch DDR ECC status on " ++ unitName unit)
        throw (.eccMismatch unit)
      return some agreed) common

/-- Records whether the memory has error correction. Without any interface it has none. -/
def readEcc (mailboxes : Nat) : Sequence Unit := do
  let common ← (← get).instances.zipIdx.foldlM (fun common (record, unit) => do
    Sequence.requireMailbox mailboxes unit
    agreeOnEcc unit record.interfaces common) none
  let enabled := common.getD false
  modify fun subsystem => { subsystem with ecc := enabled }
  Program.log .debug ("IOSSM: ECC enable status: " ++ toString enabled)

end BringUp.Iossm
