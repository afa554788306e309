import BringUp.Register.Io96b

/-!
Commands to an IOSSM and its answers.

A command is addressed to the IOSSM itself or to one of the memory interfaces behind it. It is
started by a single word that names the target, the kind of the command and its opcode.
-/
namespace BringUp.Iossm

/-- Target of a command. -/
structure Target where
  ipType : BitVec 3
  ipInstance : BitVec 5
deriving DecidableEq, Repr

namespace Target

/-- The IOSSM itself. -/
def manager : Target := ⟨0, 0⟩

/-- The memory interface that a descriptor names. An unused descriptor has IP type zero. -/
def ofDescriptor? (word : Word) : Option Target :=
  let ipType := Io96b.Descriptor.ipType.read word
  if ipType = 0 then none else some ⟨ipType, Io96b.Descriptor.ipInstance.read word⟩

end Target

inductive Kind where
  | nop
  | systemInfo
  | memoryInfo
  | calibrationInfo
  | controllerOperation
  | calibrationOperation
deriving DecidableEq, Repr

def Kind.code : Kind → Nat
  | nop => 0
  | systemInfo => 1
  | memoryInfo => 2
  | calibrationInfo => 3
  | controllerOperation => 4
  | calibrationOperation => 5

inductive Opcode where
  | listInterfaces
  | technology
  | clockFrequency
  | width
  | setEcc
  | eccStatus
  | eccInterruptStatus
  | acknowledgeEccInterrupt
  | maskEccInterrupt
  | eccWriteback
  | scrubStatus
  | scrubMode0
  | scrubMode1
  | startBist
  | bistResults
  | startMemoryInit
  | memoryInitStatus
  | bistPatternUpper
  | bistPatternLower
  | calibrate
  | calibrationStatus
deriving DecidableEq, Repr

def Opcode.code : Opcode → Nat
  | listInterfaces => 0x0001
  | technology => 0x0002
  | clockFrequency => 0x0003
  | width => 0x0004
  | setEcc => 0x0101
  | eccStatus => 0x0102
  | eccInterruptStatus => 0x0103
  | acknowledgeEccInterrupt => 0x0104
  | maskEccInterrupt => 0x0105
  | eccWriteback => 0x0106
  | scrubStatus => 0x0201
  | scrubMode0 => 0x0202
  | scrubMode1 => 0x0203
  | startBist => 0x0301
  | bistResults => 0x0302
  | startMemoryInit => 0x0303
  | memoryInitStatus => 0x0304
  | bistPatternUpper => 0x0305
  | bistPatternLower => 0x0306
  | calibrate => 0x000A
  | calibrationStatus => 0x000B

/-- Number of parameters of a command. -/
abbrev parameterCount : Nat := 7

/-- A command with its parameters. A parameter of zero counts as unused. -/
structure Command where
  target : Target
  kind : Kind
  opcode : Opcode
  parameters : Vector Word parameterCount := Vector.replicate parameterCount 0
deriving DecidableEq, Repr

namespace Command

def withParameter (command : Command) (index : Fin parameterCount) (value : Word) : Command :=
  { command with parameters := command.parameters.set index value }

/-- The word that starts the command when it is written to the command register. -/
def word (command : Command) : Word :=
  (0 : Word)
    |> Io96b.CommandWord.ipType.put command.target.ipType
    |> Io96b.CommandWord.ipInstance.put command.target.ipInstance
    |> Io96b.CommandWord.kind.put (BitVec.ofNat _ command.kind.code)
    |> Io96b.CommandWord.opcode.put (BitVec.ofNat _ command.opcode.code)

end Command

/-- Answer to a command: the status word and the three data words. -/
structure Answer where
  status : Word
  data : Vector Word 3
deriving DecidableEq, Repr

namespace Answer

def shortData (answer : Answer) : BitVec 16 :=
  Io96b.AnswerStatus.shortData.read answer.status

def errorCode (answer : Answer) : BitVec 4 :=
  Io96b.AnswerStatus.errorCode.read answer.status

/-- The data words one by one. -/
theorem toList_data (answer : Answer) :
    answer.data.toList = [answer.data.get 0, answer.data.get 1, answer.data.get 2] := by
  apply List.ext_getElem
  · simp
  · intro index bound _
    have small : index < 3 := by simpa using bound
    have cases : index = 0 ∨ index = 1 ∨ index = 2 := by omega
    rcases cases with rfl | rfl | rfl
    · rfl
    · rfl
    · rfl

end Answer

/-- Why a command got no answer. -/
inductive MailboxError where
  /-- An earlier command is still in the command register. -/
  | notReady
  /-- The answer did not become ready; the last status is reported. -/
  | noAnswer (status : Word)
deriving DecidableEq, Repr

def MailboxError.message : MailboxError → String
  | notReady => "command request register not ready"
  | noAnswer status => "command response timeout, response status " ++ Text.hexWord status

end BringUp.Iossm
