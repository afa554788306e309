import BringUp.Program.Op

/-!
Scripted behaviour of a board.

A script gives one answer after the other and repeats its last one for ever.
-/
namespace BringUp.Board

structure Script (α : Type) where
  /-- Answer if there are no entries. -/
  otherwise : α
  entries : Array α
  /-- Number of answers given. -/
  position : Nat := 0

namespace Script

variable {α : Type}

/-- The answer with the given number. -/
def answer (script : Script α) (index : Nat) : α :=
  (script.entries[min index (script.entries.size - 1)]?).getD script.otherwise

def next (script : Script α) : α × Script α :=
  (script.answer script.position, { script with position := script.position + 1 })

end Script

/-- What a scripted IOSSM answers to a command. -/
abbrev Reply := Except Iossm.MailboxError Iossm.Answer

/-- An IOSSM whose answers depend on the opcode and on how often it was used before. -/
structure ScriptedIossm where
  status : Script Word
  replies : List (Iossm.Opcode × Script Reply)

namespace ScriptedIossm

/-- Reply to an opcode without a script. -/
def plainReply : Reply :=
  .ok ⟨1, #v[0, 0, 0]⟩

/-- Takes the next reply from the first script for the opcode. -/
def takeReply (opcode : Iossm.Opcode) :
    List (Iossm.Opcode × Script Reply) → Reply × List (Iossm.Opcode × Script Reply)
  | [] => (plainReply, [])
  | (code, script) :: rest =>
    if code = opcode then
      let (reply, script) := script.next
      (reply, (code, script) :: rest)
    else
      let (reply, rest) := takeReply opcode rest
      (reply, (code, script) :: rest)

end ScriptedIossm
end BringUp.Board
