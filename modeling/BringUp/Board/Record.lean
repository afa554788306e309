import BringUp.Program.Op

/-! What programs did to a board. -/
namespace BringUp.Board

/-- Consecutive identical requests to a scripted IOSSM. -/
structure Requests where
  mailbox : Nat
  command : Iossm.Command
  count : Nat

/-- What programs did to the board. The latest entry of each list comes first. -/
structure Record where
  stores : List (Nat × Nat) := []
  log : List (Level × String) := []
  requests : List Requests := []
  probes : List (Nat × Nat) := []
  calls : List ManagerCall := []
  pauses : Nat := 0

namespace Record

def addRequest (record : Record) (mailbox : Nat) (command : Iossm.Command) : Record :=
  match record.requests with
  | last :: rest =>
    if last.mailbox = mailbox ∧ last.command = command then
      { record with requests := { last with count := last.count + 1 } :: rest }
    else { record with requests := ⟨mailbox, command, 1⟩ :: last :: rest }
  | [] => { record with requests := [⟨mailbox, command, 1⟩] }

end Record

end BringUp.Board
