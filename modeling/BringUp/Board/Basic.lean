import BringUp.Board.Environment
import BringUp.Board.Hardware
import BringUp.Board.Ram
import BringUp.Board.Record
import BringUp.Board.Script
import BringUp.Dram.Detection
import BringUp.Iossm.Mailbox

/-!
A simulated board that answers programs.

Registers are plain memory with the hardware behind them, and every address outside the DRAM
belongs to a register. Registers and DRAM are reached by words and by cells alike. The IOSSMs and the DRAM probe are either
scripted or carried out on the registers and the DRAM. Everything that a program does to the board
is recorded.
-/
namespace BringUp

structure Board where
  registers : Std.TreeMap Nat Word := ∅
  tick : Nat := 0
  events : List Board.Event := []
  rules : List Board.Rule := []
  ram : Array Board.Region := #[]
  /-- Scripted mailboxes; without them both IO96B register blocks are used. -/
  scripted : Option (Array Board.ScriptedIossm) := none
  mailboxTimeout : Nat := Iossm.Mailbox.defaultTimeout
  /-- Scripted results of the DRAM probe, where none stands for the full size; without a script
  the DRAM is probed. -/
  probe : Option (Board.Script (Option Nat)) := none
  environment : Board.Environment := {}
  manager : Board.ManagerCodes := {}
  record : Board.Record := {}

namespace Board

/-- Number of mailboxes of the board. -/
def mailboxCount (board : Board) : Nat :=
  match board.scripted with
  | some scripted => scripted.size
  | none => Io96b.maxInstances

/-- The DRAM region with an address, after its position. -/
def regionAt? (board : Board) (address : Nat) : Option (Nat × Region) := do
  let index ← board.ram.findIdx? (·.contains address)
  return (index, ← board.ram[index]?)

def word (board : Board) (address : Nat) : Word :=
  match board.regionAt? address with
  | some (_, region) => region.word address
  | none => (board.registers[address]?).getD 0

/-- Changes a word behind the back of the program. -/
def poke (board : Board) (address : Nat) (value : Word) : Board :=
  match board.regionAt? address with
  | some (index, region) =>
    { board with ram := board.ram.setIfInBounds index (region.poke address value) }
  | none => { board with registers := board.registers.insert address value }

/-- The hardware reacts to a store. -/
def react (board : Board) (address : Nat) (value : Word) : Board :=
  match Rule.first? address value board.rules with
  | none => board
  | some (rule, rules) =>
    let board := { board with rules := rules }
    if rule.delay = 0 then
      rule.changes.foldl (fun board (address, value) => board.poke address value) board
    else
      let due := board.tick + rule.delay
      { board with
        events := board.events ++ rule.changes.map fun (address, value) => ⟨due, address, value⟩ }

/-- Lets one polling interval pass. -/
def advance (board : Board) : Board :=
  let tick := board.tick + 1
  let (due, later) := board.events.partition (·.tick ≤ tick)
  due.foldl (fun board event => board.poke event.address event.value)
    { board with
      tick := tick, events := later
      record := { board.record with pauses := board.record.pauses + 1 } }

def noteStore (board : Board) (address value : Nat) : Board :=
  { board with record := { board.record with stores := (address, value) :: board.record.stores } }

/-- A store to the DRAM region at a position. -/
def storeRegion (board : Board) (index : Nat) (region : Region) (address : Nat) (value : Cell) :
    Board :=
  let board := if region.traced then board.noteStore address value.toNat else board
  { board with
    ram := board.ram.setIfInBounds index (region.store (region.cellIndex address) value) }

def storeWord (board : Board) (address : Nat) (value : Word) : Board :=
  match board.regionAt? address with
  | some (index, region) =>
    board.storeRegion index region address (region.cellWithWord address value)
  | none => ((board.noteStore address value.toNat).poke address value).react address value

def cell (board : Board) (address : Nat) : Cell :=
  match board.regionAt? address with
  | some (_, region) => region.cell (region.cellIndex address)
  | none => Cell.ofWords (board.word address) (board.word (address + wordBytes))

/-- A cell that is stored to registers changes two of them. The hardware sees the store at the
lower one. -/
def storeCell (board : Board) (address : Nat) (value : Cell) : Board :=
  match board.regionAt? address with
  | some (index, region) => board.storeRegion index region address value
  | none => (board.poke (address + wordBytes) (Cell.high value)).storeWord address (Cell.low value)

/-- Answers by the scripts of the board. Services without a script are not available here. -/
def answer : (op : Op) → Board → op.Answer × Board
  | .load address, board => (board.word address, board)
  | .store address value, board => ((), board.storeWord address value)
  | .loadCell address, board => (board.cell address, board)
  | .storeCell address value, board => ((), board.storeCell address value)
  | .pause, board => ((), board.advance)
  | .log level text, board =>
    ((), { board with record := { board.record with log := (level, text) :: board.record.log } })
  | .status mailbox, board =>
    match board.scripted with
    | none => (board.word (Io96b.subsystemStatus mailbox), board)
    | some scripted =>
      match scripted[mailbox]? with
      | none => (0, board)
      | some iossm =>
        let (status, script) := iossm.status.next
        (status, { board with scripted := some (scripted.setIfInBounds mailbox
          { iossm with status := script }) })
  | .request mailbox command, board =>
    let board := { board with record := board.record.addRequest mailbox command }
    match (board.scripted.bind (·[mailbox]?)), board.scripted with
    | some iossm, some scripted =>
      let (reply, replies) := ScriptedIossm.takeReply command.opcode iossm.replies
      (reply, { board with scripted := some (scripted.setIfInBounds mailbox
        { iossm with replies := replies }) })
    | _, _ => (.error .notReady, board)
  | .probe _ size, board =>
    match board.probe with
    | none => (0, board)
    | some script =>
      let (result, script) := script.next
      (result.getD size, { board with probe := some script })
  | .getVariable name, board => (board.environment.get? name, board)
  | .setVariable name value, board =>
    let (result, environment) := board.environment.set name value
    (result, { board with environment := environment })
  | .manager call, board =>
    (board.manager.result call,
      { board with record := { board.record with calls := call :: board.record.calls } })

/-- Answers every question. A service without a script is carried out on the registers and on
the DRAM of the board. -/
def serve : (op : Op) → Board → op.Answer × Board
  | .request mailbox command, board =>
    match board.scripted with
    | some _ => answer (.request mailbox command) board
    | none =>
      let (reply, board) :=
        (Iossm.Mailbox.request mailbox board.mailboxTimeout command).run answer board
      (reply.getD (.error .notReady), board)
  | .probe start size, board =>
    let board := { board with
      record := { board.record with probes := (start, size) :: board.record.probes } }
    match board.probe with
    | some _ => answer (.probe start size) board
    | none =>
      let (found, board) := (Dram.Detection.detect start size).run answer board
      (found.getD 0, board)
  | op, board => answer op board

/-- Runs a program on the board. -/
def execute {α : Type} (program : Program α) (board : Board) : Option α × Board :=
  program.run serve board

end Board
end BringUp
