import BringUp.Program.Op

/-!
Bring-up programs.

A program is a dialogue: it ends with a value, it breaks off, or it asks one question and goes
on with the answer. Nothing is assumed about the answers, so what holds of a program holds on
every board. `Program.run` lets a handler with a state answer the questions.
-/
namespace BringUp

inductive Program (α : Type) : Type where
  | done (value : α)
  /-- The program meets something that it cannot go on with, such as a broken device tree. -/
  | fault
  | ask (op : Op) (next : op.Answer → Program α)

namespace Program

variable {α β σ : Type}

def bind : Program α → (α → Program β) → Program β
  | done value, f => f value
  | fault, _ => fault
  | ask op next, f => ask op fun answer => (next answer).bind f

instance : Monad Program where
  pure := done
  bind := bind

/-- Answers every question of the program from a state. The value is missing if the program
broke off; the state is there in any case. -/
def run (handle : (op : Op) → σ → op.Answer × σ) : Program α → σ → Option α × σ
  | done value, state => (some value, state)
  | fault, state => (none, state)
  | ask op next, state =>
    let (answer, state) := handle op state
    (next answer).run handle state

def ofOption : Option α → Program α
  | some value => done value
  | none => fault

def load (address : Nat) : Program Word :=
  ask (.load address) done

def store (address : Nat) (value : Word) : Program Unit :=
  ask (.store address value) done

/-- Reads a register and writes back what `change` makes of its content. -/
def update (address : Nat) (change : Word → Word) : Program Unit := do
  store address (change (← load address))

def loadCell (address : Nat) : Program Cell :=
  ask (.loadCell address) done

def storeCell (address : Nat) (value : Cell) : Program Unit :=
  ask (.storeCell address value) done

def pause : Program Unit :=
  ask .pause done

def log (level : Level) (text : String) : Program Unit :=
  ask (.log level text) done

def status (mailbox : Nat) : Program Word :=
  ask (.status mailbox) done

def request (mailbox : Nat) (command : Iossm.Command) :
    Program (Except Iossm.MailboxError Iossm.Answer) :=
  ask (.request mailbox command) done

def probe (start size : Nat) : Program Nat :=
  ask (.probe start size) done

def getVariable (name : String) : Program (Option String) :=
  ask (.getVariable name) done

def setVariable (name value : String) : Program (Except EnvironmentError Unit) :=
  ask (.setVariable name value) done

def manager (call : ManagerCall) : Program (Except Int Unit) :=
  ask (.manager call) done

end Program
end BringUp
