import BringUp.Platform
import BringUp.Program.Poll
import BringUp.Register.ResetManager

/-!
The FPGA bridges.

Bridges are only touched while the FPGA is ready. Before they are put into reset the network on
chip has to acknowledge that they are idle.
-/
namespace BringUp.Bridge

open SystemManager

inductive Error where
  | fpgaNotReady
  | acknowledgeTimeout
  | statusTimeout
deriving DecidableEq, Repr

def Error.message : Error → String
  | fpgaNotReady => "FPGA not ready, bridge reset aborted"
  | acknowledgeTimeout => "timeout waiting for the NoC idle acknowledge"
  | statusTimeout => "timeout waiting for the NoC idle status"

/-- Timeout in milliseconds of each step of the idle handshake. -/
def idleTimeout : Nat := 1000

/-- The masked bits of a register have the given value. -/
def masked (address : Nat) (mask value : Word) : Program Bool := do
  return ((← Program.load address) &&& mask) == value

/-- Takes the bridges in `mask` out of reset. -/
def release (mask : Word) : Program (Except Error Unit) := do
  Program.store nocIdleRequestClear mask
  Program.update ResetManager.bridgeReset (· &&& ~~~ mask)
  if ← Program.await (masked nocIdleAcknowledge mask 0) idleTimeout then
    return .ok ()
  Program.log .error "bridges: timeout waiting for idle acknowledge to clear"
  return .error .acknowledgeTimeout

/-- Waits until the bridges are idle and puts them into reset, except for those that stay
active. -/
def quiesce (mask : Word) : Program (Except Error Unit) := do
  if !(← Program.await (masked nocIdleAcknowledge mask mask) idleTimeout) then
    return .error .acknowledgeTimeout
  if !(← Program.await (masked nocIdleStatus mask mask) idleTimeout) then
    return .error .statusTimeout
  Program.update ResetManager.bridgeReset
    (· ||| (mask &&& ~~~ ResetManager.BridgeReset.keepActive))
  return .ok ()

/-- Puts the bridges in `mask` into reset. The timeout of the network on chip is enabled for as
long as this takes. -/
def hold (mask : Word) : Program (Except Error Unit) := do
  Program.store nocIdleRequestSet mask
  Program.store nocTimeout 1
  let result ← quiesce mask
  Program.store nocTimeout 0
  match result with
  | .ok () => return .ok ()
  | .error cause =>
    Program.log .error ("bridges: " ++ cause.message)
    return .error cause

/-- Takes the bridges in `mask` out of reset or puts them into it. -/
def reset (platform : Platform) (enable : Bool) (mask : Word) : Program (Except Error Unit) := do
  if !(← platform.fpgaReady) then
    Program.log .warning "FPGA not ready. Bridge reset aborted!"
    return .error .fpgaNotReady
  if enable then release mask else hold mask

end BringUp.Bridge
