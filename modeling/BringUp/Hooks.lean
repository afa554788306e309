import BringUp.Platform
import BringUp.Text.Buffer

/-!
Boot hooks: what is exported to the boot environment, and what is agreed with the secure device
manager before the operating system starts.
-/
namespace BringUp.Hooks

def clockVariable : String := "qspi_clock"

def logLevelVariable : String := "rsu_log_level"

def boardVariable : String := "board_id"

def returnQspiVariable : String := "returnQSPI"

/-- Log level that is exported if none is set. -/
def defaultLogLevel : Nat := 7

/-- Text of a clock in the environment. -/
def clockText (hertz : Word) : String :=
  "<" ++ Text.hexWord hertz ++ ">"

/-- Bytes of the buffer in which a value is written. -/
def valueCapacity : Nat := 16

/-- Exports a value by way of the buffer. One that does not fit there is too long. -/
def exportValue (name value : String) : ExceptT EnvironmentError Program Unit :=
  match (Text.Buffer.empty : Text.Buffer valueCapacity).write? value with
  | some buffer => ExceptT.mk (Program.setVariable name buffer.text)
  | none => throw .valueTooLong

/-- Exports the QSPI clock, the log level and the board. A log level that is set stays. -/
def exportVariables (platform : Platform) (clock : Word) (board : BitVec 8) :
    ExceptT EnvironmentError Program Unit := do
  if !platform.emulator then
    exportValue clockVariable (clockText clock)
    if (← Program.getVariable logLevelVariable).isNone then
      exportValue logLevelVariable (toString defaultLogLevel)
    exportValue boardVariable (toString board.toNat)

/-- A value as an answer to a yes or no question: its first letter decides. -/
def yesNo? (value : String) : Option Bool :=
  match value.toList.head? with
  | some letter =>
    if letter ∈ ['y', 'Y', 't', 'T', '1'] then some true
    else if letter ∈ ['n', 'N', 'f', 'F', '0'] then some false
    else none
  | none => none

/-- A variable as an answer to a yes or no question. -/
def variableYesNo (name : String) : Program (Option Bool) := do
  return (← Program.getVariable name).bind yesNo?

/-- Returns the QSPI flash to the secure device manager if the environment asks for it. -/
def returnQspi (platform : Platform) : Program Unit := do
  if platform.sharedQspi then
    if (← variableYesNo returnQspiVariable) = some true then
      match ← Program.manager .closeQspi with
      | .ok () => return ()
      | .error code =>
        Program.log .error ("close QSPI failed, (err=" ++ toString code ++ ")")

/-- The last hook before the operating system starts. -/
def beforeOperatingSystem (platform : Platform) : Program Unit := do
  returnQspi platform
  match ← Program.manager (.announce .operatingSystem) with
  | .ok () => return ()
  | .error code => Program.log .warning ("HPS stage notification failed: " ++ toString code)

/-- Revision A silicon needs its SMMU set up for the secure device manager. -/
def setUpSmmu (platform : Platform) : Program (Except Int Unit) := do
  if platform.agilex5 then
    if ← Platform.isRevisionA then
      return ← Program.manager .setUpSmmu
  return .ok ()

end BringUp.Hooks
