import BringUp.Program.Op

/-! A simulated boot environment with limits, and the result codes of the secure device manager. -/
namespace BringUp.Board

/-- Variables of a boot environment with limits. -/
structure Environment where
  entries : List (String × String) := []
  capacity : Nat := 16
  maxLength : Nat := 64

namespace Environment

def get? (environment : Environment) (name : String) : Option String :=
  environment.entries.lookup name

/-- Replaces the value of a variable that exists. -/
def replace (name value : String) : List (String × String) → List (String × String)
  | [] => []
  | (key, old) :: rest =>
    if key == name then (key, value) :: rest else (key, old) :: replace name value rest

def set (environment : Environment) (name value : String) :
    Except EnvironmentError Unit × Environment :=
  if environment.maxLength < value.utf8ByteSize then (.error .valueTooLong, environment)
  else if (environment.get? name).isSome then
    (.ok (), { environment with entries := replace name value environment.entries })
  else if environment.capacity ≤ environment.entries.length then (.error .full, environment)
  else (.ok (), { environment with entries := environment.entries ++ [(name, value)] })

end Environment

/-- Error codes of the secure device manager; a service without a code succeeds. -/
structure ManagerCodes where
  closeQspi : Option Int := none
  announce : Option Int := none
  setUpSmmu : Option Int := none

def ManagerCodes.result (codes : ManagerCodes) (call : ManagerCall) : Except Int Unit :=
  let code := match call with
    | .closeQspi => codes.closeQspi
    | .announce _ => codes.announce
    | .setUpSmmu => codes.setUpSmmu
  match code with
  | some code => .error code
  | none => .ok ()

end BringUp.Board
