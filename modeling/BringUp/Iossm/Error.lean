import BringUp.Iossm.Command

/-! Why the supervision of the memory subsystems fails. Each cause names the IO96B instance. -/
namespace BringUp.Iossm

inductive Error where
  | mailbox (unit : Nat) (cause : MailboxError)
  | missingMailbox (unit : Nat)
  | clockNotLocked (unit : Nat)
  | calibrationFailed (unit interface retries : Nat)
  | technologyMismatch (unit : Nat)
  | noMemorySize (unit : Nat)
  | noTotalSize
  | eccMismatch (unit : Nat)
  | memoryInitRefused (unit : Nat) (code : BitVec 4)
  | memoryInitTimeout (unit : Nat) (code : BitVec 4)
deriving DecidableEq, Repr

/-- Name of an instance in messages. -/
def unitName (unit : Nat) : String :=
  "IO96B_" ++ toString unit

def Error.message : Error → String
  | mailbox unit cause => "mailbox error on " ++ unitName unit ++ ": " ++ cause.message
  | missingMailbox unit => "no mailbox available for " ++ unitName unit
  | clockNotLocked unit => "clock generator of " ++ unitName unit ++ " is not locked"
  | calibrationFailed unit interface retries =>
    "calibration of " ++ unitName unit ++ " interface " ++ toString interface ++ " failed after "
      ++ toString retries ++ " retries"
  | technologyMismatch unit => "mismatch DDR type on " ++ unitName unit
  | noMemorySize unit => "failed to get memory size of " ++ unitName unit
  | noTotalSize => "total memory size is zero"
  | eccMismatch unit => "mismatch DDR ECC status on " ++ unitName unit
  | memoryInitRefused unit code =>
    "failed to start BIST memory initialization on " ++ unitName unit ++ ", error code "
      ++ Text.hex code.toNat
  | memoryInitTimeout unit code =>
    "BIST memory initialization timeout on " ++ unitName unit ++ ", error code "
      ++ Text.hex code.toNat

end BringUp.Iossm
