import LockPolicy.Text.Numeral

/-!
# Faults

What can go wrong with a policy: a number does not fit its field, a
stored word has no meaning, or the device takes no directives because
this process is not its administrator.
-/

namespace LockPolicy

inductive Field where
  | minLength
  | strength
  | maxFailures
  | lockSeconds
deriving DecidableEq, Repr

def Field.name : Field → String
  | .minLength => "min_password_length"
  | .strength => "password_mode"
  | .maxFailures => "max_password_failures"
  | .lockSeconds => "max_screen_lock_seconds"

/-- The largest number that the field can hold. -/
def Field.max : Field → Nat
  | .minLength => 31
  | .strength => 2
  | .maxFailures => 31
  | .lockSeconds => 2047

/-- Why a policy cannot be made, read or put into force. -/
inductive Fault where
  /-- The value is above the largest that the field can hold. -/
  | outOfRange (field : Field) (value max : Nat)
  /-- The word's strength bits hold `mode`, which no strength has. -/
  | unreadable (word : UInt32) (mode : Nat)
  | notAdmin
deriving DecidableEq, Repr

def Fault.message : Fault → String
  | .outOfRange field value max =>
    "policy field " ++ field.name ++ " out of range: " ++ toString value
      ++ " > " ++ toString max
  | .unreadable word mode =>
    "invalid policy encoding " ++ Numeral.hex8 word.toNat
      ++ ": unsupported password mode " ++ toString mode
  | .notAdmin => "device administrator is not active"

end LockPolicy
