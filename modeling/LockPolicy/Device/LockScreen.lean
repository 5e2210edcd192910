import LockPolicy.Device.Basic

/-!
# A simulated lock screen

A device with a user: it knows the password that the user has set and
measures it against what is in force. Erasing the device takes
everything back to the state of a new one, administration included,
except that it remembers having been erased.
-/

namespace LockPolicy

/-- A lock screen and the password of its user. -/
structure LockScreen where
  adminActive : Bool := false
  minLength : Nat := 0
  quality : Quality := .unspecified
  passwordLength : Nat := 0
  passwordQuality : Quality := .unspecified
  /-- The idle time before the screen locks, in milliseconds. -/
  timeToLock : Nat := 0
  /-- The failed attempts after which it would erase itself. -/
  maxFailures : Nat := 0
  wiped : Bool := false
deriving DecidableEq, Repr

namespace LockScreen

/-- Whether the user's password meets what is in force. -/
def sufficient (s : LockScreen) : Bool :=
  s.minLength ≤ s.passwordLength ∧ s.quality ≤ s.passwordQuality

def obey (s : LockScreen) : Directive → LockScreen
  | .quality quality => { s with quality }
  | .minLength minLength => { s with minLength }
  | .timeToLock timeToLock => { s with timeToLock }
  | .maxFailures maxFailures => { s with maxFailures }
  | .wipe => { wiped := true }

instance : Device LockScreen where
  reading s :=
    { admin := s.adminActive
      minLength := s.minLength
      quality := s.quality
      sufficient := s.sufficient
      timeToLock := s.timeToLock }
  obey := obey

/-! ## What happens at the screen itself -/

/-- This process becomes the administrator, or stops being it. -/
def administer (s : LockScreen) (active : Bool) : LockScreen :=
  { s with adminActive := active }

def setPassword (s : LockScreen) (length : Nat) (quality : Quality) : LockScreen :=
  { s with passwordLength := length, passwordQuality := quality }

def setTimeToLock (s : LockScreen) (millis : Nat) : LockScreen :=
  { s with timeToLock := millis }

/-! ## Dump -/

/-- The name of a quality class in the dump of a lock screen. -/
def qualityTitle : Quality → String
  | .unspecified => "Unspecified"
  | .something => "Something"
  | .numeric => "Numeric"
  | .alphabetic => "Alphabetic"
  | .alphanumeric => "Alphanumeric"

def dump (s : LockScreen) : String :=
  "LockScreen \x7b admin_active: " ++ toString s.adminActive
    ++ ", min_length: " ++ toString s.minLength
    ++ ", quality: " ++ qualityTitle s.quality
    ++ ", password_length: " ++ toString s.passwordLength
    ++ ", password_quality: " ++ qualityTitle s.passwordQuality
    ++ ", time_to_lock_millis: " ++ toString s.timeToLock
    ++ ", max_failed_for_wipe: " ++ toString s.maxFailures
    ++ ", wiped: " ++ toString s.wiped ++ " \x7d"

end LockScreen

end LockPolicy
