import LockPolicy.Fault
import LockPolicy.Strength

/-!
# Policies

A policy is what one account demands of the device that holds it. The
ranges of its fields are part of the type, so a policy that exists is a
policy that can be stored. In each numeric field zero means that the
account demands nothing there.
-/

namespace LockPolicy

/-- The demands of one account on the lock screen of its device. -/
@[ext] structure Policy where
  minLength : Fin 32 := 0
  strength : Strength := .unset
  /-- The failed attempts after which the device erases itself. -/
  maxFailures : Fin 32 := 0
  /-- The longest idle time before the screen locks, in seconds. -/
  lockSeconds : Fin 2048 := 0
  /-- Whether the account's server must be able to erase the device. -/
  remoteWipe : Bool := false
deriving DecidableEq, Repr

/-- Takes a number into the range of a field. -/
def Field.fit (field : Field) (value : Nat) : Except Fault (Fin (field.max + 1)) :=
  if h : value < field.max + 1 then .ok ⟨value, h⟩
  else .error (.outOfRange field value field.max)

theorem Field.fit_val (field : Field) (value : Fin (field.max + 1)) :
    field.fit value = .ok value := by
  rw [fit, dif_pos value.isLt]

namespace Policy

def empty : Policy := {}

def isEmpty (p : Policy) : Bool := p = empty

/-- The policy with the given fields. Of several numbers out of range
the one of the earliest field is named. -/
def make (minLength : Nat) (strength : Strength) (maxFailures lockSeconds : Nat)
    (remoteWipe : Bool) : Except Fault Policy := do
  let minLength ← Field.minLength.fit minLength
  let maxFailures ← Field.maxFailures.fit maxFailures
  let lockSeconds ← Field.lockSeconds.fit lockSeconds
  return { minLength, strength, maxFailures, lockSeconds, remoteWipe }

/-- The fields of a policy make it. -/
theorem make_fields (p : Policy) :
    make p.minLength p.strength p.maxFailures p.lockSeconds p.remoteWipe = .ok p := by
  have hlength := Field.fit_val .minLength p.minLength
  have hfailures := Field.fit_val .maxFailures p.maxFailures
  have hlock := Field.fit_val .lockSeconds p.lockSeconds
  rw [make, hlength, hfailures, hlock]
  rfl

end Policy

/-- The strength with the given number, or the fault that it has none. -/
def Strength.ofNumber (n : Nat) : Except Fault Strength :=
  match ofNumber? n with
  | some s => .ok s
  | none => .error (.outOfRange .strength n Field.strength.max)

namespace Policy

/-- The policy with the given fields, the strength by its number, which
is looked at first. -/
def ofNumbers (minLength strength maxFailures lockSeconds : Nat)
    (remoteWipe : Bool) : Except Fault Policy := do
  let strength ← Strength.ofNumber strength
  make minLength strength maxFailures lockSeconds remoteWipe

def text (p : Policy) : String :=
  "\x7b pw-len-min=" ++ toString p.minLength.val
    ++ " pw-mode=" ++ p.strength.name
    ++ " pw-fails-max=" ++ toString p.maxFailures.val
    ++ " screenlock-max=" ++ toString p.lockSeconds.val
    ++ " remote-wipe-req=" ++ toString p.remoteWipe ++ " \x7d"

end Policy

end LockPolicy
