import LockPolicy.Quality

/-!
# Devices

The lock screen is enforced by a device outside this library. The device
answers five queries about itself and carries out five directives, and
nothing else is known of it. Queries change nothing, so all that a
device would answer at one moment is a `Reading`.
-/

namespace LockPolicy

/-- What a device answers to each query. -/
structure Reading where
  admin : Bool := false
  minLength : Nat := 0
  quality : Quality := .unspecified
  /-- Whether the user's password meets what is in force. -/
  sufficient : Bool := false
  /-- The longest idle time before the screen locks, in milliseconds. -/
  timeToLock : Nat := 0
deriving DecidableEq, Repr

inductive Query where
  | admin
  | minLength
  | quality
  | sufficient
  | timeToLock
deriving DecidableEq, Repr

/-- Something that a device is told to do. -/
inductive Directive where
  | quality (quality : Quality)
  | minLength (length : Nat)
  | timeToLock (millis : Nat)
  | maxFailures (attempts : Nat)
  | wipe
deriving DecidableEq, Repr

inductive Call where
  | ask (query : Query)
  | tell (directive : Directive)
deriving DecidableEq, Repr

/-- Things that can be read and told as a device can. -/
class Device (δ : Type) where
  /-- What the device would answer now. -/
  reading : δ → Reading
  obey : δ → Directive → δ

namespace Device

/-- The device after it has carried out the directives in turn. -/
def obeyAll {δ : Type} [Device δ] (d : δ) (ds : List Directive) : δ :=
  ds.foldl obey d

theorem obeyAll_append {δ : Type} [Device δ] (d : δ) (first second : List Directive) :
    obeyAll d (first ++ second) = obeyAll (obeyAll d first) second :=
  List.foldl_append ..

end Device

end LockPolicy
