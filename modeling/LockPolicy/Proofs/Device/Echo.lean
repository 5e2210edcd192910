import LockPolicy.Device.LockScreen
import LockPolicy.Device.Plain
import LockPolicy.Inspection

/-!
# Devices that answer what they were told

Nothing is known of a device but that it answers and obeys. What is
proved of devices in general needs some connection between the two.

A device `Echoes` if it answers each setting as it was last told, and
nothing that it is told about one setting changes the answer on another.
It may answer as it likes on its administrator and on the user's
password. A device is `Steady` if these answers do not move either, as
long as it is not erased. The plain device is steady. The lock screen
echoes, but is not steady: whether its password is sufficient depends on
the settings.

On a device that echoes a policy is in force once it has been pushed,
whatever the device was told before (`settings_push`).
-/

namespace LockPolicy

/-- The answers that directives settle. -/
structure Settings where
  minLength : Nat
  quality : Quality
  /-- In milliseconds. -/
  timeToLock : Nat
deriving DecidableEq, Repr

def Reading.settings (r : Reading) : Settings where
  minLength := r.minLength
  quality := r.quality
  timeToLock := r.timeToLock

/-- The settings that a device is told so that it enforces the policy. -/
def Policy.settings (p : Policy) : Settings where
  minLength := p.minLength
  quality := p.strength.quality
  timeToLock := p.lockMillis

namespace Device

/-- The device answers each setting as it was last told. -/
class Echoes (δ : Type) [Device δ] : Prop where
  quality (d : δ) (quality : Quality) :
    (reading (obey d (.quality quality))).settings = { (reading d).settings with quality }
  minLength (d : δ) (minLength : Nat) :
    (reading (obey d (.minLength minLength))).settings = { (reading d).settings with minLength }
  timeToLock (d : δ) (timeToLock : Nat) :
    (reading (obey d (.timeToLock timeToLock))).settings
      = { (reading d).settings with timeToLock }
  maxFailures (d : δ) (attempts : Nat) :
    (reading (obey d (.maxFailures attempts))).settings = (reading d).settings

/-- Besides, only an erasure changes who administers the device, or
whether the user's password is sufficient. -/
class Steady (δ : Type) [Device δ] : Prop extends Echoes δ where
  steady (d : δ) {t : Directive} (h : t ≠ .wipe) :
    (reading (obey d t)).admin = (reading d).admin
      ∧ (reading (obey d t)).sufficient = (reading d).sufficient

instance : Echoes PlainDevice where
  quality _ _ := rfl
  minLength _ _ := rfl
  timeToLock _ _ := rfl
  maxFailures _ _ := rfl

instance : Steady PlainDevice where
  steady _ t h := by
    cases t with
    | wipe => exact absurd rfl h
    | _ => exact ⟨rfl, rfl⟩

instance : Echoes LockScreen where
  quality _ _ := rfl
  minLength _ _ := rfl
  timeToLock _ _ := rfl
  maxFailures _ _ := rfl

variable {δ : Type} [Device δ]

/-- A push settles every setting, so nothing is left of those before. -/
theorem settings_push [Echoes δ] (d : δ) (p : Policy) :
    (reading (obeyAll d p.directives)).settings = p.settings := by
  simp only [Policy.directives, obeyAll, List.foldl_cons, List.foldl_nil, Echoes.maxFailures,
    Echoes.timeToLock, Echoes.minLength, Echoes.quality]
  rfl

theorem steady_obeyAll [Steady δ] (d : δ) {ts : List Directive} (h : .wipe ∉ ts) :
    (reading (obeyAll d ts)).admin = (reading d).admin
      ∧ (reading (obeyAll d ts)).sufficient = (reading d).sufficient := by
  induction ts generalizing d with
  | nil => exact ⟨rfl, rfl⟩
  | cons t ts ih =>
      obtain ⟨ht, hts⟩ := List.ne_and_not_mem_of_not_mem_cons h
      obtain ⟨hadmin, hsufficient⟩ := Steady.steady d ht.symm
      obtain ⟨hadmins, hsufficients⟩ := ih (obey d t) hts
      exact ⟨hadmins.trans hadmin, hsufficients.trans hsufficient⟩

/-- A push leaves the device in the hands that it was in. -/
theorem steady_push [Steady δ] (d : δ) (p : Policy) :
    (reading (obeyAll d p.directives)).admin = (reading d).admin
      ∧ (reading (obeyAll d p.directives)).sufficient = (reading d).sufficient := by
  refine steady_obeyAll d ?_
  simp [Policy.directives]

end Device

end LockPolicy
