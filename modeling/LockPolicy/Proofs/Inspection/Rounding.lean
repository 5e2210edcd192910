import LockPolicy.Proofs.Inspection.Shortfall
import Mathlib.Order.GaloisConnection.Basic

/-!
# Checks on rounded classes

A device may grade passwords more finely than the classes that are known
here. What it answers is a number, and the number is rounded down to a
class before a policy is checked. That loses what lies between the
classes, but nothing that a check could ask for: policies demand known
classes only, and the rounded number falls short of a class if and only
if the bare number falls short of the number of that class
(`ofNumber_lt_iff`). Numbering and rounding are adjoint, and the laws of
rounding are those of an upper adjoint (`gc_number_ofNumber`).

So a check may be read as if it compared the bare numbers.
`Policy.verdictAt` is this reading, the verdicts in their order, and it is
what the check of every policy finds on every device
(`rounding_keeps_checks`).
-/

namespace LockPolicy

namespace Quality

/-! ## Numbers and classes -/

theorem ofNumber_number (c : Quality) : ofNumber c.number = c := by
  cases c <;> rfl

theorem number_inj {a b : Quality} (h : a.number = b.number) : a = b := by
  rw [← ofNumber_number a, h, ofNumber_number]

instance : LinearOrder Quality where
  le_refl _ := Nat.le_refl _
  le_trans _ _ _ := Nat.le_trans
  lt_iff_le_not_ge _ _ := Nat.lt_iff_le_and_not_ge
  le_antisymm _ _ hab hba := number_inj (Nat.le_antisymm hab hba)
  le_total _ _ := Nat.le_total _ _
  toDecidableLE := inferInstance

/-- The classes as they are listed, weakest first. -/
def listed : List Quality := [unspecified, something, numeric, alphabetic, alphanumeric]

theorem mem_listed (c : Quality) : c ∈ listed := by
  cases c <;> decide

theorem pairwise_listed : listed.Pairwise (· < ·) := by decide

theorem le_ofNumber_iff {c : Quality} {n : Nat} : c ≤ ofNumber n ↔ c.number ≤ n := by
  rw [le_iff, ofNumber]
  -- One case for each class as the highest whose threshold the number reaches.
  split_ifs
  all_goals cases c <;> simp only [number] <;> omega

theorem gc_number_ofNumber : GaloisConnection number ofNumber :=
  fun _ _ => le_ofNumber_iff.symm

theorem ofNumber_lt_iff {c : Quality} {n : Nat} : ofNumber n < c ↔ n < c.number :=
  gc_number_ofNumber.lt_iff_lt.symm

end Quality

/-! ## Checks by the number -/

/-- What a device answers if its class in force has the number `n`. -/
def Reading.graded (r : Reading) (n : Nat) : Reading :=
  { r with quality := .ofNumber n }

namespace Policy

variable {p : Policy} {r : Reading} {n : Nat}

/-- The verdict on the device, where the number of its class in force is
compared as it stands with the number of the class that is demanded. -/
def verdictAt (p : Policy) (r : Reading) (n : Nat) : Verdict :=
  if p = .empty then .nothingRequired
  else if r.minLength < p.minLength.val then .tooShort p.minLength r.minLength
  else if n < p.strength.quality.number then .tooWeak p.strength.quality (.ofNumber n)
  else if p.strength ≠ .unset ∧ r.sufficient = false then .insufficient
  else if p.lockSeconds.val ≠ 0 ∧ p.lockMillis < r.timeToLock then
    .locksTooLate p.lockMillis r.timeToLock
  else .met

theorem passwordMet_graded_iff :
    p.PasswordMet (r.graded n)
      ↔ (p.strength ≠ .unset → p.strength.quality.number ≤ n ∧ r.sufficient = true) := by
  rw [PasswordMet, Reading.graded, Quality.le_ofNumber_iff]

theorem met_graded_iff :
    p.Met (r.graded n)
      ↔ p.minLength.val ≤ r.minLength
        ∧ (p.strength ≠ .unset → p.strength.quality.number ≤ n ∧ r.sufficient = true)
        ∧ (p.lockSeconds.val ≠ 0 → r.timeToLock ≤ p.lockMillis) := by
  rw [← passwordMet_graded_iff]
  constructor
  · rintro ⟨hlength, hpassword, hlock⟩
    exact ⟨hlength, hpassword, hlock⟩
  · rintro ⟨hlength, hpassword, hlock⟩
    exact ⟨hlength, hpassword, hlock⟩

theorem verdict_graded (p : Policy) (r : Reading) (n : Nat) :
    (p.inspect (r.graded n)).verdict = p.verdictAt r n := by
  have hlength (hshort : ¬r.minLength < p.minLength.val) : p.LengthMet (r.graded n) :=
    Nat.not_lt.mp hshort
  have hpassword (hweak : ¬n < p.strength.quality.number)
      (hbad : ¬(p.strength ≠ .unset ∧ r.sufficient = false)) : p.PasswordMet (r.graded n) := by
    rw [passwordMet_graded_iff]
    intro hset
    exact ⟨Nat.not_lt.mp hweak, eq_true_of_ne_false fun h => hbad ⟨hset, h⟩⟩
  rw [verdictAt]
  split_ifs with hempty hshort hweak hbad hlate
  · rw [hempty]
    rfl
  · exact verdict_of_shortfall (.tooShort hshort)
  · exact verdict_of_shortfall (.tooWeak (hlength hshort) (Quality.ofNumber_lt_iff.mpr hweak))
  · obtain ⟨hset, hbad⟩ := hbad
    have hquality := Quality.le_ofNumber_iff.mpr (Nat.not_lt.mp hweak)
    exact verdict_of_shortfall (.insufficient (hlength hshort) hset hquality hbad)
  · obtain ⟨hset, hlate⟩ := hlate
    exact verdict_of_shortfall
      (.locksTooLate (hlength hshort) (hpassword hweak hbad) hset hlate)
  · refine verdict_of_met hempty ⟨hlength hshort, hpassword hweak hbad, fun hset => ?_⟩
    exact Nat.not_lt.mp fun h => hlate ⟨hset, h⟩

theorem tooWeak_graded_iff :
    (∃ required enforced, (p.inspect (r.graded n)).verdict = .tooWeak required enforced)
      ↔ p.minLength.val ≤ r.minLength ∧ n < p.strength.quality.number := by
  constructor
  · rintro ⟨required, enforced, h⟩
    rw [verdict_graded, verdictAt] at h
    split_ifs at h with hempty hshort hweak
    exact ⟨Nat.not_lt.mp hshort, hweak⟩
  · rintro ⟨hlength, hweak⟩
    exact ⟨_, _, verdict_of_shortfall (.tooWeak hlength (Quality.ofNumber_lt_iff.mpr hweak))⟩

/-- **Rounding a class never changes a check.** A class is at most a
rounded number if and only if its own number is at most the number. So
rounding is monotone, gives each class back for its number and never goes
beyond what it is given; and the order of the numbers is the order in
which the classes are listed.

Hence the verdict of a check on a rounded class is the one that the bare
number gives. It is that the class is too weak if and only if the length
is not at fault and the number is below that of the class which the
policy demands; and it is good if and only if length, number, password
and lock time all meet the policy. -/
theorem rounding_keeps_checks :
    (∀ (c : Quality) (n : Nat), c ≤ .ofNumber n ↔ c.number ≤ n)
      ∧ Monotone Quality.ofNumber ∧ (∀ c : Quality, .ofNumber c.number = c)
      ∧ (∀ n : Nat, (Quality.ofNumber n).number ≤ n)
      ∧ (Quality.listed.Pairwise (· < ·) ∧ ∀ c, c ∈ Quality.listed)
      ∧ ∀ (p : Policy) (r : Reading) (n : Nat),
          let v := (p.inspect (r.graded n)).verdict
          v = p.verdictAt r n
            ∧ ((∃ required enforced, v = .tooWeak required enforced)
              ↔ p.minLength.val ≤ r.minLength ∧ n < p.strength.quality.number)
            ∧ (v.satisfied = true
              ↔ p.minLength.val ≤ r.minLength
                ∧ (p.strength ≠ .unset → p.strength.quality.number ≤ n ∧ r.sufficient = true)
                ∧ (p.lockSeconds.val ≠ 0 → r.timeToLock ≤ p.lockMillis)) := by
  refine ⟨fun c n => Quality.le_ofNumber_iff, Quality.gc_number_ofNumber.monotone_u,
    Quality.ofNumber_number, Quality.gc_number_ofNumber.l_u_le,
    ⟨Quality.pairwise_listed, Quality.mem_listed⟩, fun p r n => ?_⟩
  exact ⟨p.verdict_graded r n, tooWeak_graded_iff, inspect_satisfied_iff.trans met_graded_iff⟩

/-- A class between the known ones that demands more than digits, and one
above them all. The first is good enough for a policy that digits meet
and too weak for one that demands letters. -/
theorem rounding_keeps_checks_of_between :
    let r : Reading := { minLength := 8, sufficient := true }
    (inspect ⟨8, .simple, 0, 0, false⟩ (r.graded 0x30000)).verdict.satisfied = true
      ∧ (∃ required enforced, (inspect ⟨8, .strong, 0, 0, false⟩ (r.graded 0x30000)).verdict
        = .tooWeak required enforced)
      ∧ (inspect ⟨8, .strong, 0, 0, false⟩ (r.graded 0x60000)).verdict.satisfied = true
      ∧ (inspect ⟨9, .strong, 0, 0, false⟩ (r.graded 0x30000)).verdict = .tooShort 9 8 := by
  intro r
  obtain ⟨-, -, -, -, -, hcheck⟩ := rounding_keeps_checks
  obtain ⟨-, -, hsimple⟩ := hcheck ⟨8, .simple, 0, 0, false⟩ r 0x30000
  obtain ⟨-, hweak, -⟩ := hcheck ⟨8, .strong, 0, 0, false⟩ r 0x30000
  obtain ⟨-, -, hstrong⟩ := hcheck ⟨8, .strong, 0, 0, false⟩ r 0x60000
  obtain ⟨hlonger, -, -⟩ := hcheck ⟨9, .strong, 0, 0, false⟩ r 0x30000
  exact ⟨hsimple.mpr (by decide), hweak.mpr (by decide), hstrong.mpr (by decide),
    hlonger.trans (by decide)⟩

end Policy

end LockPolicy
