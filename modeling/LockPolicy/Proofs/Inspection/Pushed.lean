import LockPolicy.Proofs.Device.Echo
import LockPolicy.Proofs.Inspection.Shortfall

/-!
# Checks after a push

On a device that answers what it was told, a push puts a policy into
force. A check of another policy is then a comparison of the two, but for
the user's password, on which the device answers as it likes
(`push_satisfies_iff`). In particular a device that was pushed the
stricter of two policies can fail the check of the other on account of
the password only (`verdict_of_le`).

The comparison is not the order of strictness. A policy that demands no
lock time is pushed as a lock time of zero, and a lock time of zero is
shorter than any that a check could ask for. So the check of a lock time
passes where none was demanded by what was pushed
(`push_without_lock_satisfies`).
-/

namespace LockPolicy

theorem Strength.quality_le_iff {s t : Strength} : s.quality ≤ t.quality ↔ s ≤ t := by
  cases s <;> cases t <;> decide

namespace Policy

variable {p q : Policy} {r : Reading}

/-! ## Where a policy is in force -/

theorem lengthMet_iff (h : r.settings = p.settings) :
    q.LengthMet r ↔ q.minLength ≤ p.minLength := by
  have hlength : r.minLength = p.minLength := congrArg Settings.minLength h
  rw [LengthMet, hlength, Fin.le_def]

theorem passwordMet_iff (h : r.settings = p.settings) :
    q.PasswordMet r ↔ q.strength ≤ p.strength ∧ (q.strength ≠ .unset → r.sufficient = true) := by
  have hquality : r.quality = p.strength.quality := congrArg Settings.quality h
  rw [PasswordMet, hquality, Strength.quality_le_iff]
  constructor
  · intro hmet
    refine ⟨?_, fun hset => (hmet hset).2⟩
    by_cases hset : q.strength = .unset
    · rw [hset]
      exact Nat.zero_le _
    · exact (hmet hset).1
  · rintro ⟨hle, hsufficient⟩ hset
    exact ⟨hle, hsufficient hset⟩

theorem lockMet_iff (h : r.settings = p.settings) :
    q.LockMet r ↔ (0 < q.lockSeconds.val → p.lockSeconds ≤ q.lockSeconds) := by
  have hlock : r.timeToLock = p.lockSeconds * 1000 := congrArg Settings.timeToLock h
  rw [LockMet, hlock, lockMillis, Fin.le_def]
  omega

theorem met_iff (h : r.settings = p.settings) :
    q.Met r ↔ q.minLength ≤ p.minLength ∧ q.strength ≤ p.strength
      ∧ (0 < q.lockSeconds.val → p.lockSeconds ≤ q.lockSeconds)
      ∧ (q.strength ≠ .unset → r.sufficient = true) := by
  constructor
  · rintro ⟨hlength, hpassword, hlock⟩
    obtain ⟨hle, hsufficient⟩ := (passwordMet_iff h).mp hpassword
    exact ⟨(lengthMet_iff h).mp hlength, hle, (lockMet_iff h).mp hlock, hsufficient⟩
  · rintro ⟨hlength, hle, hlock, hsufficient⟩
    exact ⟨(lengthMet_iff h).mpr hlength, (passwordMet_iff h).mpr ⟨hle, hsufficient⟩,
      (lockMet_iff h).mpr hlock⟩

/-- Under a policy as strict as itself, a policy can fail on account of
the user's password only. -/
theorem verdict_of_le (h : r.settings = p.settings) (hle : q ≤ p) :
    (q.inspect r).verdict =
      if q = .empty then .nothingRequired
      else if q.strength ≠ .unset ∧ r.sufficient = false then .insufficient
      else .met := by
  obtain ⟨hlength, hstrength, -, hlock, -⟩ := hle
  have hshorter : 0 < q.lockSeconds.val → p.lockSeconds ≤ q.lockSeconds := by
    intro hset
    rcases Tightens.iff_val.mp hlock with hzero | ⟨-, hle⟩
    · omega
    · exact hle
  by_cases hbot : q = .empty
  · rw [if_pos hbot, hbot]
    rfl
  · rw [if_neg hbot]
    by_cases hinsufficient : q.strength ≠ .unset ∧ r.sufficient = false
    · obtain ⟨hset, hsufficient⟩ := hinsufficient
      have hquality : q.strength.quality ≤ r.quality := by
        rw [show r.quality = p.strength.quality from congrArg Settings.quality h]
        exact Strength.quality_le_iff.mpr hstrength
      rw [if_pos ⟨hset, hsufficient⟩]
      exact verdict_of_shortfall
        (.insufficient ((lengthMet_iff h).mpr hlength) hset hquality hsufficient)
    · rw [if_neg hinsufficient]
      refine verdict_of_met hbot ((met_iff h).mpr ⟨hlength, hstrength, hshorter, ?_⟩)
      intro hset
      by_contra hsufficient
      exact hinsufficient ⟨hset, Bool.eq_false_of_not_eq_true hsufficient⟩

/-! ## After a push -/

/-- **A check after a push compares two policies.** A device that answers
what it was told is pushed one policy and checked for another. It passes
if and only if the first demands as long and as strong a password as the
second and no longer lock time than one that the second demands, where no
lock time at all is a lock time of zero; and if, where the second demands
a strength, the device finds the user's password sufficient. -/
theorem push_satisfies_iff {δ : Type} [Device δ] [Device.Echoes δ] (d : δ) (p q : Policy) :
    let r := Device.reading (Device.obeyAll d p.directives)
    (q.inspect r).verdict.satisfied = true
      ↔ q.minLength ≤ p.minLength ∧ q.strength ≤ p.strength
        ∧ (0 < q.lockSeconds.val → p.lockSeconds ≤ q.lockSeconds)
        ∧ (q.strength ≠ .unset → r.sufficient = true) := by
  intro r
  rw [inspect_satisfied_iff]
  exact met_iff (Device.settings_push d p)

/-- The lock screen finds the password sufficient by what was pushed. It
passes the shorter of two lock times, and not the longer. -/
theorem push_satisfies_iff_of_screen :
    let s : LockScreen := { passwordLength := 8, passwordQuality := .alphanumeric, timeToLock := 5 }
    let check (p q : Policy) :=
      (q.inspect (Device.reading (Device.obeyAll s p.directives))).verdict.satisfied
    check ⟨8, .strong, 5, 60, false⟩ ⟨4, .simple, 0, 300, true⟩ = true
      ∧ check ⟨8, .strong, 5, 300, false⟩ ⟨4, .simple, 0, 60, true⟩ ≠ true := by
  intro s check
  refine ⟨(push_satisfies_iff s _ _).mpr (by decide), ?_⟩
  intro hsatisfied
  exact absurd ((push_satisfies_iff s _ _).mp hsatisfied) (by decide)

/-- The policy that is pushed demands no lock time. The device passes the
check of one all the same. -/
theorem push_without_lock_satisfies :
    let p : Policy := ⟨8, .strong, 5, 0, false⟩
    let q : Policy := ⟨8, .strong, 5, 60, false⟩
    let d : PlainDevice := { admin := true, sufficient := true, timeToLock := 600000 }
    (q.inspect (Device.reading (Device.obeyAll d p.directives))).verdict = .met
      ∧ ¬(q.minLength ≤ p.minLength ∧ q.strength ≤ p.strength
        ∧ (0 < q.lockSeconds.val → 0 < p.lockSeconds.val ∧ p.lockSeconds ≤ q.lockSeconds)) := by
  decide

end Policy

end LockPolicy
