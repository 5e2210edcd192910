import LockPolicy.Proofs.Inspection.Asked

/-!
# Checks are monotone

Two things decide a check: the policy, and what is in force on the
device. To ask less is to be met more easily (`Policy.AsksNoMore`), and so
is to enforce more (`Reading.NoStricter`); the two are put together in
`satisfied_mono`.

The order of policies here is not that of strictness, which also
compares the failures and the remote wipe. It is strictness all the same
once these are left out of the weaker policy (`checked_le`), and a check
does not miss them (`met_checked`).
-/

namespace LockPolicy

/-- What is in force on the one device is in force on the other. -/
structure Reading.NoStricter (d e : Reading) : Prop where
  minLength : d.minLength ≤ e.minLength
  quality : d.quality ≤ e.quality
  sufficient : d.sufficient = true → e.sufficient = true
  timeToLock : e.timeToLock ≤ d.timeToLock

namespace Policy

/-- The policy `q` asks no more than `p` of what a check looks at. -/
structure AsksNoMore (q p : Policy) : Prop where
  minLength : q.minLength ≤ p.minLength
  strength : q.strength ≤ p.strength
  lockSeconds : q.lockSeconds.val = 0
    ∨ 0 < p.lockSeconds.val ∧ p.lockSeconds.val ≤ q.lockSeconds.val

variable {p q : Policy} {d e : Reading}

/-- The policy without the demands that a check does not look at. -/
def checked (p : Policy) : Policy :=
  { p with maxFailures := empty.maxFailures, remoteWipe := empty.remoteWipe }

theorem met_checked : p.checked.Met d ↔ p.Met d := by
  constructor
  · rintro ⟨hlength, hpassword, hlock⟩
    exact ⟨hlength, hpassword, hlock⟩
  · rintro ⟨hlength, hpassword, hlock⟩
    exact ⟨hlength, hpassword, hlock⟩

theorem checked_le (h : q.AsksNoMore p) : q.checked ≤ p := by
  have hlock : Tightens q.lockSeconds p.lockSeconds := by
    rw [Tightens.iff_val]
    rcases h.lockSeconds with hzero | ⟨hset, hle⟩
    · exact Or.inl hzero
    · exact Or.inr ⟨Nat.ne_of_gt hset, hle⟩
  exact ⟨h.minLength, h.strength, Or.inl rfl, hlock, nofun⟩

theorem Met.of_noStricter (hde : d.NoStricter e) (h : p.Met d) : p.Met e where
  length := Nat.le_trans h.length hde.minLength
  password hset := by
    obtain ⟨hquality, hsufficient⟩ := h.password hset
    exact ⟨Nat.le_trans hquality hde.quality, hde.sufficient hsufficient⟩
  lock hset := Nat.le_trans hde.timeToLock (h.lock hset)

theorem inspect_mono (hpq : q.AsksNoMore p) (hde : d.NoStricter e)
    (h : (p.inspect d).verdict.satisfied = true) : (q.inspect e).verdict.satisfied = true := by
  rw [inspect_satisfied_iff] at h ⊢
  have hchecked : q.checked.Met d := h.of_le (checked_le hpq)
  exact (met_checked.mp hchecked).of_noStricter hde

/-- **Checks are monotone.** If a device passes the check of a policy,
then one on which no less is in force passes the check of a policy that
asks no more, whatever the two demand of failures and remote wipe. So it
is for the bare check, and for that behind the admission of any rules, the
override on or off, if both devices have their administrator or neither
has. -/
theorem satisfied_mono (hpq : q.AsksNoMore p) (hde : d.NoStricter e) :
    ((p.inspect d).verdict.satisfied = true → (q.inspect e).verdict.satisfied = true)
      ∧ ∀ rules : Rules, d.admin = e.admin →
          (rules.evaluate p d).verdict.satisfied = true →
          (rules.evaluate q e).verdict.satisfied = true := by
  refine ⟨inspect_mono hpq hde, fun rules hadmin h => ?_⟩
  cases hd : d.admin with
  | true =>
      rw [rules.evaluate_verdict hd] at h
      rw [rules.evaluate_verdict (hadmin.symm.trans hd)]
      exact inspect_mono hpq hde h
  | false =>
      -- The admission settles both verdicts, and in the same way.
      rw [rules.evaluate_of_inactive hd] at h
      rw [rules.evaluate_of_inactive (hadmin.symm.trans hd)]
      exact h

/-- The weaker policy has the longer lock time, and more to say on what is
not checked. The second device is stricter in the length and locks at
once. -/
theorem satisfied_mono_of_longer :
    let p : Policy := ⟨8, .strong, 0, 60, false⟩
    let q : Policy := ⟨4, .simple, 3, 300, true⟩
    let d : Reading := { admin := true, minLength := 8, quality := .alphanumeric
                         sufficient := true, timeToLock := 60000 }
    let e : Reading := { d with minLength := 10, timeToLock := 0 }
    q.AsksNoMore p ∧ d.NoStricter e ∧ (q.inspect e).verdict.satisfied = true
      ∧ (Rules.evaluate { override := true } q e).verdict.satisfied = true := by
  intro p q d e
  have hpq : q.AsksNoMore p := ⟨by decide, by decide, by decide⟩
  have hde : d.NoStricter e := ⟨by decide, by decide, id, by decide⟩
  obtain ⟨hinspect, hevaluate⟩ := satisfied_mono hpq hde
  exact ⟨hpq, hde, hinspect (by decide), hevaluate _ rfl (by decide)⟩

end Policy

end LockPolicy
