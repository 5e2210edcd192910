import LockPolicy.Proofs.Policy.Join
import LockPolicy.Rules

/-!
# What a check finds

A check goes through the requirements of a policy and answers with the
first that is not met. Said without that walk: a device meets a policy
if it meets its length, its password and its lock time (`Policy.Met`),
and otherwise it falls short in the first of them that it does not meet
(`Shortfall`). `inspect_satisfied_iff` and `verdict_of_shortfall` are
the two halves of this reading.

With it the check of a merge is the conjunction of the checks of its
policies (`conjunctive_inspect`). A stricter policy is harder to meet
(`Met.of_le`), so a device that meets the merge meets each policy. And
where the merge is not met, the field at fault comes from some policy;
that policy demands no more than the merge in the fields before it, so
its own check gets as far and fails in the same way.
-/

namespace LockPolicy

theorem Strength.quality_mono {s t : Strength} (h : s ≤ t) : s.quality ≤ t.quality := by
  revert h
  cases s <;> cases t <;> decide

theorem Quality.not_le_iff {a b : Quality} : ¬a ≤ b ↔ b < a := Nat.not_le

namespace Policy

/-! ## Meeting a policy -/

/-- The minimum length in force is long enough. -/
def LengthMet (p : Policy) (r : Reading) : Prop :=
  p.minLength.val ≤ r.minLength

/-- The class in force is strong enough, and the user's password is as
good as what is in force. -/
def PasswordMet (p : Policy) (r : Reading) : Prop :=
  p.strength ≠ .unset → p.strength.quality ≤ r.quality ∧ r.sufficient = true

/-- The screen locks early enough. -/
def LockMet (p : Policy) (r : Reading) : Prop :=
  p.lockSeconds.val ≠ 0 → r.timeToLock ≤ p.lockMillis

/-- The device meets everything that a check looks at. -/
structure Met (p : Policy) (r : Reading) : Prop where
  length : p.LengthMet r
  password : p.PasswordMet r
  lock : p.LockMet r

/-- How a device falls short of a policy: the first demand that it does
not meet, with the verdict that says so. -/
inductive Shortfall (p : Policy) (r : Reading) : Verdict → Prop
  | tooShort (h : r.minLength < p.minLength.val) :
      Shortfall p r (.tooShort p.minLength r.minLength)
  | tooWeak (hlen : p.LengthMet r) (h : r.quality < p.strength.quality) :
      Shortfall p r (.tooWeak p.strength.quality r.quality)
  | insufficient (hlen : p.LengthMet r) (hset : p.strength ≠ .unset)
      (hquality : p.strength.quality ≤ r.quality) (h : r.sufficient = false) :
      Shortfall p r .insufficient
  | locksTooLate (hlen : p.LengthMet r) (hpassword : p.PasswordMet r)
      (hset : p.lockSeconds.val ≠ 0) (h : p.lockMillis < r.timeToLock) :
      Shortfall p r (.locksTooLate p.lockMillis r.timeToLock)

variable {p q : Policy} {r : Reading} {v : Verdict}

theorem Shortfall.not_satisfied (h : Shortfall p r v) : v.satisfied = false := by
  cases h <;> rfl

/-- Nothing is weaker than the class that demands nothing. -/
theorem strength_ne_unset_of_weak (h : r.quality < p.strength.quality) :
    p.strength ≠ .unset := by
  intro hunset
  rw [hunset, Quality.lt_iff] at h
  exact absurd h (Nat.not_lt_zero _)

theorem Shortfall.not_met (h : Shortfall p r v) : ¬p.Met r := by
  intro hmet
  cases h with
  | tooShort h => exact Nat.not_lt.mpr hmet.length h
  | tooWeak hlen h =>
      exact Quality.not_le_iff.mpr h (hmet.password (strength_ne_unset_of_weak h)).1
  | insufficient hlen hset hquality h =>
      rw [(hmet.password hset).2] at h
      cases h
  | locksTooLate hlen hpassword hset h => exact Nat.not_lt.mpr (hmet.lock hset) h

/-- A device that does not meet a policy falls short of it. -/
theorem exists_shortfall (h : ¬p.Met r) : ∃ v, Shortfall p r v := by
  by_cases hlen : p.LengthMet r
  · by_cases hpassword : p.PasswordMet r
    · have hlock : ¬p.LockMet r := fun hlock => h ⟨hlen, hpassword, hlock⟩
      simp only [LockMet, Classical.not_imp, Nat.not_le] at hlock
      exact ⟨_, .locksTooLate hlen hpassword hlock.1 hlock.2⟩
    · simp only [PasswordMet, Classical.not_imp, not_and_or, Bool.not_eq_true] at hpassword
      obtain ⟨hset, hpassword⟩ := hpassword
      by_cases hquality : p.strength.quality ≤ r.quality
      · have hsufficient := hpassword.resolve_left (not_not_intro hquality)
        exact ⟨_, .insufficient hlen hset hquality hsufficient⟩
      · exact ⟨_, .tooWeak hlen (Quality.not_le_iff.mp hquality)⟩
  · exact ⟨_, .tooShort (Nat.not_le.mp hlen)⟩

end Policy

/-! ## The check finds what there is -/

theorem Requirement.inspectAll_verdict (r : Reading) (qs : List Requirement) :
    (inspectAll r qs).verdict = (qs.findSome? (failure? r)).getD .met := by
  induction qs with
  | nil => rfl
  | cons q qs ih =>
      rw [inspectAll, List.findSome?_cons]
      cases q.failure? r with
      | none => exact ih
      | some v => rfl

namespace Policy

variable {p q : Policy} {r : Reading} {v : Verdict}

/-! The requirements come in three groups, one for each part of `Met`. -/

def lengthRequirements (p : Policy) : List Requirement :=
  if p.minLength.val = 0 then [] else [.minLength p.minLength]

def passwordRequirements (p : Policy) : List Requirement :=
  if p.strength = .unset then [] else [.quality p.strength.quality, .sufficient]

def lockRequirements (p : Policy) : List Requirement :=
  if p.lockSeconds.val = 0 then [] else [.timeToLock p.lockMillis]

theorem requirements_eq (p : Policy) :
    p.requirements = p.lengthRequirements ++ p.passwordRequirements ++ p.lockRequirements :=
  rfl

theorem lengthRequirements_met (h : p.LengthMet r) :
    p.lengthRequirements.findSome? (Requirement.failure? r) = none := by
  unfold lengthRequirements
  split
  · rfl
  · simp [Requirement.failure?, Nat.not_lt.mpr h]

theorem passwordRequirements_met (h : p.PasswordMet r) :
    p.passwordRequirements.findSome? (Requirement.failure? r) = none := by
  unfold passwordRequirements
  split
  · rfl
  · rename_i hset
    obtain ⟨hquality, hsufficient⟩ := h hset
    have hweak : ¬r.quality < p.strength.quality := Nat.not_lt.mpr hquality
    simp [Requirement.failure?, hweak, hsufficient]

theorem lockRequirements_met (h : p.LockMet r) :
    p.lockRequirements.findSome? (Requirement.failure? r) = none := by
  unfold lockRequirements
  split
  · rfl
  · rename_i hset
    simp [Requirement.failure?, Nat.not_lt.mpr (h hset)]

theorem requirements_met (h : p.Met r) :
    p.requirements.findSome? (Requirement.failure? r) = none := by
  rw [requirements_eq, List.findSome?_append, List.findSome?_append,
    lengthRequirements_met h.length, passwordRequirements_met h.password,
    lockRequirements_met h.lock]
  rfl

theorem requirements_shortfall (h : Shortfall p r v) :
    p.requirements.findSome? (Requirement.failure? r) = some v := by
  rw [requirements_eq, List.findSome?_append, List.findSome?_append]
  cases h with
  | tooShort h =>
      have hset : p.minLength.val ≠ 0 := by omega
      simp [lengthRequirements, hset, Requirement.failure?, h]
  | tooWeak hlen h =>
      have hset := strength_ne_unset_of_weak h
      simp [lengthRequirements_met hlen, passwordRequirements, hset, Requirement.failure?, h]
  | insufficient hlen hset hquality h =>
      have hweak : ¬r.quality < p.strength.quality := Nat.not_lt.mpr hquality
      simp [lengthRequirements_met hlen, passwordRequirements, hset, Requirement.failure?,
        hweak, h]
  | locksTooLate hlen hpassword hset h =>
      simp [lengthRequirements_met hlen, passwordRequirements_met hpassword,
        lockRequirements, hset, Requirement.failure?, h]

theorem met_bot (r : Reading) : Met ⊥ r where
  length := Nat.zero_le _
  password h := absurd rfl h
  lock h := absurd rfl h

theorem inspect_of_ne_bot (h : p ≠ ⊥) (r : Reading) :
    (p.inspect r).verdict = (p.requirements.findSome? (Requirement.failure? r)).getD .met := by
  rw [inspect, if_neg (fun he => h (isEmpty_iff.mp he)), Requirement.inspectAll_verdict]

theorem inspect_bot (r : Reading) : (inspect ⊥ r).verdict = .nothingRequired := rfl

/-- A shortfall is what the check reports. -/
theorem verdict_of_shortfall (h : Shortfall p r v) : (p.inspect r).verdict = v := by
  have hne : p ≠ ⊥ := fun hbot => h.not_met (hbot ▸ met_bot r)
  rw [inspect_of_ne_bot hne, requirements_shortfall h]
  rfl

theorem verdict_of_met (hbot : p ≠ ⊥) (h : p.Met r) : (p.inspect r).verdict = .met := by
  rw [inspect_of_ne_bot hbot, requirements_met h]
  rfl

theorem inspect_satisfied_iff : (p.inspect r).verdict.satisfied = true ↔ p.Met r := by
  constructor
  · intro hsat
    by_contra hmet
    obtain ⟨v, hv⟩ := exists_shortfall hmet
    rw [verdict_of_shortfall hv, hv.not_satisfied] at hsat
    cases hsat
  · intro hmet
    by_cases hbot : p = ⊥
    · rw [hbot, inspect_bot]
      rfl
    · rw [verdict_of_met hbot hmet]
      rfl

/-! ## Stricter policies are harder to meet -/

theorem LengthMet.of_le (hpq : p ≤ q) (h : q.LengthMet r) : p.LengthMet r :=
  Nat.le_trans (Fin.le_def.mp hpq.1) h

theorem PasswordMet.of_le (hpq : p ≤ q) (h : q.PasswordMet r) : p.PasswordMet r := by
  intro hset
  have hset' : q.strength ≠ .unset := by
    intro hunset
    have hle : p.strength.number ≤ q.strength.number := hpq.2.1
    rw [hunset] at hle
    exact hset (Strength.number_inj (Nat.le_zero.mp hle))
  obtain ⟨hquality, hsufficient⟩ := h hset'
  exact ⟨Nat.le_trans (Strength.quality_mono hpq.2.1) hquality, hsufficient⟩

theorem LockMet.of_le (hpq : p ≤ q) (h : q.LockMet r) : p.LockMet r := by
  intro hset
  rcases Tightens.iff_val.mp hpq.2.2.2.1 with hzero | ⟨hset', hle⟩
  · exact absurd hzero hset
  · exact Nat.le_trans (h hset') (Nat.mul_le_mul_right 1000 hle)

theorem Met.of_le (hpq : p ≤ q) (h : q.Met r) : p.Met r where
  length := h.length.of_le hpq
  password := h.password.of_le hpq
  lock := h.lock.of_le hpq

/-! ## The check of a merge -/

/-- The policy whose field is at fault demands no more than the merge in
the fields before it, so its own check gets as far. -/
theorem Shortfall.of_merge {ps : List Policy} (h : Shortfall (merge ps) r v) :
    ∃ p ∈ ps, Shortfall p r v := by
  cases h with
  | tooShort h =>
      rcases minLength_attained ps with hzero | ⟨p, hp, heq⟩
      · rw [hzero] at h
        exact absurd h (Nat.not_lt_zero _)
      · rw [← heq] at h ⊢
        exact ⟨p, hp, .tooShort h⟩
  | tooWeak hlen h =>
      rcases strength_attained ps with hunset | ⟨p, hp, heq⟩
      · exact absurd hunset (strength_ne_unset_of_weak h)
      · rw [← heq] at h ⊢
        exact ⟨p, hp, .tooWeak (hlen.of_le (le_merge hp)) h⟩
  | insufficient hlen hset hquality h =>
      rcases strength_attained ps with hunset | ⟨p, hp, heq⟩
      · exact absurd hunset hset
      · rw [← heq] at hset hquality
        exact ⟨p, hp, .insufficient (hlen.of_le (le_merge hp)) hset hquality h⟩
  | locksTooLate hlen hpassword hset h =>
      rcases lockSeconds_attained ps with hzero | ⟨p, hp, heq⟩
      · exact absurd (congrArg Fin.val hzero) hset
      · have hle := le_merge hp
        have hmillis : (merge ps).lockMillis = p.lockMillis := by
          rw [lockMillis, lockMillis, heq]
        rw [← heq] at hset
        rw [hmillis] at h ⊢
        exact ⟨p, hp, .locksTooLate (hlen.of_le hle) (hpassword.of_le hle) hset h⟩

theorem met_merge_iff {ps : List Policy} : (merge ps).Met r ↔ ∀ p ∈ ps, p.Met r := by
  constructor
  · exact fun h p hp => h.of_le (le_merge hp)
  · intro hall
    by_contra hmerge
    obtain ⟨v, hv⟩ := exists_shortfall hmerge
    obtain ⟨p, hp, hshort⟩ := hv.of_merge
    exact hshort.not_met (hall p hp)

/-- Checking a merge is checking all of its policies: it is satisfied if
they all are, and otherwise it fails as one of them does. -/
def Conjunctive (check : Policy → Verdict) : Prop :=
  ∀ ps : List Policy,
    ((check (merge ps)).satisfied = true ↔ ∀ p ∈ ps, (check p).satisfied = true)
      ∧ ((check (merge ps)).satisfied = false → ∃ p ∈ ps, check p = check (merge ps))

theorem conjunctive_inspect (r : Reading) : Conjunctive fun p => (p.inspect r).verdict := by
  intro ps
  constructor
  · simp only [inspect_satisfied_iff, met_merge_iff]
  · intro hsat
    have hmet : ¬(merge ps).Met r := fun hmet => by
      rw [inspect_satisfied_iff.mpr hmet] at hsat
      cases hsat
    obtain ⟨v, hv⟩ := exists_shortfall hmet
    obtain ⟨p, hp, hshort⟩ := hv.of_merge
    exact ⟨p, hp, (verdict_of_shortfall hshort).trans (verdict_of_shortfall hv).symm⟩

end Policy

/-- Under an administrator the override has no say. -/
theorem Rules.evaluate_verdict (rules : Rules) {r : Reading} (hadmin : r.admin = true)
    (p : Policy) : (rules.evaluate p r).verdict = (p.inspect r).verdict := by
  simp only [evaluate, admission, hadmin, if_true]

namespace Policy

/-- **The merge is the conjunction of its policies.** A device passes
the check of a merge if and only if it passes the check of each policy,
and it fails it with the very verdict of one of them. So it is for the
bare check on any device, and for the check behind the admission of any
rules, the override on or off, on a device that has its administrator. -/
theorem merge_check_conjunctive (r : Reading) :
    Conjunctive (fun p => (p.inspect r).verdict)
      ∧ ∀ rules : Rules, r.admin = true →
          Conjunctive fun p => (rules.evaluate p r).verdict := by
  refine ⟨conjunctive_inspect r, fun rules hadmin => ?_⟩
  simp only [rules.evaluate_verdict hadmin]
  exact conjunctive_inspect r

/-- Of two accounts the second has the shorter lock time, so it is the one
that the verdict on both comes from. -/
theorem merge_check_conjunctive_of_two :
    let r : Reading := { admin := true, minLength := 8, quality := .alphanumeric
                         sufficient := true, timeToLock := 600000 }
    let check (p : Policy) := (Rules.evaluate { override := true } p r).verdict
    ∃ p ∈ [⟨8, .unset, 0, 900, false⟩, ⟨0, .strong, 0, 300, true⟩],
      check p = .locksTooLate 300000 600000 := by
  intro r check
  have hadmin : r.admin = true := rfl
  obtain ⟨-, hfail⟩ := (merge_check_conjunctive r).2 { override := true } hadmin
    [⟨8, .unset, 0, 900, false⟩, ⟨0, .strong, 0, 300, true⟩]
  obtain ⟨p, hp, hcheck⟩ := hfail (by decide)
  exact ⟨p, hp, hcheck.trans (by decide)⟩

end Policy

end LockPolicy
