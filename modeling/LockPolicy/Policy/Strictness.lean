import LockPolicy.Policy.Basic

/-!
# Strictness

The order of policies by what they demand: `p ≤ q` says that `q` demands
everything that `p` does. More of the first two fields is stricter. In
the failures and in the lock time less is stricter, but zero is no
demand at all and so the least strict of all values; there the order is
`Tightens`. It is a partial order (`le_refl`, `le_trans`, `le_antisymm`),
and the empty policy is its bottom (`empty_le`).
-/

namespace LockPolicy

/-- The limit `b` keeps everything out that the limit `a` keeps out,
where a limit of zero keeps nothing out. -/
def Tightens {n : Nat} (a b : Fin (n + 1)) : Prop :=
  a = 0 ∨ b ≠ 0 ∧ b ≤ a

instance {n : Nat} (a b : Fin (n + 1)) : Decidable (Tightens a b) :=
  inferInstanceAs (Decidable (_ ∨ _))

namespace Tightens

variable {n : Nat} {a b c : Fin (n + 1)}

theorem refl (a : Fin (n + 1)) : Tightens a a := by
  by_cases h : a = 0
  · exact Or.inl h
  · exact Or.inr ⟨h, Fin.le_refl a⟩

theorem trans (hab : Tightens a b) (hbc : Tightens b c) : Tightens a c := by
  rcases hab with ha | ⟨hb, hba⟩
  · exact Or.inl ha
  · rcases hbc with hb' | ⟨hc, hcb⟩
    · exact absurd hb' hb
    · exact Or.inr ⟨hc, Fin.le_trans hcb hba⟩

theorem antisymm (hab : Tightens a b) (hba : Tightens b a) : a = b := by
  rcases hab with rfl | ⟨hb, hle⟩
  · rcases hba with rfl | ⟨ha, -⟩
    · rfl
    · exact absurd rfl ha
  · rcases hba with hb' | ⟨-, hle'⟩
    · exact absurd hb' hb
    · exact Fin.le_antisymm hle' hle

end Tightens

theorem Strength.number_inj {a b : Strength} (h : a.number = b.number) : a = b := by
  have ha := ofNumber?_number a
  rw [h, ofNumber?_number] at ha
  exact (Option.some.inj ha).symm

namespace Policy

instance : LE Policy where
  le p q :=
    p.minLength ≤ q.minLength ∧ p.strength ≤ q.strength
      ∧ Tightens p.maxFailures q.maxFailures
      ∧ Tightens p.lockSeconds q.lockSeconds
      ∧ (p.remoteWipe = true → q.remoteWipe = true)

instance (p q : Policy) : Decidable (p ≤ q) :=
  inferInstanceAs (Decidable (_ ∧ _))

variable {p q r : Policy}

theorem le_refl (p : Policy) : p ≤ p :=
  ⟨Fin.le_refl _, Nat.le_refl _, .refl _, .refl _, id⟩

theorem le_trans (hpq : p ≤ q) (hqr : q ≤ r) : p ≤ r :=
  ⟨Fin.le_trans hpq.1 hqr.1, Nat.le_trans hpq.2.1 hqr.2.1,
    hpq.2.2.1.trans hqr.2.2.1, hpq.2.2.2.1.trans hqr.2.2.2.1,
    hqr.2.2.2.2 ∘ hpq.2.2.2.2⟩

theorem le_antisymm (hpq : p ≤ q) (hqp : q ≤ p) : p = q := by
  ext1
  · exact Fin.le_antisymm hpq.1 hqp.1
  · exact Strength.number_inj (Nat.le_antisymm hpq.2.1 hqp.2.1)
  · exact hpq.2.2.1.antisymm hqp.2.2.1
  · exact hpq.2.2.2.1.antisymm hqp.2.2.2.1
  · exact Bool.eq_iff_iff.2 ⟨hpq.2.2.2.2, hqp.2.2.2.2⟩

theorem empty_le (p : Policy) : empty ≤ p :=
  ⟨Fin.zero_le _, Nat.zero_le _, Or.inl rfl, Or.inl rfl, nofun⟩

end Policy

end LockPolicy
