import LockPolicy.Proofs.Policy.Join
import LockPolicy.Rules

/-!
# Vetting one by one

A policy is vetted against the limits of the lock screen before it is
stored, but what the lock screen is given later is the merge. The limits
are ceilings in all three fields that they look at, and the merge does
not go the same way in each of them. Length and strength are the largest
of all, so the merge stays under the ceiling exactly if every policy does
(`merge_le_iff_of_max`). The lock time is the shortest that is demanded,
so one policy under the ceiling is enough, and none is needed where
nobody demands a lock time (`lockSeconds_merge_le_iff`).

Hence a merge of supported policies is supported, and a supported merge
says everything about the length and the strength of its policies but
only of one of them that its lock time can be honoured.
-/

namespace LockPolicy

namespace Policy

/-- In a field that the join takes the larger of, a merge is bounded by
what bounds each of its policies. -/
theorem merge_le_iff_of_max {α : Type} [LinearOrder α] {f : Policy → α} {bound : α}
    (hsup : ∀ p q : Policy, f (p ⊔ q) = max (f p) (f q)) (hbot : f ⊥ ≤ bound)
    (ps : List Policy) : f (merge ps) ≤ bound ↔ ∀ p ∈ ps, f p ≤ bound := by
  induction ps with
  | nil => exact iff_of_true hbot nofun
  | cons p ps ih => rw [merge_cons, hsup, max_le_iff, ih, List.forall_mem_cons]

theorem minLength_merge_le_iff (ps : List Policy) (bound : Nat) :
    (merge ps).minLength.val ≤ bound ↔ ∀ p ∈ ps, p.minLength.val ≤ bound :=
  merge_le_iff_of_max (f := fun p => p.minLength.val)
    (fun p q => Fin.coe_max p.minLength q.minLength) (Nat.zero_le bound) ps

theorem strength_merge_le_iff (ps : List Policy) (bound : Strength) :
    (merge ps).strength ≤ bound ↔ ∀ p ∈ ps, p.strength ≤ bound :=
  merge_le_iff_of_max (fun _ _ => rfl) (Nat.zero_le bound.number) ps

theorem lockSeconds_merge_le_iff (ps : List Policy) (bound : Nat) :
    (merge ps).lockSeconds.val ≤ bound
      ↔ (∀ p ∈ ps, p.lockSeconds.val = 0)
        ∨ ∃ p ∈ ps, 0 < p.lockSeconds.val ∧ p.lockSeconds.val ≤ bound := by
  have htightens (p : Policy) (hp : p ∈ ps) :
      p.lockSeconds.val = 0
        ∨ (merge ps).lockSeconds.val ≠ 0
          ∧ (merge ps).lockSeconds.val ≤ p.lockSeconds.val :=
    Tightens.iff_val.mp (le_merge hp).2.2.2.1
  constructor
  · intro hbound
    by_cases hzero : (merge ps).lockSeconds.val = 0
    · left
      intro p hp
      exact (htightens p hp).resolve_right fun h => h.1 hzero
    · right
      obtain ⟨p, hp, heq⟩ :=
        (lockSeconds_attained ps).resolve_left fun h => hzero (congrArg Fin.val h)
      rw [← heq] at hzero hbound
      exact ⟨p, hp, Nat.pos_of_ne_zero hzero, hbound⟩
  · rintro (hnone | ⟨p, hp, hpos, hbound⟩)
    · rcases lockSeconds_attained ps with hzero | ⟨p, hp, heq⟩
      · exact hzero ▸ Nat.zero_le bound
      · have := hnone p hp
        rw [← heq]
        omega
    · have := htightens p hp
      omega

end Policy

namespace Rules

open Policy (merge)

theorem supports_iff (rules : Rules) (p : Policy) :
    rules.supports p = true
      ↔ p.minLength.val ≤ rules.limits.minLength ∧ p.strength ≤ rules.limits.strength
        ∧ p.lockSeconds.val ≤ rules.limits.lockSeconds :=
  decide_eq_true_iff

/-- **Vetting policies one by one vets their merge.** Whatever the limits,
a merge of supported policies is supported. The other way round, a merge
is supported if and only if the length and the strength of every policy
are within the limits, and either no policy demands a lock time or one of
them demands one that is within its limit. -/
theorem vetted_merge (rules : Rules) (ps : List Policy) :
    ((∀ p ∈ ps, rules.supports p = true) → rules.supports (merge ps) = true)
      ∧ (rules.supports (merge ps) = true
        ↔ (∀ p ∈ ps, p.minLength.val ≤ rules.limits.minLength
              ∧ p.strength ≤ rules.limits.strength)
          ∧ ((∀ p ∈ ps, p.lockSeconds.val = 0)
              ∨ ∃ p ∈ ps, 0 < p.lockSeconds.val
                  ∧ p.lockSeconds.val ≤ rules.limits.lockSeconds)) := by
  have hiff := rules.supports_iff (merge ps)
  rw [Policy.minLength_merge_le_iff, Policy.strength_merge_le_iff,
    Policy.lockSeconds_merge_le_iff, ← and_assoc, ← forall₂_and] at hiff
  refine ⟨fun hall => hiff.mpr ⟨fun p hp => ?within, ?lock⟩, hiff⟩
  case within =>
    obtain ⟨hlength, hstrength, -⟩ := (rules.supports_iff p).mp (hall p hp)
    exact ⟨hlength, hstrength⟩
  case lock =>
    -- If any policy demands a lock time, that one is within the limit itself.
    by_cases hnone : ∀ p ∈ ps, p.lockSeconds.val = 0
    · exact Or.inl hnone
    · push Not at hnone
      obtain ⟨p, hp, hne⟩ := hnone
      obtain ⟨-, -, hlock⟩ := (rules.supports_iff p).mp (hall p hp)
      exact Or.inr ⟨p, hp, Nat.pos_of_ne_zero hne, hlock⟩

/-- The lock time of the second policy is beyond the ceiling. Merged with
one that is not it is supported all the same, and merged with one that
demands none it is not. -/
theorem vetted_merge_of_longer :
    let rules : Rules := { limits := { lockSeconds := 300 } }
    let p : Policy := ⟨8, .strong, 0, 60, false⟩
    let q : Policy := ⟨4, .simple, 3, 900, true⟩
    rules.supports (merge [p, ⟨16, .unset, 5, 0, false⟩]) = true
      ∧ rules.supports q = false ∧ rules.supports (merge [p, q]) = true
      ∧ rules.supports (merge [q, ⟨16, .unset, 5, 0, false⟩]) ≠ true := by
  intro rules p q
  obtain ⟨hvetted, -⟩ := vetted_merge rules [p, ⟨16, .unset, 5, 0, false⟩]
  obtain ⟨-, hboth⟩ := vetted_merge rules [p, q]
  obtain ⟨-, hlate⟩ := vetted_merge rules [q, ⟨16, .unset, 5, 0, false⟩]
  refine ⟨hvetted (by decide), by decide, hboth.mpr (by decide), ?_⟩
  rw [ne_eq, hlate]
  decide

end Rules

end LockPolicy
