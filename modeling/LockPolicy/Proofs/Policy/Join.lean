import LockPolicy.Policy.Strictness
import LockPolicy.Policy.Tally
import Mathlib.Data.Multiset.Lattice
import Mathlib.Order.Fin.Basic

/-!
# The merge is a join

Policies ordered by strictness form a semilattice: two of them have a
least policy that is as strict as both, taken field by field, and the
empty policy lies below all. `Policy.merge` is the join of a list there
(`merge_eq_sup`). The one pass of a tally arrives at it because of what
every tally keeps (`Tally.Sound`): a limit that was noted is never zero,
and a tally without contributions demands nothing. On sound tallies to
add a policy is to join it to what is demanded so far (`demands_add`).

From there the laws of the merge are those of a join. What is special to
this one is that each field is *selective*: the join takes it from one
of the two sides, so a merge demands nothing that no single policy
demands (`merge_attained`).
-/

namespace LockPolicy

/-! ## Fields -/

instance : LinearOrder Strength where
  le_refl _ := Nat.le_refl _
  le_trans _ _ _ := Nat.le_trans
  le_antisymm _ _ hab hba := Strength.number_inj (Nat.le_antisymm hab hba)
  le_total _ _ := Nat.le_total _ _
  toDecidableLE := inferInstance

/-- The tighter of two limits, where a limit of zero keeps nothing out. -/
def tighter {n : Nat} (a b : Fin (n + 1)) : Fin (n + 1) :=
  if a.val = 0 then b else if b.val = 0 then a else min a b

namespace Tightens

variable {n : Nat} {a b c : Fin (n + 1)}

theorem iff_val : Tightens a b ↔ a.val = 0 ∨ b.val ≠ 0 ∧ b.val ≤ a.val := by
  simp only [Tightens, ne_eq, Fin.ext_iff, Fin.val_zero, Fin.le_def]

theorem tighter_left (a b : Fin (n + 1)) : Tightens a (tighter a b) := by
  rw [iff_val, tighter]
  split
  · exact Or.inl ‹_›
  · split
    · exact Or.inr ⟨‹_›, Nat.le_refl _⟩
    · rw [Fin.coe_min]
      omega

theorem tighter_right (a b : Fin (n + 1)) : Tightens b (tighter a b) := by
  rw [iff_val, tighter]
  split
  · rcases Nat.eq_zero_or_pos b.val with hb | hb
    · exact Or.inl hb
    · exact Or.inr ⟨by omega, Nat.le_refl _⟩
  · split
    · exact Or.inl ‹_›
    · rw [Fin.coe_min]
      omega

end Tightens

/-- The tighter limit is one of the two. -/
theorem tighter_choice {n : Nat} (a b : Fin (n + 1)) :
    tighter a b = a ∨ tighter a b = b := by
  rw [tighter]
  split
  · exact Or.inr rfl
  · split
    · exact Or.inl rfl
    · exact min_choice a b

theorem tighter_tightens {n : Nat} {a b c : Fin (n + 1)} (ha : Tightens a c)
    (hb : Tightens b c) : Tightens (tighter a b) c := by
  rcases tighter_choice a b with h | h
  · rwa [h]
  · rwa [h]

namespace Policy

/-! ## The semilattice of policies -/

/-- The least policy that is as strict as both. -/
def join (p q : Policy) : Policy where
  minLength := max p.minLength q.minLength
  strength := max p.strength q.strength
  maxFailures := tighter p.maxFailures q.maxFailures
  lockSeconds := tighter p.lockSeconds q.lockSeconds
  remoteWipe := p.remoteWipe || q.remoteWipe

instance : SemilatticeSup Policy where
  le_refl := le_refl
  le_trans _ _ _ := le_trans
  le_antisymm _ _ := le_antisymm
  sup := join
  le_sup_left p q :=
    ⟨le_max_left _ _, le_max_left _ _, .tighter_left _ _, .tighter_left _ _,
      fun h => by simp [join, h]⟩
  le_sup_right p q :=
    ⟨le_max_right _ _, le_max_right _ _, .tighter_right _ _, .tighter_right _ _,
      fun h => by simp [join, h]⟩
  sup_le p q r hp hq :=
    ⟨max_le hp.1 hq.1, max_le hp.2.1 hq.2.1, tighter_tightens hp.2.2.1 hq.2.2.1,
      tighter_tightens hp.2.2.2.1 hq.2.2.2.1,
      fun h => (Bool.or_eq_true _ _ ▸ h).elim hp.2.2.2.2 hq.2.2.2.2⟩

instance : OrderBot Policy where
  bot := empty
  bot_le := empty_le

theorem sup_eq_join (p q : Policy) : p ⊔ q = p.join q := rfl

theorem bot_eq_empty : (⊥ : Policy) = empty := rfl

theorem isEmpty_iff {p : Policy} : p.isEmpty = true ↔ p = ⊥ := by
  rw [isEmpty, decide_eq_true_iff, bot_eq_empty]

end Policy

/-! ## Tallies

`Tally.raise` and `Tally.tighten` keep an optional best value. With the
bottom of the order in place of none they are the two joins. -/

namespace Tally

theorem raise_getD {α : Type} [LinearOrder α] {bottom : α} (hbot : ∀ a, bottom ≤ a)
    (best : Option α) (new : α) :
    (raise best new).getD bottom = max (best.getD bottom) new := by
  cases best with
  | none => exact (max_eq_right (hbot new)).symm
  | some old => exact (max_def old new).symm

theorem tighten_getD {n : Nat} {best : Option (Fin (n + 1))}
    (hbest : ∀ old ∈ best, old.val ≠ 0) (new : Fin (n + 1)) :
    (tighten best new).getD 0 = tighter (best.getD 0) new := by
  cases best with
  | none =>
      by_cases hnew : new.val = 0
      · simp [tighten, tighter, hnew, Fin.ext_iff]
      · simp [tighten, tighter, hnew]
  | some old =>
      have hold : old.val ≠ 0 := hbest old rfl
      by_cases hnew : new.val = 0
      · simp [tighten, tighter, hnew, hold]
      · have hmin : min old new = if new ≤ old then new else old := by
          rw [min_comm, min_def]
        simp [tighten, tighter, hnew, hold, hmin]

theorem tighten_ne_zero {n : Nat} {best : Option (Fin (n + 1))}
    (hbest : ∀ old ∈ best, old.val ≠ 0) (new : Fin (n + 1)) :
    ∀ a ∈ tighten best new, a.val ≠ 0 := by
  intro a ha
  unfold tighten at ha
  split at ha
  · exact hbest a ha
  · rename_i hnew
    cases best with
    | none =>
        obtain rfl := Option.some.inj ha
        exact hnew
    | some old =>
        obtain rfl := Option.some.inj ha
        split
        · exact hnew
        · exact hbest old rfl

/-- What every tally keeps: limits that were noted are limits, and
without a contribution nothing is demanded. -/
structure Sound (t : Tally) : Prop where
  maxFailures_ne : ∀ a ∈ t.maxFailures, a.val ≠ 0
  lockSeconds_ne : ∀ a ∈ t.lockSeconds, a.val ≠ 0
  demands_eq : t.contributed = 0 → t.demands = ⊥

theorem sound_empty : Sound {} where
  maxFailures_ne := nofun
  lockSeconds_ne := nofun
  demands_eq _ := rfl

theorem demands_take {t : Tally} (ht : t.Sound) (p : Policy) :
    (t.take p).demands = t.demands ⊔ p := by
  rw [Policy.sup_eq_join]
  ext1
  · exact raise_getD Fin.zero_le _ _
  · exact raise_getD (fun a => Nat.zero_le a.number) _ _
  · exact tighten_getD ht.maxFailures_ne _
  · exact tighten_getD ht.lockSeconds_ne _
  · rfl

/-- Passing over a policy that demands nothing changes nothing: the
demands are joined to it all the same. -/
theorem demands_add {t : Tally} (ht : t.Sound) (p : Policy) :
    (t.add p).demands = t.demands ⊔ p := by
  rw [add]
  split
  · rename_i hp
    rw [Policy.isEmpty_iff.mp hp, sup_bot_eq]
  · exact demands_take ht p

theorem Sound.take {t : Tally} (ht : t.Sound) (p : Policy) : (t.take p).Sound where
  maxFailures_ne := tighten_ne_zero ht.maxFailures_ne _
  lockSeconds_ne := tighten_ne_zero ht.lockSeconds_ne _
  demands_eq h := absurd h (Nat.succ_ne_zero _)

theorem Sound.add {t : Tally} (ht : t.Sound) (p : Policy) : (t.add p).Sound := by
  rw [Tally.add]
  split
  · exact ht
  · exact ht.take p

theorem Sound.addAll {t : Tally} (ht : t.Sound) (ps : List Policy) :
    (t.addAll ps).Sound := by
  induction ps generalizing t with
  | nil => exact ht
  | cons p ps ih => exact ih (ht.add p)

theorem demands_addAll {t : Tally} (ht : t.Sound) (ps : List Policy) :
    (t.addAll ps).demands = t.demands ⊔ (ps : Multiset Policy).sup := by
  induction ps generalizing t with
  | nil => exact (sup_bot_eq _).symm
  | cons p ps ih =>
      calc ((t.add p).addAll ps).demands
          = (t.add p).demands ⊔ (ps : Multiset Policy).sup := ih (ht.add p)
        _ = t.demands ⊔ (p ⊔ (ps : Multiset Policy).sup) := by
          rw [demands_add ht, sup_assoc]

/-- The early answer of a tally without contributions is the one that
its fields give as well. -/
theorem strictest_eq_demands {t : Tally} (ht : t.Sound) : t.strictest = t.demands := by
  rw [strictest]
  split
  · exact (ht.demands_eq ‹_›).symm
  · rfl

end Tally

namespace Policy

/-! ## The laws of the merge -/

theorem merge_eq_sup (ps : List Policy) : merge ps = (ps : Multiset Policy).sup := by
  rw [merge, Tally.strictest_eq_demands (Tally.sound_empty.addAll ps),
    Tally.demands_addAll Tally.sound_empty]
  exact bot_sup_eq _

@[simp] theorem merge_nil : merge [] = ⊥ := rfl

@[simp] theorem merge_cons (p : Policy) (ps : List Policy) :
    merge (p :: ps) = p ⊔ merge ps := by
  simp only [merge_eq_sup, ← Multiset.cons_coe, Multiset.sup_cons]

@[simp] theorem merge_append (xs ys : List Policy) :
    merge (xs ++ ys) = merge xs ⊔ merge ys := by
  simp only [merge_eq_sup, ← Multiset.coe_add, Multiset.sup_add]

theorem merge_le_iff {ps : List Policy} {q : Policy} :
    merge ps ≤ q ↔ ∀ p ∈ ps, p ≤ q := by
  rw [merge_eq_sup, Multiset.sup_le]
  rfl

theorem le_merge {ps : List Policy} {p : Policy} (h : p ∈ ps) : p ≤ merge ps :=
  merge_le_iff.mp le_rfl p h

/-- A merge is no stricter than another if each of its policies that
demands anything is part of the other. -/
theorem merge_le_merge {xs ys : List Policy} (h : ∀ p ∈ xs, p ≠ ⊥ → p ∈ ys) :
    merge xs ≤ merge ys := by
  rw [merge_le_iff]
  intro p hp
  by_cases hbot : p = ⊥
  · rw [hbot]
    exact bot_le
  · exact le_merge (h p hp hbot)

/-- A field that the join takes from one of its two sides is taken by
the merge from one of its policies, unless it stays as in the empty
one. -/
theorem merge_attained {α : Type} {f : Policy → α}
    (hf : ∀ p q : Policy, f (p ⊔ q) = f p ∨ f (p ⊔ q) = f q) (ps : List Policy) :
    f (merge ps) = f ⊥ ∨ ∃ p ∈ ps, f p = f (merge ps) := by
  induction ps with
  | nil => exact Or.inl rfl
  | cons p ps ih =>
      rw [merge_cons]
      rcases hf p (merge ps) with h | h
      · exact Or.inr ⟨p, List.mem_cons_self .., h.symm⟩
      · rw [h]
        rcases ih with hbot | ⟨q, hq, hfq⟩
        · exact Or.inl hbot
        · exact Or.inr ⟨q, List.mem_cons_of_mem _ hq, hfq⟩

theorem minLength_attained (ps : List Policy) :
    (merge ps).minLength = 0 ∨ ∃ p ∈ ps, p.minLength = (merge ps).minLength :=
  merge_attained (fun _ _ => max_choice _ _) ps

theorem strength_attained (ps : List Policy) :
    (merge ps).strength = .unset ∨ ∃ p ∈ ps, p.strength = (merge ps).strength :=
  merge_attained (fun _ _ => max_choice _ _) ps

theorem lockSeconds_attained (ps : List Policy) :
    (merge ps).lockSeconds = 0 ∨ ∃ p ∈ ps, p.lockSeconds = (merge ps).lockSeconds :=
  merge_attained (fun _ _ => tighter_choice _ _) ps

theorem merge_congr {xs ys : List Policy} (h : ∀ p, p ≠ ⊥ → (p ∈ xs ↔ p ∈ ys)) :
    merge xs = merge ys := by
  apply le_antisymm
  · exact merge_le_merge fun p hp hbot => (h p hbot).mp hp
  · exact merge_le_merge fun p hp hbot => (h p hbot).mpr hp

/-- The policy that is as strict as each of a list, and no stricter than
whatever else is, is their merge. -/
theorem eq_merge {ps : List Policy} {m : Policy} (h : ∀ q, m ≤ q ↔ ∀ p ∈ ps, p ≤ q) :
    m = merge ps := by
  apply le_antisymm
  · exact (h _).mpr fun p hp => le_merge hp
  · exact merge_le_iff.mpr ((h m).mp le_rfl)

/-- **The merge is the least upper bound.** In the order of strictness it
lies above each of the policies and below whatever else does, and that
is all there is to say of it: the order is antisymmetric, so nothing
else is a least upper bound. Hence parts can be merged first, and which
policies demand anything is all that counts, not their order or their
number; where none does, neither does the merge. -/
theorem merge_isLUB :
    (∀ ps : List Policy, (∀ p ∈ ps, p ≤ merge ps) ∧ ∀ q, (∀ p ∈ ps, p ≤ q) → merge ps ≤ q)
      ∧ (∀ p q : Policy, p ≤ q → q ≤ p → p = q)
      ∧ (∀ (ps : List Policy) (m : Policy), (∀ q, m ≤ q ↔ ∀ p ∈ ps, p ≤ q) → m = merge ps)
      ∧ (∀ xs ys : List Policy, merge (xs ++ ys) = merge [merge xs, merge ys])
      ∧ (∀ xs ys : List Policy, (∀ p, p ≠ empty → (p ∈ xs ↔ p ∈ ys)) → merge xs = merge ys)
      ∧ ∀ ps : List Policy, (∀ p ∈ ps, p = empty) → merge ps = empty := by
  refine ⟨?bound, fun p q => le_antisymm, fun ps m => eq_merge, ?parts,
    fun xs ys => merge_congr, ?none⟩
  case bound =>
    intro ps
    exact ⟨fun p hp => le_merge hp, fun q hq => merge_le_iff.mpr hq⟩
  case parts =>
    intro xs ys
    rw [merge_append, merge_cons, merge_cons, merge_nil, sup_bot_eq]
  case none =>
    intro ps hempty
    have hle : merge ps ≤ ⊥ := by
      rw [merge_le_iff]
      intro p hp
      rw [hempty p hp, ← bot_eq_empty]
    exact le_bot_iff.mp hle

/-- A policy is repeated, the empty one is thrown in, and the order is
turned round. -/
theorem merge_isLUB_of_copies :
    merge [⟨8, .unset, 5, 900, false⟩, empty, ⟨0, .strong, 0, 300, true⟩,
          ⟨8, .unset, 5, 900, false⟩]
        = merge [⟨0, .strong, 0, 300, true⟩, ⟨8, .unset, 5, 900, false⟩]
      ∧ merge [⟨0, .strong, 0, 300, true⟩, ⟨8, .unset, 5, 900, false⟩]
        ≤ ⟨9, .strong, 5, 60, true⟩
      ∧ merge [empty, empty] = empty := by
  obtain ⟨hbound, -, -, -, hset, hnone⟩ := merge_isLUB
  refine ⟨hset _ _ fun p hp => ?_, (hbound _).2 _ (by decide), hnone _ (by decide)⟩
  simp only [List.mem_cons, List.not_mem_nil, or_false, hp, false_or]
  tauto

end Policy

end LockPolicy
