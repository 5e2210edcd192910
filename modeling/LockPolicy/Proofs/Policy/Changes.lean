import LockPolicy.Proofs.Policy.Bits

/-!
# Stores that report a change

Whoever stores a policy is told whether that changed anything. What is
compared is the word and not the policy in it, and the two notions differ
in one point: a word may have bits set that mean nothing. Such a word
holds its policy like any other, but it is not the word that the policy
packs to (`toWord_eq_iff`), so to store the same policy again is reported
as a change, of which only the bits without a meaning are the cause.

No store leaves such a word. In a run of stores it is therefore at most
the first that reports a change of policy where there was none, and only
if the run finds bits without a meaning in the word that it starts from
(`store_reports`).
-/

namespace LockPolicy.Policy

variable {p : Policy} {word : UInt32}

/-- A policy packs to the word that holds it and has no bit to spare. -/
theorem toWord_eq_iff : p.toWord = word ↔ ofWord word = .ok p ∧ word.toNat < 0x4000000 := by
  constructor
  · rintro rfl
    exact ⟨p.ofWord_toWord, p.toNat_toWord ▸ p.code_lt⟩
  · rintro ⟨hread, hlt⟩
    rw [← UInt32.toNat_inj, toWord_of_ofWord hread, Nat.mod_eq_of_lt hlt]

theorem store_changed_iff :
    (p.store word).1 = true ↔ ofWord word ≠ .ok p ∨ 0x4000000 ≤ word.toNat := by
  rw [store, bne_iff_ne, ne_eq, toWord_eq_iff, not_and_or, Nat.not_lt]

/-! ## Runs of stores -/

/-- The word that stands after the run, which is the last that was stored,
or the one that was there before if none was. -/
def standing (stored : UInt32) (ps : List Policy) : UInt32 :=
  ((storeAll stored ps).map Prod.snd).getLastD stored

theorem standing_nil (stored : UInt32) : standing stored [] = stored := rfl

theorem standing_cons (stored : UInt32) (p : Policy) (ps : List Policy) :
    standing stored (p :: ps) = standing p.toWord ps := by
  rw [standing, storeAll, List.map_cons, List.getLastD_cons]
  rfl

/-- Once anything was stored, a packed policy stands there. -/
theorem standing_of_ne_nil {ps : List Policy} (h : ps ≠ []) (stored : UInt32) :
    ∃ p : Policy, standing stored ps = p.toWord := by
  induction ps generalizing stored with
  | nil => exact absurd rfl h
  | cons p ps ih =>
      rw [standing_cons]
      by_cases hps : ps = []
      · exact ⟨p, by rw [hps, standing_nil]⟩
      · exact ih hps p.toWord

theorem storeAll_append (stored : UInt32) (ps qs : List Policy) :
    storeAll stored (ps ++ qs) = storeAll stored ps ++ storeAll (standing stored ps) qs := by
  induction ps generalizing stored with
  | nil => rfl
  | cons p ps ih =>
      rw [List.cons_append, storeAll, ih, standing_cons]
      rfl

/-- **A store reports a change of policy, or bits without a meaning.** At
each place of a run of stores, the word that is stored holds the policy
that was to be stored. A change is reported if and only if the word that
stood there before held another policy or none, or this is the first
store of the run and there were bits set that mean nothing. So from the
second store on the report is exact, and the first one is exact wherever
the run starts from a word without such bits. -/
theorem store_reports (stored : UInt32) (before : List Policy) (p : Policy)
    (after : List Policy) :
    ∃ changed,
      storeAll stored (before ++ p :: after)
          = storeAll stored before ++ (changed, p.toWord) :: storeAll p.toWord after
        ∧ ofWord p.toWord = .ok p
        ∧ (changed = true
          ↔ ofWord (standing stored before) ≠ .ok p
            ∨ before = [] ∧ 0x4000000 ≤ stored.toNat) := by
  refine ⟨(p.store (standing stored before)).1, storeAll_append .., p.ofWord_toWord, ?_⟩
  rw [store_changed_iff]
  by_cases hbefore : before = []
  · simp only [hbefore, standing_nil, true_and]
  · obtain ⟨q, hq⟩ := standing_of_ne_nil hbefore stored
    have hlt : ¬0x4000000 ≤ (standing stored before).toNat := by
      rw [hq, toNat_toWord]
      exact Nat.not_le.mpr q.code_lt
    simp only [hbefore, hlt, false_and, or_false]

/-- The word holds the policy and has one bit set that means nothing. To
store the policy again is reported as a change. -/
theorem store_reports_same_policy :
    let p : Policy := ⟨8, .strong, 5, 60, false⟩
    ofWord 0x40f0a48 = .ok p ∧ storeAll 0x40f0a48 [p] = [(true, 0xf0a48)]
      ∧ ¬((p.store 0x40f0a48).1 = true ↔ ofWord 0x40f0a48 ≠ .ok p) := by
  decide

end LockPolicy.Policy
