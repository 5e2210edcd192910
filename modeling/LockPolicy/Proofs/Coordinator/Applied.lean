import LockPolicy.Proofs.Accounts.FailClosed
import LockPolicy.Proofs.Coordinator.Fresh
import LockPolicy.Proofs.Inspection.Pushed

/-!
# What applying comes to

To apply the strictest policy is to do for every account all that the
coordinator can do. What is read from the rows lies above the policy in
each row; a push puts it into force, lock times in milliseconds and
strengths as classes of the device; and on a steady device nothing else
moves. So a check that follows, of the strictest policy or of that of any
single row, can only fail on account of the user's password
(`evaluate_after_apply`).
-/

namespace LockPolicy

/-- The strictest policy is as strict as that of any row. -/
theorem Accounts.ofWord_le_strictest {rows : Accounts} {row : Row} {p q : Policy}
    (hread : rows.strictest = .ok p) (hrow : row ∈ rows)
    (hq : Policy.ofWord row.flags = .ok q) : q ≤ p := by
  obtain ⟨ps, hps, rfl⟩ := strictest_eq_ok_iff.mp hread
  exact Policy.le_merge ((mem_policies hps).mpr ⟨row, hrow, hq⟩)

namespace Coordinator

variable {δ : Type} [Device δ] {c : Coordinator δ} {p : Policy}

/-- What is applied is in force, on a device that is administered and
judges the password as before. -/
theorem apply_reading [Device.Steady δ] (hadmin : c.reading.admin = true)
    (hread : c.aggregate.result = .ok p) :
    c.apply.next.reading.settings = p.settings ∧ c.apply.next.reading.admin = true
      ∧ c.apply.next.reading.sufficient = c.reading.sufficient := by
  have hreading : c.apply.next.reading
      = Device.reading (Device.obeyAll c.device p.directives) := by
    rw [apply_of_ok hadmin hread, reading, tell, aggregate_device]
  obtain ⟨hsteady, hsufficient⟩ := Device.steady_push c.device p
  rw [hreading]
  exact ⟨Device.settings_push c.device p, hsteady.trans hadmin, hsufficient⟩

/-- **Only the password is left to the user.** On a steady device under an
administrator, let what is kept be nothing or what the rows hold, and let
all rows hold policies. Then to apply succeeds. A check after that, of the
strictest policy or of the policy in any row, finds that nothing is
required if the policy is empty, and otherwise that all is met, unless
the policy demands a strength and the device does not find the user's
password sufficient. -/
theorem evaluate_after_apply [Device.Steady δ] {c : Coordinator δ} (hfresh : c.Fresh)
    (hadmin : c.reading.admin = true)
    (hrows : ∀ row ∈ c.rows, ∃ p, Policy.ofWord row.flags = .ok p) :
    c.apply.result = .ok () ∧ ∃ m, c.aggregate.result = .ok m
      ∧ ∀ q, q = m ∨ (∃ row ∈ c.rows, Policy.ofWord row.flags = .ok q) →
          (c.apply.next.evaluate (some q)).result =
            .ok (if q = .empty then .nothingRequired
              else if q.strength ≠ .unset ∧ c.reading.sufficient = false then .insufficient
              else .met) := by
  obtain ⟨m, hstrictest⟩ := Accounts.strictest_isOk_iff.mpr fun row hrow =>
    Row.reserved_eq_false_iff.mpr (hrows row hrow)
  have hread : c.aggregate.result = .ok m := (aggregate_result hfresh).trans hstrictest
  obtain ⟨hsettings, hadmin', hsufficient⟩ := apply_reading hadmin hread
  refine ⟨by rw [apply_of_ok hadmin hread], m, hread, fun q hq => ?_⟩
  have hle : q ≤ m := by
    rcases hq with rfl | ⟨row, hrow, hword⟩
    · exact le_rfl
    · exact Accounts.ofWord_le_strictest hstrictest hrow hword
  rw [evaluate_some hadmin', ← hsufficient]
  exact congrArg Except.ok (Policy.verdict_of_le hsettings hle)

/-- One row demands the length and the lock time, the other a strength.
With a password that is not sufficient only the second is refused. -/
theorem evaluate_after_apply_of_two :
    let c : Coordinator PlainDevice :=
      { device := { admin := true, quality := .alphabetic, timeToLock := 5 }
        rows := [⟨1, Policy.toWord ⟨8, .unset, 0, 300, true⟩⟩,
          ⟨2, Policy.toWord ⟨4, .simple, 3, 900, false⟩⟩] }
    c.apply.result = .ok ()
      ∧ (c.apply.next.evaluate (some ⟨8, .unset, 0, 300, true⟩)).result = .ok .met
      ∧ (c.apply.next.evaluate (some ⟨4, .simple, 3, 900, false⟩)).result = .ok .insufficient := by
  intro c
  have hrows : ∀ row ∈ c.rows, ∃ p, Policy.ofWord row.flags = .ok p := by
    simp [c]
  obtain ⟨hdone, m, -, hchecks⟩ := evaluate_after_apply (fresh_of_cache_none rfl) rfl hrows
  exact ⟨hdone,
    hchecks _ (Or.inr ⟨⟨1, _⟩, List.mem_cons_self .., Policy.ofWord_toWord _⟩),
    hchecks _ (Or.inr ⟨⟨2, _⟩, List.mem_cons_of_mem _ (List.mem_cons_self ..),
      Policy.ofWord_toWord _⟩)⟩

end Coordinator

end LockPolicy
