import LockPolicy.Accounts
import LockPolicy.Proofs.Policy.Join

/-!
# The policies in the rows

The strictest policy of the accounts is the merge of what their rows
hold (`strictest_eq`), fault for fault: the pass over the rows skips
words of zero unread, and a word of zero holds the empty policy, which
the merge would not notice. Rows that were written from policies can
always be read (`Packed.policies`).
-/

namespace LockPolicy

theorem Policy.ofWord_zero : ofWord 0 = .ok ⊥ := rfl

namespace Accounts

/-- The policies that the rows hold, in their order, or the fault of the
first row that holds none. -/
def policies (rows : Accounts) : Except Fault (List Policy) :=
  rows.mapM fun row => Policy.ofWord row.flags

theorem policies_nil : policies [] = .ok [] := rfl

theorem policies_cons_ok {row : Row} {p : Policy} (h : Policy.ofWord row.flags = .ok p)
    (rows : Accounts) : policies (row :: rows) = (policies rows).map (p :: ·) := by
  simp only [policies, List.mapM_cons, h]
  cases rows.mapM fun row => Policy.ofWord row.flags with
  | ok ps => rfl
  | error fault => rfl

theorem policies_cons_error {row : Row} {fault : Fault}
    (h : Policy.ofWord row.flags = .error fault) (rows : Accounts) :
    policies (row :: rows) = .error fault := by
  simp only [policies, List.mapM_cons, h]
  rfl

theorem policies_of_readable {rows : Accounts}
    (h : ∀ row ∈ rows, ∃ p, Policy.ofWord row.flags = .ok p) : ∃ ps, rows.policies = .ok ps := by
  induction rows with
  | nil => exact ⟨[], policies_nil⟩
  | cons row rows ih =>
      obtain ⟨⟨p, hp⟩, hrows⟩ := List.forall_mem_cons.mp h
      obtain ⟨ps, hps⟩ := ih hrows
      refine ⟨p :: ps, ?_⟩
      rw [policies_cons_ok hp, hps]
      rfl

theorem tally_eq (t : Tally) (rows : Accounts) :
    tally t rows = (policies rows).map t.addAll := by
  induction rows generalizing t with
  | nil => rfl
  | cons row rows ih =>
      rw [tally]
      split
      · rename_i hzero
        have hrow : Policy.ofWord row.flags = .ok ⊥ := by rw [hzero, Policy.ofWord_zero]
        rw [policies_cons_ok hrow, ih]
        cases policies rows with
        | ok ps => rfl
        | error fault => rfl
      · cases hrow : Policy.ofWord row.flags with
        | ok p =>
            simp only [policies_cons_ok hrow, ih (t.add p)]
            cases policies rows with
            | ok ps => rfl
            | error fault => rfl
        | error fault =>
            rw [policies_cons_error hrow]
            rfl

theorem strictest_eq (rows : Accounts) : rows.strictest = rows.policies.map Policy.merge := by
  rw [strictest, tally_eq]
  cases rows.policies with
  | ok ps => rfl
  | error fault => rfl

theorem strictest_of_policies {rows : Accounts} {ps : List Policy} (h : rows.policies = .ok ps) :
    rows.strictest = .ok (Policy.merge ps) := by
  rw [strictest_eq, h]
  rfl

theorem flags_set (rows : Accounts) (account : Int) (word : UInt32) :
    (rows.set account word).flags account = word := by
  induction rows with
  | nil => simp [Accounts.set, flags]
  | cons row rows ih =>
      rw [Accounts.set]
      split
      · simp [flags]
      · rename_i hother
        rw [flags, List.find?_cons_of_neg (by simpa using hother)]
        exact ih

/-! ## Rows written from policies -/

/-- Every row holds a policy as it is packed, with no bit to spare. -/
def Packed (rows : Accounts) : Prop :=
  ∀ row ∈ rows, ∃ p : Policy, row.flags = p.toWord

theorem packed_nil : Packed [] := nofun

theorem packed_cons {row : Row} {rows : Accounts} :
    Packed (row :: rows) ↔ (∃ p : Policy, row.flags = p.toWord) ∧ rows.Packed :=
  List.forall_mem_cons

theorem Packed.set {rows : Accounts} (h : rows.Packed) (account : Int) (p : Policy) :
    (rows.set account p.toWord).Packed := by
  induction rows with
  | nil => exact packed_cons.mpr ⟨⟨p, rfl⟩, packed_nil⟩
  | cons row rows ih =>
      obtain ⟨hrow, hrows⟩ := packed_cons.mp h
      rw [Accounts.set]
      split
      · exact packed_cons.mpr ⟨⟨p, rfl⟩, hrows⟩
      · exact packed_cons.mpr ⟨hrow, ih hrows⟩

theorem Packed.erase {rows : Accounts} (h : rows.Packed) (account : Int) :
    (rows.erase account).Packed :=
  fun row hrow => h row (List.mem_of_mem_filter hrow)

/-- A packed row is below the bits that mean nothing, and what is read
from it packs to the row again. -/
theorem Packed.row {rows : Accounts} (h : rows.Packed) {row : Row} (hrow : row ∈ rows) :
    row.flags.toNat < 0x4000000
      ∧ ∃ p, Policy.ofWord row.flags = .ok p ∧ p.toWord = row.flags := by
  obtain ⟨p, hp⟩ := h row hrow
  rw [hp]
  exact ⟨p.toNat_toWord ▸ p.code_lt, p, p.ofWord_toWord, rfl⟩

/-- Packed rows can be read as a whole. -/
theorem Packed.policies {rows : Accounts} (h : rows.Packed) :
    ∃ ps, rows.policies = .ok ps := by
  refine policies_of_readable fun row hrow => ?_
  obtain ⟨-, p, hp, -⟩ := h.row hrow
  exact ⟨p, hp⟩

end Accounts

end LockPolicy
