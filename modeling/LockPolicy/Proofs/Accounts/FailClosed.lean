import LockPolicy.Coordinator.Basic
import LockPolicy.Proofs.Accounts.Policies
import LockPolicy.Proofs.Policy.Bits

/-!
# Reading all rows or none

A reading of the rows gives the merge of all the policies in them, or it
refuses them for the first row that holds none. There is nothing between:
a row with a reserved strength is never passed over, and never read as
one that demands less.

The reading skips rows of zero before it unpacks them, and the tally
skips the empty policy after. These are not the same rows: a word whose
set bits all mean nothing is unpacked, and holds the empty policy.
Neither can be told from outside. Whether the rows can be read and what
is read from them depends on the meaningful words in them alone
(`strictest_eq_ok_congr`), and of these on the nonzero ones. So the order
of the rows does not matter, and neither do rows of zero or bits without
a meaning.
-/

namespace LockPolicy

namespace Row

/-- The number in the strength bits, as a shift and a mask find it. -/
def mode (row : Row) : Nat := (row.flags >>> 5 &&& 0xf).toNat

/-- The strength bits hold a number that no strength has. -/
def reserved (row : Row) : Bool := 3 ≤ row.mode

/-- The flags without the bits that mean nothing. -/
def meaning (row : Row) : UInt32 := row.flags &&& 0x3ffffff

variable {row row' : Row} {p : Policy}

theorem ofWord_of_reserved (h : row.reserved = true) :
    Policy.ofWord row.flags = .error (.unreadable row.flags row.mode) :=
  Policy.ofWord_of_ge (of_decide_eq_true h)

theorem reserved_eq_false_iff :
    row.reserved = false ↔ ∃ p, Policy.ofWord row.flags = .ok p := by
  constructor
  · intro h
    exact Policy.ofWord_of_le (Nat.le_of_lt_succ (Nat.not_le.mp (of_decide_eq_false h)))
  · rintro ⟨p, hp⟩
    by_contra hreserved
    rw [ofWord_of_reserved (Bool.not_eq_false _ ▸ hreserved)] at hp
    cases hp

theorem toNat_meaning (row : Row) : row.meaning.toNat = row.flags.toNat % 0x4000000 := by
  rw [meaning, UInt32.toNat_and]
  exact Nat.and_two_pow_sub_one_eq_mod _ 26

theorem mode_congr (h : row.meaning = row'.meaning) : row.mode = row'.mode := by
  have hbits := congrArg UInt32.toNat h
  rw [toNat_meaning, toNat_meaning] at hbits
  rw [mode, mode, Policy.strength_bits, Policy.strength_bits, Policy.strengthBits,
    Policy.strengthBits]
  omega

theorem ofWord_congr (h : row.meaning = row'.meaning)
    (hp : Policy.ofWord row.flags = .ok p) : Policy.ofWord row'.flags = .ok p := by
  have hread : row'.reserved = false := by
    rw [reserved, ← mode_congr h]
    exact reserved_eq_false_iff.mpr ⟨p, hp⟩
  obtain ⟨q, hq⟩ := reserved_eq_false_iff.mp hread
  have hbits := congrArg UInt32.toNat h
  rw [toNat_meaning, toNat_meaning] at hbits
  rw [hq, (Policy.eq_iff_of_ofWord hp hq).mpr hbits]

/-- Flags that mean nothing hold the empty policy. -/
theorem ofWord_of_meaning_eq_zero (h : row.meaning = 0) :
    Policy.ofWord row.flags = .ok ⊥ := by
  have hzero : (⟨row.account, 0⟩ : Row).meaning = row.meaning := by
    rw [h, meaning, UInt32.zero_and]
  exact ofWord_congr hzero Policy.ofWord_zero

end Row

namespace Accounts

variable {rows rows' : Accounts} {row : Row} {ps : List Policy} {p : Policy}

/-! ## One row after the other -/

theorem policies_eq_ok_iff :
    rows.policies = .ok ps
      ↔ List.Forall₂ (fun row p => Policy.ofWord row.flags = .ok p) rows ps := by
  induction rows generalizing ps with
  | nil =>
      rw [policies_nil, List.forall₂_nil_left_iff, Except.ok.injEq]
      exact eq_comm
  | cons row rows ih =>
      rw [List.forall₂_cons_left_iff]
      cases hrow : Policy.ofWord row.flags with
      | error fault => simp [policies_cons_error hrow]
      | ok q =>
          rw [policies_cons_ok hrow]
          constructor
          · intro h
            cases hrows : policies rows with
            | error fault =>
                rw [hrows] at h
                cases h
            | ok qs =>
                rw [hrows] at h
                exact ⟨q, qs, rfl, ih.mp hrows, (Except.ok.inj h).symm⟩
          · rintro ⟨p, qs, hp, hqs, rfl⟩
            obtain rfl := Except.ok.inj hp
            rw [ih.mpr hqs]
            rfl

theorem mem_policies (h : rows.policies = .ok ps) :
    p ∈ ps ↔ ∃ row ∈ rows, Policy.ofWord row.flags = .ok p := by
  induction policies_eq_ok_iff.mp h with
  | nil => simp
  | @cons row q rows qs hrow hrows ih =>
      have hih := ih (policies_eq_ok_iff.mpr hrows)
      rw [List.mem_cons, hih, List.exists_mem_cons_iff, hrow, Except.ok.injEq, eq_comm]

theorem find?_reserved_eq_none_iff :
    rows.find? Row.reserved = none ↔ ∀ row ∈ rows, row.reserved = false := by
  simp only [List.find?_eq_none, Bool.not_eq_true]

theorem policies_of_find? (h : rows.find? Row.reserved = some row) :
    rows.policies = .error (.unreadable row.flags row.mode) := by
  induction rows with
  | nil => cases h
  | cons first rows ih =>
      rw [List.find?_cons] at h
      cases hfirst : first.reserved with
      | true =>
          rw [hfirst] at h
          obtain rfl := Option.some.inj h
          exact policies_cons_error (Row.ofWord_of_reserved hfirst) rows
      | false =>
          rw [hfirst] at h
          obtain ⟨q, hq⟩ := Row.reserved_eq_false_iff.mp hfirst
          rw [policies_cons_ok hq, ih h]
          rfl

theorem policies_eq_error_iff {fault : Fault} :
    rows.policies = .error fault
      ↔ ∃ row, rows.find? Row.reserved = some row
          ∧ fault = .unreadable row.flags row.mode := by
  constructor
  · intro h
    cases hfind : rows.find? Row.reserved with
    | some row =>
        rw [policies_of_find? hfind] at h
        exact ⟨row, rfl, (Except.error.inj h).symm⟩
    | none =>
        obtain ⟨ps, hps⟩ := policies_of_readable fun row hrow =>
          Row.reserved_eq_false_iff.mp (find?_reserved_eq_none_iff.mp hfind row hrow)
        rw [hps] at h
        cases h
  · rintro ⟨row, hfind, rfl⟩
    exact policies_of_find? hfind

/-! ## What the reading gives -/

theorem strictest_of_readable (h : ∀ row ∈ rows, row.reserved = false) :
    ∃ ps, rows.policies = .ok ps ∧ rows.strictest = .ok (Policy.merge ps) := by
  obtain ⟨ps, hps⟩ := policies_of_readable fun row hrow =>
    Row.reserved_eq_false_iff.mp (h row hrow)
  exact ⟨ps, hps, strictest_of_policies hps⟩

theorem strictest_of_find? (h : rows.find? Row.reserved = some row) :
    rows.strictest = .error (.unreadable row.flags row.mode) := by
  rw [strictest_eq, policies_of_find? h]
  rfl

theorem strictest_eq_ok_iff :
    rows.strictest = .ok p ↔ ∃ ps, rows.policies = .ok ps ∧ Policy.merge ps = p := by
  rw [strictest_eq]
  cases rows.policies with
  | ok ps => simp [Except.map]
  | error fault => simp [Except.map]

theorem strictest_eq_error_iff {fault : Fault} :
    rows.strictest = .error fault
      ↔ ∃ row, rows.find? Row.reserved = some row
          ∧ fault = .unreadable row.flags row.mode := by
  rw [← policies_eq_error_iff, strictest_eq]
  cases rows.policies with
  | ok ps => exact iff_of_false nofun nofun
  | error first => simp [Except.map]

theorem strictest_isOk_iff :
    (∃ p, rows.strictest = .ok p) ↔ ∀ row ∈ rows, row.reserved = false := by
  constructor
  · rintro ⟨p, hp⟩ row hrow
    cases hfind : rows.find? Row.reserved with
    | none => exact find?_reserved_eq_none_iff.mp hfind row hrow
    | some first =>
        rw [strictest_of_find? hfind] at hp
        cases hp
  · intro h
    obtain ⟨ps, -, hread⟩ := strictest_of_readable h
    exact ⟨_, hread⟩

/-! ## What the reading does not depend on -/

/-- Every nonzero word of the second rows occurs in the first, but for the
bits that mean nothing. -/
def Covers (rows rows' : Accounts) : Prop :=
  ∀ word : UInt32, word ≠ 0 → word ∈ rows'.map Row.meaning → word ∈ rows.map Row.meaning

theorem covers_of_map_eq (h : rows.map Row.meaning = rows'.map Row.meaning) :
    rows.Covers rows' := by
  intro word _ hword
  rwa [h]

/-- A policy that demands anything is read from a nonzero word. -/
theorem Covers.exists_ofWord (h : rows.Covers rows') (hbot : p ≠ ⊥)
    (hp : ∃ row ∈ rows', Policy.ofWord row.flags = .ok p) :
    ∃ row ∈ rows, Policy.ofWord row.flags = .ok p := by
  obtain ⟨row, hrow, hread⟩ := hp
  have hword : row.meaning ≠ 0 := by
    intro hzero
    rw [Row.ofWord_of_meaning_eq_zero hzero] at hread
    exact hbot (Except.ok.inj hread).symm
  obtain ⟨row', hrow', hsame⟩ := List.mem_map.mp (h _ hword (List.mem_map_of_mem hrow))
  exact ⟨row', hrow', Row.ofWord_congr hsame.symm hread⟩

theorem Covers.readable (h : rows.Covers rows') (hrows : ∀ row ∈ rows, row.reserved = false) :
    ∀ row ∈ rows', row.reserved = false := by
  intro row hrow
  by_cases hword : row.meaning = 0
  · exact Row.reserved_eq_false_iff.mpr ⟨⊥, Row.ofWord_of_meaning_eq_zero hword⟩
  · obtain ⟨row', hrow', hsame⟩ := List.mem_map.mp (h _ hword (List.mem_map_of_mem hrow))
    rw [Row.reserved, ← Row.mode_congr hsame]
    exact hrows row' hrow'

theorem Covers.strictest_eq_ok (h : rows.Covers rows') (h' : rows'.Covers rows)
    (hread : rows.strictest = .ok p) : rows'.strictest = .ok p := by
  obtain ⟨ps, hps, rfl⟩ := strictest_eq_ok_iff.mp hread
  obtain ⟨ps', hps', hread'⟩ :=
    strictest_of_readable (h.readable (strictest_isOk_iff.mp ⟨_, hread⟩))
  have hmerge : Policy.merge ps = Policy.merge ps' := by
    refine Policy.merge_congr fun q hbot => ?_
    rw [mem_policies hps, mem_policies hps']
    exact ⟨h'.exists_ofWord hbot, h.exists_ofWord hbot⟩
  rw [hread', hmerge]

/-- Rows in which the same nonzero words occur, but for the bits that mean
nothing, are read alike or refused alike. -/
theorem strictest_eq_ok_congr (h : rows.Covers rows') (h' : rows'.Covers rows) :
    rows.strictest = .ok p ↔ rows'.strictest = .ok p :=
  ⟨h.strictest_eq_ok h', h'.strictest_eq_ok h⟩

theorem tally_filter (t : Tally) (rows : Accounts) :
    tally t (rows.filter (·.flags ≠ 0)) = tally t rows := by
  induction rows generalizing t with
  | nil => rfl
  | cons row rows ih =>
      by_cases hzero : row.flags = 0
      · rw [List.filter_cons_of_neg (by simpa using hzero), ih, tally, if_pos hzero]
      · rw [List.filter_cons_of_pos (by simpa using hzero), tally, tally, if_neg hzero,
          if_neg hzero]
        cases Policy.ofWord row.flags with
        | ok p => exact ih (t.add p)
        | error fault => rfl

end Accounts

namespace Coordinator

variable {δ : Type}

/-- **The rows are read as a whole or refused.** A reading succeeds if and
only if no row has a reserved strength, and then gives the merge of what
all the rows hold, one policy for each; otherwise the first such row is
refused, with all of its bits. Hence neither the order of the rows, nor
rows of zero, nor bits without a meaning change what is read or whether
anything is. Rows of zero do not even change which row is refused. -/
theorem compute_failClosed (c : Coordinator δ) :
    let read (rows : Accounts) := ({ c with rows } : Coordinator δ).compute.result
    (∀ rows, (∃ p, read rows = .ok p) ↔ ∀ row ∈ rows, row.reserved = false)
      ∧ (∀ rows : Accounts, (∀ row ∈ rows, row.reserved = false) → ∃ ps,
          List.Forall₂ (fun row p => Policy.ofWord row.flags = .ok p) rows ps
            ∧ read rows = .ok (Policy.merge ps))
      ∧ (∀ (rows : Accounts) (row : Row), rows.find? Row.reserved = some row →
          read rows = .error (.unreadable row.flags row.mode))
      ∧ (∀ rows rows' : Accounts, rows.Perm rows' →
          ∀ p, read rows = .ok p ↔ read rows' = .ok p)
      ∧ (∀ rows rows' : Accounts, rows.filter (·.flags ≠ 0) = rows'.filter (·.flags ≠ 0) →
          read rows = read rows')
      ∧ ∀ rows rows' : Accounts,
          List.Forall₂ (fun row row' => row.meaning = row'.meaning) rows rows' →
          ∀ p, read rows = .ok p ↔ read rows' = .ok p := by
  intro read
  refine ⟨fun rows => Accounts.strictest_isOk_iff, ?whole,
    fun rows row => Accounts.strictest_of_find?, ?order, ?zeros, ?spare⟩
  case whole =>
    intro rows h
    obtain ⟨ps, hps, hread⟩ := Accounts.strictest_of_readable h
    exact ⟨ps, Accounts.policies_eq_ok_iff.mp hps, hread⟩
  case order =>
    intro rows rows' hperm p
    have hmem (word : UInt32) : word ∈ rows.map Row.meaning ↔ word ∈ rows'.map Row.meaning :=
      (hperm.map Row.meaning).mem_iff
    exact Accounts.strictest_eq_ok_congr (fun word _ => (hmem word).mpr)
      fun word _ => (hmem word).mp
  case zeros =>
    intro rows rows' h
    change rows.strictest = rows'.strictest
    rw [Accounts.strictest, Accounts.strictest, ← Accounts.tally_filter, h, Accounts.tally_filter]
  case spare =>
    intro rows rows' h p
    have hmap : rows.map Row.meaning = rows'.map Row.meaning := by
      rw [← List.forall₂_eq_eq_eq, List.forall₂_map_left_iff, List.forall₂_map_right_iff]
      exact h
    exact Accounts.strictest_eq_ok_congr (Accounts.covers_of_map_eq hmap)
      (Accounts.covers_of_map_eq hmap.symm)

/-- A row of zero is added, the rows are turned round and given bits
without a meaning, and the same is read. Of two damaged rows behind a
row of zero the first is refused. -/
theorem compute_failClosed_of_spare :
    let read (rows : Accounts) := ({ device := (), rows } : Coordinator Unit).compute.result
    read [⟨1, 0xf0a48⟩, ⟨2, 0x2078000⟩] = .ok ⟨8, .strong, 5, 30, true⟩
      ∧ read [⟨2, 0xfe078000⟩, ⟨1, 0x40f0a48⟩, ⟨1, 0xfc000000⟩] = .ok ⟨8, .strong, 5, 30, true⟩
      ∧ read [⟨1, 0⟩, ⟨3, 0x80000063⟩, ⟨3, 0xffffffff⟩] = .error (.unreadable 0x80000063 3) := by
  intro read
  obtain ⟨-, -, hrefused, horder, hzeros, hspare⟩ :=
    compute_failClosed ({ device := () } : Coordinator Unit)
  have hread : read [⟨1, 0xf0a48⟩, ⟨2, 0x2078000⟩] = .ok ⟨8, .strong, 5, 30, true⟩ := by
    decide
  have hzero := (hzeros [⟨1, 0xf0a48⟩, ⟨2, 0x2078000⟩, ⟨1, 0⟩] _ (by decide)).trans hread
  have hturned := (horder _ [⟨2, 0x2078000⟩, ⟨1, 0xf0a48⟩, ⟨1, 0⟩] (.swap ..) _).mp hzero
  refine ⟨hread, (hspare _ _ ?_ _).mp hturned, hrefused _ ⟨3, 0x80000063⟩ (by decide)⟩
  exact .cons (by decide) (.cons (by decide) (.cons (by decide) .nil))

end Coordinator

end LockPolicy
