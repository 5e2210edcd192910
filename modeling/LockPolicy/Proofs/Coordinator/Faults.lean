import LockPolicy.Proofs.Coordinator.Ledger
import LockPolicy.Proofs.Coordinator.Lifecycle

/-!
# What a fault leaves behind

A request can fail in two ways. There is no administrator to carry it
out, or the rows have to be read for it and one of them holds no policy.
In the first case nothing was done but to ask for the administrator. In
the second the reading is where the request ends: what it would have kept
is not kept, and what it would have told the device is not told. `Failed`
says what is left in each case, and `failed_iff` that there is no other.

All that a fault may have changed is the count of readings, and for the
report of an administrator what came before the reading: the phase has
moved, and what was kept is dropped.
-/

namespace LockPolicy

theorem Outcome.map_eq_error_iff {σ α β : Type} {f : α → β} {o : Outcome σ α} {fault : Fault} :
    (o.map f).result = .error fault ↔ o.result = .error fault := by
  rcases o with ⟨result, calls, next⟩
  cases result with
  | ok a => exact iff_of_false nofun nofun
  | error first => simp [map, Except.map]

/-- The calls that the request makes before it reads the rows. -/
def Request.heralds : Request → List Call
  | .compute | .aggregate => []
  | _ => [.ask .admin]

namespace Coordinator

variable {δ : Type} [Device δ] {c : Coordinator δ} {r : Request} {fault : Fault}

/-- The coordinator as the request has it by the time it reads the rows. -/
def ahead (c : Coordinator δ) : Request → Coordinator δ
  | .handle _ => { c with phase := .enabled, cache := none }
  | _ => c

omit [Device δ] in
theorem ahead_of_not_event (hr : ∀ event, r ≠ .handle event) : c.ahead r = c := by
  cases r with
  | handle event => exact absurd rfl (hr event)
  | _ => rfl

/-- What comes of a request that fails. -/
inductive Failed (c : Coordinator δ) : Request → Outcome (Coordinator δ) Answer → Prop
  | unadministered {r : Request} (hr : r = .apply ∨ ∃ account, r = .wipe account)
      (hadmin : c.reading.admin = false) :
      Failed c r { result := .error .notAdmin, calls := [.ask .admin], next := c }
  /-- The row is the first that holds no policy. -/
  | unreadable {r : Request} {row : Row} (hreads : c.reads (.request r) = true)
      (hrow : c.rows.find? Row.reserved = some row) :
      Failed c r
        { result := .error (.unreadable row.flags row.mode)
          calls := r.heralds
          next := { c.ahead r with scans := c.scans + 1 } }

/-! ## Which requests fail -/

theorem evaluate_eq_error_iff {policy? : Option Policy} :
    (c.evaluate policy?).result = .error fault
      ↔ policy? = none ∧ c.reading.admin = true ∧ c.aggregate.result = .error fault := by
  cases hadmin : c.reading.admin with
  | false => simp [evaluate_of_inactive hadmin]
  | true =>
      cases policy? with
      | some p => simp [evaluate_some hadmin]
      | none =>
          cases hread : c.aggregate.result with
          | ok p => simp [evaluate_none_of_ok hadmin hread, evaluate_some hadmin]
          | error first => simp [evaluate_none_of_error hadmin hread]

theorem apply_eq_error_iff :
    c.apply.result = .error fault
      ↔ c.reading.admin = false ∧ fault = .notAdmin
        ∨ c.reading.admin = true ∧ c.aggregate.result = .error fault := by
  cases hadmin : c.reading.admin with
  | false => simp [apply_of_inactive hadmin, eq_comm]
  | true =>
      cases hread : c.aggregate.result with
      | ok p => simp [apply_of_ok hadmin hread]
      | error first => simp [apply_of_error hadmin hread]

/-- A request that fails lacks an administrator or has read the rows. -/
theorem serve_error_cases (h : (c.serve r).result = .error fault) :
    ((r = .apply ∨ ∃ account, r = .wipe account) ∧ c.reading.admin = false)
      ∨ (c.reads (.request r) = true ∧ c.rows.strictest = .error fault) := by
  cases r with
  | compute => exact Or.inr ⟨rfl, Outcome.map_eq_error_iff.mp h⟩
  | aggregate =>
      obtain ⟨hcache, hread⟩ := aggregate_eq_error_iff.mp (Outcome.map_eq_error_iff.mp h)
      exact Or.inr ⟨decide_eq_true hcache, hread⟩
  | evaluate policy? =>
      obtain ⟨rfl, hadmin, hlook⟩ := evaluate_eq_error_iff.mp (Outcome.map_eq_error_iff.mp h)
      obtain ⟨hcache, hread⟩ := aggregate_eq_error_iff.mp hlook
      exact Or.inr ⟨decide_eq_true ⟨hadmin, hcache⟩, hread⟩
  | satisfied policy? =>
      obtain ⟨rfl, hadmin, hlook⟩ := evaluate_eq_error_iff.mp
        (Outcome.map_eq_error_iff.mp (Outcome.map_eq_error_iff.mp h))
      obtain ⟨hcache, hread⟩ := aggregate_eq_error_iff.mp hlook
      exact Or.inr ⟨decide_eq_true ⟨hadmin, hcache⟩, hread⟩
  | apply =>
      rcases apply_eq_error_iff.mp (Outcome.map_eq_error_iff.mp h)
        with ⟨hadmin, -⟩ | ⟨hadmin, hlook⟩
      · exact Or.inl ⟨Or.inl rfl, hadmin⟩
      · obtain ⟨hcache, hread⟩ := aggregate_eq_error_iff.mp hlook
        exact Or.inr ⟨decide_eq_true ⟨hadmin, hcache⟩, hread⟩
  | wipe account =>
      cases hadmin : c.reading.admin with
      | false => exact Or.inl ⟨Or.inr ⟨account, rfl⟩, rfl⟩
      | true =>
          rw [serve, wipe_of_active hadmin] at h
          cases h
  | handle event =>
      obtain ⟨hphase, rfl, hadmin, hrow, -⟩ :=
        (c.handled event).result_error (Outcome.map_eq_error_iff.mp h)
      exact Or.inr ⟨decide_eq_true ⟨hadmin, hphase⟩, Accounts.strictest_eq_error_iff.mpr hrow⟩
  | _ => cases h

/-! ## What is left -/

theorem evaluate_none_of_unreadable (hreads : c.reads (.request (.evaluate none)) = true)
    (hread : c.rows.strictest = .error fault) :
    c.evaluate none =
      { result := .error fault
        calls := [.ask .admin]
        next := { c with scans := c.scans + 1 } } := by
  obtain ⟨hadmin, hcache⟩ := of_decide_eq_true hreads
  have hlook := aggregate_of_error hcache hread
  rw [evaluate_none_of_error hadmin (congrArg Outcome.result hlook), hlook]

theorem serve_of_unreadable {row : Row} (hreads : c.reads (.request r) = true)
    (hrow : c.rows.find? Row.reserved = some row) :
    c.serve r =
      { result := .error (.unreadable row.flags row.mode)
        calls := r.heralds
        next := { c.ahead r with scans := c.scans + 1 } } := by
  have hread := Accounts.strictest_of_find? hrow
  cases r with
  | compute =>
      simp only [serve, compute, hread]
      rfl
  | aggregate =>
      rw [serve, aggregate_of_error (of_decide_eq_true hreads) hread]
      rfl
  | evaluate policy? =>
      cases policy? with
      | some p => cases hreads
      | none =>
          rw [serve, evaluate_none_of_unreadable hreads hread]
          rfl
  | satisfied policy? =>
      cases policy? with
      | some p => cases hreads
      | none =>
          rw [serve, satisfied, evaluate_none_of_unreadable hreads hread]
          rfl
  | apply =>
      obtain ⟨hadmin, hcache⟩ := of_decide_eq_true hreads
      have hlook := aggregate_of_error hcache hread
      rw [serve, apply_of_error hadmin (congrArg Outcome.result hlook), hlook]
      rfl
  | handle event =>
      cases event with
      | enabled =>
          obtain ⟨hadmin, hphase⟩ := of_decide_eq_true hreads
          rw [serve, handle_enable_of_reserved hphase hadmin hrow]
          rfl
      | _ => cases hreads
  | _ => cases hreads

theorem Failed.serve_eq {o : Outcome (Coordinator δ) Answer} (h : c.Failed r o) :
    c.serve r = o := by
  cases h with
  | unadministered hr hadmin => exact serve_of_unadministered hr hadmin
  | unreadable hreads hrow => exact serve_of_unreadable hreads hrow

theorem failed_serve (h : (c.serve r).result = .error fault) : c.Failed r (c.serve r) := by
  rcases serve_error_cases h with ⟨hr, hadmin⟩ | ⟨hreads, hread⟩
  · rw [serve_of_unadministered hr hadmin]
    exact .unadministered hr hadmin
  · obtain ⟨row, hrow, -⟩ := Accounts.strictest_eq_error_iff.mp hread
    rw [serve_of_unreadable hreads hrow]
    exact .unreadable hreads hrow

theorem failed_iff {o : Outcome (Coordinator δ) Answer} :
    c.Failed r o ↔ c.serve r = o ∧ ∃ fault, o.result = .error fault := by
  constructor
  · intro h
    refine ⟨h.serve_eq, ?_⟩
    cases h with
    | unadministered | unreadable => exact ⟨_, rfl⟩
  · rintro ⟨rfl, fault, hfault⟩
    exact failed_serve hfault

theorem Failed.untold {o : Outcome (Coordinator δ) Answer} (h : c.Failed r o) :
    told o.calls = [] := by
  cases h with
  | unadministered => rfl
  | unreadable => cases r <;> rfl

theorem Failed.next_eq {o : Outcome (Coordinator δ) Answer} (h : c.Failed r o) :
    ∃ scans, o.next = { c.ahead r with scans } := by
  cases h with
  | unadministered hr =>
      refine ⟨c.scans, ?_⟩
      rcases hr with rfl | ⟨account, rfl⟩ <;> rfl
  | unreadable => exact ⟨_, rfl⟩

/-- The requests that read the rows where nothing is kept and there is an
administrator. -/
def readers : List Request :=
  [.compute, .aggregate, .evaluate none, .satisfied none, .apply]

theorem reads_of_mem_readers (hadmin : c.reading.admin = true) (hcache : c.cache = none) :
    ∀ r ∈ readers, c.reads (.request r) = true := by
  simp [readers, reads, hadmin, hcache]

/-- **A fault leaves everything as it was.** In any state, what comes of a
request that fails is one of two things (`Failed`), and each of these is
what comes of it indeed. Nothing was told to the device. If the request
is not a report, only the count of readings may have changed; and if it
is one, then besides that the phase is the enabled one and nothing is
kept. No fault is passed over: with an administrator and nothing kept, a
row that holds no policy makes each request that reads the rows fail, all
with one fault. -/
theorem fault_leaves_intact (c : Coordinator δ) :
    (∀ r o, c.Failed r o ↔ c.serve r = o ∧ ∃ fault, o.result = .error fault)
      ∧ (∀ r fault, (c.serve r).result = .error fault → told (c.serve r).calls = [])
      ∧ (∀ r fault, (∀ event, r ≠ .handle event) → (c.serve r).result = .error fault →
          ∃ scans, (c.serve r).next = { c with scans })
      ∧ (∀ event fault, (c.handle event).result = .error fault →
          ∃ scans, (c.handle event).next = { c with phase := .enabled, cache := none, scans })
      ∧ (c.reading.admin = true → c.cache = none →
          (∃ row ∈ c.rows, ∃ fault, Policy.ofWord row.flags = .error fault) →
          ∃ word mode, ∀ r ∈ readers, (c.serve r).result = .error (.unreadable word mode)) := by
  refine ⟨fun r o => failed_iff, fun r fault h => (failed_serve h).untold, ?intact, ?report,
    ?damaged⟩
  case intact =>
    intro r fault hr h
    obtain ⟨scans, hnext⟩ := (failed_serve h).next_eq
    exact ⟨scans, by rw [hnext, ahead_of_not_event hr]⟩
  case report =>
    intro event fault h
    exact (failed_serve (r := .handle event) (Outcome.map_eq_error_iff.mpr h)).next_eq
  case damaged =>
    rintro hadmin hcache ⟨row, hrow, fault, hfault⟩
    cases hfind : c.rows.find? Row.reserved with
    | none =>
        obtain ⟨p, hp⟩ := Row.reserved_eq_false_iff.mp
          (Accounts.find?_reserved_eq_none_iff.mp hfind row hrow)
        rw [hp] at hfault
        cases hfault
    | some first =>
        refine ⟨first.flags, first.mode, fun r hr => ?_⟩
        rw [serve_of_unreadable (reads_of_mem_readers hadmin hcache r hr) hfind]

/-- The second row is damaged. As long as the policy read before is kept,
only a reading for its own sake finds out, and the policy stays; the report
of an administrator drops it and then fails like everything after it. -/
theorem fault_leaves_intact_of_damage :
    let c : Coordinator PlainDevice :=
      { device := { admin := true, timeToLock := 600000 }
        rows := [⟨1, 0xf0a48⟩, ⟨2, 0xe0⟩]
        cache := some ⟨8, .strong, 5, 60, false⟩
        notified := true }
    let d : Coordinator PlainDevice := { c with phase := .enabled, cache := none, scans := 1 }
    c.serve .compute = { result := .error (.unreadable 0xe0 7), next := { c with scans := 1 } }
      ∧ c.serve (.handle .enabled)
        = { result := .error (.unreadable 0xe0 7), calls := [.ask .admin], next := d }
      ∧ (∃ word mode, ∀ r ∈ readers, (d.serve r).result = .error (.unreadable word mode))
      ∧ ∃ scans, (d.serve .apply).next = { d with scans } := by
  intro c d
  obtain ⟨hfailed, -⟩ := fault_leaves_intact c
  obtain ⟨-, -, hintact, -, hdamaged⟩ := fault_leaves_intact d
  have hrow : c.rows.find? Row.reserved = some ⟨2, 0xe0⟩ := by decide
  obtain ⟨word, mode, hall⟩ :=
    hdamaged rfl rfl ⟨⟨2, 0xe0⟩, by decide, .unreadable 0xe0 7, by decide⟩
  refine ⟨((hfailed _ _).mp (.unreadable (by decide) hrow)).1,
    ((hfailed _ _).mp (.unreadable (by decide) hrow)).1, ⟨word, mode, hall⟩, ?_⟩
  exact hintact .apply _ nofun (hall .apply (by decide))

end Coordinator

end LockPolicy
