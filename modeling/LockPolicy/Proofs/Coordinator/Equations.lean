import LockPolicy.Coordinator.Step

/-!
# What the operations of a coordinator come to

Equations for the operations, one for each way that they can go: whether
something is kept, whether the rows can be read, whether there is an
administrator, whether an event changes the phase. Whoever reasons about
a coordinator finds its cases here and need not open the operations.
-/

namespace LockPolicy

theorem Phase.after_cases (phase : Phase) (event : Event) :
    phase.after event = phase ∨ (phase = .enabled ∧ event = .disabled)
      ∨ (phase = .disabled ∧ event = .enabled) := by
  cases phase <;> cases event <;> decide

/-- The report of a step that tried to apply the strictest policy. A
missing administrator is no fault of it. -/
def Transition.reported (t : Transition) : Except Fault Unit → Except Fault Transition
  | .ok () => .ok t
  | .error .notAdmin => .ok t
  | .error fault => .error fault

namespace Coordinator

variable {δ : Type}

/-! ## The strictest policy -/

theorem aggregate_of_some {c : Coordinator δ} {p : Policy} (h : c.cache = some p) :
    c.aggregate = { result := .ok p, next := c } := by
  rw [aggregate, h]

theorem aggregate_of_ok {c : Coordinator δ} {p : Policy} (h : c.cache = none)
    (hread : c.rows.strictest = .ok p) :
    c.aggregate = { result := .ok p
                    next := { c with scans := c.scans + 1, cache := some p } } := by
  simp only [aggregate, h, compute, hread]

theorem aggregate_of_error {c : Coordinator δ} {fault : Fault} (h : c.cache = none)
    (hread : c.rows.strictest = .error fault) :
    c.aggregate = { result := .error fault, next := { c with scans := c.scans + 1 } } := by
  simp only [aggregate, h, compute, hread]

/-- What a look at the strictest policy may do: nothing but keep what it
has found and count a reading. -/
theorem aggregate_cases (c : Coordinator δ) :
    (∃ p, c.cache = some p ∧ c.aggregate = { result := .ok p, next := c })
      ∨ (∃ p, c.cache = none ∧ c.rows.strictest = .ok p
          ∧ c.aggregate = { result := .ok p
                            next := { c with scans := c.scans + 1, cache := some p } })
      ∨ ∃ fault, c.cache = none ∧ c.rows.strictest = .error fault
          ∧ c.aggregate = { result := .error fault, next := { c with scans := c.scans + 1 } } := by
  rcases Option.eq_none_or_eq_some c.cache with hcache | ⟨p, hcache⟩
  · cases hread : c.rows.strictest with
    | ok p => exact Or.inr (Or.inl ⟨p, hcache, rfl, aggregate_of_ok hcache hread⟩)
    | error fault =>
        exact Or.inr (Or.inr ⟨fault, hcache, rfl, aggregate_of_error hcache hread⟩)
  · exact Or.inl ⟨p, hcache, aggregate_of_some hcache⟩

theorem aggregate_eq_error_iff {c : Coordinator δ} {fault : Fault} :
    c.aggregate.result = .error fault ↔ c.cache = none ∧ c.rows.strictest = .error fault := by
  rcases c.aggregate_cases
    with ⟨p, hcache, heq⟩ | ⟨p, hcache, hread, heq⟩ | ⟨first, hcache, hread, heq⟩
  · simp [heq, hcache]
  · simp [heq, hread]
  · simp [heq, hcache, hread]

theorem aggregate_calls (c : Coordinator δ) : c.aggregate.calls = [] := by
  rcases c.aggregate_cases with ⟨p, -, heq⟩ | ⟨p, -, -, heq⟩ | ⟨fault, -, -, heq⟩ <;> rw [heq]

/-- Beyond what is kept and the count, a look leaves the coordinator as
it is. -/
theorem aggregate_next (c : Coordinator δ) :
    ∃ cache scans, c.aggregate.next = { c with cache, scans } := by
  rcases c.aggregate_cases with ⟨p, -, heq⟩ | ⟨p, -, -, heq⟩ | ⟨fault, -, -, heq⟩
  · exact ⟨_, _, by rw [heq]⟩
  · exact ⟨_, _, by rw [heq]⟩
  · exact ⟨_, _, by rw [heq]⟩

@[simp] theorem aggregate_device (c : Coordinator δ) : c.aggregate.next.device = c.device := by
  obtain ⟨cache, scans, hnext⟩ := c.aggregate_next
  rw [hnext]

@[simp] theorem aggregate_phase (c : Coordinator δ) : c.aggregate.next.phase = c.phase := by
  obtain ⟨cache, scans, hnext⟩ := c.aggregate_next
  rw [hnext]

variable [Device δ]

/-! ## Checks -/

theorem evaluate_of_inactive {c : Coordinator δ} (h : c.reading.admin = false)
    (policy? : Option Policy) :
    c.evaluate policy? =
      { result := .ok (if c.rules.override then .overridden else .adminInactive)
        calls := [.ask .admin]
        next := c } := by
  simp [evaluate, Rules.admission, h]

theorem evaluate_some {c : Coordinator δ} (h : c.reading.admin = true) (p : Policy) :
    c.evaluate (some p) =
      { result := .ok (p.inspect c.reading).verdict
        calls := .ask .admin :: (p.inspect c.reading).asked.map .ask
        next := c } := by
  simp [evaluate, Rules.admission, h]

/-- To check the strictest policy is to look at it and to check what was
found. -/
theorem evaluate_none_of_ok {c : Coordinator δ} {p : Policy} (h : c.reading.admin = true)
    (hread : c.aggregate.result = .ok p) :
    c.evaluate none = { c.evaluate (some p) with next := c.aggregate.next } := by
  simp [evaluate, Rules.admission, h, hread]

theorem evaluate_none_of_error {c : Coordinator δ} {fault : Fault}
    (h : c.reading.admin = true) (hread : c.aggregate.result = .error fault) :
    c.evaluate none =
      { result := .error fault, calls := [.ask .admin], next := c.aggregate.next } := by
  simp [evaluate, Rules.admission, h, hread]

theorem evaluate_none_next {c : Coordinator δ} (h : c.reading.admin = true) :
    (c.evaluate none).next = c.aggregate.next := by
  cases hread : c.aggregate.result with
  | ok p => rw [evaluate_none_of_ok h hread]
  | error fault => rw [evaluate_none_of_error h hread]

/-- The verdict on what is looked up is the one that the rules give on
it, whoever administers the device. -/
theorem evaluate_none_result {c : Coordinator δ} {p : Policy}
    (hread : c.aggregate.result = .ok p) :
    (c.evaluate none).result = .ok (c.rules.evaluate p c.reading).verdict := by
  cases hadmin : c.reading.admin with
  | false =>
      rw [evaluate_of_inactive hadmin]
      simp [Rules.evaluate, Rules.admission, hadmin]
  | true =>
      rw [evaluate_none_of_ok hadmin hread, evaluate_some hadmin]
      simp [Rules.evaluate, Rules.admission, hadmin]

/-! ## Directives -/

theorem apply_of_inactive {c : Coordinator δ} (h : c.reading.admin = false) :
    c.apply = { result := .error .notAdmin, calls := [.ask .admin], next := c } := by
  simp [apply, h]

theorem apply_of_ok {c : Coordinator δ} {p : Policy} (h : c.reading.admin = true)
    (hread : c.aggregate.result = .ok p) :
    c.apply =
      { result := .ok ()
        calls := .ask .admin :: p.directives.map .tell
        next := c.aggregate.next.tell p.directives } := by
  simp [apply, h, hread, push]

theorem apply_of_error {c : Coordinator δ} {fault : Fault} (h : c.reading.admin = true)
    (hread : c.aggregate.result = .error fault) :
    c.apply = { result := .error fault, calls := [.ask .admin], next := c.aggregate.next } := by
  simp [apply, h, hread]

theorem wipe_of_inactive {c : Coordinator δ} (h : c.reading.admin = false) :
    c.wipe = { result := .error .notAdmin, calls := [.ask .admin], next := c } := by
  simp [wipe, h]

theorem wipe_of_active {c : Coordinator δ} (h : c.reading.admin = true) :
    c.wipe =
      { result := .ok (), calls := [.ask .admin, .tell .wipe], next := c.tell [.wipe] } := by
  simp [wipe, h]

/-- To apply and to erase are the requests that need an administrator,
and all they do without one is to ask for it. -/
theorem serve_of_unadministered {c : Coordinator δ} {r : Request}
    (hr : r = .apply ∨ ∃ account, r = .wipe account) (hadmin : c.reading.admin = false) :
    c.serve r = { result := .error .notAdmin, calls := [.ask .admin], next := c } := by
  rcases hr with rfl | ⟨account, rfl⟩
  · rw [serve, apply_of_inactive hadmin]
    rfl
  · rw [serve, wipe_of_inactive hadmin]
    rfl

/-! ## Events -/

theorem handle_of_same {c : Coordinator δ} {event : Event}
    (h : c.phase.after event = c.phase) :
    c.handle event = { result := .ok ⟨c.phase, c.phase⟩, next := c } := by
  simp [handle, Transition.changed, h]

theorem handle_of_disable {c : Coordinator δ} (h : c.phase = .enabled) :
    c.handle .disabled =
      { result := .ok ⟨.enabled, .disabled⟩
        next := { c with phase := .disabled }.invalidate } := by
  simp [handle, Transition.changed, h, Phase.after]

theorem handle_of_enable {c : Coordinator δ} (h : c.phase = .disabled) :
    c.handle .enabled =
      { { c with phase := .enabled }.invalidate.apply with
        result := Transition.reported ⟨.disabled, .enabled⟩
          { c with phase := .enabled }.invalidate.apply.result } := by
  simp [handle, Transition.changed, h, Phase.after]
  rfl

/-- The way into the enabled phase pushes what the rows hold at that
moment, whatever was kept before. -/
theorem handle_enable_of_ok {c : Coordinator δ} {p : Policy} (h : c.phase = .disabled)
    (hadmin : c.reading.admin = true) (hread : c.rows.strictest = .ok p) :
    c.handle .enabled =
      { result := .ok ⟨.disabled, .enabled⟩
        calls := .ask .admin :: p.directives.map .tell
        next := { c with phase := .enabled }.invalidate.aggregate.next.tell p.directives } := by
  let moved := { c with phase := .enabled }.invalidate
  have hmoved : moved.rows.strictest = .ok p := hread
  have hlookup : moved.aggregate.result = .ok p := by rw [aggregate_of_ok rfl hmoved]
  have happly := apply_of_ok (c := moved) hadmin hlookup
  rw [handle_of_enable h, happly]
  rfl

/-- Where the device does not agree yet, the way into the enabled phase
does no more than ask. -/
theorem handle_enable_of_inactive {c : Coordinator δ} (h : c.phase = .disabled)
    (hadmin : c.reading.admin = false) :
    c.handle .enabled =
      { result := .ok ⟨.disabled, .enabled⟩
        calls := [.ask .admin]
        next := { c with phase := .enabled }.invalidate } := by
  have happly := apply_of_inactive (c := { c with phase := .enabled }.invalidate) hadmin
  rw [handle_of_enable h, happly]
  rfl

/-- Where the rows cannot be read, the phase is left behind all the same. -/
theorem handle_enable_of_error {c : Coordinator δ} {fault : Fault} (h : c.phase = .disabled)
    (hadmin : c.reading.admin = true) (hread : c.rows.strictest = .error fault)
    (hfault : fault ≠ .notAdmin) :
    c.handle .enabled =
      { result := .error fault
        calls := [.ask .admin]
        next := { c with phase := .enabled, cache := none, scans := c.scans + 1 } } := by
  let moved := { c with phase := .enabled }.invalidate
  have hmoved : moved.rows.strictest = .error fault := hread
  have hlookup := aggregate_of_error (c := moved) rfl hmoved
  have happly := apply_of_error (c := moved) hadmin (congrArg Outcome.result hlookup)
  have hreported : Transition.reported ⟨.disabled, .enabled⟩ (.error fault) = .error fault := by
    cases fault with
    | notAdmin => exact absurd rfl hfault
    | _ => rfl
  rw [handle_of_enable h, happly, hlookup, hreported]
  rfl

/-! ## What operations leave alone -/

/-- A check does nothing to the device but ask, and nothing else than a
look at the strictest policy does. -/
theorem evaluate_asks (c : Coordinator δ) (policy? : Option Policy) :
    ∃ cache scans, ∃ asked : List Query, (c.evaluate policy?).calls = asked.map .ask
      ∧ (c.evaluate policy?).next = { c with cache, scans } := by
  cases hadmin : c.reading.admin with
  | false =>
      rw [evaluate_of_inactive hadmin]
      exact ⟨c.cache, c.scans, [.admin], rfl, rfl⟩
  | true =>
      cases policy? with
      | some p =>
          rw [evaluate_some hadmin]
          exact ⟨c.cache, c.scans, .admin :: (p.inspect c.reading).asked, rfl, rfl⟩
      | none =>
          obtain ⟨cache, scans, hnext⟩ := c.aggregate_next
          cases hread : c.aggregate.result with
          | ok p =>
              rw [evaluate_none_of_ok hadmin hread, evaluate_some hadmin]
              exact ⟨cache, scans, .admin :: (p.inspect c.reading).asked, rfl, hnext⟩
          | error fault =>
              rw [evaluate_none_of_error hadmin hread]
              exact ⟨cache, scans, [.admin], rfl, hnext⟩

/-- To apply the strictest policy is to ask for the administrator, and
then either to leave the device alone or, with an administrator and a
policy that can be read, to push that policy. -/
theorem apply_cases (c : Coordinator δ) :
    ∃ cache scans,
      (c.apply.calls = [.ask .admin] ∧ c.apply.next = { c with cache, scans })
        ∨ ∃ p : Policy, c.reading.admin = true ∧ c.aggregate.result = .ok p
            ∧ c.apply.calls = .ask .admin :: p.directives.map .tell
            ∧ c.apply.next = { c with cache, scans }.tell p.directives := by
  cases hadmin : c.reading.admin with
  | false =>
      rw [apply_of_inactive hadmin]
      exact ⟨c.cache, c.scans, Or.inl ⟨rfl, rfl⟩⟩
  | true =>
      obtain ⟨cache, scans, hnext⟩ := c.aggregate_next
      refine ⟨cache, scans, ?_⟩
      cases hread : c.aggregate.result with
      | ok p =>
          rw [apply_of_ok hadmin hread, hnext]
          exact Or.inr ⟨p, rfl, rfl, rfl, rfl⟩
      | error fault =>
          rw [apply_of_error hadmin hread]
          exact Or.inl ⟨rfl, hnext⟩

theorem apply_next (c : Coordinator δ) :
    ∃ cache scans device, c.apply.next = { c with cache, scans, device } := by
  obtain ⟨cache, scans, ⟨-, hnext⟩ | ⟨p, -, -, -, hnext⟩⟩ := c.apply_cases
  · exact ⟨cache, scans, c.device, hnext⟩
  · exact ⟨cache, scans, _, hnext⟩

theorem apply_phase (c : Coordinator δ) : c.apply.next.phase = c.phase := by
  obtain ⟨cache, scans, device, hnext⟩ := c.apply_next
  rw [hnext]

theorem apply_device (c : Coordinator δ) :
    c.apply.next.device = c.device
      ∨ ∃ p : Policy, c.apply.next.device = Device.obeyAll c.device p.directives := by
  obtain ⟨cache, scans, ⟨-, hnext⟩ | ⟨p, -, -, -, hnext⟩⟩ := c.apply_cases
  · exact Or.inl (by rw [hnext])
  · exact Or.inr ⟨p, by rw [hnext, tell]⟩

theorem wipe_next (c : Coordinator δ) : ∃ device, c.wipe.next = { c with device } := by
  cases hadmin : c.reading.admin with
  | false => exact ⟨c.device, by rw [wipe_of_inactive hadmin]⟩
  | true => exact ⟨_, by rw [wipe_of_active hadmin, tell]⟩

/-- Whatever comes of an event, the phase is the one it leads to, and
only the device and what is kept of a reading may change beside it. -/
theorem handle_next (c : Coordinator δ) (event : Event) :
    ∃ cache scans device, (c.handle event).next
      = { c with cache, scans, device, phase := c.phase.after event } := by
  rcases c.phase.after_cases event with hsame | ⟨hphase, rfl⟩ | ⟨hphase, rfl⟩
  · exact ⟨c.cache, c.scans, c.device, by rw [handle_of_same hsame, hsame]⟩
  · rw [handle_of_disable hphase, hphase]
    exact ⟨none, c.scans, c.device, rfl⟩
  · obtain ⟨cache, scans, device, hnext⟩ := { c with phase := .enabled }.invalidate.apply_next
    rw [handle_of_enable hphase, hphase]
    exact ⟨cache, scans, device, hnext⟩

theorem handle_phase (c : Coordinator δ) (event : Event) :
    (c.handle event).next.phase = c.phase.after event := by
  obtain ⟨cache, scans, device, hnext⟩ := c.handle_next event
  rw [hnext]

theorem handle_device (c : Coordinator δ) (event : Event) :
    (c.handle event).next.device = c.device
      ∨ ∃ p : Policy, (c.handle event).next.device = Device.obeyAll c.device p.directives := by
  rcases c.phase.after_cases event with hsame | ⟨hphase, rfl⟩ | ⟨hphase, rfl⟩
  · exact Or.inl (by rw [handle_of_same hsame])
  · exact Or.inl (by rw [handle_of_disable hphase, invalidate])
  · rw [handle_of_enable hphase]
    exact apply_device { c with phase := .enabled }.invalidate

end Coordinator

end LockPolicy
