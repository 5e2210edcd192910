import LockPolicy.Device.Plain
import LockPolicy.Proofs.Coordinator.Fresh

/-!
# The coordinator without a cache

`Uncached` is a coordinator that keeps nothing of what it reads: each
time that the strictest policy is needed, it reads the rows. It is what
the coordinator promises to be to everyone who says when rows change.

The promise is kept (`run_view`). Both are run through the same steps,
in any order and of any kind. Rows may be changed at will, as long as an
invalidation stands between a change and whatever may look at the
strictest policy next (`announced`); then after each step the results,
the calls, and all that is left of the coordinator without its cache are
the same. The invariant of the run is that the coordinator is fresh, or
that the steps still to come do not look before they invalidate
(`guarded`).
-/

namespace LockPolicy

/-! ## The reference -/

/-- A coordinator that keeps no policy. -/
structure Uncached (δ : Type) where
  rules : Rules := {}
  device : δ
  rows : Accounts := []
  notified : Bool := false
  phase : Phase := .disabled
deriving DecidableEq, Repr

namespace Uncached

variable {δ : Type}

def compute (u : Uncached δ) : Outcome (Uncached δ) Policy where
  result := u.rows.strictest
  next := u

def undergo (u : Uncached δ) : Change δ → Answer × Uncached δ
  | .device device => (.done, { u with device })
  | .set account flags => (.done, { u with rows := u.rows.set account flags })
  | .push account flags => (.done, { u with rows := u.rows.push account flags })
  | .erase account =>
    let rows := u.rows.erase account
    (.erased (u.rows.length - rows.length), { u with rows })
  | .store account policy =>
    let (changed, flags) := policy.store (u.rows.flags account)
    (.stored changed flags, { u with rows := u.rows.set account flags })

variable [Device δ]

def reading (u : Uncached δ) : Reading :=
  Device.reading u.device

def tell (u : Uncached δ) (ds : List Directive) : Uncached δ :=
  { u with device := Device.obeyAll u.device ds }

/-- Checks the policy, or else the one that is computed on the spot,
where there is an administrator. -/
def evaluate (u : Uncached δ) (policy? : Option Policy) : Outcome (Uncached δ) Verdict :=
  match (u.rules.admission u.reading).verdict? with
  | some verdict => { result := .ok verdict, calls := [.ask .admin], next := u }
  | none =>
    match policy?.elim u.compute.result .ok with
    | .ok p =>
      let i := u.rules.evaluate p u.reading
      { result := .ok i.verdict, calls := i.asked.map .ask, next := u }
    | .error fault => { result := .error fault, calls := [.ask .admin], next := u }

def push (u : Uncached δ) (p : Policy) : Outcome (Uncached δ) Unit where
  result := .ok ()
  calls := p.directives.map .tell
  next := u.tell p.directives

/-- Pushes the policy that is computed on the spot. -/
def apply (u : Uncached δ) : Outcome (Uncached δ) Unit :=
  if u.reading.admin then
    match u.compute.result with
    | .ok p => { u.push p with calls := .ask .admin :: (u.push p).calls }
    | .error fault => { result := .error fault, calls := [.ask .admin], next := u }
  else { result := .error .notAdmin, calls := [.ask .admin], next := u }

def wipe (u : Uncached δ) : Outcome (Uncached δ) Unit :=
  if u.reading.admin then
    { result := .ok (), calls := [.ask .admin, .tell .wipe], next := u.tell [.wipe] }
  else { result := .error .notAdmin, calls := [.ask .admin], next := u }

/-- Takes note of an event. Only the way into the enabled phase does
more than that: it applies what is computed then. -/
def handle (u : Uncached δ) (event : Event) : Outcome (Uncached δ) Transition :=
  let t : Transition := ⟨u.phase, u.phase.after event⟩
  let moved := { u with phase := t.target }
  if t = ⟨.disabled, .enabled⟩ then
    { moved.apply with result := t.reported moved.apply.result }
  else { result := .ok t, next := moved }

def serve (u : Uncached δ) : Request → Outcome (Uncached δ) Answer
  | .compute | .aggregate => u.compute.map .policy
  | .invalidate _ | .invalidateAll => { result := .ok .done, next := u }
  | .supports p => { result := .ok (.flag (u.rules.supports p)), next := u }
  | .evaluate policy? => (u.evaluate policy?).map .verdict
  | .satisfied policy? => ((u.evaluate policy?).map Verdict.satisfied).map .flag
  | .isAdmin => { result := .ok (.flag u.reading.admin), calls := [.ask .admin], next := u }
  | .rules => { result := .ok (.rules u.rules), next := u }
  | .apply => u.apply.map fun _ => .done
  | .wipe _ => u.wipe.map fun _ => .done
  | .notify _ => { result := .ok (.flag !u.notified), next := { u with notified := true } }
  | .dismiss _ => { result := .ok .done, next := { u with notified := false } }
  | .handle event => (u.handle event).map .transition

def step (u : Uncached δ) : Step δ → Outcome (Uncached δ) Answer
  | .request r => u.serve r
  | .change e => { result := .ok (u.undergo e).1, next := (u.undergo e).2 }
  | .push p => (u.push p).map fun _ => .done

/-- The outcomes of the steps of a run. -/
def run (u : Uncached δ) : List (Step δ) → List (Outcome (Uncached δ) Answer)
  | [] => []
  | s :: steps => u.step s :: run (u.step s).next steps

/-! Equations for the operations that depend on the administrator. -/

theorem evaluate_of_inactive {u : Uncached δ} (h : u.reading.admin = false)
    (policy? : Option Policy) :
    u.evaluate policy? =
      { result := .ok (if u.rules.override then .overridden else .adminInactive)
        calls := [.ask .admin]
        next := u } := by
  simp [evaluate, Rules.admission, h]

theorem evaluate_some {u : Uncached δ} (h : u.reading.admin = true) (p : Policy) :
    u.evaluate (some p) =
      { result := .ok (p.inspect u.reading).verdict
        calls := .ask .admin :: (p.inspect u.reading).asked.map .ask
        next := u } := by
  simp [evaluate, Rules.evaluate, Rules.admission, h]

theorem evaluate_none_of_ok {u : Uncached δ} {p : Policy} (h : u.reading.admin = true)
    (hread : u.rows.strictest = .ok p) : u.evaluate none = u.evaluate (some p) := by
  simp [evaluate, Rules.admission, h, compute, hread]

theorem evaluate_none_of_error {u : Uncached δ} {fault : Fault}
    (h : u.reading.admin = true) (hread : u.rows.strictest = .error fault) :
    u.evaluate none = { result := .error fault, calls := [.ask .admin], next := u } := by
  simp [evaluate, Rules.admission, h, compute, hread]

theorem apply_of_inactive {u : Uncached δ} (h : u.reading.admin = false) :
    u.apply = { result := .error .notAdmin, calls := [.ask .admin], next := u } := by
  simp [apply, h]

theorem apply_of_ok {u : Uncached δ} {p : Policy} (h : u.reading.admin = true)
    (hread : u.rows.strictest = .ok p) :
    u.apply =
      { result := .ok ()
        calls := .ask .admin :: p.directives.map .tell
        next := u.tell p.directives } := by
  simp [apply, h, compute, hread, push]

theorem apply_of_error {u : Uncached δ} {fault : Fault} (h : u.reading.admin = true)
    (hread : u.rows.strictest = .error fault) :
    u.apply = { result := .error fault, calls := [.ask .admin], next := u } := by
  simp [apply, h, compute, hread]

end Uncached

/-! ## Seeing one coordinator as the other -/

/-- The same outcome with another view of the state. -/
def Outcome.view {σ τ α : Type} (f : σ → τ) (o : Outcome σ α) : Outcome τ α :=
  { o with next := f o.next }

theorem Outcome.view_map {σ τ α β : Type} (f : σ → τ) (g : α → β) (o : Outcome σ α) :
    (o.map g).view f = (o.view f).map g := rfl

namespace Coordinator

variable {δ : Type}

/-- All of the coordinator but what it keeps and how often it has read. -/
def uncached (c : Coordinator δ) : Uncached δ where
  rules := c.rules
  device := c.device
  rows := c.rows
  notified := c.notified
  phase := c.phase

@[simp] theorem uncached_aggregate (c : Coordinator δ) :
    c.aggregate.next.uncached = c.uncached := by
  obtain ⟨cache, scans, hnext⟩ := c.aggregate_next
  rw [hnext]
  rfl

theorem aggregate_view {c : Coordinator δ} (h : c.Fresh) :
    c.aggregate.view uncached = c.uncached.compute := by
  simp only [Outcome.view, uncached_aggregate, aggregate_calls, aggregate_result h]
  rfl

theorem undergo_view (c : Coordinator δ) (e : Change δ) :
    ((c.undergo e).1, (c.undergo e).2.uncached) = c.uncached.undergo e := by
  cases e <;> rfl

variable [Device δ]

theorem uncached_tell (c : Coordinator δ) (ds : List Directive) :
    (c.tell ds).uncached = c.uncached.tell ds := rfl

theorem evaluate_view {c : Coordinator δ} {policy? : Option Policy}
    (h : policy? = none → c.Fresh) :
    (c.evaluate policy?).view uncached = c.uncached.evaluate policy? := by
  cases hadmin : c.reading.admin with
  | false =>
      have hadmin' : c.uncached.reading.admin = false := hadmin
      rw [evaluate_of_inactive hadmin, Uncached.evaluate_of_inactive hadmin']
      rfl
  | true =>
      have hadmin' : c.uncached.reading.admin = true := hadmin
      have hsome (p : Policy) :
          (c.evaluate (some p)).view uncached = c.uncached.evaluate (some p) := by
        rw [evaluate_some hadmin, Uncached.evaluate_some hadmin']
        rfl
      cases policy? with
      | some p => exact hsome p
      | none =>
          have hresult := aggregate_result (h rfl)
          cases hread : c.rows.strictest with
          | ok p =>
              rw [evaluate_none_of_ok hadmin (hresult.trans hread),
                Uncached.evaluate_none_of_ok hadmin' hread, ← hsome p,
                evaluate_some hadmin]
              simp only [Outcome.view, uncached_aggregate]
          | error fault =>
              rw [evaluate_none_of_error hadmin (hresult.trans hread),
                Uncached.evaluate_none_of_error hadmin' hread]
              simp only [Outcome.view, uncached_aggregate]

theorem apply_view {c : Coordinator δ} (h : c.Fresh) :
    c.apply.view uncached = c.uncached.apply := by
  cases hadmin : c.reading.admin with
  | false =>
      have hadmin' : c.uncached.reading.admin = false := hadmin
      rw [apply_of_inactive hadmin, Uncached.apply_of_inactive hadmin']
      rfl
  | true =>
      have hadmin' : c.uncached.reading.admin = true := hadmin
      have hresult := aggregate_result h
      cases hread : c.rows.strictest with
      | ok p =>
          rw [apply_of_ok hadmin (hresult.trans hread), Uncached.apply_of_ok hadmin' hread]
          simp only [Outcome.view, uncached_tell, uncached_aggregate]
      | error fault =>
          rw [apply_of_error hadmin (hresult.trans hread),
            Uncached.apply_of_error hadmin' hread]
          simp only [Outcome.view, uncached_aggregate]

theorem wipe_view (c : Coordinator δ) : c.wipe.view uncached = c.uncached.wipe := by
  unfold wipe Uncached.wipe
  cases hadmin : c.reading.admin with
  | false =>
      have hadmin' : c.uncached.reading.admin = false := hadmin
      rw [hadmin']
      rfl
  | true =>
      have hadmin' : c.uncached.reading.admin = true := hadmin
      rw [hadmin']
      rfl

/-- A change of phase forgets before it looks, so this holds of any
coordinator, fresh or not. -/
theorem handle_view (c : Coordinator δ) (event : Event) :
    (c.handle event).view uncached = c.uncached.handle event := by
  rcases c.phase.after_cases event with hsame | ⟨hphase, rfl⟩ | ⟨hphase, rfl⟩
  · have hne : (⟨c.phase, c.phase⟩ : Transition) ≠ ⟨.disabled, .enabled⟩ := by
      cases c.phase <;> decide
    simp only [handle_of_same hsame, Uncached.handle, uncached, hsame, hne, if_false, Outcome.view]
  · rw [handle_of_disable hphase]
    simp [Uncached.handle, uncached, hphase, Outcome.view, Phase.after, invalidate]
  · have hview := apply_view (fresh_invalidate { c with phase := .enabled })
    have hhandle : c.uncached.handle .enabled =
        { ({ c with phase := .enabled }.invalidate).uncached.apply with
          result := Transition.reported ⟨.disabled, .enabled⟩
            ({ c with phase := .enabled }.invalidate).uncached.apply.result } := by
      simp [Uncached.handle, uncached, invalidate, hphase, Phase.after]
    rw [handle_of_enable hphase, hhandle, ← hview]
    rfl

end Coordinator

/-! ## Whole runs -/

section Schedule

variable {δ : Type}

/-- Whether the step tells the coordinator that rows have changed. -/
def Step.invalidates : Step δ → Bool
  | .request (.invalidate _) | .request .invalidateAll => true
  | _ => false

/-- Whether the step may look at the strictest policy without reading
the rows. An event does not: it forgets before it looks. -/
def Step.looks : Step δ → Bool
  | .request .aggregate | .request (.evaluate none) | .request (.satisfied none)
  | .request .apply => true
  | _ => false

/-- Nothing looks at the strictest policy before an invalidation. -/
def guarded : List (Step δ) → Bool
  | [] => true
  | s :: steps => s.invalidates || (!s.looks && guarded steps)

/-- After each change of the rows, nothing looks at the strictest policy
before an invalidation. -/
def announced : List (Step δ) → Bool
  | [] => true
  | s :: steps => (!s.writesRows || guarded steps) && announced steps

/-- No step both tells of a change and looks. -/
theorem Step.looks_of_invalidates {s : Step δ} (h : s.invalidates = true) : s.looks = false := by
  cases s with
  | request r => cases r <;> first | rfl | cases h
  | change _ => cases h
  | push _ => cases h

end Schedule

namespace Coordinator

variable {δ : Type} [Device δ]

theorem serve_view {c : Coordinator δ} {r : Request}
    (h : (Step.request r : Step δ).looks = true → c.Fresh) :
    (c.serve r).view uncached = c.uncached.serve r := by
  cases r with
  | compute => rfl
  | aggregate => rw [serve, Outcome.view_map, aggregate_view (h rfl), Uncached.serve]
  | invalidate _ => rfl
  | invalidateAll => rfl
  | supports _ => rfl
  | evaluate policy? =>
      have hview : (c.evaluate policy?).view uncached = c.uncached.evaluate policy? :=
        evaluate_view fun hnone => h (by rw [hnone]; rfl)
      rw [serve, Outcome.view_map, hview, Uncached.serve]
  | satisfied policy? =>
      have hview : (c.evaluate policy?).view uncached = c.uncached.evaluate policy? :=
        evaluate_view fun hnone => h (by rw [hnone]; rfl)
      rw [serve, satisfied, Outcome.view_map, Outcome.view_map, hview, Uncached.serve]
  | isAdmin => rfl
  | rules => rfl
  | apply => rw [serve, Outcome.view_map, apply_view (h rfl), Uncached.serve]
  | wipe _ => rw [serve, Outcome.view_map, c.wipe_view, Uncached.serve]
  | notify _ => rfl
  | dismiss _ => rfl
  | handle event => rw [serve, Outcome.view_map, c.handle_view, Uncached.serve]

theorem step_view {c : Coordinator δ} {s : Step δ} (h : s.looks = true → c.Fresh) :
    (c.step s).view uncached = c.uncached.step s := by
  cases s with
  | request r => exact serve_view h
  | change e =>
      have hchange := c.undergo_view e
      rw [step, Uncached.step, ← hchange]
      rfl
  | push p => rfl

theorem fresh_of_invalidates {c : Coordinator δ} {s : Step δ} (h : s.invalidates = true) :
    (c.step s).next.Fresh := by
  cases s with
  | request r =>
      cases r with
      | invalidate _ => exact fresh_invalidate c
      | invalidateAll => exact fresh_invalidate c
      | _ => cases h
  | change _ => cases h
  | push _ => cases h

theorem run_view {c : Coordinator δ} {steps : List (Step δ)} (hannounced : announced steps = true)
    (h : c.Fresh ∨ guarded steps = true) :
    (c.run steps).map (Outcome.view uncached) = c.uncached.run steps := by
  -- over the steps, with the state of freshness for every coordinator
  induction steps generalizing c with
  | nil => rfl
  | cons s steps ih =>
      simp only [announced, Bool.and_eq_true, Bool.or_eq_true, Bool.not_eq_true'] at hannounced
      obtain ⟨hwrites, hannounced⟩ := hannounced
      have hguard : c.Fresh ∨ s.invalidates = true ∨ s.looks = false ∧ guarded steps = true := by
        simpa only [guarded, Bool.or_eq_true, Bool.and_eq_true, Bool.not_eq_true'] using h
      have hlooks : s.looks = true → c.Fresh := by
        intro hlook
        rcases hguard with hfresh | hinv | ⟨hno, -⟩
        · exact hfresh
        · rw [Step.looks_of_invalidates hinv] at hlook
          cases hlook
        · rw [hno] at hlook
          cases hlook
      have hnext : (c.step s).next.Fresh ∨ guarded steps = true := by
        rcases hwrites with hquiet | hguarded
        · rcases hguard with hfresh | hinv | ⟨-, hguarded⟩
          · exact Or.inl (hfresh.step hquiet)
          · exact Or.inl (fresh_of_invalidates hinv)
          · exact Or.inr hguarded
        · exact Or.inr hguarded
      have hstep := step_view hlooks
      have hstate : (c.step s).next.uncached = (c.uncached.step s).next :=
        congrArg Outcome.next hstep
      rw [run, Uncached.run, List.map_cons, hstep, ih hannounced hnext, hstate]

/-- **The cache cannot be told.** Start a coordinator with any rules,
device, rows and phase, and take it through any steps that announce
their changes of the rows. After each of them its result, its calls, and
its device, rows, notification and phase are those of the coordinator
without a cache. -/
theorem run_eq_uncached (rules : Rules) (device : δ) (rows : Accounts) (phase : Phase)
    {steps : List (Step δ)} (h : announced steps = true) :
    (run { rules, device, rows, phase } steps).map (Outcome.view uncached)
      = Uncached.run { rules, device, rows, phase } steps :=
  run_view h (Or.inl (fresh_of_cache_none rfl))

/-- A policy is read and kept, a row is written, and a look comes only
after the invalidation. -/
theorem run_eq_uncached_of_announced :
    let steps : List (Step PlainDevice) :=
      [.request .aggregate, .change (.store 7 { minLength := 8 }), .request .isAdmin,
        .request (.invalidate 7), .request .apply, .request (.handle .enabled)]
    announced steps = true
      ∧ (run { device := { admin := true } } steps).map (Outcome.view uncached)
        = Uncached.run { device := { admin := true } } steps := by
  intro steps
  have hannounced : announced steps = true := rfl
  exact ⟨hannounced, run_eq_uncached {} { admin := true } [] .disabled hannounced⟩

end Coordinator

end LockPolicy
