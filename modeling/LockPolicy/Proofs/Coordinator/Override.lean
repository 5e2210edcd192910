import LockPolicy.Proofs.Coordinator.Uncached

/-!
# What the override can do

The override answers in place of an administrator who is not there, and
nothing else may depend on it. To see this, run two coordinators through
the same steps that differ in the override alone. One step leaves them
with the same difference and with the same calls made
(`step_withOverride`), so every run does (`after_withOverride`): what is
read, kept, pushed or erased is the same. The answers differ only where
`Step.Sways` says so, which is where a check finds no administrator, and
where the rules themselves are asked for.
-/

namespace LockPolicy

variable {δ : Type}

def Rules.withOverride (rules : Rules) (on : Bool) : Rules :=
  { rules with override := on }

/-- How the results of a step compare, the override off and on, on a
device that has an administrator or not. -/
def Step.Sways (s : Step δ) (admin : Bool) (off on : Except Fault Answer) : Prop :=
  match s, admin with
  | .request (.evaluate _), false =>
    off = .ok (.verdict .adminInactive) ∧ on = .ok (.verdict .overridden)
  | .request (.satisfied _), false => off = .ok (.flag false) ∧ on = .ok (.flag true)
  | .request .rules, _ =>
    ∃ rules : Rules, off = .ok (.rules (rules.withOverride false))
      ∧ on = .ok (.rules (rules.withOverride true))
  | _, _ => on = off

namespace Coordinator

def withOverride (c : Coordinator δ) (on : Bool) : Coordinator δ :=
  { c with rules := c.rules.withOverride on }

theorem withOverride_withOverride (c : Coordinator δ) (on on' : Bool) :
    (c.withOverride on).withOverride on' = c.withOverride on' := rfl

theorem aggregate_withOverride (c : Coordinator δ) (on : Bool) :
    (c.withOverride on).aggregate = c.aggregate.view (·.withOverride on) := by
  rcases c.aggregate_cases with
    ⟨p, hcache, heq⟩ | ⟨p, hcache, hread, heq⟩ | ⟨fault, hcache, hread, heq⟩
  · rw [heq, aggregate_of_some (c := c.withOverride on) hcache]
    rfl
  · rw [heq, aggregate_of_ok (c := c.withOverride on) hcache hread]
    rfl
  · rw [heq, aggregate_of_error (c := c.withOverride on) hcache hread]
    rfl

theorem aggregate_result_withOverride (c : Coordinator δ) (on : Bool) :
    (c.withOverride on).aggregate.result = c.aggregate.result := by
  rw [aggregate_withOverride]
  rfl

theorem undergo_withOverride (c : Coordinator δ) (on : Bool) (e : Change δ) :
    (c.withOverride on).undergo e = ((c.undergo e).1, (c.undergo e).2.withOverride on) := by
  cases e <;> rfl

variable [Device δ]

theorem evaluate_withOverride {c : Coordinator δ} (h : c.reading.admin = true) (on : Bool)
    (policy? : Option Policy) :
    (c.withOverride on).evaluate policy? = (c.evaluate policy?).view (·.withOverride on) := by
  have h' : (c.withOverride on).reading.admin = true := h
  cases policy? with
  | some p =>
      rw [evaluate_some h, evaluate_some h']
      rfl
  | none =>
      have hresult := c.aggregate_result_withOverride on
      cases hread : c.aggregate.result with
      | ok p =>
          rw [evaluate_none_of_ok h hread, evaluate_none_of_ok h' (hresult.trans hread),
            aggregate_withOverride, evaluate_some h, evaluate_some h']
          rfl
      | error fault =>
          rw [evaluate_none_of_error h hread, evaluate_none_of_error h' (hresult.trans hread),
            aggregate_withOverride]
          rfl

theorem apply_withOverride (c : Coordinator δ) (on : Bool) :
    (c.withOverride on).apply = c.apply.view (·.withOverride on) := by
  cases h : c.reading.admin with
  | false =>
      have h' : (c.withOverride on).reading.admin = false := h
      rw [apply_of_inactive h, apply_of_inactive h']
      rfl
  | true =>
      have h' : (c.withOverride on).reading.admin = true := h
      have hresult := c.aggregate_result_withOverride on
      cases hread : c.aggregate.result with
      | ok p =>
          rw [apply_of_ok h hread, apply_of_ok h' (hresult.trans hread), aggregate_withOverride]
          rfl
      | error fault =>
          rw [apply_of_error h hread, apply_of_error h' (hresult.trans hread),
            aggregate_withOverride]
          rfl

theorem wipe_withOverride (c : Coordinator δ) (on : Bool) :
    (c.withOverride on).wipe = c.wipe.view (·.withOverride on) := by
  cases h : c.reading.admin with
  | false =>
      have h' : (c.withOverride on).reading.admin = false := h
      rw [wipe_of_inactive h, wipe_of_inactive h']
      rfl
  | true =>
      have h' : (c.withOverride on).reading.admin = true := h
      rw [wipe_of_active h, wipe_of_active h']
      rfl

theorem handle_withOverride (c : Coordinator δ) (on : Bool) (event : Event) :
    (c.withOverride on).handle event = (c.handle event).view (·.withOverride on) := by
  rcases c.phase.after_cases event with hsame | ⟨hphase, rfl⟩ | ⟨hphase, rfl⟩
  · rw [handle_of_same hsame, handle_of_same (c := c.withOverride on) hsame]
    rfl
  · rw [handle_of_disable hphase, handle_of_disable (c := c.withOverride on) hphase]
    rfl
  · have hmoved : { c.withOverride on with phase := .enabled }.invalidate
        = { c with phase := .enabled }.invalidate.withOverride on := rfl
    rw [handle_of_enable hphase, handle_of_enable (c := c.withOverride on) hphase, hmoved,
      apply_withOverride]
    rfl

/-! ## Steps and runs -/

/-- What the step answers for the override, where it does so. -/
def answerFor? (c : Coordinator δ) (on : Bool) : Step δ → Option Answer
  | .request (.evaluate _) =>
    if c.reading.admin then none
    else some (.verdict (if on then .overridden else .adminInactive))
  | .request (.satisfied _) => if c.reading.admin then none else some (.flag on)
  | .request .rules => some (.rules (c.rules.withOverride on))
  | _ => none

/-- Whatever the override is, a step comes to the same but for the answers
that it gives for it. -/
theorem step_withOverride (c : Coordinator δ) (on : Bool) (s : Step δ) :
    (c.withOverride on).step s =
      { (c.step s).view (·.withOverride on) with
        result := (c.answerFor? on s).elim (c.step s).result .ok } := by
  cases s with
  | change e =>
      rw [step, undergo_withOverride]
      rfl
  | push p => rfl
  | request r =>
      cases r with
      | compute => rfl
      | aggregate =>
          rw [step, serve, aggregate_withOverride]
          rfl
      | invalidate _ => rfl
      | invalidateAll => rfl
      | supports _ => rfl
      | evaluate policy? =>
          cases h : c.reading.admin with
          | true =>
              rw [step, serve, evaluate_withOverride h, answerFor?, h]
              rfl
          | false =>
              have h' : (c.withOverride on).reading.admin = false := h
              rw [step, step, serve, serve, evaluate_of_inactive h, evaluate_of_inactive h',
                answerFor?, h]
              rfl
      | satisfied policy? =>
          cases h : c.reading.admin with
          | true =>
              rw [step, serve, satisfied, evaluate_withOverride h, answerFor?, h]
              rfl
          | false =>
              have h' : (c.withOverride on).reading.admin = false := h
              rw [step, step, serve, serve, satisfied, satisfied, evaluate_of_inactive h,
                evaluate_of_inactive h', answerFor?, h]
              cases on <;> rfl
      | isAdmin => rfl
      | rules => rfl
      | apply =>
          rw [step, serve, apply_withOverride]
          rfl
      | wipe _ =>
          rw [step, serve, wipe_withOverride]
          rfl
      | notify _ => rfl
      | dismiss _ => rfl
      | handle event =>
          rw [step, serve, handle_withOverride]
          rfl

theorem after_withOverride (c : Coordinator δ) (on : Bool) (steps : List (Step δ)) :
    (c.withOverride on).after steps = (c.after steps).withOverride on := by
  induction steps generalizing c with
  | nil => rfl
  | cons s steps ih =>
      have hnext : ((c.withOverride on).step s).next = (c.step s).next.withOverride on := by
        rw [step_withOverride]
        rfl
      calc (c.withOverride on).after (s :: steps)
          = ((c.withOverride on).step s).next.after steps := rfl
        _ = ((c.step s).next.after steps).withOverride on := by rw [hnext, ih]

theorem step_sways (c : Coordinator δ) (s : Step δ) :
    s.Sways c.reading.admin ((c.withOverride false).step s).result
      ((c.withOverride true).step s).result := by
  rw [step_withOverride, step_withOverride]
  cases s with
  | change _ => rfl
  | push _ => rfl
  | request r =>
      cases r with
      | rules => exact ⟨c.rules, rfl, rfl⟩
      | evaluate policy? =>
          cases h : c.reading.admin with
          | true => simp only [answerFor?, h, Step.Sways, if_true, Option.elim]
          | false => simp [answerFor?, h, Step.Sways]
      | satisfied policy? =>
          cases h : c.reading.admin with
          | true => simp only [answerFor?, h, Step.Sways, if_true, Option.elim]
          | false => simp [answerFor?, h, Step.Sways]
      | _ => rfl

/-- **The override answers for an absent administrator, and does nothing
else.** Two coordinators that differ in the override alone are taken
through the same steps. After any of them they still differ in that
alone, device, rows, cache, count of readings, notification and phase
being the same, and the next step makes the same calls. Its results are
the same too, failures included, unless it is a check without an
administrator or asks for the rules. -/
theorem override_confined (c : Coordinator δ) (before : List (Step δ)) (s : Step δ) :
    let off := (c.withOverride false).after before
    let on := (c.withOverride true).after before
    on = off.withOverride true
      ∧ (on.step s).next = (off.step s).next.withOverride true
      ∧ (on.step s).calls = (off.step s).calls
      ∧ s.Sways off.reading.admin (off.step s).result (on.step s).result := by
  intro off on
  have hoff : off = (c.after before).withOverride false := c.after_withOverride false before
  have hon : on = (c.after before).withOverride true := c.after_withOverride true before
  have hadmin : off.reading.admin = (c.after before).reading.admin := by rw [hoff]; rfl
  refine ⟨?same, ?next, ?calls, ?answers⟩
  case same => rw [hoff, hon, withOverride_withOverride]
  case next => rw [hoff, hon, step_withOverride, step_withOverride]; rfl
  case calls => rw [hoff, hon, step_withOverride, step_withOverride]; rfl
  case answers =>
    rw [hadmin, hoff, hon]
    exact (c.after before).step_sways s

end Coordinator

end LockPolicy
