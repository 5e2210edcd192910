import LockPolicy.Proofs.Accounts.FailClosed
import LockPolicy.Proofs.Coordinator.Fresh
import LockPolicy.Proofs.Coordinator.Sanction

/-!
# Phases over whole runs

The phase belongs to the host: it is what the last report said, and
nothing that comes of a report changes that, not even a fault
(`after_phase`). What a report does beyond that is settled by the phase
that it finds. One that says what is known does nothing at all. One that
moves the phase drops what is kept before anything else, so that what the
way into the enabled phase pushes is read from the rows as they are.

Only that way can fail, and only for a row that holds no policy. The
device is then asked for its administrator and told nothing, and the
phase has moved (`handle_follows_reports`).
-/

namespace LockPolicy

/-- If each step either settles what is seen of a state or leaves it alone,
then after a run it is as the last step that settles it has left it. -/
theorem view_foldl {σ ι α : Type} {step : σ → ι → σ} (view : σ → α) {word : ι → Option α}
    (hstep : ∀ s i, view (step s i) = (word i).getD (view s)) (s : σ) (steps : List ι) :
    view (steps.foldl step s) = (steps.reverse.findSome? word).getD (view s) := by
  induction steps generalizing s with
  | nil => rfl
  | cons i steps ih =>
      have hlast : (i :: steps).reverse.findSome? word
          = (steps.reverse.findSome? word).or (word i) := by
        rw [List.reverse_cons, List.findSome?_append, List.findSome?_singleton]
      calc view ((i :: steps).foldl step s)
          = view (steps.foldl step (step s i)) := rfl
        _ = (steps.reverse.findSome? word).getD ((word i).getD (view s)) := by rw [ih, hstep]
        _ = ((i :: steps).reverse.findSome? word).getD (view s) := by
          rw [hlast]
          cases steps.reverse.findSome? word <;> rfl

/-- The phase that the event reports, if it reports one. -/
def Event.named? : Event → Option Phase
  | .enabled => some .enabled
  | .disabled => some .disabled
  | .passwordChanged | .passwordFailed => none

theorem Phase.after_eq (phase : Phase) (event : Event) :
    phase.after event = event.named?.getD phase := by
  cases event <;> rfl

def Step.named? {δ : Type} : Step δ → Option Phase
  | .request (.handle event) => event.named?
  | _ => none

/-- The phase that the last report in the run has named. -/
def lastNamed? {δ : Type} (steps : List (Step δ)) : Option Phase :=
  steps.reverse.findSome? Step.named?

namespace Coordinator

variable {δ : Type} [Device δ]

/-! ## The phase -/

theorem evaluate_phase (c : Coordinator δ) (policy? : Option Policy) :
    (c.evaluate policy?).next.phase = c.phase := by
  obtain ⟨cache, scans, asked, -, hnext⟩ := c.evaluate_asks policy?
  rw [hnext]

theorem wipe_phase (c : Coordinator δ) : c.wipe.next.phase = c.phase := by
  obtain ⟨device, hnext⟩ := c.wipe_next
  rw [hnext]

/-- A step moves the phase to the one that it reports, and to no other. -/
theorem step_phase (c : Coordinator δ) (s : Step δ) :
    (c.step s).next.phase = s.named?.getD c.phase := by
  cases s with
  | change e => cases e <;> rfl
  | push p => rfl
  | request r =>
      cases r with
      | aggregate => exact c.aggregate_phase
      | evaluate policy? => exact c.evaluate_phase policy?
      | satisfied policy? => exact c.evaluate_phase policy?
      | apply => exact c.apply_phase
      | wipe _ => exact c.wipe_phase
      | handle event => exact (c.handle_phase event).trans (c.phase.after_eq event)
      | _ => rfl

theorem after_phase (c : Coordinator δ) (steps : List (Step δ)) :
    (c.after steps).phase = (lastNamed? steps).getD c.phase :=
  view_foldl Coordinator.phase step_phase c steps

/-! ## What comes of an event -/

/-- What an event comes to. It says what is known, or leaves the enabled
phase, or enters it; and on the way in the device may not name this
process yet, and the rows may be damaged. -/
inductive Handled (c : Coordinator δ) : Event → Outcome (Coordinator δ) Transition → Prop
  | known {event : Event} (h : event.named? = none ∨ event.named? = some c.phase) :
      Handled c event { result := .ok ⟨c.phase, c.phase⟩, calls := [], next := c }
  | left (hphase : c.phase = .enabled) :
      Handled c .disabled
        { result := .ok ⟨.enabled, .disabled⟩
          calls := []
          next := { c with phase := .disabled, cache := none } }
  | early (hphase : c.phase = .disabled) (hadmin : c.reading.admin = false) :
      Handled c .enabled
        { result := .ok ⟨.disabled, .enabled⟩
          calls := [.ask .admin]
          next := { c with phase := .enabled, cache := none } }
  /-- Whatever was kept, the merge of the rows is pushed, and kept. -/
  | entered {ps : List Policy} (hphase : c.phase = .disabled) (hadmin : c.reading.admin = true)
      (hrows : c.rows.policies = .ok ps) :
      Handled c .enabled
        { result := .ok ⟨.disabled, .enabled⟩
          calls := (Policy.merge ps).enforcement
          next := { c with
            phase := .enabled
            cache := some (Policy.merge ps)
            scans := c.scans + 1
            device := Device.obeyAll c.device (Policy.merge ps).directives } }
  /-- The row is the first that holds no policy. -/
  | refused {row : Row} (hphase : c.phase = .disabled) (hadmin : c.reading.admin = true)
      (hrow : c.rows.find? Row.reserved = some row) :
      Handled c .enabled
        { result := .error (.unreadable row.flags row.mode)
          calls := [.ask .admin]
          next := { c with phase := .enabled, cache := none, scans := c.scans + 1 } }

variable {c : Coordinator δ} {event : Event} {o : Outcome (Coordinator δ) Transition}

theorem handle_enable_of_policies {ps : List Policy} (hphase : c.phase = .disabled)
    (hadmin : c.reading.admin = true) (hrows : c.rows.policies = .ok ps) :
    c.handle .enabled =
      { result := .ok ⟨.disabled, .enabled⟩
        calls := (Policy.merge ps).enforcement
        next := { c with
          phase := .enabled
          cache := some (Policy.merge ps)
          scans := c.scans + 1
          device := Device.obeyAll c.device (Policy.merge ps).directives } } := by
  have hread := Accounts.strictest_of_policies hrows
  have hlookup := aggregate_of_ok (c := { c with phase := .enabled }.invalidate) rfl hread
  rw [handle_enable_of_ok hphase hadmin hread, hlookup, Policy.enforcement_eq]
  rfl

theorem handle_enable_of_reserved {row : Row} (hphase : c.phase = .disabled)
    (hadmin : c.reading.admin = true) (hrow : c.rows.find? Row.reserved = some row) :
    c.handle .enabled =
      { result := .error (.unreadable row.flags row.mode)
        calls := [.ask .admin]
        next := { c with phase := .enabled, cache := none, scans := c.scans + 1 } } :=
  handle_enable_of_error hphase hadmin (Accounts.strictest_of_find? hrow) nofun

theorem handled (c : Coordinator δ) (event : Event) : c.Handled event (c.handle event) := by
  rcases c.phase.after_cases event with hsame | ⟨hphase, rfl⟩ | ⟨hphase, rfl⟩
  · rw [handle_of_same hsame]
    rw [Phase.after_eq] at hsame
    refine .known ?_
    cases hnamed : event.named? with
    | none => exact Or.inl rfl
    | some phase => exact Or.inr (by rw [← hsame, hnamed, Option.getD_some])
  · rw [handle_of_disable hphase]
    exact .left hphase
  · cases hadmin : c.reading.admin with
    | false =>
        rw [handle_enable_of_inactive hphase hadmin]
        exact .early hphase hadmin
    | true =>
        cases hrows : c.rows.policies with
        | ok ps =>
            rw [handle_enable_of_policies hphase hadmin hrows]
            exact .entered hphase hadmin hrows
        | error fault =>
            obtain ⟨row, hrow, -⟩ := Accounts.policies_eq_error_iff.mp hrows
            rw [handle_enable_of_reserved hphase hadmin hrow]
            exact .refused hphase hadmin hrow

/-- Nothing else comes of it. -/
theorem Handled.eq_handle (h : c.Handled event o) : o = c.handle event := by
  cases h with
  | known h =>
      have hsame : c.phase.after event = c.phase := by
        rw [Phase.after_eq]
        rcases h with h | h <;> rw [h] <;> rfl
      exact (handle_of_same hsame).symm
  | left hphase => exact (handle_of_disable hphase).symm
  | early hphase hadmin => exact (handle_enable_of_inactive hphase hadmin).symm
  | entered hphase hadmin hrows => exact (handle_enable_of_policies hphase hadmin hrows).symm
  | refused hphase hadmin hrow => exact (handle_enable_of_reserved hphase hadmin hrow).symm

/-- The answer, if there is one, is the way from the old phase to the
new. -/
theorem Handled.result_ok (h : c.Handled event o) {t : Transition} (ht : o.result = .ok t) :
    t = ⟨c.phase, o.next.phase⟩ := by
  cases h with
  | refused => cases ht
  | known => exact (Except.ok.inj ht).symm
  | left hphase | early hphase | entered hphase =>
      rw [hphase]
      exact (Except.ok.inj ht).symm

/-- Of all that may come of an event only a refusal is a fault. -/
theorem Handled.result_error (h : c.Handled event o) {fault : Fault}
    (hfault : o.result = .error fault) :
    c.phase = .disabled ∧ event = .enabled ∧ c.reading.admin = true
      ∧ (∃ row, c.rows.find? Row.reserved = some row
          ∧ fault = .unreadable row.flags row.mode)
      ∧ told o.calls = [] := by
  cases h with
  | refused hphase hadmin hrow =>
      exact ⟨hphase, rfl, hadmin, ⟨_, hrow, (Except.error.inj hfault).symm⟩, rfl⟩
  | known | left | early | entered => cases hfault

/-- **The phase follows the reports.** Let any run have gone before on a
coordinator in any state. An event leaves the phase that the last report
names, the first phase if there was no report, whatever comes of it. What
comes of it is one of five things, of which each fits one situation
(`Handled`). It is a fault exactly on the way into the enabled phase,
under an administrator, for the first row that holds no policy, and then
nothing was told to the device. Otherwise it is the way from the old
phase to the new one. -/
theorem handle_follows_reports (c : Coordinator δ) (before : List (Step δ)) (event : Event) :
    let d := c.after before
    let o := d.handle event
    o.next.phase = (lastNamed? (before ++ [.request (.handle event)])).getD c.phase
      ∧ (∀ o', d.Handled event o' ↔ o' = o)
      ∧ (∀ fault, o.result = .error fault ↔
          d.phase = .disabled ∧ event = .enabled ∧ d.reading.admin = true
            ∧ ∃ row, d.rows.find? Row.reserved = some row
                ∧ fault = .unreadable row.flags row.mode)
      ∧ (∀ fault, o.result = .error fault → fault ≠ .notAdmin ∧ told o.calls = [])
      ∧ ∀ t, o.result = .ok t → t = ⟨d.phase, o.next.phase⟩ := by
  intro d o
  have hhandled : d.Handled event o := d.handled event
  refine ⟨?phase, fun o' => ⟨Handled.eq_handle, ?handled⟩, fun fault => ⟨?only, ?refused⟩,
    ?untold, fun t => hhandled.result_ok⟩
  case phase =>
    have hrun := after_phase c (before ++ [.request (.handle event)])
    rwa [after, List.foldl_append] at hrun
  case handled =>
    rintro rfl
    exact hhandled
  case only =>
    intro hfault
    obtain ⟨hphase, hevent, hadmin, hrow, -⟩ := hhandled.result_error hfault
    exact ⟨hphase, hevent, hadmin, hrow⟩
  case refused =>
    rintro ⟨hphase, rfl, hadmin, row, hrow, rfl⟩
    exact congrArg Outcome.result (handle_enable_of_reserved hphase hadmin hrow)
  case untold =>
    intro fault hfault
    obtain ⟨-, -, -, ⟨row, -, rfl⟩, huntold⟩ := hhandled.result_error hfault
    exact ⟨nofun, huntold⟩

/-- A policy is kept, the rows are changed, and the phase is entered: what
the rows hold then is pushed. A damaged row is refused and the phase
entered nonetheless, so that a second report does nothing more. -/
theorem handle_follows_reports_of_damage :
    let c : Coordinator PlainDevice :=
      { device := { admin := true }, rows := [⟨1, Policy.toWord { minLength := 4 }⟩] }
    let p : Policy := ⟨8, .strong, 5, 300, true⟩
    let before : List (Step PlainDevice) := [.request .aggregate, .change (.store 1 p)]
    let damage : List (Step PlainDevice) := before ++ [.change (.push 2 0xe0)]
    let entry : List (Step PlainDevice) := [.request (.handle .enabled)]
    ((c.after before).handle .enabled).calls = p.enforcement
      ∧ ((c.after damage).handle .enabled).result = .error (.unreadable 0xe0 7)
      ∧ told ((c.after damage).handle .enabled).calls = []
      ∧ ((c.after (damage ++ entry)).handle .enabled).calls = []
      ∧ ((c.after (damage ++ entry)).handle .enabled).next.phase = .enabled := by
  intro c p before damage entry
  obtain ⟨-, hhandled, -⟩ := handle_follows_reports c before .enabled
  obtain ⟨-, -, hfault, huntold, -⟩ := handle_follows_reports c damage .enabled
  obtain ⟨hphase, hhandled', -⟩ := handle_follows_reports c (damage ++ entry) .enabled
  have hrows : (c.after before).rows.policies = .ok [p] := by decide
  have hentered := (hhandled _).mp (.entered (by decide) (by decide) hrows)
  have hmerge : Policy.merge [p] = p := by decide
  have hrefused : ((c.after damage).handle .enabled).result = .error (.unreadable 0xe0 7) :=
    (hfault _).mpr ⟨by decide, rfl, by decide, ⟨2, 0xe0⟩, by decide, by decide⟩
  have hstill : (c.after (damage ++ entry)).phase = .enabled := after_phase c _
  have hknown := (hhandled' _).mp (.known (Or.inr (congrArg some hstill.symm)))
  refine ⟨?_, hrefused, (huntold _ hrefused).2, ?_, hphase⟩
  · rw [← hentered, hmerge]
  · rw [← hknown]

end Coordinator

end LockPolicy
