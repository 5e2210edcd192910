import LockPolicy.Device.Plain
import LockPolicy.Proofs.Coordinator.Equations

/-!
# What the device is told, and when

A device may be asked at any time, but it must not be told anything
before it has named this process its administrator. There are three ways
in which a step may come to tell it something (`Sanctioned`), and in each
of them the question comes first, was answered with yes, and settles
together with the strictest policy what is said after it. The theorem is
that there is no fourth (`told_iff_sanctioned`): whatever the run before,
the step or the faults in it, other calls only ask.

The calls are also all that the device learns of a request: it comes out
of it as one that was told these directives (`serve_obeys`), and so it
does out of a run in which nobody else lays hands on it (`after_obeys`).
What is not sanctioned therefore leaves the device as it is
(`device_of_not_sanctioned`).

Policies pushed past the coordinator's checks (`Step.push`) are left out
here. They are told to the device as they are, administered or not.
-/

namespace LockPolicy

/-- What the device is told in the course of the calls. -/
def told (calls : List Call) : List Directive :=
  calls.filterMap fun
    | .ask _ => none
    | .tell d => some d

theorem told_map_ask (qs : List Query) : told (qs.map .ask) = [] := by
  rw [told, List.filterMap_eq_nil_iff]
  intro call hcall
  obtain ⟨q, -, rfl⟩ := List.mem_map.mp hcall
  rfl

theorem told_map_tell (ds : List Directive) : told (ds.map .tell) = ds := by
  rw [told, List.filterMap_map]
  exact List.filterMap_some

theorem told_append (first second : List Call) :
    told (first ++ second) = told first ++ told second :=
  List.filterMap_append ..

/-- The calls that put a policy into force: the question who administers
the device, and then each of its four settings once. -/
def Policy.enforcement (p : Policy) : List Call :=
  [.ask .admin, .tell (.quality p.strength.quality), .tell (.minLength p.minLength),
    .tell (.timeToLock (1000 * p.lockSeconds)), .tell (.maxFailures p.maxFailures)]

theorem Policy.enforcement_eq (p : Policy) :
    p.enforcement = .ask .admin :: p.directives.map .tell := by
  rw [enforcement, Nat.mul_comm]
  rfl

namespace Coordinator

variable {δ : Type} [Device δ]

/-- The calls of a step that tells the device something. Each way asks
the device for its administrator before, and is open only if it names
this process. -/
inductive Sanctioned (c : Coordinator δ) : Step δ → List Call → Prop
  | apply {p : Policy} (hadmin : c.reading.admin = true) (hread : c.aggregate.result = .ok p) :
      Sanctioned c (.request .apply) p.enforcement
  /-- What was kept is dropped on this way, so `p` is read from the rows. -/
  | enable {p : Policy} (hphase : c.phase = .disabled) (hadmin : c.reading.admin = true)
      (hread : { c with phase := .enabled }.invalidate.aggregate.result = .ok p) :
      Sanctioned c (.request (.handle .enabled)) p.enforcement
  | wipe (account : Int) (hadmin : c.reading.admin = true) :
      Sanctioned c (.request (.wipe account)) [.ask .admin, .tell .wipe]

variable {c : Coordinator δ} {s : Step δ} {calls : List Call}

theorem Sanctioned.told_ne_nil (h : c.Sanctioned s calls) : told calls ≠ [] := by
  cases h <;> exact List.cons_ne_nil _ _

theorem apply_calls_of_ok {p : Policy} (hadmin : c.reading.admin = true)
    (hread : c.aggregate.result = .ok p) : c.apply.calls = p.enforcement := by
  rw [apply_of_ok hadmin hread, p.enforcement_eq]

/-- A sanctioned step makes these calls indeed. -/
theorem Sanctioned.calls_eq (h : c.Sanctioned s calls) : (c.step s).calls = calls := by
  cases h with
  | apply hadmin hread => exact apply_calls_of_ok hadmin hread
  | enable hphase hadmin hread =>
      rw [step, serve, handle_of_enable hphase]
      exact apply_calls_of_ok hadmin hread
  | wipe account hadmin =>
      rw [step, serve, wipe_of_active hadmin]
      rfl

theorem told_evaluate (c : Coordinator δ) (policy? : Option Policy) :
    told (c.evaluate policy?).calls = [] := by
  obtain ⟨cache, scans, asked, hcalls, -⟩ := c.evaluate_asks policy?
  rw [hcalls, told_map_ask]

/-- To apply tells the device the strictest policy under the eyes of the
administrator, or nothing. -/
theorem told_apply (c : Coordinator δ) (h : told c.apply.calls ≠ []) :
    c.reading.admin = true
      ∧ ∃ p, c.aggregate.result = .ok p ∧ c.apply.calls = p.enforcement := by
  obtain ⟨cache, scans, ⟨hcalls, -⟩ | ⟨p, hadmin, hread, hcalls, -⟩⟩ := c.apply_cases
  · exact absurd (congrArg told hcalls) h
  · exact ⟨hadmin, p, hread, hcalls.trans p.enforcement_eq.symm⟩

theorem sanctioned_serve {r : Request} (h : told (c.serve r).calls ≠ []) :
    c.Sanctioned (.request r) (c.serve r).calls := by
  cases r with
  | aggregate => exact absurd (congrArg told c.aggregate_calls) h
  | evaluate policy? => exact absurd (c.told_evaluate policy?) h
  | satisfied policy? => exact absurd (c.told_evaluate policy?) h
  | apply =>
      obtain ⟨hadmin, p, hread, hcalls⟩ := c.told_apply h
      exact hcalls ▸ .apply hadmin hread
  | wipe account =>
      cases hadmin : c.reading.admin with
      | false =>
          rw [serve, wipe_of_inactive hadmin] at h
          exact absurd rfl h
      | true =>
          rw [serve, wipe_of_active hadmin]
          exact .wipe account hadmin
  | handle event =>
      rcases c.phase.after_cases event with hsame | ⟨hphase, rfl⟩ | ⟨hphase, rfl⟩
      · rw [serve, handle_of_same hsame] at h
        exact absurd rfl h
      · rw [serve, handle_of_disable hphase] at h
        exact absurd rfl h
      · have hhandle : (c.serve (.handle .enabled)).calls
            = { c with phase := .enabled }.invalidate.apply.calls := by
          rw [serve, handle_of_enable hphase]
          rfl
        rw [hhandle] at h ⊢
        obtain ⟨hadmin, p, hread, hcalls⟩ := told_apply { c with phase := .enabled }.invalidate h
        exact hcalls ▸ .enable hphase hadmin hread
  | _ => exact absurd rfl h

theorem sanctioned_step (hs : ∀ p, s ≠ .push p) (h : told (c.step s).calls ≠ []) :
    c.Sanctioned s (c.step s).calls := by
  cases s with
  | request r => exact sanctioned_serve h
  | change e => exact absurd rfl h
  | push p => exact absurd rfl (hs p)

/-! ## What the device makes of it -/

theorem apply_obeys (c : Coordinator δ) :
    c.apply.next.device = Device.obeyAll c.device (told c.apply.calls) := by
  obtain ⟨cache, scans, ⟨hcalls, hnext⟩ | ⟨p, -, -, hcalls, hnext⟩⟩ := c.apply_cases
  · rw [hcalls, hnext]
    rfl
  · have htold : told c.apply.calls = p.directives := by
      rw [hcalls]
      exact told_map_tell p.directives
    rw [htold, hnext, tell]

theorem handle_obeys (c : Coordinator δ) (event : Event) :
    (c.handle event).next.device = Device.obeyAll c.device (told (c.handle event).calls) := by
  rcases c.phase.after_cases event with hsame | ⟨hphase, rfl⟩ | ⟨hphase, rfl⟩
  · rw [handle_of_same hsame]
    rfl
  · rw [handle_of_disable hphase]
    rfl
  · rw [handle_of_enable hphase]
    exact apply_obeys { c with phase := .enabled }.invalidate

/-- The device comes out of a request as one that has carried out what it
was told in the course of it. -/
theorem serve_obeys (c : Coordinator δ) (r : Request) :
    (c.serve r).next.device = Device.obeyAll c.device (told (c.serve r).calls) := by
  have hevaluate (policy? : Option Policy) : (c.evaluate policy?).next.device
      = Device.obeyAll c.device (told (c.evaluate policy?).calls) := by
    obtain ⟨cache, scans, asked, -, hnext⟩ := c.evaluate_asks policy?
    rw [c.told_evaluate policy?, hnext]
    rfl
  cases r with
  | aggregate =>
      have hcalls : (c.serve .aggregate).calls = [] := c.aggregate_calls
      rw [hcalls]
      exact c.aggregate_device
  | evaluate policy? => exact hevaluate policy?
  | satisfied policy? => exact hevaluate policy?
  | apply => exact c.apply_obeys
  | wipe account =>
      cases hadmin : c.reading.admin with
      | false =>
          rw [serve, wipe_of_inactive hadmin]
          rfl
      | true =>
          rw [serve, wipe_of_active hadmin]
          rfl
  | handle event => exact c.handle_obeys event
  | _ => rfl

theorem step_obeys (hs : ∀ device, s ≠ .change (.device device)) :
    (c.step s).next.device = Device.obeyAll c.device (told (c.step s).calls) := by
  cases s with
  | request r => exact c.serve_obeys r
  | change e =>
      cases e with
      | device device => exact absurd rfl (hs device)
      | _ => rfl
  | push p =>
      have htold : told (c.step (.push p)).calls = p.directives := told_map_tell p.directives
      rw [htold]
      rfl

/-- Where nobody else lays hands on the device, it comes out of a run as
one that has carried out, in their order, all the directives among the
calls of the run. -/
theorem after_obeys (c : Coordinator δ) {steps : List (Step δ)}
    (hsteps : ∀ device, .change (.device device) ∉ steps) :
    (c.after steps).device
      = Device.obeyAll c.device (told ((c.run steps).flatMap Outcome.calls)) := by
  induction steps generalizing c with
  | nil => rfl
  | cons s steps ih =>
      have hs : ∀ device, s ≠ .change (.device device) :=
        fun device h => hsteps device (h ▸ List.mem_cons_self)
      have hrest : ∀ device, .change (.device device) ∉ steps :=
        fun device h => hsteps device (List.mem_cons_of_mem s h)
      have hnext : (c.after (s :: steps)).device = ((c.step s).next.after steps).device := rfl
      rw [hnext, ih _ hrest, step_obeys hs, run, List.flatMap_cons, told_append,
        Device.obeyAll_append]

/-- What is not sanctioned does nothing to the device. -/
theorem device_of_not_sanctioned (hpush : ∀ p, s ≠ .push p)
    (hdevice : ∀ device, s ≠ .change (.device device))
    (h : ∀ calls, ¬c.Sanctioned s calls) : (c.step s).next.device = c.device := by
  have htold : told (c.step s).calls = [] :=
    Decidable.byContradiction fun hne => h _ (sanctioned_step hpush hne)
  rw [step_obeys hdevice, htold]
  rfl

/-! ## The sanctioned calls are all -/

/-- **Nothing is told without an administrator.** At any moment of any
run, a step tells the device something if and only if it is sanctioned:
it applies the strictest policy, takes the way into the enabled phase, or
erases the device, after the device has named this process its
administrator; and it tells just what belongs to that. An erasure that
succeeds is one directive to erase and nothing else. Without an
administrator, to apply and to erase fail after the one question, and
leave everything as it was. -/
theorem told_iff_sanctioned (c : Coordinator δ) (before : List (Step δ)) :
    let d := c.after before
    (∀ s : Step δ, (∀ p, s ≠ .push p) → ∀ calls,
        (d.step s).calls = calls ∧ told calls ≠ [] ↔ d.Sanctioned s calls)
      ∧ (∀ account, (d.step (.request (.wipe account))).result = .ok .done →
          (d.step (.request (.wipe account))).calls = [.ask .admin, .tell .wipe])
      ∧ (d.reading.admin = false → ∀ r, (r = .apply ∨ ∃ account, r = .wipe account) →
          d.serve r = { result := .error .notAdmin, calls := [.ask .admin], next := d }) := by
  intro d
  refine ⟨fun s hs calls => ⟨?told, ?sanctioned⟩, ?erased,
    fun hadmin r hr => serve_of_unadministered hr hadmin⟩
  case told =>
    rintro ⟨rfl, htold⟩
    exact sanctioned_step hs htold
  case sanctioned => exact fun h => ⟨h.calls_eq, h.told_ne_nil⟩
  case erased =>
    intro account hdone
    cases hadmin : d.reading.admin with
    | true => exact (Sanctioned.wipe account hadmin).calls_eq
    | false =>
        rw [step, serve, wipe_of_inactive hadmin] at hdone
        cases hdone

/-- The event comes after a policy was read, kept and changed in the rows;
what it tells is the policy that the rows hold then. Once the device has
lost its administrator, to apply asks and tells nothing. -/
theorem told_iff_sanctioned_of_event :
    let c : Coordinator PlainDevice :=
      { device := { admin := true }, rows := [⟨1, Policy.toWord { minLength := 4 }⟩] }
    let before : List (Step PlainDevice) :=
      [.request .aggregate, .change (.store 1 ⟨8, .strong, 5, 300, true⟩)]
    (c.after before).Sanctioned (.request (.handle .enabled))
        [.ask .admin, .tell (.quality .alphanumeric), .tell (.minLength 8),
          .tell (.timeToLock 300000), .tell (.maxFailures 5)]
      ∧ ((c.after before).serve (.wipe 1)).calls = [.ask .admin, .tell .wipe]
      ∧ ((c.after (before ++ [.change (.device {})])).serve .apply).calls = [.ask .admin] := by
  intro c before
  obtain ⟨htold, hwipe, -⟩ := told_iff_sanctioned c before
  obtain ⟨-, -, hinactive⟩ := told_iff_sanctioned c (before ++ [.change (.device {})])
  refine ⟨(htold (.request (.handle .enabled)) nofun _).mp ⟨by decide, by decide⟩, hwipe 1 rfl, ?_⟩
  rw [hinactive (by decide) .apply (Or.inl rfl)]

end Coordinator

end LockPolicy
