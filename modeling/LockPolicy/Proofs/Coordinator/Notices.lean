import LockPolicy.Coordinator.Step
import LockPolicy.Proofs.Coordinator.Equations
import Mathlib.Data.List.Basic
import Mathlib.Data.List.Induction

/-!
# One notice at a time

A user who was told of a demand should not be told again before the
notice was dismissed. The coordinator has one latch for this, and none
for each account: whoever asks for a notice while one is standing is told
that none is due, whichever accounts the two requests are made for.

The latch lies in the same state as all the rest. That nothing else
touches it is the step lemma (`step_notified`), which holds for steps
that fail as well as for others. Over a run the latch then says whether a
notice is standing (`after_notified`), which is a property of the steps
alone: one of them asked for a notice, and none after it dismissed it.
-/

namespace LockPolicy

/-! ## What was raised and not lowered since -/

section Latch

variable {ι : Type} {raises : List ι → ι → Prop} {lowers : ι → Prop}

/-- Something was raised in the run and not lowered since. Whether a step
raises it may depend on the steps before it. -/
def Outstanding (raises : List ι → ι → Prop) (lowers : ι → Prop) (run : List ι) : Prop :=
  ∃ earlier i later, run = earlier ++ i :: later ∧ raises earlier i ∧ ∀ j ∈ later, ¬lowers j

theorem not_outstanding_nil : ¬Outstanding raises lowers [] := by
  rintro ⟨earlier, i, later, hrun, -⟩
  exact List.append_ne_nil_of_right_ne_nil earlier (List.cons_ne_nil i later) hrun.symm

theorem outstanding_snoc {run : List ι} {i : ι} :
    Outstanding raises lowers (run ++ [i])
      ↔ raises run i ∨ Outstanding raises lowers run ∧ ¬lowers i := by
  constructor
  · rintro ⟨earlier, j, later, hrun, hraises, hlater⟩
    rcases List.eq_nil_or_concat' later with rfl | ⟨later, last, rfl⟩
    · obtain ⟨rfl, hlast⟩ := List.append_inj' hrun rfl
      obtain rfl := List.singleton_inj.mp hlast
      exact Or.inl hraises
    · rw [← List.cons_append, ← List.append_assoc] at hrun
      obtain ⟨rfl, hlast⟩ := List.append_inj' hrun rfl
      obtain rfl := List.singleton_inj.mp hlast
      obtain ⟨hlater, hlast⟩ := List.forall_mem_append.mp hlater
      exact Or.inr ⟨⟨earlier, j, later, rfl, hraises, hlater⟩, hlast _ (List.mem_singleton_self _)⟩
  · rintro (hraises | ⟨⟨earlier, j, later, rfl, hraises, hlater⟩, hlowers⟩)
    · exact ⟨run, i, [], rfl, hraises, nofun⟩
    · refine ⟨earlier, j, later ++ [i], List.append_assoc .., hraises, ?_⟩
      exact List.forall_mem_append.mpr ⟨hlater, List.forall_mem_singleton.mpr hlowers⟩

/-- A latch that is set by what raises and reset by what lowers is set
after a run if and only if something is outstanding. -/
theorem latched_iff_outstanding {latched : List ι → Prop} (hnil : ¬latched [])
    (hsnoc : ∀ run i, latched (run ++ [i]) ↔ raises run i ∨ latched run ∧ ¬lowers i)
    (run : List ι) : latched run ↔ Outstanding raises lowers run := by
  induction run using List.reverseRecOn with
  | nil => exact iff_of_false hnil not_outstanding_nil
  | append_singleton run i ih => rw [hsnoc, outstanding_snoc, ih]

end Latch

/-- What the step makes of the latch, if it touches it. -/
def Step.latches? {δ : Type} : Step δ → Option Bool
  | .request (.notify _) => some true
  | .request (.dismiss _) => some false
  | _ => none

/-- A notice was asked for in the run and not dismissed since. -/
def Noticed {δ : Type} (steps : List (Step δ)) : Prop :=
  Outstanding (fun _ s => s.latches? = some true) (fun s => s.latches? = some false) steps

namespace Coordinator

variable {δ : Type}

/-! ## The latch -/

theorem aggregate_notified (c : Coordinator δ) : c.aggregate.next.notified = c.notified := by
  obtain ⟨cache, scans, hnext⟩ := c.aggregate_next
  rw [hnext]

variable [Device δ]

theorem evaluate_notified (c : Coordinator δ) (policy? : Option Policy) :
    (c.evaluate policy?).next.notified = c.notified := by
  obtain ⟨cache, scans, asked, -, hnext⟩ := c.evaluate_asks policy?
  rw [hnext]

theorem apply_notified (c : Coordinator δ) : c.apply.next.notified = c.notified := by
  obtain ⟨cache, scans, device, hnext⟩ := c.apply_next
  rw [hnext]

theorem wipe_notified (c : Coordinator δ) : c.wipe.next.notified = c.notified := by
  obtain ⟨device, hnext⟩ := c.wipe_next
  rw [hnext]

theorem handle_notified (c : Coordinator δ) (event : Event) :
    (c.handle event).next.notified = c.notified := by
  obtain ⟨cache, scans, device, hnext⟩ := c.handle_next event
  rw [hnext]

/-- The latch after a step, whatever came of it. -/
theorem step_notified (c : Coordinator δ) (s : Step δ) :
    (c.step s).next.notified = s.latches?.getD c.notified := by
  cases s with
  | change e => cases e <;> rfl
  | push p => rfl
  | request r =>
      cases r with
      | aggregate => exact c.aggregate_notified
      | evaluate policy? => exact c.evaluate_notified policy?
      | satisfied policy? => exact c.evaluate_notified policy?
      | apply => exact c.apply_notified
      | wipe _ => exact c.wipe_notified
      | handle event => exact c.handle_notified event
      | _ => rfl

theorem after_snoc (c : Coordinator δ) (steps : List (Step δ)) (s : Step δ) :
    c.after (steps ++ [s]) = ((c.after steps).step s).next :=
  List.foldl_append ..

/-- The latch after a run, by induction on the run. -/
theorem after_notified {c : Coordinator δ} (hnew : c.notified = false) (steps : List (Step δ)) :
    (c.after steps).notified = true ↔ Noticed steps := by
  let latched (steps : List (Step δ)) : Prop := (c.after steps).notified = true
  have hnil : ¬latched [] := Bool.eq_false_iff.mp hnew
  have hsnoc (steps : List (Step δ)) (s : Step δ) : latched (steps ++ [s])
      ↔ s.latches? = some true ∨ latched steps ∧ ¬s.latches? = some false := by
    simp only [latched, after_snoc, step_notified]
    cases hlatches : s.latches? with
    | none => simp
    | some up => cases up <;> simp
  exact latched_iff_outstanding hnil hsnoc steps

/-- Of all requests for a notice only one is granted between dismissals,
and the latch is all that the two requests touch. -/
theorem notify_granted_iff {c : Coordinator δ} (hnew : c.notified = false)
    (before : List (Step δ)) :
    let d := c.after before
    ∃ due : Bool, (due = true ↔ ¬Noticed before)
      ∧ (∀ account, d.step (.request (.notify account))
          = { result := .ok (.flag due), calls := [], next := { d with notified := true } })
      ∧ (∀ account, d.step (.request (.dismiss account))
          = { result := .ok .done, calls := [], next := { d with notified := false } })
      ∧ ∀ s : Step δ, s.latches? = none → (d.step s).next.notified = d.notified := by
  intro d
  refine ⟨!d.notified, ?due, fun _ => rfl, fun _ => rfl, fun s hs => ?other⟩
  case due =>
    rw [Bool.not_eq_true', ← Bool.not_eq_true, after_notified hnew]
  case other =>
    rw [step_notified, hs, Option.getD_none]

end Coordinator

end LockPolicy
