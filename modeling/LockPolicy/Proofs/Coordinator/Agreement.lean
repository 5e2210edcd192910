import LockPolicy.Device.Plain
import LockPolicy.Proofs.Coordinator.Equations
import LockPolicy.Proofs.Inspection.Asked

/-!
# The coordinator checks as the rules do

The rules check one policy and know of no accounts. The coordinator goes
through the same steps, but if it is given no policy, it looks the
strictest one up, after the admission and before the requirements. That
this makes no difference is the statement of `ChecksAs`: with a policy at
hand, and wherever the admission settles the verdict, the coordinator
makes the calls of the rules, comes to their verdict and stays as it is,
whether or not its rows can be read. Otherwise it does what a look at the
strictest policy does, fails as that fails, and goes on as the rules do
with what was found.

The two forms of the check, for a verdict and for a yes or no, differ in
what is made of the verdict (`ChecksAs.map`).
-/

namespace LockPolicy

/-- The inspection as what comes of an operation that only asks. -/
def Inspection.outcome {σ : Type} (i : Inspection) (next : σ) : Outcome σ Verdict where
  result := .ok i.verdict
  calls := i.asked.map .ask
  next

theorem Outcome.map_map {σ α β γ : Type} (o : Outcome σ α) (f : α → β) (g : β → γ) :
    (o.map f).map g = o.map (g ∘ f) := by
  rcases o with ⟨result, calls, next⟩
  cases result <;> rfl

namespace Coordinator

variable {δ : Type} [Device δ] {c : Coordinator δ}

/-- The check of the coordinator is that of its rules, with `say` for what
is made of the verdict. -/
structure ChecksAs {α : Type} (c : Coordinator δ)
    (check : Option Policy → Outcome (Coordinator δ) α) (say : Verdict → α) : Prop where
  given (p : Policy) : check (some p) = ((c.rules.evaluate p c.reading).outcome c).map say
  /-- Without an administrator any policy will do for the strictest. -/
  unadministered (hadmin : c.reading.admin = false) (p : Policy) :
    check none = ((c.rules.evaluate p c.reading).outcome c).map say
  unreadable (hadmin : c.reading.admin = true) {fault : Fault}
      (hread : c.aggregate.result = .error fault) :
    check none = { result := .error fault, calls := [.ask .admin], next := c.aggregate.next }
  strictest (hadmin : c.reading.admin = true) {p : Policy}
      (hread : c.aggregate.result = .ok p) :
    check none = ((c.rules.evaluate p c.reading).outcome c.aggregate.next).map say
  adminOnce (policy? : Option Policy) :
    ∃ rest, (check policy?).calls = .ask .admin :: rest ∧ .ask .admin ∉ rest

theorem ChecksAs.map {α β : Type} {check : Option Policy → Outcome (Coordinator δ) α}
    {say : Verdict → α} (h : c.ChecksAs check say) (f : α → β) :
    c.ChecksAs (fun policy? => (check policy?).map f) (f ∘ say) where
  given p := by rw [h.given, Outcome.map_map]
  unadministered hadmin p := by rw [h.unadministered hadmin p, Outcome.map_map]
  unreadable hadmin fault hread := by
    rw [h.unreadable hadmin hread]
    rfl
  strictest hadmin p hread := by rw [h.strictest hadmin hread, Outcome.map_map]
  adminOnce policy? := h.adminOnce policy?

/-- A policy at hand is checked as the rules check it, by whomever the
device is administered. -/
theorem evaluate_some_eq (c : Coordinator δ) (p : Policy) :
    c.evaluate (some p) = (c.rules.evaluate p c.reading).outcome c := by
  cases hadmin : c.reading.admin with
  | false =>
      rw [evaluate_of_inactive hadmin, c.rules.evaluate_of_inactive hadmin]
      rfl
  | true =>
      rw [evaluate_some hadmin, c.rules.evaluate_of_active hadmin]
      rfl

theorem evaluate_some_adminOnce (c : Coordinator δ) (p : Policy) :
    ∃ rest, (c.evaluate (some p)).calls = .ask .admin :: rest ∧ .ask .admin ∉ rest := by
  obtain ⟨rest, hasked, hrest⟩ := c.rules.evaluate_asked p c.reading
  refine ⟨rest.map .ask, ?_, ?_⟩
  · rw [evaluate_some_eq, Inspection.outcome, hasked, List.map_cons]
  · simpa using hrest

theorem evaluate_adminOnce (c : Coordinator δ) (policy? : Option Policy) :
    ∃ rest, (c.evaluate policy?).calls = .ask .admin :: rest ∧ .ask .admin ∉ rest := by
  cases policy? with
  | some p => exact c.evaluate_some_adminOnce p
  | none =>
      cases hadmin : c.reading.admin with
      | false =>
          rw [evaluate_of_inactive hadmin]
          exact ⟨[], rfl, List.not_mem_nil⟩
      | true =>
          cases hread : c.aggregate.result with
          | ok p =>
              rw [evaluate_none_of_ok hadmin hread]
              exact c.evaluate_some_adminOnce p
          | error fault =>
              rw [evaluate_none_of_error hadmin hread]
              exact ⟨[], rfl, List.not_mem_nil⟩

theorem evaluate_checksAs (c : Coordinator δ) : c.ChecksAs c.evaluate id where
  given p := c.evaluate_some_eq p
  unadministered hadmin p := by
    rw [evaluate_of_inactive hadmin, c.rules.evaluate_of_inactive hadmin]
    rfl
  unreadable hadmin _ hread := evaluate_none_of_error hadmin hread
  strictest hadmin p hread := by
    rw [evaluate_none_of_ok hadmin hread, evaluate_some_eq]
    rfl
  adminOnce := c.evaluate_adminOnce

/-- **The coordinator checks as its rules do.** Whatever it keeps and
whatever its rows hold, the verdict and the calls on a policy at hand are
those of the rules, and nothing is looked up. Without a policy and
without an administrator they are those of the rules on any policy, and
nothing is looked up either. With an administrator the strictest policy is
looked up: where that fails, so does the check, and otherwise it is the
check of what was found. It is the same with a yes or no in place of the
verdict. Always the administrator is asked for first, and once. -/
theorem check_agrees (c : Coordinator δ) :
    c.ChecksAs c.evaluate id ∧ c.ChecksAs c.satisfied Verdict.satisfied := by
  have hevaluate := c.evaluate_checksAs
  exact ⟨hevaluate, hevaluate.map Verdict.satisfied⟩

/-- A row cannot be read. Without an administrator nobody notices, and
with one a policy at hand can be checked all the same. -/
theorem check_agrees_of_damage :
    let rules : Rules := { override := true }
    let rows : Accounts := [⟨1, 0xffffffff⟩]
    let c : Coordinator PlainDevice := { rules, rows, device := {} }
    let d : Coordinator PlainDevice := { rules, rows, device := { admin := true } }
    c.evaluate none = { result := .ok .overridden, calls := [.ask .admin], next := c }
      ∧ d.evaluate none = { result := .error (.unreadable 0xffffffff 15)
                            calls := [.ask .admin], next := { d with scans := 1 } }
      ∧ d.satisfied (some ⟨8, .unset, 0, 60, false⟩)
        = { result := .ok false, calls := [.ask .admin, .ask .minLength], next := d } := by
  intro rules rows c d
  have hread : d.aggregate.result = .error (.unreadable 0xffffffff 15) := by decide
  obtain ⟨hc, -⟩ := check_agrees c
  obtain ⟨hd, hsatisfied⟩ := check_agrees d
  exact ⟨hc.unadministered rfl .empty, hd.unreadable rfl hread, hsatisfied.given _⟩

end Coordinator

end LockPolicy
