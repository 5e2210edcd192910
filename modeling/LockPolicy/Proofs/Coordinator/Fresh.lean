import LockPolicy.Coordinator.Step
import LockPolicy.Proofs.Coordinator.Equations

/-!
# Fresh coordinators

A coordinator is fresh if what it keeps is what a reading of the rows
would give now. On a fresh coordinator a look at the strictest policy is
a reading, whether or not the rows are read (`aggregate_result`).

Only the rows and what is kept matter to freshness. No operation of the
coordinator writes to the rows or spoils what is kept (`Keeps`), so a
fresh coordinator stays fresh until somebody else writes to the rows
(`Fresh.step`), and to forget makes any coordinator fresh
(`fresh_invalidate`).
-/

namespace LockPolicy

/-- Whether the step writes to the rows. -/
def Step.writesRows {δ : Type} : Step δ → Bool
  | .change (.set ..) | .change (.push ..) | .change (.erase _) | .change (.store ..) => true
  | _ => false

namespace Coordinator

variable {δ : Type}

/-- What is kept is what a reading would give. -/
def Fresh (c : Coordinator δ) : Prop :=
  ∀ p ∈ c.cache, c.rows.strictest = .ok p

theorem fresh_of_cache_none {c : Coordinator δ} (h : c.cache = none) : c.Fresh := by
  intro p hp
  rw [h] at hp
  cases hp

theorem fresh_invalidate (c : Coordinator δ) : c.invalidate.Fresh :=
  fresh_of_cache_none rfl

theorem aggregate_result {c : Coordinator δ} (h : c.Fresh) :
    c.aggregate.result = c.rows.strictest := by
  rcases c.aggregate_cases with ⟨p, hp, heq⟩ | ⟨p, -, hread, heq⟩ | ⟨fault, -, hread, heq⟩
  · rw [heq, h p hp]
  · rw [heq, hread]
  · rw [heq, hread]

/-! ## What operations keep -/

/-- The coordinator `d` has the rows of `c` and is fresh if `c` is. -/
structure Keeps (c d : Coordinator δ) : Prop where
  rows : d.rows = c.rows
  fresh : c.Fresh → d.Fresh

theorem Keeps.refl (c : Coordinator δ) : c.Keeps c := ⟨rfl, id⟩

theorem Keeps.trans {c d e : Coordinator δ} (hcd : c.Keeps d) (hde : d.Keeps e) :
    c.Keeps e :=
  ⟨hde.rows.trans hcd.rows, hde.fresh ∘ hcd.fresh⟩

theorem Keeps.of_eq {c d : Coordinator δ} (hrows : d.rows = c.rows)
    (hcache : d.cache = c.cache) : c.Keeps d where
  rows := hrows
  fresh h p hp := by
    rw [hrows]
    exact h p (hcache ▸ hp)

theorem Keeps.of_none {c d : Coordinator δ} (hrows : d.rows = c.rows)
    (hcache : d.cache = none) : c.Keeps d :=
  ⟨hrows, fun _ => fresh_of_cache_none hcache⟩

theorem keeps_aggregate (c : Coordinator δ) : c.Keeps c.aggregate.next := by
  rcases c.aggregate_cases with ⟨p, -, heq⟩ | ⟨p, -, hread, heq⟩ | ⟨fault, -, -, heq⟩
  · rw [heq]
    exact .refl c
  · rw [heq]
    refine ⟨rfl, fun _ q hq => ?_⟩
    obtain rfl := Option.some.inj hq
    exact hread
  · rw [heq]
    exact .of_eq rfl rfl

variable [Device δ]

theorem keeps_evaluate (c : Coordinator δ) (policy? : Option Policy) :
    c.Keeps (c.evaluate policy?).next := by
  cases hadmin : c.reading.admin with
  | false =>
      rw [evaluate_of_inactive hadmin]
      exact .refl c
  | true =>
      cases policy? with
      | some p =>
          rw [evaluate_some hadmin]
          exact .refl c
      | none =>
          rw [evaluate_none_next hadmin]
          exact c.keeps_aggregate

theorem keeps_apply (c : Coordinator δ) : c.Keeps c.apply.next := by
  cases hadmin : c.reading.admin with
  | false =>
      rw [apply_of_inactive hadmin]
      exact .refl c
  | true =>
      cases hread : c.aggregate.result with
      | ok p =>
          rw [apply_of_ok hadmin hread]
          exact c.keeps_aggregate.trans (.of_eq rfl rfl)
      | error fault =>
          rw [apply_of_error hadmin hread]
          exact c.keeps_aggregate

theorem keeps_wipe (c : Coordinator δ) : c.Keeps c.wipe.next := by
  cases hadmin : c.reading.admin with
  | false =>
      rw [wipe_of_inactive hadmin]
      exact .refl c
  | true =>
      rw [wipe_of_active hadmin]
      exact .of_eq rfl rfl

theorem keeps_handle (c : Coordinator δ) (event : Event) :
    c.Keeps (c.handle event).next := by
  rcases c.phase.after_cases event with hsame | ⟨hphase, rfl⟩ | ⟨hphase, rfl⟩
  · rw [handle_of_same hsame]
    exact .refl c
  · rw [handle_of_disable hphase]
    exact .of_none rfl rfl
  · rw [handle_of_enable hphase]
    have hmoved : c.Keeps { c with phase := .enabled }.invalidate := .of_none rfl rfl
    exact hmoved.trans (keeps_apply _)

theorem keeps_serve (c : Coordinator δ) (r : Request) : c.Keeps (c.serve r).next := by
  cases r with
  | compute => exact .of_eq rfl rfl
  | aggregate => exact c.keeps_aggregate
  | invalidate _ => exact .of_none rfl rfl
  | invalidateAll => exact .of_none rfl rfl
  | supports _ => exact .refl c
  | evaluate policy? => exact c.keeps_evaluate policy?
  | satisfied policy? => exact c.keeps_evaluate policy?
  | isAdmin => exact .refl c
  | rules => exact .refl c
  | apply => exact c.keeps_apply
  | wipe _ => exact c.keeps_wipe
  | notify _ => exact .of_eq rfl rfl
  | dismiss _ => exact .of_eq rfl rfl
  | handle event => exact c.keeps_handle event

theorem Fresh.step {c : Coordinator δ} (h : c.Fresh) {s : Step δ}
    (hs : s.writesRows = false) : (c.step s).next.Fresh := by
  cases s with
  | request r => exact (c.keeps_serve r).fresh h
  | change e =>
      cases e with
      | device device =>
          have hkeeps : c.Keeps { c with device } := .of_eq rfl rfl
          exact hkeeps.fresh h
      | set _ _ => cases hs
      | push _ _ => cases hs
      | erase _ => cases hs
      | store _ _ => cases hs
  | push p =>
      have hkeeps : c.Keeps (c.tell p.directives) := .of_eq rfl rfl
      exact hkeeps.fresh h

end Coordinator

end LockPolicy
