import LockPolicy.Coordinator.Basic

/-!
# Steps of a coordinator

Runs of a coordinator as data. A `Request` is one of its operations. A
`Change` is something that happens around it without its knowledge: the
device is altered, or somebody writes to the rows. A `Step` is either of
the two, or a policy pushed to the device past the coordinator's checks.
-/

namespace LockPolicy

/-- An operation of the coordinator. The accounts named in requests are
those on whose behalf they are made. -/
inductive Request where
  | compute
  | aggregate
  | invalidate (account : Int)
  | invalidateAll
  | supports (policy : Policy)
  | evaluate (policy? : Option Policy)
  | satisfied (policy? : Option Policy)
  | isAdmin
  | rules
  | apply
  | wipe (account : Int)
  | notify (account : Int)
  | dismiss (account : Int)
  | handle (event : Event)
deriving DecidableEq, Repr

inductive Change (δ : Type) where
  | device (device : δ)
  /-- The first row of the account is written, or a new one. -/
  | set (account : Int) (flags : UInt32)
  | push (account : Int) (flags : UInt32)
  | erase (account : Int)
  | store (account : Int) (policy : Policy)
deriving DecidableEq, Repr

inductive Step (δ : Type) where
  | request (request : Request)
  | change (change : Change δ)
  /-- A policy is pushed to the device, administered or not. -/
  | push (policy : Policy)
deriving DecidableEq, Repr

inductive Answer where
  | done
  | policy (policy : Policy)
  | verdict (verdict : Verdict)
  | flag (flag : Bool)
  | rules (rules : Rules)
  | transition (transition : Transition)
  | erased (count : Nat)
  /-- Whether the flags changed, and what they are now. -/
  | stored (changed : Bool) (flags : UInt32)
deriving DecidableEq, Repr

namespace Coordinator

variable {δ : Type}

/-- The answer to a change, and the coordinator among its new
surroundings. -/
def undergo (c : Coordinator δ) : Change δ → Answer × Coordinator δ
  | .device device => (.done, { c with device })
  | .set account flags => (.done, { c with rows := c.rows.set account flags })
  | .push account flags => (.done, { c with rows := c.rows.push account flags })
  | .erase account =>
    let rows := c.rows.erase account
    (.erased (c.rows.length - rows.length), { c with rows })
  | .store account policy =>
    let (changed, flags) := policy.store (c.rows.flags account)
    (.stored changed flags, { c with rows := c.rows.set account flags })

variable [Device δ]

def serve (c : Coordinator δ) : Request → Outcome (Coordinator δ) Answer
  | .compute => c.compute.map .policy
  | .aggregate => c.aggregate.map .policy
  | .invalidate _ => { result := .ok .done, next := c.invalidate }
  | .invalidateAll => { result := .ok .done, next := c.invalidate }
  | .supports p => { result := .ok (.flag (c.rules.supports p)), next := c }
  | .evaluate policy? => (c.evaluate policy?).map .verdict
  | .satisfied policy? => (c.satisfied policy?).map .flag
  | .isAdmin => c.isAdmin.map .flag
  | .rules => { result := .ok (.rules c.rules), next := c }
  | .apply => c.apply.map fun _ => .done
  | .wipe _ => c.wipe.map fun _ => .done
  | .notify _ => { result := .ok (.flag c.notify.1), next := c.notify.2 }
  | .dismiss _ => { result := .ok .done, next := c.dismiss }
  | .handle event => (c.handle event).map .transition

def step (c : Coordinator δ) : Step δ → Outcome (Coordinator δ) Answer
  | .request r => c.serve r
  | .change e => { result := .ok (c.undergo e).1, next := (c.undergo e).2 }
  | .push p => (c.push p).map fun _ => .done

def after (c : Coordinator δ) (steps : List (Step δ)) : Coordinator δ :=
  steps.foldl (fun c s => (c.step s).next) c

/-- The outcomes of the steps of a run. -/
def run (c : Coordinator δ) : List (Step δ) → List (Outcome (Coordinator δ) Answer)
  | [] => []
  | s :: steps => c.step s :: run (c.step s).next steps

end Coordinator

end LockPolicy
