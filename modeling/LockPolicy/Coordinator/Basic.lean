import LockPolicy.Accounts
import LockPolicy.Phase
import LockPolicy.Rules

/-!
# The coordinator

The coordinator stands between the accounts and the device. It keeps the
strictest policy of all accounts once it has read them, so that rows are
scanned only after somebody has said that they changed; it checks and
pushes policies; and it sees to it that a user is notified only once.

Every operation takes the coordinator to an `Outcome`: a result or a
fault, the calls made on the device in their order, and the coordinator
afterwards, which an operation that fails may have changed too. What the
operations put on record is told apart, in `LockPolicy.Coordinator.Log`.
-/

namespace LockPolicy

/-- What comes of an operation on a state of type `σ`. -/
structure Outcome (σ α : Type) where
  result : Except Fault α
  /-- The calls made on the device, in their order. -/
  calls : List Call := []
  next : σ

/-- The same outcome with another view of the result. -/
def Outcome.map {σ α β : Type} (f : α → β) (o : Outcome σ α) : Outcome σ β :=
  { o with result := o.result.map f }

/-- The coordinator with the device and the accounts that it serves. -/
structure Coordinator (δ : Type) where
  rules : Rules := {}
  device : δ
  rows : Accounts := []
  /-- The strictest policy, if it was read since the last invalidation. -/
  cache : Option Policy := none
  notified : Bool := false
  phase : Phase := .disabled
  scans : Nat := 0
deriving DecidableEq, Repr

namespace Coordinator

variable {δ : Type}

/-! ## The strictest policy -/

/-- Reads the rows. What is kept of an earlier reading plays no part and
stays as it is. -/
def compute (c : Coordinator δ) : Outcome (Coordinator δ) Policy where
  result := c.rows.strictest
  next := { c with scans := c.scans + 1 }

/-- The strictest policy: the one kept, or else a new reading, which is
kept if it succeeds. -/
def aggregate (c : Coordinator δ) : Outcome (Coordinator δ) Policy :=
  match c.cache with
  | some p => { result := .ok p, next := c }
  | none =>
    let read := c.compute
    match read.result with
    | .ok p => { read with next := { read.next with cache := some p } }
    | .error _ => read

/-- Forgets what was read. There is one reading for all accounts, so it
does not matter which of them changed. -/
def invalidate (c : Coordinator δ) : Coordinator δ :=
  { c with cache := none }

/-! ## Notification -/

def notify (c : Coordinator δ) : Bool × Coordinator δ :=
  (!c.notified, { c with notified := true })

def dismiss (c : Coordinator δ) : Coordinator δ :=
  { c with notified := false }

/-! ## The device -/

variable [Device δ]

def reading (c : Coordinator δ) : Reading :=
  Device.reading c.device

def tell (c : Coordinator δ) (ds : List Directive) : Coordinator δ :=
  { c with device := Device.obeyAll c.device ds }

/-- Checks the policy, or the strictest one if none is given. Without an
administrator no policy is looked up. -/
def evaluate (c : Coordinator δ) (policy? : Option Policy) : Outcome (Coordinator δ) Verdict :=
  let first := c.rules.admission c.reading
  match first.verdict? with
  | some verdict => { result := .ok verdict, calls := first.asked.map .ask, next := c }
  | none =>
    let found : Outcome (Coordinator δ) Policy :=
      match policy? with
      | some p => { result := .ok p, next := c }
      | none => c.aggregate
    match found.result with
    | .ok p =>
      let i := p.inspect c.reading
      { result := .ok i.verdict
        calls := (first.asked ++ i.asked).map .ask
        next := found.next }
    | .error fault =>
      { result := .error fault, calls := first.asked.map .ask, next := found.next }

/-- Whether the device may go on under the policy, or under the
strictest one if none is given. -/
def satisfied (c : Coordinator δ) (policy? : Option Policy) : Outcome (Coordinator δ) Bool :=
  (c.evaluate policy?).map Verdict.satisfied

def isAdmin (c : Coordinator δ) : Outcome (Coordinator δ) Bool where
  result := .ok c.reading.admin
  calls := [.ask .admin]
  next := c

/-- Pushes the policy to the device, whoever administers it. -/
def push (c : Coordinator δ) (p : Policy) : Outcome (Coordinator δ) Unit where
  result := .ok ()
  calls := p.directives.map .tell
  next := c.tell p.directives

/-- Pushes the strictest policy to the device. Needs an administrator. -/
def apply (c : Coordinator δ) : Outcome (Coordinator δ) Unit :=
  if c.reading.admin then
    let found := c.aggregate
    match found.result with
    | .ok p =>
      let pushed := found.next.push p
      { pushed with calls := .ask .admin :: pushed.calls }
    | .error fault =>
      { result := .error fault, calls := [.ask .admin], next := found.next }
  else { result := .error .notAdmin, calls := [.ask .admin], next := c }

/-- Has the device erase itself. Needs an administrator. -/
def wipe (c : Coordinator δ) : Outcome (Coordinator δ) Unit :=
  if c.reading.admin then
    { result := .ok ()
      calls := [.ask .admin, .tell .wipe]
      next := c.tell [.wipe] }
  else { result := .error .notAdmin, calls := [.ask .admin], next := c }

/-! ## Administration -/

/-- Takes note of an event. A change of phase drops what was read, and
the way into the enabled phase pushes the strictest policy. The host may
report that way before the device agrees, so a missing administrator is
no fault there. -/
def handle (c : Coordinator δ) (event : Event) : Outcome (Coordinator δ) Transition :=
  let t : Transition := ⟨c.phase, c.phase.after event⟩
  if t.changed then
    let moved := { c with phase := t.target }.invalidate
    if t.target = .enabled then
      let applied := moved.apply
      let result : Except Fault Transition :=
        match applied.result with
        | .ok () => .ok t
        | .error .notAdmin => .ok t
        | .error fault => .error fault
      { applied with result }
    else { result := .ok t, next := moved }
  else { result := .ok t, next := c }

end Coordinator

end LockPolicy
