import LockPolicy.Inspection

/-!
# Rules

What is fixed when the program starts: the most that the lock screen can
honour, and whether the override is on. The override speaks only where
there is no administrator to check; it never hides a failed check.
-/

namespace LockPolicy

/-- The most that a lock screen can honour. There is no limit on failure
counts or on remote wipe. -/
structure Limits where
  minLength : Nat := 16
  strength : Strength := .strong
  lockSeconds : Nat := 2047
deriving DecidableEq, Repr

/-- What is fixed when the program starts. -/
structure Rules where
  limits : Limits := {}
  /-- Whether a device without administrator passes every check. For
  development only. -/
  override : Bool := false
deriving DecidableEq, Repr

structure Admission where
  /-- The verdict, if none of the policies has to be looked at. -/
  verdict? : Option Verdict
  asked : List Query
deriving DecidableEq, Repr

namespace Rules

/-- Whether the lock screen could ever honour the policy. -/
def supports (rules : Rules) (p : Policy) : Bool :=
  p.minLength ≤ rules.limits.minLength ∧ p.strength ≤ rules.limits.strength
    ∧ p.lockSeconds ≤ rules.limits.lockSeconds

/-- Asks who administers the device. If it is not this process, that
settles the verdict on every policy. -/
def admission (rules : Rules) (r : Reading) : Admission where
  verdict? :=
    if r.admin then none
    else some (if rules.override then .overridden else .adminInactive)
  asked := [.admin]

/-- Checks a device against the policy, its administration first. -/
def evaluate (rules : Rules) (p : Policy) (r : Reading) : Inspection :=
  let first := rules.admission r
  match first.verdict? with
  | some verdict => { verdict, asked := first.asked }
  | none =>
    let i := p.inspect r
    { i with asked := first.asked ++ i.asked }

end Rules

end LockPolicy
