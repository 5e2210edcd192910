import LockPolicy.Device.Basic
import LockPolicy.Policy.Basic
import LockPolicy.Verdict

/-!
# Inspection

How a policy meets a device. A policy is a list of requirements, each
answered by one query and each checked in turn; the first that is not
met gives the verdict, and no later query is made. Failure counts and
remote wipe are not requirements: no query tells of the one, and an
administrator can always do the other.

`Policy.directives` is the other direction: what a device is told so
that it enforces the policy.
-/

namespace LockPolicy

/-- A demand that one query can check. -/
inductive Requirement where
  | minLength (length : Nat)
  | quality (quality : Quality)
  | sufficient
  | timeToLock (millis : Nat)
deriving DecidableEq, Repr

namespace Requirement

def query : Requirement → Query
  | minLength _ => .minLength
  | quality _ => .quality
  | sufficient => .sufficient
  | timeToLock _ => .timeToLock

/-- The verdict on a device that does not meet the requirement. -/
def failure? (r : Reading) : Requirement → Option Verdict
  | minLength required =>
    if r.minLength < required then some (.tooShort required r.minLength) else none
  | quality required =>
    if r.quality < required then some (.tooWeak required r.quality) else none
  | sufficient => if r.sufficient then none else some .insufficient
  | timeToLock required =>
    if required < r.timeToLock then some (.locksTooLate required r.timeToLock) else none

end Requirement

/-- A verdict, and the queries that were made to reach it. -/
structure Inspection where
  verdict : Verdict
  asked : List Query := []
deriving DecidableEq, Repr

/-- Checks the requirements in turn, up to the first that is not met. -/
def Requirement.inspectAll (r : Reading) : List Requirement → Inspection
  | [] => { verdict := .met }
  | q :: qs =>
    match q.failure? r with
    | some verdict => { verdict, asked := [q.query] }
    | none =>
      let rest := inspectAll r qs
      { rest with asked := q.query :: rest.asked }

namespace Policy

def lockMillis (p : Policy) : Nat := p.lockSeconds * 1000

/-- What a device has to meet, in the order in which it is checked. A
field of zero requires nothing. -/
def requirements (p : Policy) : List Requirement :=
  (if p.minLength.val = 0 then [] else [.minLength p.minLength])
    ++ (if p.strength = .unset then []
        else [.quality p.strength.quality, .sufficient])
    ++ (if p.lockSeconds.val = 0 then [] else [.timeToLock p.lockMillis])

/-- Checks a device against the policy. Whether the device is
administered is taken for granted here. -/
def inspect (p : Policy) (r : Reading) : Inspection :=
  if p.isEmpty then { verdict := .nothingRequired }
  else Requirement.inspectAll r p.requirements

/-- What a device is told so that it enforces the policy. A field of
zero is pushed as the number zero. -/
def directives (p : Policy) : List Directive :=
  [.quality p.strength.quality, .minLength p.minLength,
    .timeToLock p.lockMillis, .maxFailures p.maxFailures]

end Policy

end LockPolicy
