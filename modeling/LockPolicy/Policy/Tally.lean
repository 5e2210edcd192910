import LockPolicy.Policy.Basic

/-!
# The strictest of many policies

A device that holds several accounts is bound by all of their policies
at once. `Policy.merge` makes one policy of them, field by field: the
longest minimum length, the strongest strength, the fewest failures and
the shortest lock time among those demanded, and remote wipe if any
account needs it.

The merge is taken in one pass. A `Tally` holds what has been seen of
each field, with `none` for a field that nobody has spoken on, so that
an account without a demand never passes for one that demands zero.
-/

namespace LockPolicy

/-- What has been seen of a list of policies. -/
structure Tally where
  /-- How many policies demanded anything. -/
  contributed : Nat := 0
  minLength : Option (Fin 32) := none
  strength : Option Strength := none
  /-- The fewest failures, among policies that demand any. -/
  maxFailures : Option (Fin 32) := none
  /-- The shortest lock time, among policies that demand any. -/
  lockSeconds : Option (Fin 2048) := none
  remoteWipe : Bool := false
deriving DecidableEq, Repr

namespace Tally

/-- The larger of the best so far and a newcomer. -/
def raise {α : Type} [LE α] [DecidableLE α] (best : Option α) (new : α) : Option α :=
  match best with
  | none => some new
  | some old => some (if old ≤ new then new else old)

/-- The smaller of the best so far and a newcomer, where a newcomer of
zero does not count. -/
def tighten {n : Nat} (best : Option (Fin (n + 1))) (new : Fin (n + 1)) :
    Option (Fin (n + 1)) :=
  if new.val = 0 then best
  else match best with
    | none => some new
    | some old => some (if new ≤ old then new else old)

def take (t : Tally) (p : Policy) : Tally where
  contributed := t.contributed + 1
  minLength := raise t.minLength p.minLength
  strength := raise t.strength p.strength
  maxFailures := tighten t.maxFailures p.maxFailures
  lockSeconds := tighten t.lockSeconds p.lockSeconds
  remoteWipe := t.remoteWipe || p.remoteWipe

/-- Takes a policy into account. One that demands nothing is passed
over. -/
def add (t : Tally) (p : Policy) : Tally :=
  if p.isEmpty then t else t.take p

def addAll (t : Tally) (ps : List Policy) : Tally :=
  ps.foldl add t

/-- The policy that makes the demands seen so far, and is as the empty
one in every field that nobody has spoken on. -/
def demands (t : Tally) : Policy where
  minLength := t.minLength.getD Policy.empty.minLength
  strength := t.strength.getD Policy.empty.strength
  maxFailures := t.maxFailures.getD Policy.empty.maxFailures
  lockSeconds := t.lockSeconds.getD Policy.empty.lockSeconds
  remoteWipe := t.remoteWipe

/-- The strictest policy of those added so far, which is the empty one
as long as nobody has contributed. -/
def strictest (t : Tally) : Policy :=
  if t.contributed = 0 then .empty else t.demands

end Tally

/-- The strictest of the policies: it demands what each of them demands,
and no more than it takes. -/
def Policy.merge (ps : List Policy) : Policy :=
  (Tally.addAll {} ps).strictest

end LockPolicy
