import LockPolicy.Coordinator.Step
import LockPolicy.Log

/-!
# What a coordinator puts on record

The entries that a request leaves in the log, in their order. They follow
the ways that the operations can go: a reading of the rows leaves one
entry, whatever comes of it, and a policy that is kept spares the
reading and the entry.
-/

namespace LockPolicy

/-- The entry that a reading of the rows leaves: the row that it ends at,
or what it has come to. -/
def Accounts.entry (t : Tally) : Accounts → Log.Entry
  | [] => .read t.contributed t.strictest
  | row :: rows =>
    if row.flags = 0 then entry t rows
    else match Policy.ofWord row.flags with
      | .ok p => entry (t.add p) rows
      | .error fault => .unreadable row fault

namespace Coordinator

variable {δ : Type}

def aggregateEntries (c : Coordinator δ) : List Log.Entry :=
  match c.cache with
  | some _ => []
  | none => [c.rows.entry {}]

variable [Device δ]

def evaluateEntries (c : Coordinator δ) (policy? : Option Policy) : List Log.Entry :=
  if c.reading.admin then
    match policy? with
    | some _ => []
    | none => c.aggregateEntries
  else if c.rules.override then [.overridden] else []

def applyEntries (c : Coordinator δ) : List Log.Entry :=
  if c.reading.admin then
    match c.aggregate.result with
    | .ok p => c.aggregateEntries ++ [.applied p]
    | .error _ => c.aggregateEntries
  else []

def wipeEntries (c : Coordinator δ) (account : Int) : List Log.Entry :=
  if c.reading.admin then [.wiping account] else [.wipeRefused account]

def handleEntries (c : Coordinator δ) (event : Event) : List Log.Entry :=
  let t : Transition := ⟨c.phase, c.phase.after event⟩
  if t.changed then
    let moved := { c with phase := t.target }.invalidate
    .moved t :: .forgotten none :: if t.target = .enabled then moved.applyEntries else []
  else []

/-- The entries that the request leaves in the log. -/
def entries (c : Coordinator δ) : Request → List Log.Entry
  | .compute => [c.rows.entry {}]
  | .aggregate => c.aggregateEntries
  | .invalidate account => [.forgotten (some account)]
  | .invalidateAll => [.forgotten none]
  | .evaluate policy? | .satisfied policy? => c.evaluateEntries policy?
  | .apply => c.applyEntries
  | .wipe account => c.wipeEntries account
  | .notify account => if c.notified then [] else [.noticeDue account]
  | .dismiss account => [.noticeDismissed account]
  | .handle event => c.handleEntries event
  | .supports _ | .isAdmin | .rules => []

end Coordinator

end LockPolicy
