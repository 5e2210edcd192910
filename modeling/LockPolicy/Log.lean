import LockPolicy.Accounts
import LockPolicy.Phase

/-!
# The log

Beside what it answers, a program keeps a log of what it does. An entry
says how urgent it is, what has happened, and whom or what that concerns.
Which entries are written, and how a line is made of one, is settled
outside this library. All that is known of it is a `Sink`: what it makes
of each entry.
-/

namespace LockPolicy.Log

/-- Something that is put on record. -/
inductive Entry where
  /-- A coordinator is made whose rules have the override on. -/
  | overrideOn
  | started (override : Bool)
  /-- The override answers in place of an administrator. -/
  | overridden
  /-- A reading of the rows ends at this row. -/
  | unreadable (row : Row) (fault : Fault)
  /-- The rows were read, and this many demanded anything. -/
  | read (contributed : Nat) (strictest : Policy)
  /-- What was read is forgotten, for one account or for all. -/
  | forgotten (account? : Option Int)
  | applied (policy : Policy)
  | wiping (account : Int)
  | wipeRefused (account : Int)
  | noticeDue (account : Int)
  | noticeDismissed (account : Int)
  | moved (transition : Transition)
deriving DecidableEq, Repr

namespace Entry

def message : Entry → String
  | overrideOn => "security policy created with the always-active debug override"
  | started _ => "policy demo started"
  | overridden => "device admin inactive, debug override treats policies as satisfied"
  | unreadable _ _ => "stored security flags do not decode"
  | read _ _ => "computed aggregate policy"
  | forgotten (some _) => "aggregate policy invalidated"
  | forgotten none => "aggregate policy invalidated for all accounts"
  | applied _ => "applied aggregate policy"
  | wiping _ => "remote wipe requested, wiping device"
  | wipeRefused _ => "remote wipe requested without device admin"
  | noticeDue _ => "security policies required, notification requested"
  | noticeDismissed _ => "security notification cleared"
  | moved _ => "device admin state changed"

/-- What the entry concerns, by name. -/
def fields : Entry → List (String × String)
  | overrideOn | overridden | forgotten none => []
  | started override => [("debug_always_active", toString override)]
  | unreadable row fault =>
    [("account", toString row.account), ("flags", toString row.flags.toNat),
      ("err", fault.message)]
  | read contributed strictest =>
    [("accounts", toString contributed), ("aggregate", strictest.text)]
  | applied policy => [("policy", policy.text)]
  | forgotten (some account) | wiping account | wipeRefused account | noticeDue account
  | noticeDismissed account => [("account", toString account)]
  | moved t => [("from", t.source.name), ("to", t.target.name)]

end Entry

/-- What takes the entries: the line that it writes for each, if any. -/
abbrev Sink := Entry → Option String

namespace Sink

/-- A log that is turned off. -/
def off : Sink := fun _ => none

end Sink

end LockPolicy.Log
