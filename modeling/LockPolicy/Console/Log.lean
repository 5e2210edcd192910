import LockPolicy.Console.Transcript
import LockPolicy.Coordinator.Log

/-!
# The log of the console

A command puts on record what its coordinator does. Some entries come
before anything is printed for the command (`Console.early`), and some
between the pieces of what is printed (`Console.late`), so that all that
a line of input brings about is one sequence of utterances
(`Console.utterances`): what is said, and what is put on record.

Where the lines of the log go to the output as well, as a `Log.Sink` has
it, `Utterance.shown` is all that is printed.
-/

namespace LockPolicy

inductive Utterance where
  | say (emission : Emission)
  | log (entry : Log.Entry)
deriving DecidableEq, Repr

namespace Utterance

/-- What is said in the utterances, the log left out. -/
def said (uttered : List Utterance) : List Emission :=
  uttered.filterMap fun
    | say emission => some emission
    | log _ => none

/-- What is printed for the utterance where the log goes to the sink. -/
def shown (sink : Log.Sink) : Utterance → List Emission
  | say emission => [emission]
  | log entry => (sink entry).toList.map .out

end Utterance

namespace Console

/-- The entries that a command leaves before anything is printed. -/
def early (c : Console) : Command → List Log.Entry
  | .store _ _ => []
  | .remove account =>
    if c.rows.any (·.account = account) then c.entries (.invalidate account) else []
  | .display => c.entries .aggregate
  | .check none => c.entries (.evaluate none)
  | .check (some account) =>
    match Policy.ofWord (c.rows.flags account) with
    | .ok p => c.entries (.evaluate (some p))
    | .error _ => []
  | .apply => c.entries .apply
  | .enable => (c.onScreen (·.administer true)).entries (.handle .enabled)
  | .disable => c.entries (.handle .disabled)
  | .password length quality =>
    (c.onScreen (·.setPassword length quality)).entries (.handle .passwordChanged)
  | .timeout _ => []
  | .wipe account => c.entries (.wipe account)
  | .dismiss account => c.entries (.dismiss account)

/-- The entries that a command leaves just before the last piece that is
printed for it. -/
def late (c : Console) : Command → List Log.Entry
  | .store account p =>
    if (p.store (c.rows.flags account)).1 then c.entries (.invalidate account) else []
  | .check (some account) =>
    match Policy.ofWord (c.rows.flags account) with
    | .ok p =>
      let o := c.evaluate (some p)
      match o.result with
      | .ok v => if v.satisfied then [] else o.next.entries (.notify account)
      | .error _ => []
    | .error _ => []
  | _ => []

/-- What is printed for the reply, with the entries in their places. -/
def Reply.utterances (r : Reply) (early late : List Log.Entry) : List Utterance :=
  early.map .log ++ r.emissions.dropLast.map .say
    ++ late.map .log ++ r.emissions.getLast?.toList.map .say

def Reaction.emissions : Reaction → List Emission
  | .next emissions _ | .stop emissions _ => emissions

/-- All that a line brings about besides the console afterwards. -/
def utterances (c : Console) (bytes : List UInt8) : List Utterance :=
  match Command.ofLine? bytes with
  | some command => (c.execute command).utterances (c.early command) (c.late command)
  | none => (c.read bytes).emissions.map .say

end Console

end LockPolicy
