import LockPolicy.Console.Command
import LockPolicy.Coordinator.Basic
import LockPolicy.Device.LockScreen

/-!
# The console

A coordinator that serves a simulated lock screen, driven by commands. A
command answers with the lines that it prints or with a complaint. Each
command that writes to the accounts also tells the coordinator, so that
what the console shows is always the strictest of the policies stored
at that moment.
-/

namespace LockPolicy

abbrev Console := Coordinator LockScreen

namespace Console

def start (override : Bool) : Console where
  rules := { override }
  device := {}

/-- The console after something was done to the lock screen by hand. -/
def onScreen (c : Console) (f : LockScreen → LockScreen) : Console :=
  { c with device := f c.device }

/-- What a command comes to: the lines that it prints, or a complaint,
and the console afterwards. What it puts on record is told apart from
this, by `Console.early` and `Console.late`. -/
structure Reply where
  said : Except Complaint (List String) := .ok []
  next : Console

/-- A reply that prints what is made of the result of an operation. -/
def Reply.ofOutcome {α : Type} (o : Outcome Console α) (say : α → List String) :
    Reply where
  said := (o.result.mapError .policy).map say
  next := o.next

/-- Stores the policy with the account, and prints what that changed. -/
def store (c : Console) (account : Int) (p : Policy) : Reply :=
  let warning :=
    if c.rules.supports p then []
    else ["warning: device cannot honour " ++ p.text]
  let (changed, flags) := p.store (c.rows.flags account)
  if changed then
    { said := .ok (warning ++ ["account " ++ toString account ++ ": " ++ p.text
        ++ " (flags " ++ Numeral.hex flags.toNat ++ ")"])
      next := { c with rows := c.rows.set account flags }.invalidate }
  else
    { said := .ok (warning ++ ["account " ++ toString account ++ ": unchanged"])
      next := c }

/-- Prints the verdict. One that blocks a named account calls for a
notification, unless one is standing. -/
def report (c : Console) (account? : Option Int) (v : Verdict) : Reply :=
  if v.satisfied then { said := .ok ["ok: " ++ v.text], next := c }
  else
    let blocked := "blocked: " ++ v.text
    match account? with
    | none => { said := .ok [blocked], next := c }
    | some account =>
      let (due, next) := c.notify
      let notice :=
        if due then
          ["notification: security update needed for account " ++ toString account]
        else []
      { said := .ok (blocked :: notice), next }

/-- Checks the policy, or the strictest one, and reports the verdict. -/
def check (c : Console) (account? : Option Int) (policy? : Option Policy) : Reply :=
  let o := c.evaluate policy?
  match o.result with
  | .ok v => report o.next account? v
  | .error fault => { said := .error (.policy fault), next := o.next }

/-- Has the coordinator take note of an event, which prints nothing. -/
def heed (c : Console) (event : Event) : Reply :=
  Reply.ofOutcome (c.handle event) fun _ => []

def execute (c : Console) : Command → Reply
  | .store account p => c.store account p
  | .remove account =>
    if c.rows.any (·.account = account) then
      { next := { c with rows := c.rows.erase account }.invalidate }
    else { said := .error (.noAccount account), next := c }
  | .display =>
    let o := c.aggregate
    Reply.ofOutcome o fun p =>
      ["aggregate: " ++ p.text, "device:    " ++ o.next.device.dump,
        "admin:     " ++ o.next.phase.name]
  | .check none => c.check none none
  | .check (some account) =>
    match Policy.ofWord (c.rows.flags account) with
    | .ok p => c.check (some account) (some p)
    | .error fault => { said := .error (.policy fault), next := c }
  | .apply => Reply.ofOutcome c.apply fun _ => []
  | .enable => (c.onScreen (·.administer true)).heed .enabled
  | .disable =>
    let r := c.heed .disabled
    match r.said with
    | .ok _ => { r with next := r.next.onScreen (·.administer false) }
    | .error _ => r
  | .password length quality =>
    (c.onScreen (·.setPassword length quality)).heed .passwordChanged
  | .timeout millis => { next := c.onScreen (·.setTimeToLock millis) }
  | .wipe _ => Reply.ofOutcome c.wipe fun _ => ["device wiped"]
  | .dismiss _ => { next := c.dismiss }

end Console

end LockPolicy
