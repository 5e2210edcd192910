import LockPolicy.Device.Basic

/-!
# Plain devices

The simplest device: it answers what was last set and does nothing of
its own accord. Whether it is administered and whether the password is
sufficient are answers given from outside, and a wipe is noted down
without erasing anything.
-/

namespace LockPolicy

structure PlainDevice extends Reading where
  /-- The failed attempts after which it would erase itself. -/
  maxFailures : Nat := 0
  wiped : Bool := false
deriving DecidableEq, Repr

/-- Each directive sets the field of its name. -/
def PlainDevice.obey (d : PlainDevice) : Directive → PlainDevice
  | .quality quality => { d with quality }
  | .minLength minLength => { d with minLength }
  | .timeToLock timeToLock => { d with timeToLock }
  | .maxFailures maxFailures => { d with maxFailures }
  | .wipe => { d with wiped := true }

instance : Device PlainDevice where
  reading := PlainDevice.toReading
  obey := PlainDevice.obey

end LockPolicy
