/-!
# Phases of administration

The host reports when this process becomes the administrator of a device
and when it stops being it. The reports move a machine of two phases; a
report that says what is known already moves nothing, and neither do the
notices about the user's password.
-/

namespace LockPolicy

/-- Whether this process is known to administer the device. -/
inductive Phase where
  | disabled
  | enabled
deriving DecidableEq, Repr

/-- A report of the host. -/
inductive Event where
  | enabled
  | disabled
  | passwordChanged
  | passwordFailed
deriving DecidableEq, Repr

def Phase.name : Phase → String
  | .disabled => "disabled"
  | .enabled => "enabled"

def Phase.after : Phase → Event → Phase
  | _, .enabled => .enabled
  | _, .disabled => .disabled
  | phase, _ => phase

/-- A step of the machine, which may lead back to the same phase. -/
structure Transition where
  source : Phase
  target : Phase
deriving DecidableEq, Repr

def Transition.changed (t : Transition) : Bool :=
  t.source ≠ t.target

end LockPolicy
