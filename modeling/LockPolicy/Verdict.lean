import LockPolicy.Quality

/-!
# Verdicts

The outcome of checking a policy against a device: three ways to be
satisfied and five ways not to be. A demand that is not met is reported
with what was required and what the device enforces.
-/

namespace LockPolicy

/-- The outcome of a check. -/
inductive Verdict where
  /-- There is no administrator, and the override answered in its place. -/
  | overridden
  | nothingRequired
  /-- Every demand that was checked is met. -/
  | met
  | adminInactive
  | tooShort (required enforced : Nat)
  | tooWeak (required enforced : Quality)
  /-- The user's password does not meet what is in force. -/
  | insufficient
  /-- The lock time in force is too long; both in milliseconds. -/
  | locksTooLate (required enforced : Nat)
deriving DecidableEq, Repr

namespace Verdict

/-- Whether the device may go on. -/
def satisfied : Verdict → Bool
  | overridden | nothingRequired | met => true
  | _ => false

def text : Verdict → String
  | overridden => "satisfied by debug override"
  | nothingRequired => "no policy required"
  | met => "all requirements met"
  | adminInactive => "device administrator not active"
  | tooShort required enforced =>
    "minimum password length " ++ toString enforced ++ " below required "
      ++ toString required
  | tooWeak required enforced =>
    "password quality " ++ enforced.name ++ " below required " ++ required.name
  | insufficient => "current password is not sufficient"
  | locksTooLate required enforced =>
    "screen lock timeout " ++ toString enforced ++ "ms above allowed "
      ++ toString required ++ "ms"

end Verdict

end LockPolicy
