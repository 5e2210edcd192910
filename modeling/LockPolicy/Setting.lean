import LockPolicy.Text.Blank
import LockPolicy.Text.Lines
import LockPolicy.Text.Quoted

/-!
# The setting of the override

The override is switched by one of two environment variables, of which
the first that holds text decides alone. It is off unless that text says
otherwise in so many words, and text that says neither is refused: a
mistyped value must not be guessed at.
-/

namespace LockPolicy.Setting

/-- The variable that decides if it is set. -/
def primaryName : String := "DEVICE_POLICY_DEBUG_ALWAYS_ACTIVE"

/-- The variable that decides if the primary one is not set. -/
def secondaryName : String := "POLICY_DEBUG_ALWAYS_ACTIVE"

/-- A variable whose text is neither a yes nor a no. -/
structure Fault where
  name : String
  value : String
deriving DecidableEq, Repr

def Fault.message (f : Fault) : String :=
  "invalid boolean for " ++ f.name ++ ": " ++ Text.quote f.value

def affirmative : List String := ["1", "true", "yes", "on"]

def negative : List String := ["0", "false", "no", "off"]

/-- What the text says, blanks around it and the case of the letters
from A to Z aside. -/
def meaning? (value : String) : Option Bool :=
  let word := String.ofList ((Text.trim value.toList).map Char.toLower)
  if word ∈ affirmative then some true
  else if word ∈ negative then some false
  else none

/-- The variable that decides, with its text. Bytes that hold no text
count as no value. -/
def deciding? (primary secondary : Option (List UInt8)) : Option (String × String) :=
  match primary.bind Text.ofBytes? with
  | some value => some (primaryName, value)
  | none =>
    match secondary.bind Text.ofBytes? with
    | some value => some (secondaryName, value)
    | none => none

/-- Whether the override is on, from the values of the two variables. -/
def read (primary secondary : Option (List UInt8)) : Except Fault Bool :=
  match deciding? primary secondary with
  | none => .ok false
  | some (name, value) =>
    match meaning? value with
    | some on => .ok on
    | none => .error { name, value }

end LockPolicy.Setting
