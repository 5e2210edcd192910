import LockPolicy.Strength

/-!
# Quality classes

A device grades passwords in classes of its own. Each class has a
number, a stricter class the larger one, and devices may know classes
between or above those listed here: such a number counts as the
strictest listed class that it does not fall short of.
-/

namespace LockPolicy

/-- A device's class of passwords, weakest first. -/
inductive Quality where
  | unspecified
  | something
  /-- At least digits. -/
  | numeric
  /-- At least letters. -/
  | alphabetic
  /-- Both letters and digits. -/
  | alphanumeric
deriving DecidableEq, Repr

namespace Quality

def number : Quality → Nat
  | unspecified => 0
  | something => 0x10000
  | numeric => 0x20000
  | alphabetic => 0x40000
  | alphanumeric => 0x50000

/-- The strictest class whose number is at most `n`. -/
def ofNumber (n : Nat) : Quality :=
  if 0x50000 ≤ n then alphanumeric
  else if 0x40000 ≤ n then alphabetic
  else if 0x20000 ≤ n then numeric
  else if 0x10000 ≤ n then something
  else unspecified

instance : LE Quality where
  le a b := a.number ≤ b.number

instance : LT Quality where
  lt a b := a.number < b.number

instance (a b : Quality) : Decidable (a ≤ b) :=
  inferInstanceAs (Decidable (a.number ≤ b.number))

instance (a b : Quality) : Decidable (a < b) :=
  inferInstanceAs (Decidable (a.number < b.number))

/-- The name under which people read and write the class. -/
def name : Quality → String
  | unspecified => "unspecified"
  | something => "something"
  | numeric => "numeric"
  | alphabetic => "alphabetic"
  | alphanumeric => "alphanumeric"

def ofName? : String → Option Quality
  | "unspecified" => some unspecified
  | "something" => some something
  | "numeric" => some numeric
  | "alphabetic" => some alphabetic
  | "alphanumeric" => some alphanumeric
  | _ => none

theorem lt_iff {a b : Quality} : a < b ↔ a.number < b.number := Iff.rfl

theorem le_iff {a b : Quality} : a ≤ b ↔ a.number ≤ b.number := Iff.rfl

end Quality

/-- The weakest class of passwords that meets the strength. -/
def Strength.quality : Strength → Quality
  | .unset => .unspecified
  | .simple => .numeric
  | .strong => .alphanumeric

end LockPolicy
