/-!
# Password strength

How strong a password an account demands. The three degrees are
numbered from the weakest, and the order between them is the order of
their numbers.
-/

namespace LockPolicy

/-- How strong a password is demanded. -/
inductive Strength where
  | unset
  /-- Any password will do, a numeric one included. -/
  | simple
  /-- The password mixes letters and digits. -/
  | strong
deriving DecidableEq, Repr

namespace Strength

/-- The number that stands for the strength in a packed policy. -/
def number : Strength → Nat
  | unset => 0
  | simple => 1
  | strong => 2

def ofNumber? : Nat → Option Strength
  | 0 => some unset
  | 1 => some simple
  | 2 => some strong
  | _ => none

instance : LE Strength where
  le a b := a.number ≤ b.number

instance (a b : Strength) : Decidable (a ≤ b) :=
  inferInstanceAs (Decidable (a.number ≤ b.number))

/-- The name under which people read and write the strength. -/
def name : Strength → String
  | unset => "none"
  | simple => "simple"
  | strong => "strong"

def ofName? : String → Option Strength
  | "none" => some unset
  | "simple" => some simple
  | "strong" => some strong
  | _ => none

theorem ofName?_name (s : Strength) : ofName? s.name = some s := by
  cases s <;> rfl

theorem number_lt (s : Strength) : s.number < 3 := by
  cases s <;> decide

theorem ofNumber?_number (s : Strength) : ofNumber? s.number = some s := by
  cases s <;> rfl

theorem ofNumber?_eq_none_iff {n : Nat} : ofNumber? n = none ↔ 2 < n := by
  match n with
  | 0 | 1 | 2 => decide
  | n + 3 => simp [ofNumber?]

theorem ofNumber?_eq_some_iff {n : Nat} {s : Strength} :
    ofNumber? n = some s ↔ s.number = n := by
  match n with
  | 0 | 1 | 2 | n + 3 => cases s <;> simp [ofNumber?, number]

end Strength

end LockPolicy
