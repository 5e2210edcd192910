/-!
# Numerals

Reading and writing of whole numbers. A reader takes a bound and says
why a word is refused: it is empty, a character is no digit, or the
value leaves the range. The word is read from the left, so of several
faults the leftmost one is named; at one and the same character a bad
digit comes before the range.
-/

namespace LockPolicy.Numeral

/-- Why a word is not a number of the wanted range. -/
inductive Fault where
  | empty
  | badDigit
  | tooLarge
  | tooSmall
deriving DecidableEq, Repr

def Fault.message : Fault → String
  | .empty => "cannot parse integer from empty string"
  | .badDigit => "invalid digit found in string"
  | .tooLarge => "number too large to fit in target type"
  | .tooSmall => "number too small to fit in target type"

/-! ## Reading -/

/-- The value of a digit in a base of at most sixteen. The digits above
nine are the letters from `a`, in either case. -/
def digit? (base : Nat) (c : Char) : Option Nat :=
  let value :=
    if c.isDigit then c.toNat - '0'.toNat
    else if 'a' ≤ c ∧ c ≤ 'f' then c.toNat - 'a'.toNat + 10
    else if 'A' ≤ c ∧ c ≤ 'F' then c.toNat - 'A'.toNat + 10
    else base
  if value < base then some value else none

/-- Reads digits after those that made `value`. Stops at the first
character that is no digit or takes the value beyond `bound`. -/
def digits (base bound : Nat) (beyond : Fault) : Nat → List Char → Except Fault Nat
  | value, [] => .ok value
  | value, c :: cs =>
    match digit? base c with
    | none => .error .badDigit
    | some d =>
      if value * base + d ≤ bound then
        digits base bound beyond (value * base + d) cs
      else .error beyond

/-- Reads a number from `0` to `bound`, which may have a plus sign. -/
def natural (base bound : Nat) : List Char → Except Fault Nat
  | [] => .error .empty
  | ['+'] => .error .badDigit
  | '+' :: cs => digits base bound .tooLarge 0 cs
  | cs => digits base bound .tooLarge 0 cs

/-- Reads a decimal number from `-bound` to `bound - 1`, which may have
either sign. -/
def integer (bound : Nat) : List Char → Except Fault Int
  | ['-'] => .error .badDigit
  | '-' :: cs => (digits 10 bound .tooSmall 0 cs).map fun n => -(n : Int)
  | cs => (natural 10 (bound - 1) cs).map fun n => (n : Int)

/-! ## Writing -/

/-- The number in base sixteen, in small letters and as short as it can
be. -/
def hex (n : Nat) : String :=
  "0x" ++ String.ofList (Nat.toDigits 16 n)

def hex8 (n : Nat) : String :=
  "0x" ++ String.ofList ((Nat.toDigits 16 n).leftpad 8 '0')

end LockPolicy.Numeral
