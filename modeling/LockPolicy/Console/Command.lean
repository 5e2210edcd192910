import LockPolicy.Policy.Word
import LockPolicy.Quality

/-!
# Commands

What can be typed at the console. A command is read from the words of a
line before anything is done, so a line with a mistake in it does
nothing. The words are looked at in a fixed order, and the first mistake
is the one complained of.
-/

namespace LockPolicy.Console

inductive Command where
  /-- The policy becomes that of the account. -/
  | store (account : Int) (policy : Policy)
  | remove (account : Int)
  | display
  /-- The strictest policy is checked, or that of an account. -/
  | check (account? : Option Int)
  | apply
  | enable
  | disable
  | password (length : Nat) (quality : Quality)
  | timeout (millis : Nat)
  | wipe (account : Int)
  | dismiss (account : Int)
deriving DecidableEq, Repr

/-- Why a line is not carried out. -/
inductive Complaint where
  | number (word : String) (fault : Numeral.Fault)
  | hex (word : String) (fault : Numeral.Fault)
  | strength (word : String)
  | quality (word : String)
  | policy (fault : Fault)
  | noAccount (account : Int)
  | unknown
deriving DecidableEq, Repr

def Complaint.message : Complaint → String
  | number word fault => "invalid number: " ++ word ++ ": " ++ fault.message
  | hex word fault => "invalid hex: " ++ word ++ ": " ++ fault.message
  | strength word => "unknown password mode: " ++ word
  | quality word => "unknown password quality: " ++ word
  | policy fault => fault.message
  | noAccount account => "no account " ++ toString account
  | unknown => "unknown command, type 'help'"

/-! ## Arguments -/

/-- A number below `size`. -/
def natural (size : Nat) (word : String) : Except Complaint Nat :=
  (Numeral.natural 10 (size - 1) word.toList).mapError (.number word)

/-- The number of an account, which has 64 bits with its sign. -/
def account (word : String) : Except Complaint Int :=
  (Numeral.integer (UInt64.size / 2) word.toList).mapError (.number word)

/-- Stored flags: in base sixteen after the sign for it, in base ten
otherwise. -/
def flags (word : String) : Except Complaint UInt32 :=
  UInt32.ofNat <$>
    match word.toList with
    | '0' :: 'x' :: cs =>
      (Numeral.natural 16 (UInt32.size - 1) cs).mapError (.hex word)
    | _ => natural UInt32.size word

def strength (word : String) : Except Complaint Strength :=
  match Strength.ofName? word with
  | some s => .ok s
  | none => .error (.strength word)

def quality (word : String) : Except Complaint Quality :=
  match Quality.ofName? word with
  | some q => .ok q
  | none => .error (.quality word)

/-! ## Lines -/

/-- The command that the words give. A policy can be given field by field
or as stored flags; the number of its account is read last. -/
def Command.ofWords : List String → Except Complaint Command
  | ["set", who, len, mode, fails, lock, erase] => do
    let len ← natural UInt32.size len
    let mode ← strength mode
    let fails ← natural UInt32.size fails
    let lock ← natural UInt32.size lock
    let erase ← natural UInt8.size erase
    let policy ← (Policy.make len mode fails lock (erase != 0)).mapError .policy
    return .store (← account who) policy
  | ["raw", who, word] => do
    let word ← flags word
    let policy ← (Policy.ofWord word).mapError .policy
    return .store (← account who) policy
  | ["remove", who] => return .remove (← account who)
  | ["show"] => return .display
  | ["check"] => return .check none
  | ["check", who] => return .check (some (← account who))
  | ["apply"] => return .apply
  | ["enable"] => return .enable
  | ["disable"] => return .disable
  | ["password", len, grade] => do
    let len ← natural UInt32.size len
    return .password len (← quality grade)
  | ["timeout", millis] => return .timeout (← natural UInt64.size millis)
  | ["wipe", who] => return .wipe (← account who)
  | ["clear", who] => return .dismiss (← account who)
  | _ => .error .unknown

end LockPolicy.Console
