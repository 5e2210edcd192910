import LockPolicy.Policy.Tally
import LockPolicy.Policy.Word

/-!
# Accounts

The accounts of a device are rows that each hold one packed policy. The
rows belong to somebody else: they may repeat an account, hold words
that mean nothing, and change at any time. `Accounts.strictest` reads
them all and fails at the first row without a meaning, so a damaged row
is never taken for one that demands nothing.
-/

namespace LockPolicy

structure Row where
  account : Int
  flags : UInt32
deriving DecidableEq, Repr

/-- The rows of a device, in the order in which they are read. -/
abbrev Accounts := List Row

namespace Accounts

/-- The flags in the account's first row, or zero if it has none. -/
def flags (rows : Accounts) (account : Int) : UInt32 :=
  match rows.find? (·.account = account) with
  | some row => row.flags
  | none => 0

/-- Writes the flags into the account's first row, or into a new row at
the end if it has none. -/
def set (account : Int) (flags : UInt32) : Accounts → Accounts
  | [] => [⟨account, flags⟩]
  | row :: rows =>
    if row.account = account then ⟨account, flags⟩ :: rows
    else row :: set account flags rows

def push (rows : Accounts) (account : Int) (flags : UInt32) : Accounts :=
  rows ++ [⟨account, flags⟩]

def erase (rows : Accounts) (account : Int) : Accounts :=
  rows.filter (·.account ≠ account)

/-- Adds the policies of the rows to a tally. Rows of zero are passed
over without being read. -/
def tally (t : Tally) : Accounts → Except Fault Tally
  | [] => .ok t
  | row :: rows =>
    if row.flags = 0 then tally t rows
    else match Policy.ofWord row.flags with
      | .ok p => tally (t.add p) rows
      | .error fault => .error fault

/-- The strictest of all stored policies, or the fault of the first row
that holds none. -/
def strictest (rows : Accounts) : Except Fault Policy :=
  (tally {} rows).map Tally.strictest

end Accounts

end LockPolicy
