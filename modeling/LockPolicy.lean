import LockPolicy.Coordinator.Step
import LockPolicy.Device.Plain
import LockPolicy.Main
import LockPolicy.Policy.Strictness
import LockPolicy.Proofs.Accounts.FailClosed
import LockPolicy.Proofs.Accounts.Policies
import LockPolicy.Proofs.Console.Coherence
import LockPolicy.Proofs.Console.Enabling
import LockPolicy.Proofs.Console.Ending
import LockPolicy.Proofs.Console.Failure
import LockPolicy.Proofs.Console.Flags
import LockPolicy.Proofs.Console.History
import LockPolicy.Proofs.Console.Lines
import LockPolicy.Proofs.Console.Log
import LockPolicy.Proofs.Console.Notices
import LockPolicy.Proofs.Console.Password
import LockPolicy.Proofs.Console.Record
import LockPolicy.Proofs.Console.Session
import LockPolicy.Proofs.Coordinator.Agreement
import LockPolicy.Proofs.Coordinator.Applied
import LockPolicy.Proofs.Coordinator.Faults
import LockPolicy.Proofs.Coordinator.Ledger
import LockPolicy.Proofs.Coordinator.Lifecycle
import LockPolicy.Proofs.Coordinator.Log
import LockPolicy.Proofs.Coordinator.Override
import LockPolicy.Proofs.Coordinator.Sanction
import LockPolicy.Proofs.Coordinator.Uncached
import LockPolicy.Proofs.Device.Echo
import LockPolicy.Proofs.Inspection.Monotone
import LockPolicy.Proofs.Inspection.Pushed
import LockPolicy.Proofs.Inspection.Rounding
import LockPolicy.Proofs.Inspection.Shortfall
import LockPolicy.Proofs.Policy.Bits
import LockPolicy.Proofs.Policy.Changes
import LockPolicy.Proofs.Policy.Join
import LockPolicy.Proofs.Policy.Shown
import LockPolicy.Proofs.Policy.Streaming
import LockPolicy.Proofs.Policy.Unchecked
import LockPolicy.Proofs.Policy.Vetting
import LockPolicy.Proofs.Setting
import LockPolicy.Proofs.Text.Lines
import LockPolicy.Proofs.Text.Numerals
import LockPolicy.Proofs.Text.Quoted
import LockPolicy.Proofs.Text.Spellings
import LockPolicy.Proofs.Text.Words
