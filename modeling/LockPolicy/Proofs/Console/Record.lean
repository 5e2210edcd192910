import LockPolicy.Proofs.Console.Log
import LockPolicy.Proofs.Console.Notices
import LockPolicy.Proofs.Coordinator.Log

/-!
# What the console has on record

The entries of a command are told beside what it does and prints, so
nothing but a proof ties them to it. They account for the readings of the
rows (`scans_execute`), which no command makes but through its
coordinator, and for the notices: each that is printed is on record, and
each that is on record is printed (`notices_execute`).
-/

namespace LockPolicy

/-- The account that the entry calls for a notice on. -/
def Log.Entry.notice? : Entry → Option Int
  | noticeDue account => some account
  | _ => none

namespace Coordinator

variable {δ : Type}

theorem aggregateEntries_unnoticed (c : Coordinator δ) :
    c.aggregateEntries.filterMap Log.Entry.notice? = [] := by
  unfold aggregateEntries
  split
  · rfl
  · rcases c.rows.entry_cases {} with ⟨t, -, hentry⟩ | ⟨row, fault, -, -, hentry⟩ <;>
      rw [hentry] <;> rfl

variable [Device δ]

theorem evaluateEntries_unnoticed (c : Coordinator δ) (policy? : Option Policy) :
    (c.evaluateEntries policy?).filterMap Log.Entry.notice? = [] := by
  unfold evaluateEntries
  split
  · split
    · rfl
    · exact c.aggregateEntries_unnoticed
  · split <;> rfl

theorem applyEntries_unnoticed (c : Coordinator δ) :
    c.applyEntries.filterMap Log.Entry.notice? = [] := by
  unfold applyEntries
  split
  · split
    · rw [List.filterMap_append, c.aggregateEntries_unnoticed]
      rfl
    · exact c.aggregateEntries_unnoticed
  · rfl

theorem handleEntries_unnoticed (c : Coordinator δ) (event : Event) :
    (c.handleEntries event).filterMap Log.Entry.notice? = [] := by
  unfold handleEntries
  dsimp only
  split
  · split
    · exact applyEntries_unnoticed _
    · rfl
  · rfl

theorem wipeEntries_unnoticed (c : Coordinator δ) (account : Int) :
    (c.wipeEntries account).filterMap Log.Entry.notice? = [] := by
  unfold wipeEntries
  split <;> rfl

end Coordinator

namespace Console

variable {account : Int} {p : Policy}

theorem late_check_of_ok {c : Console} (h : Policy.ofWord (c.rows.flags account) = .ok p) :
    c.late (.check (some account))
      = if (c.rules.evaluate p c.reading).verdict.satisfied then []
        else if c.notified then [] else [.noticeDue account] := by
  simp only [late, h, Coordinator.evaluate_some_eq, Inspection.outcome, Coordinator.entries]

/-! ## Readings -/

theorem report_scans (c : Console) (account? : Option Int) (v : Verdict) :
    (c.report account? v).next.scans = c.scans := by
  unfold report
  split
  · rfl
  · split <;> rfl

theorem check_scans (c : Console) (account? : Option Int) (policy? : Option Policy) :
    (c.check account? policy?).next.scans
      = c.scans + (c.entries (.evaluate policy?)).countP Log.Entry.reads := by
  have hscans := (c.recorded_serve (.evaluate policy?)).scans
  cases hresult : (c.evaluate policy?).result with
  | ok v =>
      simp only [check, hresult, report_scans]
      exact hscans
  | error fault =>
      simp only [check, hresult]
      exact hscans

theorem late_reads (c : Console) (command : Command) :
    (c.late command).countP Log.Entry.reads = 0 := by
  cases command with
  | store account p =>
      rw [late]
      split <;> rfl
  | check account? =>
      cases account? with
      | none => rfl
      | some account =>
          cases hread : Policy.ofWord (c.rows.flags account) with
          | error fault => simp only [late, hread, List.countP_nil]
          | ok p =>
              rw [late_check_of_ok hread]
              split
              · rfl
              · split <;> rfl
  | _ => rfl

/-- A command reads the rows once for each entry of a reading. -/
theorem scans_execute (c : Console) (command : Command) :
    (c.execute command).next.scans
      = c.scans + (c.early command ++ c.late command).countP Log.Entry.reads := by
  rw [List.countP_append, late_reads, Nat.add_zero]
  cases command with
  | store account p =>
      by_cases hsame : c.rows.flags account = p.toWord
      · rw [execute, store_of_eq hsame]
        rfl
      · rw [execute, store_of_ne hsame]
        rfl
  | remove account =>
      rw [execute, early]
      split <;> rfl
  | display => exact (c.recorded_serve .aggregate).scans
  | check account? =>
      cases account? with
      | none => exact c.check_scans none none
      | some account =>
          cases hread : Policy.ofWord (c.rows.flags account) with
          | error fault =>
              simp only [execute, early, hread]
              rfl
          | ok p =>
              simp only [execute, early, hread]
              exact c.check_scans (some account) (some p)
  | apply => exact (c.recorded_serve .apply).scans
  | enable => exact ((c.onScreen (·.administer true)).recorded_serve (.handle .enabled)).scans
  | disable =>
      simp only [execute, heed_disabled_said]
      exact (c.recorded_serve (.handle .disabled)).scans
  | password length quality =>
      exact ((c.onScreen (·.setPassword length quality)).recorded_serve
        (.handle .passwordChanged)).scans
  | timeout millis => rfl
  | wipe account => exact (c.recorded_serve (.wipe account)).scans
  | dismiss account => rfl

/-! ## Notices -/

theorem early_unnoticed (c : Console) (command : Command) :
    (c.early command).filterMap Log.Entry.notice? = [] := by
  cases command with
  | store account p => rfl
  | timeout millis => rfl
  | remove account =>
      rw [early]
      split <;> rfl
  | check account? =>
      cases account? with
      | none => exact c.evaluateEntries_unnoticed none
      | some account =>
          cases hread : Policy.ofWord (c.rows.flags account) with
          | error fault => simp only [early, hread, List.filterMap_nil]
          | ok p =>
              simp only [early, hread]
              exact c.evaluateEntries_unnoticed (some p)
  | display => exact c.aggregateEntries_unnoticed
  | apply => exact c.applyEntries_unnoticed
  | enable => exact (c.onScreen (·.administer true)).handleEntries_unnoticed .enabled
  | disable => exact c.handleEntries_unnoticed .disabled
  | password length quality =>
      exact (c.onScreen (·.setPassword length quality)).handleEntries_unnoticed .passwordChanged
  | wipe account => exact c.wipeEntries_unnoticed account
  | dismiss account => rfl

theorem late_unnoticed {c : Console} {command : Command}
    (hcheck : ∀ account, command = .check (some account) → ¬c.Blocked account) :
    (c.late command).filterMap Log.Entry.notice? = [] := by
  cases command with
  | store account p =>
      rw [late]
      split <;> rfl
  | check account? =>
      cases account? with
      | none => rfl
      | some account =>
          cases hread : Policy.ofWord (c.rows.flags account) with
          | error fault => simp only [late, hread, List.filterMap_nil]
          | ok p =>
              rw [late_check_of_ok hread]
              split
              · rfl
              · rename_i hv
                exact absurd ⟨p, hread, Bool.eq_false_iff.mpr hv⟩ (hcheck account rfl)
  | _ => rfl

/-- **Notices are on record.** The notices that are printed for a command
are those that its entries call for. -/
theorem notices_execute (c : Console) (command : Command) :
    (c.execute command).emissions.filter Emission.Notifies
      = ((c.early command ++ c.late command).filterMap Log.Entry.notice?).map notice := by
  rw [List.filterMap_append, early_unnoticed, List.nil_append]
  by_cases hcheck : ∃ account, command = .check (some account) ∧ c.Blocked account
  · obtain ⟨account, rfl, hblocked⟩ := hcheck
    obtain ⟨p, hread, hv⟩ := hblocked
    rw [notices_of_blocked ⟨p, hread, hv⟩, late_check_of_ok hread, hv]
    cases c.notified <;> rfl
  · have hunblocked : ∀ account, command = .check (some account) → ¬c.Blocked account :=
      fun account h hblocked => hcheck ⟨account, h, hblocked⟩
    have hquiet : ∀ e ∈ (c.execute command).emissions, ¬e.Notifies := by
      by_cases hdismiss : ∃ account, command = .dismiss account
      · obtain ⟨account, rfl⟩ := hdismiss
        exact List.forall_mem_nil _
      · exact (execute_unconcerned hunblocked fun account h => hdismiss ⟨account, h⟩).quiet
    rw [late_unnoticed hunblocked]
    exact List.filter_eq_nil_iff.mpr fun e he => by simpa using hquiet e he

end Console

end LockPolicy
