import LockPolicy.Coordinator.Log
import LockPolicy.Proofs.Accounts.FailClosed
import LockPolicy.Proofs.Coordinator.Sanction

/-!
# What the log accounts for

The log is written beside the operations, and only a proof can make sure
that it tells what they do. `Recorded` says what that means for one
operation: the device is told what the entries say, in their order, and
the rows are read once for each entry of a reading. Every request is
recorded in this way (`recorded_serve`). So the device at the end of a
run is what the log alone makes of the one at its start
(`after_eq_obeyAll_record`), as long as nobody goes around the
coordinator.
-/

namespace LockPolicy

namespace Log.Entry

/-- What the device was told when the entry was made. -/
def directives : Entry → List Directive
  | applied p => p.directives
  | wiping _ => [.wipe]
  | _ => []

/-- The entry is that of a reading of the rows. -/
def reads : Entry → Bool
  | read _ _ | unreadable _ _ => true
  | _ => false

end Log.Entry

/-- The entry of a reading says what has come of it: the policy and how
many rows it was made of, or the first row that holds none. -/
theorem Accounts.entry_cases (t : Tally) (rows : Accounts) :
    (∃ t', rows.tally t = .ok t' ∧ rows.entry t = .read t'.contributed t'.strictest)
      ∨ ∃ row fault, rows.find? Row.reserved = some row ∧ rows.tally t = .error fault
          ∧ rows.entry t = .unreadable row fault := by
  induction rows generalizing t with
  | nil => exact Or.inl ⟨t, rfl, rfl⟩
  | cons row rows ih =>
      rw [tally, entry, List.find?_cons]
      by_cases hzero : row.flags = 0
      · have hread : row.reserved = false :=
          Row.reserved_eq_false_iff.mpr ⟨⊥, hzero ▸ Policy.ofWord_zero⟩
        rw [if_pos hzero, if_pos hzero, hread]
        exact ih t
      · rw [if_neg hzero, if_neg hzero]
        cases hread : row.reserved with
        | false =>
            obtain ⟨p, hp⟩ := Row.reserved_eq_false_iff.mp hread
            rw [hp]
            exact ih (t.add p)
        | true =>
            rw [Row.ofWord_of_reserved hread]
            exact Or.inr ⟨row, _, rfl, rfl, rfl⟩

/-- A reading tells the device nothing. -/
theorem Accounts.entry_reads (t : Tally) (rows : Accounts) :
    (rows.entry t).reads = true ∧ (rows.entry t).directives = [] := by
  rcases rows.entry_cases t with ⟨t', -, hentry⟩ | ⟨row, fault, -, -, hentry⟩
  · rw [hentry]
    exact ⟨rfl, rfl⟩
  · rw [hentry]
    exact ⟨rfl, rfl⟩

namespace Coordinator

variable {δ : Type} {c : Coordinator δ} {α β : Type}

/-- The entries account for what the operation does: for what the device
is told, and for the readings. -/
structure Recorded (c : Coordinator δ) (o : Outcome (Coordinator δ) α)
    (entries : List Log.Entry) : Prop where
  told : told o.calls = entries.flatMap Log.Entry.directives
  scans : o.next.scans = c.scans + entries.countP Log.Entry.reads

theorem Recorded.map {o : Outcome (Coordinator δ) α} {entries : List Log.Entry}
    (h : c.Recorded o entries) (f : α → β) : c.Recorded (o.map f) entries :=
  ⟨h.told, h.scans⟩

theorem recorded_compute (c : Coordinator δ) : c.Recorded c.compute [c.rows.entry {}] := by
  obtain ⟨hreads, hdirectives⟩ := c.rows.entry_reads {}
  constructor
  · rw [List.flatMap_singleton, hdirectives]
    rfl
  · rw [List.countP_singleton, hreads]
    rfl

theorem recorded_aggregate (c : Coordinator δ) :
    c.Recorded c.aggregate c.aggregateEntries := by
  rcases c.aggregate_cases with ⟨p, hcache, heq⟩ | ⟨p, hcache, -, heq⟩ | ⟨fault, hcache, -, heq⟩
  · rw [heq, aggregateEntries, hcache]
    exact ⟨rfl, rfl⟩
  · rw [heq, aggregateEntries, hcache]
    exact ⟨c.recorded_compute.told, c.recorded_compute.scans⟩
  · rw [heq, aggregateEntries, hcache]
    exact ⟨c.recorded_compute.told, c.recorded_compute.scans⟩

variable [Device δ]

theorem recorded_evaluate (c : Coordinator δ) (policy? : Option Policy) :
    c.Recorded (c.evaluate policy?) (c.evaluateEntries policy?) := by
  cases hadmin : c.reading.admin with
  | false =>
      have hentries : c.evaluateEntries policy?
          = if c.rules.override then [.overridden] else [] := by
        simp only [evaluateEntries, hadmin, Bool.false_eq_true, if_false]
      rw [evaluate_of_inactive hadmin, hentries]
      cases c.rules.override <;> exact ⟨rfl, rfl⟩
  | true =>
      cases policy? with
      | some p =>
          have hentries : c.evaluateEntries (some p) = [] := by
            simp only [evaluateEntries, hadmin, if_true]
          rw [hentries]
          refine ⟨c.told_evaluate (some p), ?_⟩
          rw [evaluate_some hadmin]
          rfl
      | none =>
          have hentries : c.evaluateEntries none = c.aggregateEntries := by
            simp only [evaluateEntries, hadmin, if_true]
          have haggregate := c.recorded_aggregate
          rw [hentries]
          constructor
          · rw [c.told_evaluate, ← haggregate.told, c.aggregate_calls]
            rfl
          · rw [evaluate_none_next hadmin, haggregate.scans]

theorem recorded_apply (c : Coordinator δ) : c.Recorded c.apply c.applyEntries := by
  cases hadmin : c.reading.admin with
  | false =>
      rw [apply_of_inactive hadmin, applyEntries, hadmin]
      exact ⟨rfl, rfl⟩
  | true =>
      have haggregate := c.recorded_aggregate
      have hsilent : c.aggregateEntries.flatMap Log.Entry.directives = [] := by
        rw [← haggregate.told, c.aggregate_calls]
        rfl
      cases hread : c.aggregate.result with
      | ok p =>
          have hentries : c.applyEntries = c.aggregateEntries ++ [.applied p] := by
            simp only [applyEntries, hadmin, hread, if_true]
          rw [apply_of_ok hadmin hread, hentries]
          constructor
          · rw [List.flatMap_append, hsilent]
            exact (told_map_tell p.directives).trans (List.append_nil _).symm
          · rw [List.countP_append]
            exact haggregate.scans
      | error fault =>
          have hentries : c.applyEntries = c.aggregateEntries := by
            simp only [applyEntries, hadmin, hread, if_true]
          rw [apply_of_error hadmin hread, hentries]
          exact ⟨hsilent.symm, haggregate.scans⟩

theorem recorded_wipe (c : Coordinator δ) (account : Int) :
    c.Recorded c.wipe (c.wipeEntries account) := by
  cases hadmin : c.reading.admin with
  | false =>
      rw [wipe_of_inactive hadmin, wipeEntries, hadmin]
      exact ⟨rfl, rfl⟩
  | true =>
      rw [wipe_of_active hadmin, wipeEntries, hadmin]
      exact ⟨rfl, rfl⟩

theorem recorded_handle (c : Coordinator δ) (event : Event) :
    c.Recorded (c.handle event) (c.handleEntries event) := by
  rcases c.phase.after_cases event with hsame | ⟨hphase, rfl⟩ | ⟨hphase, rfl⟩
  · have hentries : c.handleEntries event = [] := by
      simp [handleEntries, Transition.changed, hsame]
    rw [handle_of_same hsame, hentries]
    exact ⟨rfl, rfl⟩
  · have hentries : c.handleEntries .disabled
        = [.moved ⟨.enabled, .disabled⟩, .forgotten none] := by
      simp [handleEntries, Transition.changed, hphase, Phase.after]
    rw [handle_of_disable hphase, hentries]
    exact ⟨rfl, rfl⟩
  · let moved := { c with phase := .enabled }.invalidate
    have hentries : c.handleEntries .enabled
        = .moved ⟨.disabled, .enabled⟩ :: .forgotten none :: moved.applyEntries := by
      simp [handleEntries, Transition.changed, hphase, Phase.after, moved]
    have happly := moved.recorded_apply
    rw [handle_of_enable hphase, hentries]
    exact ⟨happly.told, happly.scans⟩

/-- **The log accounts for every request.** What a request tells the
device is what its entries say, no more and no less and in their order;
and it reads the rows once for each entry of a reading. -/
theorem recorded_serve (c : Coordinator δ) (r : Request) :
    c.Recorded (c.serve r) (c.entries r) := by
  cases r with
  | compute => exact c.recorded_compute.map _
  | aggregate => exact c.recorded_aggregate.map _
  | evaluate policy? => exact (c.recorded_evaluate policy?).map _
  | satisfied policy? => exact ((c.recorded_evaluate policy?).map _).map _
  | apply => exact c.recorded_apply.map _
  | wipe account => exact (c.recorded_wipe account).map _
  | handle event => exact (c.recorded_handle event).map _
  | notify account =>
      rw [entries]
      split <;> exact ⟨rfl, rfl⟩
  | _ => exact ⟨rfl, rfl⟩

/-! ## Runs -/

/-- The entries that the steps of a run leave in the log. Only requests
are put on record. -/
def record (c : Coordinator δ) : List (Step δ) → List Log.Entry
  | [] => []
  | s :: steps =>
    (match s with
      | .request r => c.entries r
      | .change _ | .push _ => [])
    ++ record (c.step s).next steps

theorem record_cons {s : Step δ} (hpush : ∀ p, s ≠ .push p) (c : Coordinator δ)
    (steps : List (Step δ)) :
    ∃ entries, c.record (s :: steps) = entries ++ (c.step s).next.record steps
      ∧ c.Recorded (c.step s) entries := by
  cases s with
  | request r => exact ⟨_, rfl, c.recorded_serve r⟩
  | change e => exact ⟨[], rfl, rfl, by cases e <;> rfl⟩
  | push p => exact absurd rfl (hpush p)

/-- Over a run without pushes, the log says what the device was told and
how often the rows were read. -/
theorem recorded_run (c : Coordinator δ) {steps : List (Step δ)} (hpush : ∀ p, .push p ∉ steps) :
    told ((c.run steps).flatMap Outcome.calls)
        = (c.record steps).flatMap Log.Entry.directives
      ∧ (c.after steps).scans = c.scans + (c.record steps).countP Log.Entry.reads := by
  induction steps generalizing c with
  | nil => exact ⟨rfl, rfl⟩
  | cons s steps ih =>
      have hs : ∀ p, s ≠ .push p := fun p h => hpush p (h ▸ List.mem_cons_self)
      have hrest : ∀ p, .push p ∉ steps := fun p h => hpush p (List.mem_cons_of_mem s h)
      obtain ⟨entries, hrecord, hstep⟩ := record_cons hs c steps
      obtain ⟨htold, hscans⟩ := ih (c.step s).next hrest
      have hnext : (c.after (s :: steps)).scans = ((c.step s).next.after steps).scans := rfl
      rw [run, List.flatMap_cons, told_append, hstep.told, htold, hrecord, List.flatMap_append,
        List.countP_append, hnext, hscans, hstep.scans, Nat.add_assoc]
      exact ⟨rfl, rfl⟩

/-- Where nobody goes around the coordinator, the device comes out of a
run as one that was told what the log says. -/
theorem after_eq_obeyAll_record (c : Coordinator δ) {steps : List (Step δ)}
    (hpush : ∀ p, .push p ∉ steps) (hdevice : ∀ device, .change (.device device) ∉ steps) :
    (c.after steps).device
      = Device.obeyAll c.device ((c.record steps).flatMap Log.Entry.directives) := by
  rw [after_obeys c hdevice, (c.recorded_run hpush).1]

end Coordinator

end LockPolicy
