import LockPolicy.Coordinator.Step
import LockPolicy.Device.Plain
import LockPolicy.Proofs.Accounts.Policies
import LockPolicy.Proofs.Coordinator.Fresh

/-!
# When the rows are read, and what is kept of it

Nobody has to say that rows have changed. Whoever does not may be
answered from rows that are gone, but never from nowhere: what is kept is
what the rows held at one moment of the run, and which moment that was
follows from the run alone.

A run is told here by what it does to the cache. A step may forget what
is kept (`forgets`), and it may read the rows (`reads`). Both are written
into a journal, with the rows as they were, but for a reading for its own
sake (`Request.compute`): it is counted only, as nothing is kept of it.
What is kept is then the first success in the journal since something was
last forgotten (`after_cache`). The step lemma is `step_memory`: all that
a step does to the cache and to the count of readings is in the two
tables. Changes of the rows are in neither, and they can do to the rows
whatever may be done to them (`exists_changes`).
-/

namespace LockPolicy

namespace Coordinator

/-! ## The journal of a run -/

/-- An entry of the journal. -/
inductive Mark where
  /-- What was kept is dropped. -/
  | forget
  /-- The rows, which are these, are read so that the result be kept. -/
  | read (rows : Accounts)
deriving DecidableEq, Repr

/-- The policy that the entry makes known, if there is one. -/
def Mark.found? : Mark → Option Policy
  | forget => none
  | read rows => rows.strictest.toOption

/-- The entries since something was last forgotten. -/
def sinceForgotten (journal : List Mark) : List Mark :=
  (journal.reverse.takeWhile (· ≠ .forget)).reverse

/-- What the first successful reading since then has found. -/
def firstFound (journal : List Mark) : Option Policy :=
  (sinceForgotten journal).findSome? Mark.found?

theorem firstFound_nil : firstFound [] = none := rfl

theorem firstFound_forget (journal : List Mark) : firstFound (journal ++ [.forget]) = none := by
  simp [firstFound, sinceForgotten]

theorem sinceForgotten_append {journal more : List Mark} (h : .forget ∉ more) :
    sinceForgotten (journal ++ more) = sinceForgotten journal ++ more := by
  have hkept : ∀ mark ∈ more.reverse, decide (mark ≠ .forget) = true := by
    intro mark hmark
    refine decide_eq_true fun hforget => h ?_
    rwa [← hforget, ← List.mem_reverse]
  rw [sinceForgotten, List.reverse_append, List.takeWhile_append_of_pos hkept,
    List.reverse_append, List.reverse_reverse]
  rfl

/-- As long as nothing is forgotten, what was found first stays. -/
theorem firstFound_append {journal more : List Mark} (h : .forget ∉ more) :
    firstFound (journal ++ more) = (firstFound journal).or (more.findSome? Mark.found?) := by
  rw [firstFound, sinceForgotten_append h, List.findSome?_append]
  rfl

theorem firstFound_read (journal : List Mark) (rows : Accounts) :
    firstFound (journal ++ [.read rows])
      = (firstFound journal).or rows.strictest.toOption := by
  rw [firstFound_append (by simp), List.findSome?_singleton]
  rfl

variable {δ : Type} [Device δ]

/-- Whether the step drops what is kept. -/
def forgets (c : Coordinator δ) : Step δ → Bool
  | .request (.invalidate _) | .request .invalidateAll => true
  | .request (.handle event) => c.phase.after event ≠ c.phase
  | _ => false

/-- Whether the step reads the rows. -/
def reads (c : Coordinator δ) : Step δ → Bool
  | .request .compute => true
  | .request .aggregate => c.cache = none
  | .request (.evaluate none) | .request (.satisfied none) | .request .apply =>
    c.reading.admin ∧ c.cache = none
  | .request (.handle .enabled) => c.reading.admin ∧ c.phase = .disabled
  | _ => false

/-- Whether the step reads the rows so that the result be kept. -/
def fills (c : Coordinator δ) : Step δ → Bool
  | .request .compute => false
  | s => c.reads s

/-- The entries of one step. -/
def marks (c : Coordinator δ) (s : Step δ) : List Mark :=
  (if c.forgets s then [.forget] else []) ++ if c.fills s then [.read c.rows] else []

/-- The entries of a run. -/
def journal (c : Coordinator δ) : List (Step δ) → List Mark
  | [] => []
  | s :: steps => c.marks s ++ (c.step s).next.journal steps

/-! ## What one step does -/

/-- What is kept, and how often the rows were read. -/
def memory (c : Coordinator δ) : Option Policy × Nat :=
  (c.cache, c.scans)

omit [Device δ] in
theorem aggregate_memory_of_none {c : Coordinator δ} (h : c.cache = none) :
    c.aggregate.next.memory = (c.rows.strictest.toOption, c.scans + 1) := by
  cases hread : c.rows.strictest with
  | ok p =>
      rw [aggregate_of_ok h hread]
      rfl
  | error fault =>
      rw [aggregate_of_error h hread, memory, h]
      rfl

omit [Device δ] in
theorem aggregate_memory_of_some {c : Coordinator δ} (h : c.cache ≠ none) :
    c.aggregate.next.memory = c.memory := by
  obtain ⟨p, hp⟩ := Option.ne_none_iff_exists'.mp h
  rw [aggregate_of_some hp]

/-- What is kept, and how often the rows were read, after a look at the
strictest policy that is taken under an administrator only. -/
def looked (c : Coordinator δ) : Option Policy × Nat :=
  let read : Bool := c.reading.admin ∧ c.cache = none
  (if read then c.rows.strictest.toOption else c.cache, c.scans + read.toNat)

theorem looked_of_inactive {c : Coordinator δ} (h : c.reading.admin = false) :
    c.looked = c.memory := by
  simp [looked, memory, h]

theorem looked_of_active {c : Coordinator δ} (h : c.reading.admin = true) :
    c.looked = c.aggregate.next.memory := by
  by_cases hcache : c.cache = none
  · rw [aggregate_memory_of_none hcache]
    simp [looked, h, hcache]
  · rw [aggregate_memory_of_some hcache]
    simp [looked, h, hcache, memory]

theorem apply_memory (c : Coordinator δ) : c.apply.next.memory = c.looked := by
  cases hadmin : c.reading.admin with
  | false => rw [apply_of_inactive hadmin, looked_of_inactive hadmin]
  | true =>
      rw [looked_of_active hadmin]
      cases hread : c.aggregate.result with
      | ok p =>
          rw [apply_of_ok hadmin hread]
          rfl
      | error fault => rw [apply_of_error hadmin hread]

theorem evaluate_none_memory (c : Coordinator δ) :
    (c.evaluate none).next.memory = c.looked := by
  cases hadmin : c.reading.admin with
  | false => rw [evaluate_of_inactive hadmin, looked_of_inactive hadmin]
  | true => rw [evaluate_none_next hadmin, looked_of_active hadmin]

theorem evaluate_some_memory (c : Coordinator δ) (p : Policy) :
    (c.evaluate (some p)).next.memory = c.memory := by
  cases hadmin : c.reading.admin with
  | false => rw [evaluate_of_inactive hadmin]
  | true => rw [evaluate_some hadmin]

theorem wipe_memory (c : Coordinator δ) : c.wipe.next.memory = c.memory := by
  cases hadmin : c.reading.admin with
  | false => rw [wipe_of_inactive hadmin]
  | true =>
      rw [wipe_of_active hadmin]
      rfl

theorem handle_memory (c : Coordinator δ) (event : Event) :
    (c.handle event).next.memory
      = (if c.fills (.request (.handle event)) then c.rows.strictest.toOption
          else if c.forgets (.request (.handle event)) then none else c.cache,
        c.scans + (c.reads (.request (.handle event))).toNat) := by
  rcases c.phase.after_cases event with hsame | ⟨hphase, rfl⟩ | ⟨hphase, rfl⟩
  · have hreads : c.reads (.request (.handle event)) = false := by
      cases event with
      | enabled => simp [reads, ← hsame, Phase.after]
      | _ => rfl
    have hfills : c.fills (.request (.handle event)) = false := hreads
    rw [handle_of_same hsame, hreads, hfills]
    simp [forgets, hsame, memory]
  · rw [handle_of_disable hphase]
    simp [fills, reads, forgets, hphase, Phase.after, memory, invalidate]
  · -- The step is a look on a coordinator that has just forgotten.
    have hlook := { c with phase := .enabled }.invalidate.apply_memory
    have hreading : { c with phase := .enabled }.invalidate.reading = c.reading := rfl
    rw [handle_of_enable hphase, hlook, looked, hreading]
    simp [fills, reads, forgets, hphase, Phase.after, invalidate]

theorem step_memory (c : Coordinator δ) (s : Step δ) :
    (c.step s).next.memory
      = (if c.fills s then c.rows.strictest.toOption
          else if c.forgets s then none else c.cache,
        c.scans + (c.reads s).toNat) := by
  cases s with
  | change e => cases e <;> rfl
  | push p => rfl
  | request r =>
      cases r with
      | compute => rfl
      | aggregate =>
          by_cases hcache : c.cache = none
          · rw [step, serve, Outcome.map, aggregate_memory_of_none hcache]
            simp [fills, reads, hcache]
          · rw [step, serve, Outcome.map, aggregate_memory_of_some hcache]
            simp [fills, reads, forgets, hcache, memory]
      | evaluate policy? =>
          cases policy? with
          | none => exact c.evaluate_none_memory
          | some p => exact c.evaluate_some_memory p
      | satisfied policy? =>
          cases policy? with
          | none => exact c.evaluate_none_memory
          | some p => exact c.evaluate_some_memory p
      | apply => exact c.apply_memory
      | wipe _ => exact c.wipe_memory
      | handle event => exact c.handle_memory event
      | _ => rfl

theorem step_scans (c : Coordinator δ) (s : Step δ) :
    (c.step s).next.scans = c.scans + (c.reads s).toNat :=
  congrArg Prod.snd (c.step_memory s)

theorem step_cache (c : Coordinator δ) (s : Step δ) :
    (c.step s).next.cache
      = if c.fills s then c.rows.strictest.toOption
        else if c.forgets s then none else c.cache :=
  congrArg Prod.fst (c.step_memory s)

/-- The rows are read where nothing is kept, or no longer. -/
theorem cache_of_fills {c : Coordinator δ} {s : Step δ} (hfills : c.fills s = true)
    (hforgets : c.forgets s = false) : c.cache = none := by
  cases s with
  | change _ => cases hfills
  | push _ => cases hfills
  | request r =>
      cases r with
      | aggregate => exact of_decide_eq_true hfills
      | evaluate policy? =>
          cases policy? with
          | none => exact (of_decide_eq_true hfills).2
          | some _ => cases hfills
      | satisfied policy? =>
          cases policy? with
          | none => exact (of_decide_eq_true hfills).2
          | some _ => cases hfills
      | apply => exact (of_decide_eq_true hfills).2
      | handle event =>
          cases event with
          | enabled =>
              -- The phase changes, so the step forgets first.
              have hphase : c.phase = .disabled := (of_decide_eq_true hfills).2
              simp [forgets, hphase, Phase.after] at hforgets
          | _ => cases hfills
      | _ => cases hfills

theorem step_firstFound {c : Coordinator δ} {journal : List Mark}
    (h : c.cache = firstFound journal) (s : Step δ) :
    (c.step s).next.cache = firstFound (journal ++ c.marks s) := by
  rw [step_cache, marks]
  cases hforgets : c.forgets s with
  | false =>
      cases hfills : c.fills s with
      | false => simpa using h
      | true =>
          have hnone : firstFound journal = none := h ▸ cache_of_fills hfills hforgets
          simp [firstFound_read, hnone]
  | true =>
      cases hfills : c.fills s with
      | false => simp [firstFound_forget]
      | true =>
          simp only [if_true, ← List.append_assoc, firstFound_read, firstFound_forget,
            Option.none_or]

/-! ## Changes of the rows -/

theorem after_erase {c : Coordinator δ} {accounts : List Int}
    (h : ∀ row ∈ c.rows, row.account ∈ accounts) :
    c.after ((accounts.map Change.erase).map .change) = { c with rows := [] } := by
  induction accounts generalizing c with
  | nil =>
      have hrows : c.rows = [] := List.eq_nil_iff_forall_not_mem.mpr fun row hrow =>
        List.not_mem_nil (h row hrow)
      rw [← hrows]
      rfl
  | cons account accounts ih =>
      refine ih (c := { c with rows := c.rows.erase account }) fun row hrow => ?_
      obtain ⟨hmem, hother⟩ := List.mem_filter.mp hrow
      exact (List.mem_cons.mp (h row hmem)).resolve_left (of_decide_eq_true hother)

theorem after_push (c : Coordinator δ) (rows : Accounts) :
    c.after ((rows.map fun row => Change.push row.account row.flags).map .change)
      = { c with rows := c.rows ++ rows } := by
  induction rows generalizing c with
  | nil => rw [List.append_nil]; rfl
  | cons row rows ih =>
      rw [List.append_cons]
      exact ih { c with rows := c.rows ++ [row] }

theorem exists_changes (c : Coordinator δ) (rows : Accounts) :
    ∃ changes : List (Change δ), c.after (changes.map .change) = { c with rows } := by
  let erasures : List (Change δ) := (c.rows.map Row.account).map .erase
  let additions : List (Change δ) := rows.map fun row => .push row.account row.flags
  have herased : c.after (erasures.map .change) = { c with rows := [] } :=
    after_erase fun row hrow => List.mem_map_of_mem hrow
  refine ⟨erasures ++ additions, ?_⟩
  calc c.after ((erasures ++ additions).map .change)
    _ = (c.after (erasures.map .change)).after (additions.map .change) := by
        rw [List.map_append]
        exact List.foldl_append
    _ = { c with rows := [] }.after (additions.map .change) := by rw [herased]
    _ = { c with rows } := after_push { c with rows := [] } rows

/-! ## What a run does -/

theorem after_cache {c : Coordinator δ} {journal : List Mark}
    (h : c.cache = firstFound journal) (steps : List (Step δ)) :
    (c.after steps).cache = firstFound (journal ++ c.journal steps) := by
  induction steps generalizing c journal with
  | nil => rwa [Coordinator.journal, List.append_nil]
  | cons s steps ih =>
      rw [Coordinator.journal, ← List.append_assoc]
      exact ih (step_firstFound h s)

theorem journal_changes (c : Coordinator δ) (changes : List (Change δ)) :
    c.journal (changes.map .change) = [] := by
  induction changes generalizing c with
  | nil => rfl
  | cons e changes ih => exact ih (c.undergo e).2

/-- **What is kept is the first success since something was last
forgotten.** Whatever was done to a coordinator that kept nothing, and
however the rows were changed meanwhile, it keeps what the first
successful reading since then has found in the rows as they were. Until
something is forgotten again it answers with that. A step reads the rows
once or not at all (`reads`). No reading for its own sake and none that
fails has anything kept, and where nothing is kept the rows may be
repaired at any time: the next look finds their merge. -/
theorem cache_eq_firstFound {c : Coordinator δ} (hnew : c.cache = none)
    (before : List (Step δ)) :
    let d := c.after before
    d.cache = firstFound (c.journal before)
      ∧ (∀ p, d.cache = some p → ∀ more, .forget ∉ d.journal more →
          (d.after more).aggregate.result = .ok p)
      ∧ (∀ s, (d.step s).next.scans = d.scans + (d.reads s).toNat)
      ∧ (d.step (.request .compute)).next.cache = d.cache
      ∧ (∀ s fault, d.fills s = true → d.rows.strictest = .error fault →
          (d.step s).next.cache = none)
      ∧ (d.cache = none → ∀ (repairs : List (Change δ)) ps,
          (d.after (repairs.map .change)).rows.policies = .ok ps →
          (d.after (repairs.map .change)).aggregate.result = .ok (Policy.merge ps)) := by
  intro d
  have hcache : d.cache = firstFound (c.journal before) :=
    after_cache (hnew.trans firstFound_nil.symm) before
  refine ⟨hcache, ?kept, d.step_scans, rfl, ?failed, ?repaired⟩
  case kept =>
    intro p hp more hmore
    have hkept : (d.after more).cache = some p := by
      rw [after_cache hcache more, firstFound_append hmore, ← hcache, hp, Option.some_or]
    rw [aggregate_of_some hkept]
  case failed =>
    intro s fault hfills hread
    rw [step_cache, if_pos hfills, hread]
    rfl
  case repaired =>
    intro hnone repairs ps hps
    have hstill : (d.after (repairs.map .change)).cache = none := by
      rw [after_cache hcache, journal_changes, List.append_nil, ← hcache, hnone]
    rw [aggregate_result (fresh_of_cache_none hstill), Accounts.strictest_eq, hps]
    rfl

/-- Nothing is kept of a damaged row. Once it has been written anew its
policy is, and stays when the row is gone and another is damaged, until
the phase changes. -/
theorem cache_eq_firstFound_of_repair :
    let c : Coordinator PlainDevice := { device := { admin := true }, rows := [⟨1, 0xe0⟩] }
    let p : Policy := ⟨8, .strong, 5, 60, false⟩
    let failed : List (Step PlainDevice) := [.request .compute, .request .apply]
    let kept := failed ++ [.change (.set 1 p.toWord), .request (.evaluate none)]
    let more : List (Step PlainDevice) :=
      [.change (.erase 1), .request .apply, .change (.push 2 0xe0)]
    (c.after failed).cache = none
      ∧ ((c.after failed).step (.request .aggregate)).next.cache = none
      ∧ ((c.after failed).after [.change (.set 1 p.toWord)]).aggregate.result = .ok p
      ∧ (c.after kept).cache = some p
      ∧ ((c.after kept).after more).aggregate.result = .ok p
      ∧ (c.after (kept ++ more ++ [.request (.handle .enabled)])).cache = none := by
  intro c p failed kept more
  obtain ⟨hfailed, -, -, -, hfails, hrepaired⟩ := cache_eq_firstFound (c := c) rfl failed
  obtain ⟨hkept, hstays, -⟩ := cache_eq_firstFound (c := c) rfl kept
  obtain ⟨hdropped, -⟩ :=
    cache_eq_firstFound (c := c) rfl (kept ++ more ++ [.request (.handle .enabled)])
  have hnone : (c.after failed).cache = none := hfailed.trans (by decide)
  have hsome : (c.after kept).cache = some p := hkept.trans (by decide)
  have hread : (c.after failed).rows.strictest = .error (.unreadable 0xe0 7) := by decide
  exact ⟨hnone, hfails _ _ (by decide) hread,
    hrepaired hnone [.set 1 p.toWord] [p] (by decide), hsome,
    hstays p hsome more (by decide), hdropped.trans (by decide)⟩

end Coordinator

end LockPolicy
