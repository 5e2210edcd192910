import LockPolicy.Proofs.Accounts.Policies
import LockPolicy.Proofs.Console.Lines
import LockPolicy.Proofs.Coordinator.Fresh
import LockPolicy.Proofs.Policy.Shown

/-!
# What the console works with

Nothing makes the console tell its coordinator when it writes to the
rows, and nothing makes it write whole policies only. That it does both
is the invariant `Console.Sound`: every command leaves the rows packed
and the coordinator fresh (`execute_sound`), so every conversation does
(`after?_sound`).

On a sound console the rows can be read, and the strictest policy is the
merge of what they hold now. `WorksWith` says what that means for the
commands that depend on it: the merge is what is shown, what is checked,
and what is pushed to the lock screen. No other policy is shown in the
same way (`WorksWith.eq_of_shown`), and none that differs in more than
what a screen is not told is pushed in the same way
(`WorksWith.eq_of_applied`).
-/

namespace LockPolicy

namespace Console

/-! ## Storing a policy -/

/-- What is printed of a policy that the lock screen cannot honour. -/
def warning (c : Console) (p : Policy) : List String :=
  if c.rules.supports p then [] else ["warning: device cannot honour " ++ p.text]

theorem store_of_ne {c : Console} {account : Int} {p : Policy}
    (h : c.rows.flags account ≠ p.toWord) :
    c.store account p =
      { said := .ok (c.warning p ++ ["account " ++ toString account ++ ": " ++ p.text
          ++ " (flags " ++ Numeral.hex p.toWord.toNat ++ ")"])
        next := { c with rows := c.rows.set account p.toWord }.invalidate } := by
  have hchanged : (p.toWord != c.rows.flags account) = true := bne_iff_ne.mpr h.symm
  simp only [store, Policy.store, hchanged, if_true, warning]

theorem store_of_eq {c : Console} {account : Int} {p : Policy}
    (h : c.rows.flags account = p.toWord) :
    c.store account p =
      { said := .ok (c.warning p ++ ["account " ++ toString account ++ ": unchanged"])
        next := c } := by
  have hchanged : (p.toWord != c.rows.flags account) = false := by rw [h, bne_self_eq_false]
  simp only [store, Policy.store, hchanged, Bool.false_eq_true, if_false, warning]

/-! ## The invariant -/

/-- What every command preserves: the rows were written from policies,
and what the coordinator keeps was read from them as they are. -/
structure Sound (c : Console) : Prop where
  packed : c.rows.Packed
  fresh : c.Fresh

variable {c d : Console}

theorem sound_start (override : Bool) : (start override).Sound where
  packed := Accounts.packed_nil
  fresh := Coordinator.fresh_of_cache_none rfl

theorem Sound.of_keeps (h : c.Sound) (hkeeps : c.Keeps d) : d.Sound where
  packed := hkeeps.rows ▸ h.packed
  fresh := hkeeps.fresh h.fresh

/-- Rows are written soundly if they are announced. -/
theorem sound_write {rows : Accounts} (h : rows.Packed) :
    Sound (Coordinator.invalidate { c with rows }) where
  packed := h
  fresh := Coordinator.fresh_invalidate _

theorem keeps_onScreen (c : Console) (f : LockScreen → LockScreen) :
    c.Keeps (c.onScreen f) :=
  .of_eq rfl rfl

theorem keeps_report (c : Console) (account? : Option Int) (v : Verdict) :
    c.Keeps (c.report account? v).next := by
  unfold report
  split
  · exact .refl c
  · split
    · exact .refl c
    · exact .of_eq rfl rfl

theorem keeps_check (c : Console) (account? : Option Int) (policy? : Option Policy) :
    c.Keeps (c.check account? policy?).next := by
  have hkeeps := c.keeps_evaluate policy?
  cases hresult : (c.evaluate policy?).result with
  | ok v =>
      simp only [check, hresult]
      exact hkeeps.trans (keeps_report _ account? v)
  | error fault =>
      simp only [check, hresult]
      exact hkeeps

theorem keeps_heed (c : Console) (event : Event) : c.Keeps (c.heed event).next :=
  c.keeps_handle event

theorem store_sound (h : c.Sound) (account : Int) (p : Policy) :
    (c.store account p).next.Sound := by
  by_cases hsame : c.rows.flags account = p.toWord
  · rw [store_of_eq hsame]
    exact h
  · rw [store_of_ne hsame]
    exact sound_write (h.packed.set account p)

theorem execute_sound (h : c.Sound) (command : Command) : (c.execute command).next.Sound := by
  cases command with
  | store account p => exact store_sound h account p
  | remove account =>
      rw [execute]
      split
      · exact sound_write (h.packed.erase account)
      · exact h
  | display => exact h.of_keeps c.keeps_aggregate
  | check account? =>
      cases account? with
      | none => exact h.of_keeps (c.keeps_check none none)
      | some account =>
          rw [execute]
          split
          · exact h.of_keeps (c.keeps_check _ _)
          · exact h
  | apply => exact h.of_keeps c.keeps_apply
  | enable => exact h.of_keeps ((c.keeps_onScreen _).trans (keeps_heed _ _))
  | disable =>
      have hheed := h.of_keeps (c.keeps_heed .disabled)
      rw [execute]
      split
      · exact hheed.of_keeps (keeps_onScreen _ (·.administer false))
      · exact hheed
  | password length quality => exact h.of_keeps ((c.keeps_onScreen _).trans (keeps_heed _ _))
  | timeout millis => exact h.of_keeps (c.keeps_onScreen (·.setTimeToLock millis))
  | wipe _ => exact h.of_keeps c.keeps_wipe
  | dismiss _ => exact h.of_keeps (.of_eq rfl rfl)

theorem after?_sound {override : Bool} {lines : List (List UInt8)}
    (h : (start override).after? lines = some c) : c.Sound :=
  after?_preserves (P := Sound) (fun _ command hc => execute_sound hc command) h
    (sound_start override)

/-! ## The policy that commands depend on -/

/-- Wherever the console depends on the strictest policy, it takes the
given one. -/
structure WorksWith (c : Console) (p : Policy) : Prop where
  lookup : c.aggregate.result = .ok p
  shown (text : String) (h : Text.words text = ["show"]) :
    ∃ next, c.line text =
      .next (print ["aggregate: " ++ p.text, "device:    " ++ c.device.dump,
        "admin:     " ++ c.phase.name]) next
  /-- The verdict of `check` is that on the policy. -/
  checked (text : String) (h : Text.words text = ["check"]) :
    let v := (c.rules.evaluate p c.reading).verdict
    ∃ next, c.line text =
      .next (print [(if v.satisfied then "ok: " else "blocked: ") ++ v.text]) next
  /-- What `apply` tells the lock screen is the policy and nothing else. -/
  applied (text : String) (h : Text.words text = ["apply"])
      (hadmin : c.device.adminActive = true) :
    c.apply.calls = .ask .admin :: p.directives.map .tell
      ∧ ∃ next, c.line text = .next [] next
        ∧ next.device = Device.obeyAll c.device p.directives
  /-- So it is for an `enable` that changes the phase. -/
  enabled (text : String) (h : Text.words text = ["enable"]) (hphase : c.phase = .disabled) :
    ((c.onScreen (·.administer true)).handle .enabled).calls
        = .ask .admin :: p.directives.map .tell
      ∧ ∃ next, c.line text = .next [] next
        ∧ next.device = Device.obeyAll (c.device.administer true) p.directives

variable {p : Policy}

theorem execute_display (hread : c.aggregate.result = .ok p) :
    c.execute .display =
      { said := .ok ["aggregate: " ++ p.text, "device:    " ++ c.device.dump,
          "admin:     " ++ c.phase.name]
        next := c.aggregate.next } := by
  simp only [execute, Reply.ofOutcome, hread, Coordinator.aggregate_device,
    Coordinator.aggregate_phase]
  rfl

theorem execute_check_said (hread : c.aggregate.result = .ok p) :
    let v := (c.rules.evaluate p c.reading).verdict
    (c.execute (.check none)).said
      = .ok [(if v.satisfied then "ok: " else "blocked: ") ++ v.text] := by
  intro v
  have hresult : (c.evaluate none).result = .ok v := Coordinator.evaluate_none_result hread
  simp only [execute, check, hresult, report]
  split <;> rfl

theorem execute_apply (hread : c.aggregate.result = .ok p)
    (hadmin : c.device.adminActive = true) :
    c.execute .apply = { next := c.aggregate.next.tell p.directives } := by
  have hadmin' : c.reading.admin = true := hadmin
  rw [execute, Coordinator.apply_of_ok hadmin' hread]
  rfl

theorem execute_enable (hread : c.rows.strictest = .ok p) (hphase : c.phase = .disabled) :
    let moved := { c.onScreen (·.administer true) with phase := .enabled }
    c.execute .enable = { next := moved.invalidate.aggregate.next.tell p.directives } := by
  intro moved
  have hhandle := Coordinator.handle_enable_of_ok (c := c.onScreen (·.administer true)) hphase
    rfl hread
  rw [execute, heed, hhandle]
  rfl

/-- The policy can be read off what is shown. -/
theorem WorksWith.eq_of_shown {q : Policy} {text : String} {next : Console}
    (h : c.WorksWith p) (htext : Text.words text = ["show"])
    (hline : c.line text =
      .next (print ["aggregate: " ++ q.text, "device:    " ++ c.device.dump,
        "admin:     " ++ c.phase.name]) next) : q = p := by
  obtain ⟨next', hshown⟩ := h.shown text htext
  have hprinted := (Reaction.next.inj (hline.symm.trans hshown)).1
  have hfirst := Emission.out.inj (List.cons.inj hprinted).1
  exact Policy.text_inj
    ((String.append_right_inj _).mp ((String.append_left_inj _).mp hfirst))

/-- All that a screen is told of a policy can be read off the calls. -/
theorem WorksWith.eq_of_applied {q : Policy} (h : c.WorksWith p)
    (hadmin : c.device.adminActive = true)
    (hcalls : c.apply.calls = .ask .admin :: q.directives.map .tell) :
    ∃ remoteWipe, q = { p with remoteWipe } := by
  obtain ⟨happlied, -⟩ := h.applied "apply" rfl hadmin
  have htold := (List.cons.inj (hcalls.symm.trans happlied)).2
  exact Policy.directives_inj.mp ((List.map_inj_right fun _ _ => Call.tell.inj).mp htold)

theorem Sound.worksWith {ps : List Policy} (h : c.Sound) (hps : c.rows.policies = .ok ps) :
    c.WorksWith (Policy.merge ps) := by
  have hread := Accounts.strictest_of_policies hps
  have hlookup : c.aggregate.result = .ok (Policy.merge ps) :=
    (Coordinator.aggregate_result h.fresh).trans hread
  constructor
  case lookup => exact hlookup
  case shown =>
    intro text htext
    rw [line_of_ofWords .display htext rfl, execute_display hlookup]
    exact ⟨_, rfl⟩
  case checked =>
    intro text htext v
    rw [line_of_ofWords (.check none) htext rfl, Reply.emissions,
      execute_check_said hlookup]
    exact ⟨_, rfl⟩
  case applied =>
    intro text htext hadmin
    rw [line_of_ofWords .apply htext rfl, execute_apply hlookup hadmin]
    refine ⟨?_, _, rfl, ?_⟩
    · rw [Coordinator.apply_of_ok (c := c) hadmin hlookup]
    · rw [Coordinator.tell, Coordinator.aggregate_device]
  case enabled =>
    intro text htext hphase
    rw [line_of_ofWords .enable htext rfl, execute_enable hread hphase]
    refine ⟨?_, _, rfl, ?_⟩
    · rw [Coordinator.handle_enable_of_ok (c := c.onScreen (·.administer true)) hphase rfl hread]
    · rw [Coordinator.tell, Coordinator.aggregate_device]
      rfl

/-- **The console works with the merge of its rows.** After any lines of
input from the start, whatever was typed and whatever came of it, each
row is packed as it would be packed again, and wherever the console
depends on the strictest policy, it takes the merge of what the rows
hold at that moment. -/
theorem after?_worksWith {override : Bool} {lines : List (List UInt8)} {c : Console}
    (h : (start override).after? lines = some c) :
    (∀ row ∈ c.rows, row.flags.toNat < 0x4000000
        ∧ ∃ p, Policy.ofWord row.flags = .ok p ∧ p.toWord = row.flags)
      ∧ ∃ ps, c.rows.policies = .ok ps ∧ c.WorksWith (Policy.merge ps) := by
  have hsound := after?_sound h
  obtain ⟨ps, hps⟩ := hsound.packed.policies
  exact ⟨fun row hrow => hsound.packed.row hrow, ps, hps, hsound.worksWith hps⟩

/-- A policy is set field by field and another as flags with bits to
spare; the merge takes the lock time of the second. -/
theorem after?_worksWith_of_two :
    ∃ c, (start false).after? ["set 7 8 strong 5 300 1".toUTF8.data.toList,
        "raw 2 0xfc028002".toUTF8.data.toList] = some c
      ∧ c.WorksWith ⟨8, .strong, 5, 10, true⟩ := by
  have hset : Text.ofBytes? "set 7 8 strong 5 300 1".toUTF8.data.toList
      = some "set 7 8 strong 5 300 1" := rfl
  have hsetWords : Command.ofWords (Text.words "set 7 8 strong 5 300 1")
      = .ok (.store 7 ⟨8, .strong, 5, 300, true⟩) := rfl
  have hraw : Text.ofBytes? "raw 2 0xfc028002".toUTF8.data.toList
      = some "raw 2 0xfc028002" := rfl
  have hrawWords : Command.ofWords (Text.words "raw 2 0xfc028002")
      = .ok (.store 2 ⟨2, .unset, 0, 10, false⟩) := rfl
  have h := after?_cons (read_of_command hset hsetWords (start false))
    ["raw 2 0xfc028002".toUTF8.data.toList]
  rw [after?_cons (read_of_command hraw hrawWords _), after?_nil] at h
  obtain ⟨-, ps, hps, hworks⟩ := after?_worksWith h
  have hrows : ps = [⟨8, .strong, 5, 300, true⟩, ⟨2, .unset, 0, 10, false⟩] :=
    Except.ok.inj (hps.symm.trans (by decide))
  have hmerge : Policy.merge ps = ⟨8, .strong, 5, 10, true⟩ := by
    rw [hrows]
    decide
  exact ⟨_, h, hmerge ▸ hworks⟩

end Console

end LockPolicy
