import LockPolicy.Proofs.Console.Coherence
import LockPolicy.Proofs.Console.History

/-!
# Enabling at the console

The console knows of the administrator twice: the screen has a flag, and
the coordinator has a phase that is to follow the flag. The commands
`enable` and `disable` move both. An erasure takes the flag back with all
the rest of the screen, and nobody reports that to the coordinator. So
the two drift apart exactly when the last `enable` was followed by an
erasure and not by a `disable` (`phase_enabled_iff`).

This decides what an `enable` is good for. It always gives the screen its
administrator. In the disabled phase it also leaves the screen with the
settings of the strictest policy. In the enabled phase it is taken for a
repetition, and the screen keeps the settings that it has
(`enable_enforces_iff`).
-/

namespace LockPolicy

/-- The settings of the screen are those that the policy is pushed as. -/
structure LockScreen.Enforces (s : LockScreen) (p : Policy) : Prop where
  minLength : s.minLength = p.minLength
  quality : s.quality = p.strength.quality
  timeToLock : s.timeToLock = p.lockMillis
  maxFailures : s.maxFailures = p.maxFailures

instance (s : LockScreen) (p : Policy) : Decidable (s.Enforces p) :=
  decidable_of_iff (s.minLength = p.minLength ∧ s.quality = p.strength.quality
      ∧ s.timeToLock = p.lockMillis ∧ s.maxFailures = p.maxFailures)
    ⟨fun ⟨hlength, hquality, hlock, hfailures⟩ => ⟨hlength, hquality, hlock, hfailures⟩,
      fun ⟨hlength, hquality, hlock, hfailures⟩ => ⟨hlength, hquality, hlock, hfailures⟩⟩

theorem LockScreen.enforces_obeyAll (s : LockScreen) (p : Policy) :
    (Device.obeyAll s p.directives : LockScreen).Enforces p := ⟨rfl, rfl, rfl, rfl⟩

theorem LockScreen.adminActive_obeyAll (s : LockScreen) (p : Policy) :
    (Device.obeyAll s p.directives : LockScreen).adminActive = s.adminActive := rfl

theorem LockScreen.enforces_administer (s : LockScreen) (p : Policy) (active : Bool) :
    (s.administer active).Enforces p ↔ s.Enforces p :=
  ⟨fun ⟨hlength, hquality, hlock, hfailures⟩ => ⟨hlength, hquality, hlock, hfailures⟩,
    fun ⟨hlength, hquality, hlock, hfailures⟩ => ⟨hlength, hquality, hlock, hfailures⟩⟩

namespace Console

/-! ## What commands say about the administrator -/

/-- The phase that the command reports, if it reports one. -/
def Command.reports? : Command → Option Phase
  | .enable => some .enabled
  | .disable => some .disabled
  | _ => none

/-- Whether the screen has an administrator by the command, if that is
settled by it. -/
def Command.administers? : Command → Option Bool
  | .enable => some true
  | .disable | .wipe _ => some false
  | _ => none

/-- What the coordinator and the screen know of the administrator. -/
def standing (c : Console) : Phase × Bool :=
  (c.phase, c.device.adminActive)

theorem standing_report (c : Console) (account? : Option Int) (v : Verdict) :
    (c.report account? v).next.standing = c.standing := by
  unfold report
  split
  · rfl
  · split <;> rfl

theorem standing_check (c : Console) (account? : Option Int) (policy? : Option Policy) :
    (c.check account? policy?).next.standing = c.standing := by
  obtain ⟨cache, scans, -, -, hnext⟩ := c.evaluate_asks policy?
  cases hresult : (c.evaluate policy?).result with
  | ok v =>
      simp only [check, hresult, standing_report, hnext]
      rfl
  | error fault =>
      simp only [check, hresult, hnext]
      rfl

theorem standing_store (c : Console) (account : Int) (p : Policy) :
    (c.store account p).next.standing = c.standing := by
  by_cases hsame : c.rows.flags account = p.toWord
  · rw [store_of_eq hsame]
  · rw [store_of_ne hsame]
    rfl

/-- The settings that are pushed to a screen do not touch its
administrator. -/
theorem standing_apply (c : Console) : Console.standing c.apply.next = c.standing := by
  obtain ⟨cache, scans, ⟨-, hnext⟩ | ⟨p, -, -, -, hnext⟩⟩ := c.apply_cases
  · rw [hnext]
    rfl
  · rw [hnext]
    rfl

theorem heed_phase (c : Console) (event : Event) :
    (c.heed event).next.phase = c.phase.after event :=
  c.handle_phase event

theorem standing_heed (c : Console) (event : Event) :
    (c.heed event).next.standing = (c.phase.after event, c.device.adminActive) := by
  have hadmin : (c.heed event).next.device.adminActive = c.device.adminActive := by
    rcases c.handle_device event with hsame | ⟨p, hpushed⟩
    · exact congrArg LockScreen.adminActive hsame
    · exact (congrArg LockScreen.adminActive hpushed).trans (LockScreen.adminActive_obeyAll _ p)
  rw [standing, heed_phase, hadmin]

theorem standing_wipe (c : Console) : Console.standing c.wipe.next = (c.phase, false) := by
  cases hadmin : c.reading.admin with
  | true =>
      rw [Coordinator.wipe_of_active hadmin]
      rfl
  | false =>
      have hinactive : c.device.adminActive = false := hadmin
      rw [Coordinator.wipe_of_inactive hadmin, standing, hinactive]

theorem heed_disabled_said (c : Console) : (c.heed .disabled).said = .ok [] := by
  cases hresult : (c.handle .disabled).result with
  | ok t =>
      rw [heed, Reply.ofOutcome, hresult]
      rfl
  | error fault =>
      obtain ⟨-, hevent, -⟩ := (c.handled .disabled).result_error hresult
      cases hevent

theorem execute_standing (c : Console) (command : Command) :
    (c.execute command).next.standing
      = (command.reports?.getD c.phase, command.administers?.getD c.device.adminActive) := by
  cases command with
  | store account p => exact c.standing_store account p
  | remove account =>
      rw [execute]
      split <;> rfl
  | display =>
      obtain ⟨cache, scans, hnext⟩ := c.aggregate_next
      rw [execute, Reply.ofOutcome, hnext]
      rfl
  | check account? =>
      cases account? with
      | none => exact c.standing_check none none
      | some account =>
          rw [execute]
          split
          · exact c.standing_check _ _
          · rfl
  | apply => exact c.standing_apply
  | enable => exact standing_heed _ _
  | disable =>
      have hphase : (c.heed .disabled).next.phase = .disabled := by
        rw [heed_phase]
        cases c.phase <;> rfl
      rw [execute]
      simp only [heed_disabled_said]
      exact Prod.ext hphase rfl
  | password length quality => exact standing_heed _ _
  | timeout millis => rfl
  | wipe _ => exact c.standing_wipe
  | dismiss _ => rfl

/-! ## What conversations leave behind -/

/-- The last of `enable` and `disable` was an `enable`, and the screen was
erased after it. -/
def ErasedSinceEnabled (commands : List Command) : Prop :=
  lastWord Command.reports? commands = some .enabled
    ∧ lastWord Command.administers? commands = some false

instance (commands : List Command) : Decidable (ErasedSinceEnabled commands) :=
  inferInstanceAs (Decidable (_ ∧ _))

variable {override : Bool} {lines : List (List UInt8)} {c : Console}

theorem after?_phase (h : (start override).after? lines = some c) :
    c.phase = (lastWord Command.reports? (commandsIn lines)).getD .disabled := by
  rw [after?_eq_executeAll h]
  exact view_executeAll (·.phase)
    (fun c command => congrArg Prod.fst (c.execute_standing command)) _ _

theorem after?_adminActive (h : (start override).after? lines = some c) :
    c.device.adminActive = (lastWord Command.administers? (commandsIn lines)).getD false := by
  rw [after?_eq_executeAll h]
  exact view_executeAll (·.device.adminActive)
    (fun c command => congrArg Prod.snd (c.execute_standing command)) _ _

/-- Whoever reports a phase also settles the administrator. -/
theorem lastWord_reports?_eq_none {commands : List Command}
    (h : lastWord Command.administers? commands = none) :
    lastWord Command.reports? commands = none := by
  rw [lastWord, List.findSome?_eq_none_iff] at h ⊢
  intro command hcommand
  have hsilent := h command hcommand
  cases command with
  | enable => cases hsilent
  | disable => cases hsilent
  | _ => rfl

/-- Phase and screen disagree about the administrator exactly after an
erasure that nobody has reported. -/
theorem phase_enabled_iff (h : (start override).after? lines = some c)
    (hadmin : c.device.adminActive = false) :
    c.phase = .enabled ↔ ErasedSinceEnabled (commandsIn lines) := by
  rw [after?_adminActive h] at hadmin
  rw [after?_phase h, ErasedSinceEnabled]
  cases hlast : lastWord Command.administers? (commandsIn lines) with
  | none =>
      rw [lastWord_reports?_eq_none hlast]
      simp
  | some active =>
      obtain rfl : active = false := by rwa [hlast] at hadmin
      cases lastWord Command.reports? (commandsIn lines) <;> simp

/-! ## The line that enables -/

variable {text : String} {p : Policy}

theorem line_enable (htext : Text.words text = ["enable"]) (c : Console) :
    c.line text = .next (c.execute .enable).emissions (c.execute .enable).next :=
  line_of_ofWords .enable htext rfl c

/-- In the enabled phase an `enable` only gives the screen its
administrator. -/
theorem execute_enable_of_enabled (hphase : c.phase = .enabled) :
    c.execute .enable = { next := c.onScreen (·.administer true) } := by
  have hsame : (c.onScreen (·.administer true)).phase.after .enabled
      = (c.onScreen (·.administer true)).phase := hphase.symm
  rw [execute, heed, Coordinator.handle_of_same hsame]
  rfl

/-- **Enabling enforces the accounts' policy, unless an erasure was not
reported.** Wherever a conversation has left the screen without its
administrator, the line `enable` prints nothing and gives it back. The
settings of the screen are then those of the merge of the rows, if the
screen was not erased since the last `enable`. If it was, which is where
the phase still says enabled, nothing is pushed: the settings are those
of the merge only if they were before. -/
theorem enable_enforces_iff (h : (start override).after? lines = some c)
    (hadmin : c.device.adminActive = false) (htext : Text.words text = ["enable"]) :
    ∃ ps next, c.rows.policies = .ok ps ∧ c.line text = .next [] next
      ∧ next.device.adminActive = true
      ∧ (c.phase = .enabled ↔ ErasedSinceEnabled (commandsIn lines))
      ∧ (next.device.Enforces (Policy.merge ps)
          ↔ ¬ErasedSinceEnabled (commandsIn lines) ∨ c.device.Enforces (Policy.merge ps))
      ∧ (ErasedSinceEnabled (commandsIn lines) → next.device = c.device.administer true) := by
  have hsound := after?_sound h
  have hiff := phase_enabled_iff h hadmin
  obtain ⟨ps, hps⟩ := hsound.packed.policies
  cases hphase : c.phase with
  | disabled =>
      have herased : ¬ErasedSinceEnabled (commandsIn lines) := by
        rw [← hiff, hphase]
        nofun
      obtain ⟨-, next, hline, hdevice⟩ := (hsound.worksWith hps).enabled text htext hphase
      refine ⟨ps, next, hps, hline, ?_, hphase ▸ hiff, ?_, fun h => absurd h herased⟩
      · rw [hdevice, LockScreen.adminActive_obeyAll]
        rfl
      · rw [hdevice]
        exact iff_of_true (LockScreen.enforces_obeyAll _ _) (Or.inl herased)
  | enabled =>
      have herased : ErasedSinceEnabled (commandsIn lines) := hiff.mp hphase
      refine ⟨ps, c.onScreen (·.administer true), hps, ?_, rfl, hphase ▸ hiff, ?_, fun _ => rfl⟩
      · rw [line_enable htext, execute_enable_of_enabled hphase]
        rfl
      · rw [onScreen, LockScreen.enforces_administer]
        exact ⟨Or.inr, fun hor => hor.resolve_left (not_not_intro herased)⟩

/-- The erasure is followed by a `disable`, so the next `enable` counts. -/
theorem enable_enforces_iff_of_disable :
    ∃ c next, (start false).after? ["set 1 8 strong 5 60 0".toUTF8.data.toList,
        "enable".toUTF8.data.toList, "wipe 1".toUTF8.data.toList,
        "disable".toUTF8.data.toList] = some c
      ∧ c.device.adminActive = false ∧ c.line "enable" = .next [] next
      ∧ next.device.Enforces ⟨8, .strong, 5, 60, false⟩ := by
  let commands := [Command.store 1 ⟨8, .strong, 5, 60, false⟩, .enable, .wipe 1, .disable]
  have hcommands : commandsIn ["set 1 8 strong 5 60 0".toUTF8.data.toList,
      "enable".toUTF8.data.toList, "wipe 1".toUTF8.data.toList,
      "disable".toUTF8.data.toList] = commands := rfl
  have hafter : (start false).after? ["set 1 8 strong 5 60 0".toUTF8.data.toList,
      "enable".toUTF8.data.toList, "wipe 1".toUTF8.data.toList,
      "disable".toUTF8.data.toList] = some ((start false).executeAll commands) := rfl
  have hadmin : ((start false).executeAll commands).device.adminActive = false := by decide
  have htext : Text.words "enable" = ["enable"] := rfl
  obtain ⟨ps, next, hps, hline, -, -, henforces, -⟩ := enable_enforces_iff hafter hadmin htext
  have hrows : ps = [⟨8, .strong, 5, 60, false⟩] := Except.ok.inj (hps.symm.trans (by decide))
  have hmerge : Policy.merge ps = ⟨8, .strong, 5, 60, false⟩ := by
    rw [hrows]
    decide
  have herased : ¬ErasedSinceEnabled commands := by decide
  rw [hmerge, hcommands] at henforces
  exact ⟨_, next, hafter, hadmin, hline, henforces.mpr (Or.inl herased)⟩

/-- The erasure is not reported: the screen has its administrator again,
and enforces nothing of what the account demands. -/
theorem enable_enforces_nothing_after_wipe :
    ∃ c next, (start false).after? ["set 1 8 strong 5 60 0".toUTF8.data.toList,
        "enable".toUTF8.data.toList, "wipe 1".toUTF8.data.toList] = some c
      ∧ c.device.adminActive = false ∧ c.phase = .enabled
      ∧ c.rows.policies = .ok [⟨8, .strong, 5, 60, false⟩]
      ∧ c.line "enable" = .next [] next ∧ next.device.adminActive = true
      ∧ ¬next.device.Enforces (Policy.merge [⟨8, .strong, 5, 60, false⟩]) := by
  let c := (start false).executeAll [.store 1 ⟨8, .strong, 5, 60, false⟩, .enable, .wipe 1]
  have hafter : (start false).after? ["set 1 8 strong 5 60 0".toUTF8.data.toList,
      "enable".toUTF8.data.toList, "wipe 1".toUTF8.data.toList] = some c := rfl
  have hline : c.line "enable" = .next [] (c.execute .enable).next := line_enable rfl c
  exact ⟨c, _, hafter, by decide, by decide, rfl, hline, by decide, by decide⟩

end Console

end LockPolicy
