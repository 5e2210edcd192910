import LockPolicy.Proofs.Console.Coherence
import LockPolicy.Proofs.Inspection.Pushed

/-!
# What is left to the user

Once the strictest policy has been applied, only the user's password
stands between the device and its check. The lock screen judges it by the
settings in force, and these are the policy's; so it is good enough
exactly where it is as long and as strong as the policy demands
(`LockScreen.verdict_of_settings`). A policy without a strength leaves
the password alone, even one that demands a length: that length binds
only what the user sets next.

A new password is set and nothing more (`execute_password`), so the
settings and the policy looked up are still those that were applied when
the check comes (`check_after_password`).
-/

namespace LockPolicy

/-- The user's password is none of the policy's business, or as long and
as strong as it demands. -/
def Policy.Accepts (p : Policy) (length : Nat) (quality : Quality) : Prop :=
  p.strength = .unset ∨ p.minLength.val ≤ length ∧ p.strength.quality ≤ quality

instance (p : Policy) (length : Nat) (quality : Quality) : Decidable (p.Accepts length quality) :=
  inferInstanceAs (Decidable (_ ∨ _))

theorem LockScreen.sufficient_iff {s : LockScreen} {p : Policy}
    (h : (Device.reading s).settings = p.settings) :
    s.sufficient = true
      ↔ p.minLength.val ≤ s.passwordLength ∧ p.strength.quality ≤ s.passwordQuality := by
  have hlength : s.minLength = p.minLength := congrArg Settings.minLength h
  have hquality : s.quality = p.strength.quality := congrArg Settings.quality h
  rw [sufficient, decide_eq_true_iff, hlength, hquality]

/-- On a screen with the settings of a policy the password alone decides
the check of that policy. -/
theorem LockScreen.verdict_of_settings {s : LockScreen} {p : Policy}
    (h : (Device.reading s).settings = p.settings) :
    (p.inspect (Device.reading s)).verdict =
      if p.Accepts s.passwordLength s.passwordQuality then
        if p = .empty then .nothingRequired else .met
      else .insufficient := by
  have hsufficient := sufficient_iff h
  rw [Policy.verdict_of_le h le_rfl]
  by_cases haccepts : p.Accepts s.passwordLength s.passwordQuality
  · have hgood : ¬(p.strength ≠ .unset ∧ (Device.reading s).sufficient = false) := by
      rintro ⟨hset, hbad⟩
      have hgood : s.sufficient = true := hsufficient.mpr (haccepts.resolve_left hset)
      exact absurd (hgood.symm.trans hbad) (by decide)
    rw [if_pos haccepts, if_neg hgood]
  · obtain ⟨hset, hfalls⟩ := not_or.mp haccepts
    have hbad : s.sufficient = false := by
      rw [← Bool.not_eq_true, hsufficient]
      exact hfalls
    have hempty : p ≠ .empty := by
      rintro rfl
      exact hset rfl
    rw [if_neg haccepts, if_neg hempty, if_pos ⟨hset, hbad⟩]

namespace Console

variable {c : Console} {p : Policy} {text len grade : String} {length : Nat} {quality : Quality}

/-! ## After `apply` -/

/-- The console after `apply` found the policy. -/
def pushed (c : Console) (p : Policy) : Console :=
  c.aggregate.next.tell p.directives

theorem keeps_pushed (c : Console) (p : Policy) : c.Keeps (c.pushed p) :=
  c.keeps_aggregate.trans (.of_eq rfl rfl)

theorem adminActive_pushed (c : Console) (p : Policy) :
    (c.pushed p).device.adminActive = c.device.adminActive := by
  rw [← c.aggregate_device]
  rfl

theorem settings_pushed (c : Console) (p : Policy) :
    (Device.reading (c.pushed p).device).settings = p.settings :=
  Device.settings_push c.aggregate.next.device p

/-! ## The three lines -/

/-- To set a password changes nothing but the password. -/
theorem execute_password (c : Console) (length : Nat) (quality : Quality) :
    c.execute (.password length quality)
      = { next := c.onScreen (·.setPassword length quality) } := by
  have hsame : (c.onScreen (·.setPassword length quality)).phase.after .passwordChanged
      = (c.onScreen (·.setPassword length quality)).phase := rfl
  rw [execute, heed, Coordinator.handle_of_same hsame]
  rfl

theorem line_password (htext : Text.words text = ["password", len, grade])
    (hlen : natural UInt32.size len = .ok length) (hgrade : Console.quality grade = .ok quality)
    (c : Console) :
    c.line text = .next [] (c.onScreen (·.setPassword length quality)) := by
  have hcommand : Command.ofWords (Text.words text) = .ok (.password length quality) := by
    rw [htext, Command.ofWords, hlen, hgrade]
    rfl
  rw [line_of_command hcommand, execute_password]
  rfl

theorem line_apply (htext : Text.words text = ["apply"]) (hread : c.aggregate.result = .ok p)
    (hadmin : c.device.adminActive = true) :
    c.line text = .next [] (c.pushed p) := by
  rw [line_of_ofWords .apply htext rfl, execute_apply hread hadmin]
  rfl

/-- What `check` prints where the settings of the strictest policy are in
force. -/
theorem line_check_of_settings (htext : Text.words text = ["check"])
    (hread : c.aggregate.result = .ok p) (hadmin : c.device.adminActive = true)
    (hsettings : c.reading.settings = p.settings) :
    ∃ next, c.line text = .next
      (print [if p.Accepts c.device.passwordLength c.device.passwordQuality then
          "ok: " ++ if p = .empty then "no policy required" else "all requirements met"
        else "blocked: current password is not sufficient"]) next := by
  have hverdict : (c.rules.evaluate p c.reading).verdict
      = if p.Accepts c.device.passwordLength c.device.passwordQuality then
          if p = .empty then .nothingRequired else .met
        else .insufficient := by
    rw [c.rules.evaluate_verdict hadmin]
    exact LockScreen.verdict_of_settings hsettings
  rw [line_of_ofWords (.check none) htext rfl, Reply.emissions, execute_check_said hread,
    hverdict]
  refine ⟨(c.execute (.check none)).next, ?_⟩
  by_cases haccepts : p.Accepts c.device.passwordLength c.device.passwordQuality
  · by_cases hempty : p = .empty
    · simp only [if_pos haccepts, if_pos hempty]
      rfl
    · simp only [if_pos haccepts, if_neg hempty]
      rfl
  · simp only [if_neg haccepts]
    rfl

/-! ## Any password on any console -/

/-- There is always a password to be typed that a policy accepts. -/
theorem exists_accepted (p : Policy) :
    ∃ len grade length quality, natural UInt32.size len = .ok length
      ∧ Console.quality grade = .ok quality ∧ p.Accepts length quality := by
  have hquality : p.strength.quality ≤ .alphanumeric := by
    cases p.strength <;> decide
  have hlength : p.minLength.val ≤ 31 := by omega
  exact ⟨"31", "alphanumeric", 31, .alphanumeric, rfl, rfl, Or.inr ⟨hlength, hquality⟩⟩

/-- **After `apply` it is the password that counts.** Wherever a
conversation has left the screen to its administrator, `apply` and a
password that is then typed print nothing. The typing sets the password
and leaves all else as `apply` left it: what the screen enforces, what
is kept and the phase. The `check` that follows prints `ok` if the merge
of the rows has no strength or the password is as long and as strong as
it demands; otherwise it blames the password. And some password that can
be typed is good enough. -/
theorem check_after_password {override : Bool} {lines : List (List UInt8)}
    {applyText passwordText checkText : String}
    (h : (start override).after? lines = some c) (hadmin : c.device.adminActive = true)
    (happly : Text.words applyText = ["apply"])
    (hpassword : Text.words passwordText = ["password", len, grade])
    (hlen : natural UInt32.size len = .ok length) (hgrade : Console.quality grade = .ok quality)
    (hcheck : Text.words checkText = ["check"]) :
    ∃ ps applied typed next, c.rows.policies = .ok ps
      ∧ c.aggregate.result = .ok (Policy.merge ps)
      ∧ c.line applyText = .next [] applied
      ∧ applied.line passwordText = .next [] typed
      ∧ typed = { applied with
          device := { applied.device with passwordLength := length, passwordQuality := quality } }
      ∧ typed.line checkText = .next
          (print [if (Policy.merge ps).Accepts length quality then
              "ok: " ++ if Policy.merge ps = .empty then "no policy required"
                else "all requirements met"
            else "blocked: current password is not sufficient"]) next
      ∧ ∃ len grade length quality, natural UInt32.size len = .ok length
          ∧ Console.quality grade = .ok quality ∧ (Policy.merge ps).Accepts length quality := by
  have hsound := after?_sound h
  obtain ⟨ps, hps⟩ := hsound.packed.policies
  have hread := Accounts.strictest_of_policies hps
  have hlookup : c.aggregate.result = .ok (Policy.merge ps) :=
    (Coordinator.aggregate_result hsound.fresh).trans hread
  let typed := onScreen (c.pushed (Policy.merge ps)) (·.setPassword length quality)
  have hkeeps : c.Keeps typed := (c.keeps_pushed _).trans (keeps_onScreen _ _)
  have htyped : typed.aggregate.result = .ok (Policy.merge ps) := by
    rw [Coordinator.aggregate_result (hkeeps.fresh hsound.fresh), hkeeps.rows]
    exact hread
  have hactive : typed.device.adminActive = true :=
    (c.adminActive_pushed (Policy.merge ps)).trans hadmin
  have hsettings : typed.reading.settings = (Policy.merge ps).settings :=
    c.settings_pushed (Policy.merge ps)
  obtain ⟨next, hsaid⟩ := line_check_of_settings hcheck htyped hactive hsettings
  exact ⟨ps, c.pushed (Policy.merge ps), typed, next, hps, hlookup,
    line_apply happly hlookup hadmin, line_password hpassword hlen hgrade _, rfl, hsaid,
    exists_accepted _⟩

/-- The policy was stored after the screen was enabled, so it is `apply`
that puts it into force. The password is long enough, but letters only. -/
theorem check_after_password_of_letters :
    ∃ c applied typed next, (start false).after? ["enable".toUTF8.data.toList,
        "set 1 8 strong 5 60 0".toUTF8.data.toList] = some c
      ∧ c.device.adminActive = true ∧ c.line "apply" = .next [] applied
      ∧ applied.line "password 9 alphabetic" = .next [] typed
      ∧ typed.line "check"
          = .next (print ["blocked: current password is not sufficient"]) next := by
  let c : Console :=
    (((start false).execute .enable).next.execute (.store 1 ⟨8, .strong, 5, 60, false⟩)).next
  have hafter : (start false).after? ["enable".toUTF8.data.toList,
      "set 1 8 strong 5 60 0".toUTF8.data.toList] = some c := rfl
  have hadmin : c.device.adminActive = true := by decide
  have hpassword : Text.words "password 9 alphabetic" = ["password", "9", "alphabetic"] := rfl
  have hlen : natural UInt32.size "9" = .ok 9 := rfl
  have hgrade : Console.quality "alphabetic" = .ok .alphabetic := rfl
  obtain ⟨ps, applied, typed, next, hps, -, happlied, htyped, -, hsaid, -⟩ :=
    check_after_password hafter hadmin (rfl : Text.words "apply" = ["apply"]) hpassword hlen hgrade
      (rfl : Text.words "check" = ["check"])
  have hrows : ps = [⟨8, .strong, 5, 60, false⟩] := Except.ok.inj (hps.symm.trans (by decide))
  have hmerge : Policy.merge ps = ⟨8, .strong, 5, 60, false⟩ := by
    rw [hrows]
    decide
  have hrefused : ¬(⟨8, .strong, 5, 60, false⟩ : Policy).Accepts 9 .alphabetic := by decide
  rw [hmerge, if_neg hrefused] at hsaid
  exact ⟨c, applied, typed, next, hafter, hadmin, happlied, htyped, hsaid⟩

end Console

end LockPolicy
