import LockPolicy.Inspection
import LockPolicy.Policy.Strictness
import LockPolicy.Proofs.Text.Numerals

/-!
# What others see of a policy

People see the text of a policy, and the device the directives that are
made of it. The text is a line of words with one word for each field
(`words_text`), so two policies with one text are one policy
(`text_inj`). The device is told less: the directives leave out whether
the account's server may erase the device, and nothing besides
(`directives_inj`).
-/

namespace LockPolicy

theorem Strength.name_inj {a b : Strength} (h : a.name = b.name) : a = b := by
  have ha := ofName?_name a
  rw [h, ofName?_name] at ha
  exact (Option.some.inj ha).symm

theorem Strength.quality_inj {a b : Strength} (h : a.quality = b.quality) : a = b := by
  cases a <;> cases b <;> first | rfl | cases h

namespace Policy

variable {p q : Policy}

/-- The text as a line of words with a space between each two. -/
theorem text_eq (p : Policy) :
    p.text
      = "\x7b" ++ " " ++ ("pw-len-min=" ++ toString p.minLength.val ++ " "
          ++ ("pw-mode=" ++ p.strength.name ++ " "
            ++ ("pw-fails-max=" ++ toString p.maxFailures.val ++ " "
              ++ ("screenlock-max=" ++ toString p.lockSeconds.val ++ " "
                ++ ("remote-wipe-req=" ++ toString p.remoteWipe ++ " " ++ "\x7d"))))) := by
  have hspaces : p.text
      = "\x7b" ++ " " ++ "pw-len-min=" ++ toString p.minLength.val
        ++ (" " ++ "pw-mode=") ++ p.strength.name
        ++ (" " ++ "pw-fails-max=") ++ toString p.maxFailures.val
        ++ (" " ++ "screenlock-max=") ++ toString p.lockSeconds.val
        ++ (" " ++ "remote-wipe-req=") ++ toString p.remoteWipe ++ (" " ++ "\x7d") := rfl
  rw [hspaces]
  simp only [String.append_assoc]

/-- Between the braces the text has a word for each field. -/
theorem words_text (p : Policy) :
    Text.words p.text =
      ["\x7b", "pw-len-min=" ++ toString p.minLength.val, "pw-mode=" ++ p.strength.name,
        "pw-fails-max=" ++ toString p.maxFailures.val,
        "screenlock-max=" ++ toString p.lockSeconds.val,
        "remote-wipe-req=" ++ toString p.remoteWipe, "\x7d"] := by
  have hbrace {brace : String}
      (h : brace.toList ≠ [] ∧ brace.toList.any Text.isBlank = false) : Text.IsWord brace :=
    Text.isWord_of_any h.1 h.2
  have hfield {label value : String}
      (h : label.toList ≠ [] ∧ label.toList.any Text.isBlank = false)
      (hvalue : Text.IsWord value) : Text.IsWord (label ++ value) :=
    (hbrace h).append hvalue
  have hnumber (n : Nat) : Text.IsWord (toString n) := Numeral.isWord_toString n
  have hname : Text.IsWord p.strength.name := by
    cases p.strength <;> exact hbrace (by decide)
  have hflag : Text.IsWord (toString p.remoteWipe) := by
    cases p.remoteWipe <;> exact hbrace (by decide)
  rw [text_eq, Text.words_cons (hbrace (by decide)),
    Text.words_cons (hfield (by decide) (hnumber _)), Text.words_cons (hfield (by decide) hname),
    Text.words_cons (hfield (by decide) (hnumber _)),
    Text.words_cons (hfield (by decide) (hnumber _)), Text.words_cons (hfield (by decide) hflag),
    Text.words_singleton (hbrace (by decide))]

/-- Policies that read the same are the same. -/
theorem text_inj (h : p.text = q.text) : p = q := by
  have hwords : Text.words p.text = Text.words q.text := congrArg Text.words h
  simp only [words_text, List.cons.injEq, String.append_right_inj, true_and, and_true] at hwords
  obtain ⟨hlength, hname, hfailures, hlock, hwipe⟩ := hwords
  ext1
  · exact Fin.ext (Numeral.toString_inj hlength)
  · exact Strength.name_inj hname
  · exact Fin.ext (Numeral.toString_inj hfailures)
  · exact Fin.ext (Numeral.toString_inj hlock)
  · cases hp : p.remoteWipe <;> cases hq : q.remoteWipe <;> rw [hp, hq] at hwipe <;>
      first | rfl | exact absurd hwipe (by decide)

/-- What the directives say of the policy, and what they do not. -/
theorem directives_inj :
    p.directives = q.directives ↔ ∃ remoteWipe, p = { q with remoteWipe } := by
  constructor
  · intro h
    simp only [directives, List.cons.injEq, Directive.quality.injEq, Directive.minLength.injEq,
      Directive.timeToLock.injEq, Directive.maxFailures.injEq, lockMillis, and_true] at h
    obtain ⟨hquality, hlength, hlock, hfailures⟩ := h
    refine ⟨p.remoteWipe, ?_⟩
    ext1
    · exact Fin.ext hlength
    · exact Strength.quality_inj hquality
    · exact Fin.ext hfailures
    · exact Fin.ext (Nat.eq_of_mul_eq_mul_right (by decide) hlock)
    · rfl
  · rintro ⟨remoteWipe, rfl⟩
    rfl

end Policy

end LockPolicy
