import LockPolicy.Proofs.Console.Coherence
import LockPolicy.Proofs.Text.Numerals

/-!
# Policies by field and by flags

A policy can be typed in two ways: field by field after `set`, or as
stored flags after `raw`. The first checks ranges and the second passes
over bits. They meet in the command (`ofWords_set`, `ofWords_raw`), so
the two lines have one and the same reaction, whatever spelling the flags
have and even if the account cannot be read.

The flags that are printed of a policy are one of its spellings, and so
is the account that stands before them. The line that stores them once
more finds nothing to change (`line_raw_of_stored`).
-/

namespace LockPolicy

/-- The fields of the policy as they are typed, numbers in base ten. -/
def Policy.fieldWords (p : Policy) : List String :=
  [toString p.minLength.val, p.strength.name, toString p.maxFailures.val,
    toString p.lockSeconds.val, if p.remoteWipe then "1" else "0"]

namespace Console

/-! ## Reading what is written -/

theorem natural_toString {size n : Nat} (hn : n < size) :
    natural size (toString n) = .ok n := by
  rw [natural, Numeral.natural_toString (Nat.le_sub_one_of_lt hn)]
  rfl

theorem strength_name (s : Strength) : strength s.name = .ok s := by
  rw [strength, s.ofName?_name]

theorem flags_hex (word : UInt32) : flags (Numeral.hex word.toNat) = .ok word := by
  have hread : Numeral.natural 16 (UInt32.size - 1) (Nat.toDigits 16 word.toNat)
      = .ok word.toNat :=
    Numeral.natural_toDigits (by decide) (by decide) (Nat.le_sub_one_of_lt word.toNat_lt_size)
  simp only [flags, Numeral.toList_hex, hread]
  exact congrArg Except.ok (UInt32.ofNat_toNat)

/-- The number of an account has many spellings, one of which is printed. -/
theorem account_toString {who : String} {a : Int} (h : account who = .ok a) :
    account (toString a) = .ok a := by
  have hread : Numeral.integer (UInt64.size / 2) who.toList = .ok a := by
    rw [account] at h
    cases hinteger : Numeral.integer (UInt64.size / 2) who.toList with
    | ok b =>
        rw [hinteger] at h
        exact congrArg Except.ok (Except.ok.inj h)
    | error fault =>
        rw [hinteger] at h
        cases h
  -- What was read is in range, whatever its spelling.
  obtain ⟨hlow, hhigh⟩ := Numeral.bounds_of_integer (by decide) hread
  rw [account, Numeral.integer_toString hlow hhigh]
  rfl

/-! ## The two commands -/

variable {who spelling : String} {word : UInt32} {p : Policy}

theorem ofWords_set (who : String) (p : Policy) :
    Command.ofWords ("set" :: who :: p.fieldWords) = (account who).map (.store · p) := by
  have hlength : natural UInt32.size (toString p.minLength.val) = .ok p.minLength.val :=
    natural_toString (Nat.lt_trans p.minLength.isLt (by decide))
  have hfailures : natural UInt32.size (toString p.maxFailures.val) = .ok p.maxFailures.val :=
    natural_toString (Nat.lt_trans p.maxFailures.isLt (by decide))
  have hlock : natural UInt32.size (toString p.lockSeconds.val) = .ok p.lockSeconds.val :=
    natural_toString (Nat.lt_trans p.lockSeconds.isLt (by decide))
  have hwipe : ∃ n, natural UInt8.size (if p.remoteWipe then "1" else "0") = .ok n
      ∧ (n != 0) = p.remoteWipe := by
    cases p.remoteWipe
    · exact ⟨0, rfl, rfl⟩
    · exact ⟨1, rfl, rfl⟩
  obtain ⟨n, hn, hwipe⟩ := hwipe
  rw [Policy.fieldWords, Command.ofWords, hlength, strength_name, hfailures, hlock, hn]
  simp only [bind, Except.bind, hwipe, Policy.make_fields, Except.mapError]
  cases account who <;> rfl

theorem ofWords_raw (who : String) (hspelling : flags spelling = .ok word)
    (hp : Policy.ofWord word = .ok p) :
    Command.ofWords ["raw", who, spelling] = (account who).map (.store · p) := by
  rw [Command.ofWords, hspelling]
  simp only [bind, Except.bind, hp, Except.mapError]
  cases account who <;> rfl

/-- The reaction to a line goes by the command that its words give, or by
why they give none. -/
theorem line_congr {text other word word' : String} {rest rest' : List String}
    (htext : Text.words text = word :: rest) (hword : word ∉ ["exit", "quit", "help"])
    (hother : Text.words other = word' :: rest') (hword' : word' ∉ ["exit", "quit", "help"])
    (h : Command.ofWords (word :: rest) = Command.ofWords (word' :: rest')) (c : Console) :
    c.line text = c.line other := by
  rw [line_of_words htext hword, line_of_words hother hword', obey, obey, h]

theorem words_raw (a : Int) (n : Nat) :
    Text.words ("raw " ++ toString a ++ " " ++ Numeral.hex n)
      = ["raw", toString a, Numeral.hex n] := by
  have hraw : Text.IsWord "raw" := Text.isWord_of_any nofun rfl
  have hline : "raw " ++ toString a ++ " " ++ Numeral.hex n
      = "raw" ++ " " ++ (toString a ++ " " ++ Numeral.hex n) := by
    rw [String.append_assoc, String.append_assoc, String.append_assoc, String.append_assoc]
    rfl
  rw [hline, Text.words_cons hraw, Text.words_cons (Numeral.isWord_toString a),
    Text.words_singleton (Numeral.isWord_hex n)]

/-- The line that stores the flags of an account once more. -/
theorem line_raw_of_stored {c : Console} {a : Int} (ha : account who = .ok a)
    (h : c.rows.flags a = p.toWord) :
    c.line ("raw " ++ toString a ++ " " ++ Numeral.hex p.toWord.toNat)
      = .next (print (c.warning p ++ ["account " ++ toString a ++ ": unchanged"])) c := by
  have hcommand : Command.ofWords ["raw", toString a, Numeral.hex p.toWord.toNat]
      = .ok (.store a p) := by
    rw [ofWords_raw _ (flags_hex p.toWord) p.ofWord_toWord, account_toString ha]
    rfl
  rw [← words_raw] at hcommand
  rw [line_of_command hcommand, execute, store_of_eq h]
  rfl

/-- **Policies by field and by flags are one.** Take flags in any spelling
and the policy that they hold. The line that stores the flags with an
account and the line that stores the policy field by field have the same
reaction on every console. Either the account has that policy already,
and nothing changes; or what is printed ends with the flags to which the
policy packs, and the line that stores them as printed finds the account
unchanged and changes nothing. -/
theorem line_raw_eq_line_set (c : Console) (hspelling : flags spelling = .ok word)
    (hp : Policy.ofWord word = .ok p) {rawText setText : String}
    (hraw : Text.words rawText = ["raw", who, spelling])
    (hset : Text.words setText = "set" :: who :: p.fieldWords) :
    c.line rawText = c.line setText
      ∧ ∀ a, account who = .ok a →
        (c.rows.flags a = p.toWord
            ∧ c.line rawText
              = .next (print (c.warning p ++ ["account " ++ toString a ++ ": unchanged"])) c)
          ∨ (c.rows.flags a ≠ p.toWord
            ∧ ∃ next,
              c.line rawText
                = .next (print (c.warning p ++ ["account " ++ toString a ++ ": " ++ p.text
                    ++ " (flags " ++ Numeral.hex p.toWord.toNat ++ ")"])) next
              ∧ next.line ("raw " ++ toString a ++ " " ++ Numeral.hex p.toWord.toNat)
                = .next (print (c.warning p ++ ["account " ++ toString a ++ ": unchanged"]))
                    next) := by
  have hcommands : Command.ofWords ["raw", who, spelling]
      = Command.ofWords ("set" :: who :: p.fieldWords) :=
    (ofWords_raw who hspelling hp).trans (ofWords_set who p).symm
  refine ⟨line_congr hraw (by decide) hset (by decide) hcommands c, fun a ha => ?_⟩
  have hcommand : Command.ofWords (Text.words rawText) = .ok (.store a p) := by
    rw [hraw, ofWords_raw who hspelling hp, ha]
    rfl
  by_cases hsame : c.rows.flags a = p.toWord
  · refine Or.inl ⟨hsame, ?_⟩
    rw [line_of_command hcommand, execute, store_of_eq hsame]
    rfl
  · refine Or.inr ⟨hsame, { c with rows := c.rows.set a p.toWord }.invalidate, ?_, ?_⟩
    · rw [line_of_command hcommand, execute, store_of_ne hsame]
      rfl
    · exact line_raw_of_stored ha (Accounts.flags_set c.rows a p.toWord)

/-- Flags with zeros in front and all the bits that mean nothing, for an
account with a plus sign. -/
theorem line_raw_eq_line_set_of_spare :
    ∃ next, (start false).line "raw +7 0x00FE029E28" = .next (print ["account 7: "
          ++ (Policy.text ⟨8, .simple, 15, 10, true⟩) ++ " (flags 0x2029e28)"]) next
      ∧ (start false).line "set +7 8 simple 15 10 1" = (start false).line "raw +7 0x00FE029E28"
      ∧ next.line "raw 7 0x2029e28" = .next (print ["account 7: unchanged"]) next := by
  have hspelling : flags "0x00FE029E28" = .ok 0xfe029e28 := by decide
  have hp : Policy.ofWord 0xfe029e28 = .ok ⟨8, .simple, 15, 10, true⟩ := by decide
  have hraw : Text.words "raw +7 0x00FE029E28" = ["raw", "+7", "0x00FE029E28"] := rfl
  have hset : Text.words "set +7 8 simple 15 10 1"
      = "set" :: "+7" :: Policy.fieldWords ⟨8, .simple, 15, 10, true⟩ := rfl
  obtain ⟨hlines, hreaction⟩ := line_raw_eq_line_set (start false) hspelling hp hraw hset
  rcases hreaction 7 (by decide) with ⟨hsame, -⟩ | ⟨-, next, hprinted, hagain⟩
  · exact absurd hsame (by decide)
  · exact ⟨next, hprinted, hlines.symm, hagain⟩

end Console

end LockPolicy
