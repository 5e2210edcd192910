import LockPolicy.Proofs.Text.Words
import LockPolicy.Text.Numeral

/-!
# Numerals that are read back

A number that is written and read again is the same number, in the base
that it was written in, as long as it is in range (`digits_toDigits`).
So it is for natural numbers in base ten and in base sixteen, and for
whole numbers with their sign (`natural_toString`, `natural_toDigits`,
`integer_toString`). What is written is one word each time.

Reading has many spellings for one number, with zeros in front or a plus
sign; writing has one. That what is read is in range is a fact about all
of them (`le_of_digits`).
-/

namespace LockPolicy.Numeral

variable {base bound n : Nat} {beyond : Fault}

/-! ## Digits -/

theorem digit?_digitChar (hbase : base ≤ 16) {d : Nat} (hd : d < base) :
    digit? base d.digitChar = some d := by
  have hall : ∀ base < 17, ∀ d < base, digit? base d.digitChar = some d := by decide
  exact hall base (Nat.lt_succ_of_le hbase) d hd

/-- The characters of a numeral are digits. -/
theorem exists_of_mem_toDigits {c : Char} (hbase : 1 < base) (h : c ∈ Nat.toDigits base n) :
    ∃ d < base, c = d.digitChar := by
  induction n using Nat.strongRecOn with
  | ind n ih =>
      rw [Nat.toDigits_eq_if hbase] at h
      split at h
      · rename_i hn
        exact ⟨n, hn, List.mem_singleton.mp h⟩
      · rename_i hn
        rcases List.mem_append.mp h with h | h
        · exact ih (n / base) (Nat.div_lt_self (by omega) hbase) h
        · exact ⟨n % base, Nat.mod_lt n (by omega), List.mem_singleton.mp h⟩

theorem digits_append {value m d : Nat} {cs : List Char} {c : Char}
    (h : digits base bound beyond value cs = .ok m) (hc : digit? base c = some d)
    (hbound : m * base + d ≤ bound) :
    digits base bound beyond value (cs ++ [c]) = .ok (m * base + d) := by
  induction cs generalizing value with
  | nil =>
      obtain rfl := Except.ok.inj h
      rw [List.nil_append, digits, hc]
      simp only [if_pos hbound, digits]
  | cons first cs ih =>
      rw [digits] at h
      rw [List.cons_append, digits]
      split at h
      · cases h
      · rename_i e he
        split at h
        · rename_i hle
          rw [if_pos hle]
          exact ih h
        · cases h

theorem le_of_digits {value : Nat} {cs : List Char} (hvalue : value ≤ bound)
    (h : digits base bound beyond value cs = .ok n) : n ≤ bound := by
  induction cs generalizing value with
  | nil => exact Except.ok.inj h ▸ hvalue
  | cons c cs ih =>
      rw [digits] at h
      split at h
      · cases h
      · split at h
        · rename_i hle
          exact ih hle h
        · cases h

theorem digits_toDigits (hbase : 1 < base) (hbase16 : base ≤ 16) (hn : n ≤ bound) :
    digits base bound beyond 0 (Nat.toDigits base n) = .ok n := by
  induction n using Nat.strongRecOn with
  | ind n ih =>
      rw [Nat.toDigits_eq_if hbase]
      split
      · rename_i hsmall
        have hzero : 0 * base + n = n := by omega
        have hdigit := digit?_digitChar hbase16 hsmall
        rw [digits, hdigit]
        simp only [hzero, if_pos hn, digits]
      · rename_i hlarge
        have hdiv : n / base < n := Nat.div_lt_self (by omega) hbase
        have hsplit : n / base * base + n % base = n := Nat.div_add_mod' n base
        have hdigit := digit?_digitChar hbase16 (Nat.mod_lt n (by omega))
        have happend := digits_append (ih (n / base) hdiv (by omega)) hdigit (by omega)
        rwa [hsplit] at happend

theorem not_mem_toDigits {c : Char} (hbase : 1 < base) (hbase16 : base ≤ 16)
    (hc : digit? 16 c = none) : c ∉ Nat.toDigits base n := by
  intro h
  obtain ⟨d, hd, rfl⟩ := exists_of_mem_toDigits hbase h
  rw [digit?_digitChar (Nat.le_refl 16) (Nat.lt_of_lt_of_le hd hbase16)] at hc
  cases hc

/-! ## Numbers -/

theorem natural_of_unsigned {cs : List Char} (hne : cs ≠ []) (hplus : '+' ∉ cs) :
    natural base bound cs = digits base bound .tooLarge 0 cs := by
  unfold natural
  split
  · exact absurd rfl hne
  · exact absurd (List.mem_cons_self ..) hplus
  · exact absurd (List.mem_cons_self ..) hplus
  · rfl

theorem natural_toDigits (hbase : 1 < base) (hbase16 : base ≤ 16) (hn : n ≤ bound) :
    natural base bound (Nat.toDigits base n) = .ok n := by
  rw [natural_of_unsigned Nat.toDigits_ne_nil (not_mem_toDigits hbase hbase16 (by decide)),
    digits_toDigits hbase hbase16 hn]

theorem toDigits_inj {m : Nat} (hbase : 1 < base) (hbase16 : base ≤ 16)
    (h : Nat.toDigits base m = Nat.toDigits base n) : m = n := by
  have hm := natural_toDigits hbase hbase16 (Nat.le_max_left m n)
  have hn := natural_toDigits hbase hbase16 (Nat.le_max_right m n)
  rw [h] at hm
  exact Except.ok.inj (hm.symm.trans hn)

theorem toList_toString (n : Nat) : (toString n).toList = Nat.toDigits 10 n := by
  rw [Nat.toString_eq_ofList_toDigits, String.toList_ofList]

theorem toString_inj {m : Nat} (h : toString m = toString n) : m = n := by
  have hdigits := congrArg String.toList h
  rw [toList_toString, toList_toString] at hdigits
  exact toDigits_inj (by decide) (by decide) hdigits

theorem natural_toString (hn : n ≤ bound) : natural 10 bound (toString n).toList = .ok n := by
  rw [toList_toString, natural_toDigits (by decide) (by decide) hn]

theorem toList_hex (n : Nat) : (hex n).toList = '0' :: 'x' :: Nat.toDigits 16 n := by
  have hdigits : (String.ofList (Nat.toDigits 16 n)).toList = Nat.toDigits 16 n :=
    String.toList_ofList
  rw [hex, String.toList_append, hdigits]
  rfl

theorem le_of_natural {cs : List Char} (h : natural base bound cs = .ok n) : n ≤ bound := by
  unfold natural at h
  split at h
  · cases h
  · cases h
  · exact le_of_digits (Nat.zero_le _) h
  · exact le_of_digits (Nat.zero_le _) h

theorem toList_toString_natCast (n : Nat) : (toString (n : Int)).toList = Nat.toDigits 10 n :=
  toList_toString n

theorem toList_toString_negSucc (n : Nat) :
    (toString (Int.negSucc n)).toList = '-' :: Nat.toDigits 10 (n + 1) := by
  have hwritten : toString (Int.negSucc n) = "-" ++ toString (n + 1) := rfl
  rw [hwritten, String.toList_append, toList_toString]
  rfl

theorem integer_of_unsigned {cs : List Char} (hminus : '-' ∉ cs) :
    integer bound cs = (natural 10 (bound - 1) cs).map fun n => (n : Int) := by
  unfold integer
  split
  · exact absurd (List.mem_cons_self ..) hminus
  · exact absurd (List.mem_cons_self ..) hminus
  · rfl

theorem integer_of_minus {cs : List Char} (hne : cs ≠ []) :
    integer bound ('-' :: cs) = (digits 10 bound .tooSmall 0 cs).map fun n => -(n : Int) := by
  unfold integer
  split
  · rename_i hcs
    exact absurd (List.cons.inj hcs).2 hne
  · rename_i hcs
    rw [(List.cons.inj hcs).2]
  · rename_i hother
    exact absurd rfl (hother cs)

theorem integer_toString {i : Int} (hlow : -(bound : Int) ≤ i) (hhigh : i < bound) :
    integer bound (toString i).toList = .ok i := by
  cases i with
  | ofNat n =>
      rw [Int.ofNat_eq_natCast] at hhigh ⊢
      have hn : n ≤ bound - 1 := by omega
      rw [toList_toString_natCast,
        integer_of_unsigned (not_mem_toDigits (by decide) (by decide) (by decide)),
        natural_toDigits (by decide) (by decide) hn]
      rfl
  | negSucc n =>
      have hn : n + 1 ≤ bound := by omega
      rw [toList_toString_negSucc, integer_of_minus Nat.toDigits_ne_nil,
        digits_toDigits (by decide) (by decide) hn]
      rfl

theorem bounds_of_integer {cs : List Char} {i : Int} (hbound : 0 < bound)
    (h : integer bound cs = .ok i) : -(bound : Int) ≤ i ∧ i < bound := by
  unfold integer at h
  split at h
  · cases h
  · rename_i cs _
    cases hdigits : digits 10 bound .tooSmall 0 cs with
    | error fault =>
        rw [hdigits] at h
        cases h
    | ok n =>
        rw [hdigits] at h
        have hn := le_of_digits (Nat.zero_le _) hdigits
        have hi : -(n : Int) = i := Except.ok.inj h
        omega
  · cases hnatural : natural 10 (bound - 1) cs with
    | error fault =>
        rw [hnatural] at h
        cases h
    | ok n =>
        rw [hnatural] at h
        have hn := le_of_natural hnatural
        have hi : (n : Int) = i := Except.ok.inj h
        omega

/-! ## Numerals as words -/

theorem isBlank_of_mem_toDigits {c : Char} (hbase : 1 < base) (hbase16 : base ≤ 16)
    (h : c ∈ Nat.toDigits base n) : Text.isBlank c = false := by
  have hall : ∀ d < 16, Text.isBlank d.digitChar = false := by decide
  obtain ⟨d, hd, rfl⟩ := exists_of_mem_toDigits hbase h
  exact hall d (Nat.lt_of_lt_of_le hd hbase16)

theorem isWord_toString (i : Int) : Text.IsWord (toString i) := by
  cases i with
  | ofNat n =>
      rw [Int.ofNat_eq_natCast, Text.IsWord, toList_toString_natCast]
      exact ⟨Nat.toDigits_ne_nil, fun c => isBlank_of_mem_toDigits (by decide) (by decide)⟩
  | negSucc n =>
      rw [Text.IsWord, toList_toString_negSucc]
      exact ⟨List.cons_ne_nil _ _, List.forall_mem_cons.mpr
        ⟨rfl, fun c => isBlank_of_mem_toDigits (by decide) (by decide)⟩⟩

theorem isWord_hex (n : Nat) : Text.IsWord (hex n) := by
  refine Text.IsWord.append (Text.isWord_of_any nofun rfl) (Text.isWord_ofList.mpr ?_)
  exact ⟨Nat.toDigits_ne_nil, fun c => isBlank_of_mem_toDigits (by decide) (by decide)⟩

end LockPolicy.Numeral
