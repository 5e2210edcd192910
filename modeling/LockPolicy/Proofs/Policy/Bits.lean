import LockPolicy.Policy.Strictness
import LockPolicy.Policy.Word
import Mathlib.Data.Nat.Bitwise

/-!
# Policies bit by bit

Packing is written as arithmetic: fields are digits of a number. Others
who read and write the stored words see bits, and cut the fields out
with shifts and masks. `Policy.InWord` is their reading of a word, and
`Policy.orFields` is their way to put one together. Both say the same as
the arithmetic, because the places of the fields do not overlap:
unpacking succeeds with the policy that is in the word and with no other
(`ofWord_eq_ok_iff`), and packing is the disjunction of the shifted
fields (`toWord_eq_orFields`).

From there packing is exact (`packing_exact`): words below the bits that
mean nothing and without a reserved strength correspond to the policies
one to one, and every other word reads as one of these or is refused.
-/

namespace LockPolicy

/-! ## Fields of a word -/

/-- A shift and a mask of ones cut out a digit. -/
theorem toNat_shiftRight_and (width : Nat) {place mask : UInt32} (hplace : place.toNat < 32)
    (hmask : mask.toNat = 2 ^ width - 1) (word : UInt32) :
    (word >>> place &&& mask).toNat = word.toNat / 2 ^ place.toNat % 2 ^ width := by
  rw [UInt32.toNat_and, UInt32.toNat_shiftRight, hmask, Nat.and_two_pow_sub_one_eq_mod,
    Nat.mod_eq_of_lt hplace, Nat.shiftRight_eq_div_pow]

/-- A mask of one bit tells whether that bit is set. -/
theorem and_bit_ne_zero (place : Nat) {bit : UInt32} (hbit : bit.toNat = 2 ^ place)
    (word : UInt32) : (word &&& bit != 0) = (word.toNat / 2 ^ place % 2 == 1) := by
  have hand : (word &&& bit).toNat = (word.toNat.testBit place).toNat * 2 ^ place := by
    rw [UInt32.toNat_and, hbit, Nat.and_two_pow]
  rw [Bool.eq_iff_iff, bne_iff_ne, beq_iff_eq, ne_eq, ← UInt32.toNat_inj, hand,
    Nat.testBit_eq_decide_div_mod_eq]
  by_cases hset : word.toNat / 2 ^ place % 2 = 1
  · simp [hset]
  · simp [hset]

/-- A number that is put past all that a word holds is added to it as a
digit. -/
theorem toNat_or_shiftLeft (place : UInt32) {word : UInt32} {low high scale : Nat}
    (hplace : place.toNat < 32) (hscale : 2 ^ place.toNat = scale)
    (hword : word.toNat = low) (hlow : low < scale) (hhigh : scale * high < 0x100000000) :
    (word ||| UInt32.ofNat high <<< place).toNat = low + scale * high := by
  subst hscale hword
  have hfits : high < 0x100000000 :=
    lt_of_le_of_lt (Nat.le_mul_of_pos_left high (Nat.two_pow_pos _)) hhigh
  have hshift : (UInt32.ofNat high <<< place).toNat = high <<< place.toNat := by
    rw [UInt32.toNat_shiftLeft, UInt32.toNat_ofNat', Nat.mod_eq_of_lt hplace,
      Nat.mod_eq_of_lt hfits, Nat.shiftLeft_eq, Nat.mul_comm, Nat.mod_eq_of_lt hhigh]
  rw [UInt32.toNat_or, hshift, Nat.lor_comm, ← Nat.shiftLeft_add_eq_or_of_lt hlow,
    Nat.shiftLeft_eq, Nat.mul_comm, Nat.add_comm]

namespace Policy

/-! ## The policy in a word -/

/-- The policy is what shifts and masks find in the word. -/
structure InWord (word : UInt32) (p : Policy) : Prop where
  minLength : p.minLength.val = (word &&& 0x1f).toNat
  strength : p.strength.number = (word >>> 5 &&& 0xf).toNat
  maxFailures : p.maxFailures.val = (word >>> 9 &&& 0x1f).toNat
  lockSeconds : p.lockSeconds.val = (word >>> 14 &&& 0x7ff).toNat
  remoteWipe : p.remoteWipe = (word &&& 0x2000000 != 0)

variable {p q : Policy} {word : UInt32}

theorem minLength_bits (word : UInt32) : (word &&& 0x1f).toNat = word.toNat % 0x20 := by
  rw [UInt32.toNat_and]
  exact Nat.and_two_pow_sub_one_eq_mod _ 5

theorem strength_bits (word : UInt32) : (word >>> 5 &&& 0xf).toNat = strengthBits word :=
  toNat_shiftRight_and 4 (by decide) rfl word

theorem maxFailures_bits (word : UInt32) :
    (word >>> 9 &&& 0x1f).toNat = word.toNat / 0x200 % 0x20 :=
  toNat_shiftRight_and 5 (by decide) rfl word

theorem lockSeconds_bits (word : UInt32) :
    (word >>> 14 &&& 0x7ff).toNat = word.toNat / 0x4000 % 0x800 :=
  toNat_shiftRight_and 11 (by decide) rfl word

theorem remoteWipe_bits (word : UInt32) :
    (word &&& 0x2000000 != 0) = (word.toNat / 0x2000000 % 2 == 1) :=
  and_bit_ne_zero 25 rfl word

theorem inWord_ofFields {s : Strength} (h : s.number = strengthBits word) :
    InWord word (ofFields word s) where
  minLength := (minLength_bits word).symm
  strength := h.trans (strength_bits word).symm
  maxFailures := (maxFailures_bits word).symm
  lockSeconds := (lockSeconds_bits word).symm
  remoteWipe := (remoteWipe_bits word).symm

theorem InWord.unique (hp : InWord word p) (hq : InWord word q) : p = q := by
  ext1
  · exact Fin.ext (hp.minLength.trans hq.minLength.symm)
  · exact Strength.number_inj (hp.strength.trans hq.strength.symm)
  · exact Fin.ext (hp.maxFailures.trans hq.maxFailures.symm)
  · exact Fin.ext (hp.lockSeconds.trans hq.lockSeconds.symm)
  · exact hp.remoteWipe.trans hq.remoteWipe.symm

/-- To unpack a word is to find the policy that is in it. -/
theorem ofWord_eq_ok_iff : ofWord word = .ok p ↔ InWord word p := by
  constructor
  · intro h
    unfold ofWord at h
    split at h
    · rename_i s hs
      obtain rfl := Except.ok.inj h
      exact inWord_ofFields (Strength.ofNumber?_eq_some_iff.mp hs)
    · cases h
  · intro h
    have hbits : p.strength.number = strengthBits word :=
      h.strength.trans (strength_bits word)
    rw [ofWord, Strength.ofNumber?_eq_some_iff.mpr hbits]
    exact congrArg Except.ok ((inWord_ofFields hbits).unique h)

theorem code_of_ofWord (h : ofWord word = .ok p) : p.code = word.toNat % 0x4000000 := by
  unfold ofWord at h
  split at h
  · rename_i s hs
    obtain rfl := Except.ok.inj h
    exact code_ofFields (Strength.ofNumber?_eq_some_iff.mp hs)
  · cases h

theorem ofWord_of_le (h : (word >>> 5 &&& 0xf).toNat ≤ 2) : ∃ p, ofWord word = .ok p := by
  rw [strength_bits] at h
  cases hs : Strength.ofNumber? (strengthBits word) with
  | some s => exact ⟨ofFields word s, by rw [ofWord, hs]⟩
  | none => exact absurd (Strength.ofNumber?_eq_none_iff.mp hs) (Nat.not_lt.mpr h)

theorem ofWord_of_ge (h : 3 ≤ (word >>> 5 &&& 0xf).toNat) :
    ofWord word = .error (.unreadable word (word >>> 5 &&& 0xf).toNat) := by
  rw [strength_bits] at h ⊢
  rw [ofWord, Strength.ofNumber?_eq_none_iff.mpr h]

/-! ## Words put together from fields -/

/-- The shifted fields of the policy, joined by disjunctions. -/
def orFields (p : Policy) : UInt32 :=
  UInt32.ofNat p.minLength ||| UInt32.ofNat p.strength.number <<< 5
    ||| UInt32.ofNat p.maxFailures <<< 9 ||| UInt32.ofNat p.lockSeconds <<< 14
    ||| UInt32.ofNat p.remoteWipe.toNat <<< 25

theorem toWord_eq_orFields (p : Policy) : p.toWord = p.orFields := by
  have hs := p.strength.number_lt
  have hw := p.remoteWipe.toNat_lt
  have hlen : (UInt32.ofNat p.minLength).toNat = p.minLength := by
    rw [UInt32.toNat_ofNat', Nat.mod_eq_of_lt (by omega)]
  have hstrength : _ = _ + 0x20 * p.strength.number :=
    toNat_or_shiftLeft 5 (by decide) rfl hlen (by omega) (by omega)
  have hfailures : _ = _ + 0x200 * p.maxFailures.val :=
    toNat_or_shiftLeft 9 (by decide) rfl hstrength (by omega) (by omega)
  have hlock : _ = _ + 0x4000 * p.lockSeconds.val :=
    toNat_or_shiftLeft 14 (by decide) rfl hfailures (by omega) (by omega)
  have hwipe : p.orFields.toNat = p.code :=
    toNat_or_shiftLeft 25 (by decide) rfl hlock (by omega) (by omega)
  rw [← UInt32.toNat_inj, toNat_toWord, hwipe]

/-! ## Exactness -/

theorem toWord_inj (h : p.toWord = q.toWord) : p = q :=
  Except.ok.inj (p.ofWord_toWord.symm.trans (h ▸ q.ofWord_toWord))

theorem isEmpty_iff_toWord : p.isEmpty = true ↔ p.toWord = 0 := by
  rw [isEmpty, decide_eq_true_iff]
  constructor
  · intro h
    rw [h]
    rfl
  · intro h
    exact toWord_inj (h.trans rfl)

theorem toWord_of_ofWord (h : ofWord word = .ok p) :
    p.toWord.toNat = word.toNat % 0x4000000 :=
  p.toNat_toWord.trans (code_of_ofWord h)

/-- Words are read alike if they agree in the bits that mean something. -/
theorem eq_iff_of_ofWord {v w : UInt32} (hv : ofWord v = .ok p) (hw : ofWord w = .ok q) :
    p = q ↔ v.toNat % 0x4000000 = w.toNat % 0x4000000 := by
  rw [← toWord_of_ofWord hv, ← toWord_of_ofWord hw, UInt32.toNat_inj]
  exact ⟨congrArg toWord, toWord_inj⟩

theorem ofInt_toNat (word : UInt32) :
    ofInt word.toNat = (ofWord word).mapError .unreadable := by
  have hword := word.toNat_lt
  have hrange : 0 ≤ (word.toNat : Int) ∧ (word.toNat : Int) < UInt32.size := by
    simp only [UInt32.size]
    omega
  rw [ofInt, if_pos hrange, Int.toNat_natCast, UInt32.ofNat_toNat]

/-- A number that stands for a policy is a word that holds it. -/
theorem ofInt_eq_ok {n : Int} (h : ofInt n = .ok p) :
    ∃ word : UInt32, n = word.toNat ∧ ofWord word = .ok p := by
  rw [ofInt] at h
  split at h
  · rename_i hrange
    refine ⟨UInt32.ofNat n.toNat, ?_, ?_⟩
    · have hn : n.toNat < 0x100000000 := by
        simp only [UInt32.size] at hrange
        omega
      rw [UInt32.toNat_ofNat', Nat.mod_eq_of_lt hn, Int.toNat_of_nonneg hrange.1]
    · cases hword : ofWord (UInt32.ofNat n.toNat) with
      | ok q =>
          rw [hword] at h
          exact congrArg Except.ok (Except.ok.inj h)
      | error fault =>
          rw [hword] at h
          cases h
  · cases h

/-- **Packing is exact.** A policy packs to the disjunction of its
shifted fields, below the bits that mean nothing, and is found again. A
word without a reserved strength holds the policy that shifts and masks
find in it, which packs to the meaningful bits of the word; any other
word is refused, with all of its bits. Hence words hold one policy if and
only if they agree in the meaningful bits, and words tell policies apart,
the empty one by the word zero. So it is where policies are exchanged as
bare numbers. -/
theorem packing_exact :
    (∀ p : Policy, p.toWord = p.orFields ∧ p.toWord.toNat < 0x4000000
        ∧ ofWord p.toWord = .ok p)
      ∧ (∀ word : UInt32,
          let mode := (word >>> 5 &&& 0xf).toNat
          (mode ≤ 2 → ∃ p, ofWord word = .ok p ∧ InWord word p
              ∧ p.toWord.toNat = word.toNat % 0x4000000)
            ∧ (3 ≤ mode → ofWord word = .error (.unreadable word mode)))
      ∧ (∀ (v w : UInt32) (p q : Policy), ofWord v = .ok p → ofWord w = .ok q →
          (p = q ↔ v.toNat % 0x4000000 = w.toNat % 0x4000000))
      ∧ (∀ p q : Policy, p = q ↔ p.toWord = q.toWord)
      ∧ (∀ p : Policy, p.isEmpty = true ↔ p.toWord = 0)
      ∧ (∀ word : UInt32, ofInt word.toNat = (ofWord word).mapError .unreadable)
      ∧ ∀ (n : Int) (p : Policy), ofInt n = .ok p → (p.toWord.toNat : Int) = n % 0x4000000 := by
  refine ⟨fun p => ⟨p.toWord_eq_orFields, p.toNat_toWord ▸ p.code_lt, p.ofWord_toWord⟩, ?unpack,
    fun v w p q => eq_iff_of_ofWord, fun p q => ⟨congrArg toWord, toWord_inj⟩,
    fun p => isEmpty_iff_toWord, ofInt_toNat, ?number⟩
  case unpack =>
    intro word mode
    refine ⟨fun hmode => ?_, ofWord_of_ge⟩
    obtain ⟨p, hp⟩ := ofWord_of_le hmode
    exact ⟨p, hp, ofWord_eq_ok_iff.mp hp, toWord_of_ofWord hp⟩
  case number =>
    intro n p h
    obtain ⟨word, rfl, hword⟩ := ofInt_eq_ok h
    rw [toWord_of_ofWord hword]
    rfl

/-- With all bits set but those of the strength, which holds the last that
there is, a word holds what the meaningful bits alone hold, and packs to
these. With all bits set it is refused. -/
theorem packing_exact_of_ones :
    (∃ p, ofWord 0xfffffe5f = .ok p ∧ ofWord 0x3fffe5f = .ok p ∧ ofInt 0xfffffe5f = .ok p
        ∧ (p.toWord.toNat : Int) = 0x3fffe5f)
      ∧ ofWord 0xffffffff = .error (.unreadable 0xffffffff 15) := by
  obtain ⟨-, hunpack, halike, -, -, hexchanged, hnumber⟩ := packing_exact
  obtain ⟨p, hp, -⟩ := (hunpack 0xfffffe5f).1 (by decide)
  obtain ⟨q, hq, -⟩ := (hunpack 0x3fffe5f).1 (by decide)
  obtain rfl : p = q := (halike _ _ p q hp hq).mpr rfl
  have hint : ofInt 0xfffffe5f = .ok p := by
    rw [show (0xfffffe5f : Int) = (0xfffffe5f : UInt32).toNat from rfl, hexchanged, hp]
    rfl
  exact ⟨⟨p, hp, hq, hint, hnumber _ p hint⟩, (hunpack 0xffffffff).2 (by decide)⟩

end Policy

end LockPolicy
