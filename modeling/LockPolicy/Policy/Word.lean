import LockPolicy.Policy.Basic

/-!
# Policies in a word

A policy is stored with its account as one 32-bit word:

    bit  25     24 ........ 14  13 .... 9  8 ...... 5  4 ....... 0
        [wipe]  [lock seconds]  [failures] [strength]  [min length]

Each field is a digit of a number in mixed base, so packing adds the
digits in their places and unpacking divides them out again. The bits
above the wipe bit mean nothing: unpacking passes over them and packing
leaves them zero. The strength has four bits and three values; a word
with any other value there holds no policy.
-/

namespace LockPolicy.Policy

/-- The number whose bits hold the policy. -/
def code (p : Policy) : Nat :=
  p.minLength + 0x20 * p.strength.number + 0x200 * p.maxFailures
    + 0x4000 * p.lockSeconds + 0x2000000 * p.remoteWipe.toNat

/-- The policy packed into a word. -/
def toWord (p : Policy) : UInt32 := UInt32.ofNat p.code

/-- The number in the strength bits of a word. -/
def strengthBits (word : UInt32) : Nat := word.toNat / 0x20 % 0x10

/-- The policy with the given strength and with the other fields of a
word. -/
def ofFields (word : UInt32) (strength : Strength) : Policy where
  minLength := ⟨word.toNat % 0x20, by omega⟩
  strength
  maxFailures := ⟨word.toNat / 0x200 % 0x20, by omega⟩
  lockSeconds := ⟨word.toNat / 0x4000 % 0x800, by omega⟩
  remoteWipe := word.toNat / 0x2000000 % 2 = 1

/-- The policy in a word. -/
def ofWord (word : UInt32) : Except Fault Policy :=
  match Strength.ofNumber? (strengthBits word) with
  | some strength => .ok (ofFields word strength)
  | none => .error (.unreadable word (strengthBits word))

/-! ## Packing and unpacking

The places do not overlap, so what was packed is found again, and what
was found packs to the bits that mean something. -/

theorem code_lt (p : Policy) : p.code < 0x4000000 := by
  have hs := p.strength.number_lt
  have hw := p.remoteWipe.toNat_lt
  simp only [code]
  omega

@[simp] theorem toNat_toWord (p : Policy) : p.toWord.toNat = p.code := by
  have := p.code_lt
  simp only [toWord, UInt32.toNat_ofNat', Nat.reducePow]
  omega

@[simp] theorem ofWord_toWord (p : Policy) : ofWord p.toWord = .ok p := by
  have hs := p.strength.number_lt
  have hw := p.remoteWipe.toNat_lt
  have hbits : strengthBits p.toWord = p.strength.number := by
    simp only [strengthBits, toNat_toWord, code]
    omega
  have hfields : ofFields p.toWord p.strength = p := by
    ext
    · simp only [ofFields, toNat_toWord, code]
      omega
    · rfl
    · simp only [ofFields, toNat_toWord, code]
      omega
    · simp only [ofFields, toNat_toWord, code]
      omega
    · have : p.code / 0x2000000 % 2 = p.remoteWipe.toNat := by
        simp only [code]
        omega
      simp only [ofFields, toNat_toWord, this]
      cases p.remoteWipe <;> rfl
  simp only [ofWord, hbits, Strength.ofNumber?_number, hfields]

theorem code_ofFields {word : UInt32} {s : Strength}
    (h : s.number = strengthBits word) :
    (ofFields word s).code = word.toNat % 0x4000000 := by
  have hw : (ofFields word s).remoteWipe.toNat = word.toNat / 0x2000000 % 2 := by
    rcases Nat.mod_two_eq_zero_or_one (word.toNat / 0x2000000) with h | h
    · simp only [ofFields, h]
      rfl
    · simp only [ofFields, h]
      rfl
  rw [code, hw]
  simp only [ofFields, h, strengthBits]
  omega

/-- Puts the policy in the place of a stored word. Says whether the word
changed, and which word is stored then. -/
def store (p : Policy) (stored : UInt32) : Bool × UInt32 :=
  (p.toWord != stored, p.toWord)

/-- Stores one policy after the other in the same place. Says for each
whether the word changed, and which word was stored then. -/
def storeAll (stored : UInt32) : List Policy → List (Bool × UInt32)
  | [] => []
  | p :: ps => p.store stored :: storeAll (p.store stored).2 ps

/-! ## A policy as a bare number

Where policies are exchanged as numbers of no fixed width, a number is a
policy if it fits a word and the word holds one. -/

/-- Why a number is not a policy. -/
inductive NumberFault where
  | notWord (n : Int)
  | unreadable (fault : Fault)
deriving DecidableEq, Repr

/-- The policy that the number stands for. -/
def ofInt (n : Int) : Except NumberFault Policy :=
  if 0 ≤ n ∧ n < UInt32.size then
    (ofWord (UInt32.ofNat n.toNat)).mapError .unreadable
  else .error (.notWord n)

end LockPolicy.Policy
