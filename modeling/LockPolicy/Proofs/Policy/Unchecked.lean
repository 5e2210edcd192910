import LockPolicy.Proofs.Policy.Bits
import LockPolicy.Proofs.Policy.Join

/-!
# Policies without ranges in their type

A `Policy` cannot be out of range, because its type does not let it.
Others keep the fields in machine words and look at ranges where a policy
is made from numbers, but not where it is cut out of a word, and not
where a tally answers. An `Unchecked` policy is theirs, and its ways to
come about are written here as they have them. Each of them does to
unchecked policies what its counterpart does to policies
(`unchecked_make`, `unchecked_ofWord`, `unchecked_merge` and so on), so
whatever they come to is the image of a policy: nothing out of range is
ever obtained (`obtained_iff_inRange`), though only two of the ways look.

That matters where policies are packed. Out of range, a field would spill
into the bits of the next one.
-/

namespace LockPolicy

/-! ## Construction from numbers -/

/-- The fault of the first number that is above the largest of its
field. -/
def overrun? (given : List (Field × Nat)) : Option Fault :=
  given.findSome? fun entry =>
    if entry.1.max < entry.2 then some (.outOfRange entry.1 entry.2 entry.1.max) else none

/-- The number in a field of the policy. -/
def Policy.number (p : Policy) : Field → Nat
  | .minLength => p.minLength
  | .strength => p.strength.number
  | .maxFailures => p.maxFailures
  | .lockSeconds => p.lockSeconds

/-- The construction goes by the ranges of the numbers that it is given.
It fails with the first that is out of range, and a policy that it makes
has every number in its field, and what else it keeps. -/
structure Vets (given : List (Field × Nat)) (kept : Policy → Prop)
    (result : Except Fault Policy) : Prop where
  error_iff : ∀ fault, result = .error fault ↔ overrun? given = some fault
  keeps : ∀ p, result = .ok p → (∀ entry ∈ given, p.number entry.1 = entry.2) ∧ kept p

variable {field : Field} {value : Nat} {given : List (Field × Nat)}

theorem overrun?_cons_of_le (h : value ≤ field.max) :
    overrun? ((field, value) :: given) = overrun? given := by
  simp [overrun?, Nat.not_lt.mpr h]

theorem overrun?_cons_of_lt (h : field.max < value) :
    overrun? ((field, value) :: given) = some (.outOfRange field value field.max) := by
  simp [overrun?, h]

theorem overrun?_eq_none_iff :
    overrun? given = none ↔ ∀ entry ∈ given, entry.2 ≤ entry.1.max := by
  simp [overrun?]

theorem Field.fit_of_le (h : value ≤ field.max) :
    field.fit value = .ok ⟨value, Nat.lt_succ_of_le h⟩ :=
  dif_pos (Nat.lt_succ_of_le h)

theorem Field.fit_of_lt (h : field.max < value) :
    field.fit value = .error (.outOfRange field value field.max) :=
  dif_neg (by omega)

theorem Strength.ofNumber_of_lt {n : Nat} (h : Field.strength.max < n) :
    ofNumber n = .error (.outOfRange .strength n Field.strength.max) := by
  rw [ofNumber, ofNumber?_eq_none_iff.mpr h]

theorem Strength.exists_number {n : Nat} (h : n ≤ Field.strength.max) :
    ∃ s : Strength, s.number = n := by
  cases hs : ofNumber? n with
  | some s => exact ⟨s, ofNumber?_eq_some_iff.mp hs⟩
  | none => exact absurd (ofNumber?_eq_none_iff.mp hs) (Nat.not_lt.mpr h)

theorem Strength.ofNumber_number (s : Strength) : ofNumber s.number = .ok s := by
  rw [ofNumber, ofNumber?_number]

namespace Vets

variable {kept : Policy → Prop}

theorem ok {p : Policy} (h : kept p) : Vets [] kept (.ok p) where
  error_iff _ := iff_of_false nofun nofun
  keeps _ hp := ⟨nofun, Except.ok.inj hp ▸ h⟩

/-- A construction that fails at once with the first number. -/
theorem error (h : field.max < value) :
    Vets ((field, value) :: given) kept (.error (.outOfRange field value field.max)) where
  error_iff fault := by
    rw [overrun?_cons_of_lt h, Except.error.injEq, Option.some.injEq]
  keeps _ := nofun

/-- A construction that puts the first number into its field, and goes by
the others from there. -/
theorem cons {result : Except Fault Policy} (hle : value ≤ field.max)
    (h : Vets given (fun p => p.number field = value ∧ kept p) result) :
    Vets ((field, value) :: given) kept result where
  error_iff fault := by
    rw [h.error_iff, overrun?_cons_of_le hle]
  keeps p hp := by
    obtain ⟨hgiven, hnumber, hkept⟩ := h.keeps p hp
    exact ⟨List.forall_mem_cons.mpr ⟨hnumber, hgiven⟩, hkept⟩

theorem fit {rest : Fin (field.max + 1) → Except Fault Policy}
    (h : ∀ v : Fin (field.max + 1), v.val = value →
      Vets given (fun p => p.number field = value ∧ kept p) (rest v)) :
    Vets ((field, value) :: given) kept (field.fit value >>= rest) := by
  by_cases hle : value ≤ field.max
  · rw [Field.fit_of_le hle]
    exact .cons hle (h _ rfl)
  · rw [Field.fit_of_lt (Nat.not_le.mp hle)]
    exact .error (Nat.not_le.mp hle)

theorem imp {kept' : Policy → Prop} {result : Except Fault Policy}
    (h : Vets given kept result) (himp : ∀ p, kept p → kept' p) : Vets given kept' result where
  error_iff := h.error_iff
  keeps p hp := (h.keeps p hp).imp_right (himp p)

theorem isOk_iff {result : Except Fault Policy} (h : Vets given kept result) :
    (∃ p, result = .ok p) ↔ ∀ entry ∈ given, entry.2 ≤ entry.1.max := by
  rw [← overrun?_eq_none_iff]
  cases hresult : result with
  | ok p =>
      refine iff_of_true ⟨p, rfl⟩ (Option.eq_none_iff_forall_ne_some.mpr fun fault hfault => ?_)
      have := (h.error_iff fault).mpr hfault
      rw [hresult] at this
      cases this
  | error fault =>
      refine iff_of_false nofun fun hnone => ?_
      rw [(h.error_iff fault).mp hresult] at hnone
      cases hnone

end Vets

namespace Policy

theorem make_vets (minLength : Nat) (strength : Strength) (maxFailures lockSeconds : Nat)
    (remoteWipe : Bool) :
    Vets [(.minLength, minLength), (.maxFailures, maxFailures), (.lockSeconds, lockSeconds)]
      (fun p => p.strength = strength ∧ p.remoteWipe = remoteWipe)
      (make minLength strength maxFailures lockSeconds remoteWipe) := by
  refine .fit fun length hlength => ?_
  refine .fit fun failures hfailures => ?_
  refine .fit fun lock hlock => ?_
  exact .ok ⟨hlock, hfailures, hlength, rfl, rfl⟩

theorem ofNumbers_vets (minLength strength maxFailures lockSeconds : Nat)
    (remoteWipe : Bool) :
    Vets [(.strength, strength), (.minLength, minLength), (.maxFailures, maxFailures),
        (.lockSeconds, lockSeconds)]
      (fun p => p.remoteWipe = remoteWipe)
      (ofNumbers minLength strength maxFailures lockSeconds remoteWipe) := by
  by_cases hle : strength ≤ Field.strength.max
  · obtain ⟨s, rfl⟩ := Strength.exists_number hle
    rw [ofNumbers, Strength.ofNumber_number]
    exact .cons hle ((make_vets ..).imp fun p ⟨hstrength, hwipe⟩ =>
      ⟨congrArg Strength.number hstrength, hwipe⟩)
  · rw [ofNumbers, Strength.ofNumber_of_lt (Nat.not_le.mp hle)]
    exact .error (Nat.not_le.mp hle)

end Policy

/-! ## Policies of bare numbers -/

/-- A policy whose numbers need not fit their fields. -/
@[ext] structure Unchecked where
  minLength : Nat
  strength : Strength
  maxFailures : Nat
  lockSeconds : Nat
  remoteWipe : Bool
deriving DecidableEq

/-- The policy without what its type says of it. -/
def Policy.unchecked (p : Policy) : Unchecked where
  minLength := p.minLength
  strength := p.strength
  maxFailures := p.maxFailures
  lockSeconds := p.lockSeconds
  remoteWipe := p.remoteWipe

namespace Unchecked

structure InRange (u : Unchecked) : Prop where
  minLength : u.minLength ≤ 31
  maxFailures : u.maxFailures ≤ 31
  lockSeconds : u.lockSeconds ≤ 2047

/-- To be in range is to be a policy. -/
theorem inRange_iff {u : Unchecked} : u.InRange ↔ ∃ p : Policy, p.unchecked = u := by
  constructor
  · intro h
    exact ⟨{
      minLength := ⟨u.minLength, Nat.lt_succ_of_le h.minLength⟩
      strength := u.strength
      maxFailures := ⟨u.maxFailures, Nat.lt_succ_of_le h.maxFailures⟩
      lockSeconds := ⟨u.lockSeconds, Nat.lt_succ_of_le h.lockSeconds⟩
      remoteWipe := u.remoteWipe }, rfl⟩
  · rintro ⟨p, rfl⟩
    exact ⟨p.minLength.is_le, p.maxFailures.is_le, p.lockSeconds.is_le⟩

def check (field : Field) (value : Nat) : Except Fault Unit :=
  if field.max < value then .error (.outOfRange field value field.max) else .ok ()

def make (minLength : Nat) (strength : Strength) (maxFailures lockSeconds : Nat)
    (remoteWipe : Bool) : Except Fault Unchecked := do
  check .minLength minLength
  check .maxFailures maxFailures
  check .lockSeconds lockSeconds
  return { minLength, strength, maxFailures, lockSeconds, remoteWipe }

def ofNumbers (minLength strength maxFailures lockSeconds : Nat) (remoteWipe : Bool) :
    Except Fault Unchecked := do
  let strength ← Strength.ofNumber strength
  make minLength strength maxFailures lockSeconds remoteWipe

def empty : Unchecked where
  minLength := 0
  strength := .unset
  maxFailures := 0
  lockSeconds := 0
  remoteWipe := false

/-- The fields are cut out of the word by shifts and masks, and only the
strength is looked at. -/
def ofWord (word : UInt32) : Except Fault Unchecked :=
  let mode := (word >>> 5 &&& 0xf).toNat
  match Strength.ofNumber? mode with
  | some strength => .ok {
      minLength := (word &&& 0x1f).toNat
      strength
      maxFailures := (word >>> 9 &&& 0x1f).toNat
      lockSeconds := (word >>> 14 &&& 0x7ff).toNat
      remoteWipe := word &&& 0x2000000 != 0 }
  | none => .error (.unreadable word mode)

def toWord (u : Unchecked) : UInt32 :=
  UInt32.ofNat u.minLength ||| UInt32.ofNat u.strength.number <<< 5
    ||| UInt32.ofNat u.maxFailures <<< 9 ||| UInt32.ofNat u.lockSeconds <<< 14
    ||| UInt32.ofNat u.remoteWipe.toNat <<< 25

end Unchecked

/-- A tally of bare numbers. -/
structure UncheckedTally where
  contributed : Nat := 0
  minLength : Option Nat := none
  strength : Option Strength := none
  maxFailures : Option Nat := none
  lockSeconds : Option Nat := none
  remoteWipe : Bool := false

namespace UncheckedTally

/-- As `Tally.tighten`, of any number. -/
def tighten (best : Option Nat) (new : Nat) : Option Nat :=
  if new = 0 then best
  else match best with
    | none => some new
    | some old => some (if new ≤ old then new else old)

def take (t : UncheckedTally) (u : Unchecked) : UncheckedTally where
  contributed := t.contributed + 1
  minLength := Tally.raise t.minLength u.minLength
  strength := Tally.raise t.strength u.strength
  maxFailures := tighten t.maxFailures u.maxFailures
  lockSeconds := tighten t.lockSeconds u.lockSeconds
  remoteWipe := t.remoteWipe || u.remoteWipe

def add (t : UncheckedTally) (u : Unchecked) : UncheckedTally :=
  if u = .empty then t else t.take u

def demands (t : UncheckedTally) : Unchecked where
  minLength := t.minLength.getD 0
  strength := t.strength.getD .unset
  maxFailures := t.maxFailures.getD 0
  lockSeconds := t.lockSeconds.getD 0
  remoteWipe := t.remoteWipe

/-- The answer is put together without a look at any range. -/
def strictest (t : UncheckedTally) : Unchecked :=
  if t.contributed = 0 then .empty else t.demands

end UncheckedTally

def Unchecked.merge (us : List Unchecked) : Unchecked :=
  (us.foldl UncheckedTally.add {}).strictest

/-! ## Each way is the image of its counterpart -/

def Tally.unchecked (t : Tally) : UncheckedTally where
  contributed := t.contributed
  minLength := t.minLength.map Fin.val
  strength := t.strength
  maxFailures := t.maxFailures.map Fin.val
  lockSeconds := t.lockSeconds.map Fin.val
  remoteWipe := t.remoteWipe

namespace Policy

theorem unchecked_inj {p q : Policy} (h : p.unchecked = q.unchecked) : p = q := by
  simp only [unchecked, Unchecked.mk.injEq] at h
  obtain ⟨hlength, hstrength, hfailures, hlock, hwipe⟩ := h
  exact Policy.ext (Fin.ext hlength) hstrength (Fin.ext hfailures) (Fin.ext hlock) hwipe

theorem map_fit_bind {rest : Fin (field.max + 1) → Except Fault Policy}
    {rest' : Except Fault Unchecked}
    (h : ∀ v : Fin (field.max + 1), v.val = value → (rest v).map unchecked = rest') :
    (field.fit value >>= rest).map unchecked
      = (Unchecked.check field value >>= fun _ => rest') := by
  by_cases hle : value ≤ field.max
  · rw [Field.fit_of_le hle, Unchecked.check, if_neg (Nat.not_lt.mpr hle)]
    exact h _ rfl
  · rw [Field.fit_of_lt (Nat.not_le.mp hle), Unchecked.check, if_pos (Nat.not_le.mp hle)]
    rfl

theorem unchecked_make (minLength : Nat) (strength : Strength)
    (maxFailures lockSeconds : Nat) (remoteWipe : Bool) :
    (make minLength strength maxFailures lockSeconds remoteWipe).map unchecked
      = Unchecked.make minLength strength maxFailures lockSeconds remoteWipe := by
  refine map_fit_bind fun length hlength => ?_
  refine map_fit_bind fun failures hfailures => ?_
  refine map_fit_bind fun lock hlock => ?_
  subst hlength hfailures hlock
  rfl

theorem unchecked_ofNumbers (minLength strength maxFailures lockSeconds : Nat)
    (remoteWipe : Bool) :
    (ofNumbers minLength strength maxFailures lockSeconds remoteWipe).map unchecked
      = Unchecked.ofNumbers minLength strength maxFailures lockSeconds remoteWipe := by
  rw [ofNumbers, Unchecked.ofNumbers]
  cases Strength.ofNumber strength with
  | ok s => exact unchecked_make ..
  | error fault => rfl

theorem unchecked_ofWord (word : UInt32) :
    (ofWord word).map unchecked = Unchecked.ofWord word := by
  rw [ofWord, Unchecked.ofWord, strength_bits]
  cases hs : Strength.ofNumber? (strengthBits word) with
  | none => rfl
  | some s =>
      have hword : InWord word (ofFields word s) :=
        inWord_ofFields (Strength.ofNumber?_eq_some_iff.mp hs)
      exact congrArg Except.ok
        (Unchecked.ext hword.minLength rfl hword.maxFailures hword.lockSeconds hword.remoteWipe)

theorem unchecked_toWord (p : Policy) : p.unchecked.toWord = p.toWord :=
  p.toWord_eq_orFields.symm

end Policy

namespace Tally

theorem raise_map_val {n : Nat} (best : Option (Fin n)) (new : Fin n) :
    (raise best new).map Fin.val = raise (best.map Fin.val) new.val := by
  cases best with
  | none => rfl
  | some old => exact congrArg some (apply_ite Fin.val _ new old)

theorem tighten_map_val {n : Nat} (best : Option (Fin (n + 1))) (new : Fin (n + 1)) :
    (tighten best new).map Fin.val = UncheckedTally.tighten (best.map Fin.val) new.val := by
  unfold tighten UncheckedTally.tighten
  split
  · rfl
  · cases best with
    | none => rfl
    | some old => exact congrArg some (apply_ite Fin.val _ new old)

theorem unchecked_take (t : Tally) (p : Policy) :
    (t.take p).unchecked = t.unchecked.take p.unchecked := by
  simp only [unchecked, take, UncheckedTally.take, Policy.unchecked, raise_map_val, tighten_map_val]

/-- One step of both. -/
theorem unchecked_add (t : Tally) (p : Policy) :
    (t.add p).unchecked = t.unchecked.add p.unchecked := by
  have hempty : p.isEmpty = true ↔ p.unchecked = .empty := by
    rw [Policy.isEmpty, decide_eq_true_iff]
    exact ⟨fun h => h ▸ rfl, fun h => Policy.unchecked_inj (h.trans rfl)⟩
  rw [add, UncheckedTally.add]
  by_cases hp : p.isEmpty = true
  · rw [if_pos hp, if_pos (hempty.mp hp)]
  · rw [if_neg hp, if_neg (mt hempty.mpr hp), unchecked_take]

theorem unchecked_addAll (t : Tally) (ps : List Policy) :
    (t.addAll ps).unchecked = (ps.map Policy.unchecked).foldl UncheckedTally.add t.unchecked := by
  induction ps generalizing t with
  | nil => rfl
  | cons p ps ih =>
      rw [List.map_cons, List.foldl_cons, ← unchecked_add]
      exact ih (t.add p)

theorem unchecked_demands (t : Tally) : t.demands.unchecked = t.unchecked.demands := by
  have hval {n : Nat} (best : Option (Fin (n + 1))) :
      (best.getD 0).val = (best.map Fin.val).getD 0 := by
    cases best <;> rfl
  exact Unchecked.ext (hval _) rfl (hval _) (hval _) rfl

theorem unchecked_strictest (t : Tally) :
    t.strictest.unchecked = t.unchecked.strictest := by
  have hcount : t.unchecked.contributed = t.contributed := rfl
  rw [strictest, UncheckedTally.strictest, hcount]
  split
  · rfl
  · exact unchecked_demands t

end Tally

theorem Policy.unchecked_merge (ps : List Policy) :
    (merge ps).unchecked = Unchecked.merge (ps.map unchecked) := by
  rw [merge, Tally.unchecked_strictest, Tally.unchecked_addAll]
  rfl

namespace Unchecked

/-! ## What can be obtained -/

/-- The unchecked policies that the ways to come by one lead to. -/
inductive Obtained : Unchecked → Prop
  | made {u : Unchecked} {minLength : Nat} {strength : Strength}
      {maxFailures lockSeconds : Nat} {remoteWipe : Bool}
      (h : make minLength strength maxFailures lockSeconds remoteWipe = .ok u) : Obtained u
  | numbers {u : Unchecked} {minLength strength maxFailures lockSeconds : Nat}
      {remoteWipe : Bool}
      (h : ofNumbers minLength strength maxFailures lockSeconds remoteWipe = .ok u) : Obtained u
  | unpacked {u : Unchecked} {word : UInt32} (h : ofWord word = .ok u) : Obtained u
  | empty : Obtained empty
  | merged {us : List Unchecked} (h : ∀ u ∈ us, Obtained u) : Obtained (merge us)

theorem inRange_of_map {result : Except Fault Policy} {u : Unchecked}
    (h : result.map Policy.unchecked = .ok u) : u.InRange := by
  cases result with
  | ok p => exact inRange_iff.mpr ⟨p, Except.ok.inj h⟩
  | error fault => cases h

theorem inRange_merge {us : List Unchecked} (h : ∀ u ∈ us, u.InRange) : (merge us).InRange := by
  have hrange : us ∈ Set.range (List.map Policy.unchecked) := by
    rw [Set.range_list_map]
    exact fun u hu => inRange_iff.mp (h u hu)
  obtain ⟨ps, rfl⟩ := hrange
  exact inRange_iff.mpr ⟨Policy.merge ps, Policy.unchecked_merge ps⟩

theorem ofWord_toWord {u : Unchecked} (h : u.InRange) : ofWord u.toWord = .ok u := by
  obtain ⟨p, rfl⟩ := inRange_iff.mp h
  rw [p.unchecked_toWord, ← Policy.unchecked_ofWord, Policy.ofWord_toWord]
  rfl

theorem ofNumbers_fields {u : Unchecked} (h : u.InRange) :
    ofNumbers u.minLength u.strength.number u.maxFailures u.lockSeconds u.remoteWipe
      = .ok u := by
  obtain ⟨p, rfl⟩ := inRange_iff.mp h
  rw [ofNumbers, Strength.ofNumber_number]
  exact (Policy.unchecked_make ..).symm.trans (congrArg (Except.map _) p.make_fields)

/-- The induction is on how the policy was obtained. -/
theorem Obtained.inRange {u : Unchecked} (h : Obtained u) : u.InRange := by
  induction h with
  | made h => exact inRange_of_map ((Policy.unchecked_make ..).trans h)
  | numbers h => exact inRange_of_map ((Policy.unchecked_ofNumbers ..).trans h)
  | unpacked h => exact inRange_of_map ((Policy.unchecked_ofWord _).trans h)
  | empty => exact inRange_iff.mpr ⟨.empty, rfl⟩
  | merged _ ih => exact inRange_merge ih

theorem obtained_iff_inRange {u : Unchecked} : Obtained u ↔ u.InRange :=
  ⟨Obtained.inRange, fun h => .unpacked (ofWord_toWord h)⟩

/-- What is made from numbers is what is found in words. -/
theorem ofNumbers_iff_ofWord (u : Unchecked) :
    (∃ minLength strength maxFailures lockSeconds remoteWipe,
        ofNumbers minLength strength maxFailures lockSeconds remoteWipe = .ok u)
      ↔ ∃ word, ofWord word = .ok u := by
  constructor
  · rintro ⟨_, _, _, _, _, h⟩
    exact ⟨u.toWord, ofWord_toWord (Obtained.numbers h).inRange⟩
  · rintro ⟨_, h⟩
    exact ⟨_, _, _, _, _, ofNumbers_fields (Obtained.unpacked h).inRange⟩

/-- **Nothing out of range is obtained.** A construction from numbers
fails with the first of them that is out of range, the strength before
the others, and else keeps them all. The other ways to come by a policy
do not look, but no succession of them leads out of the ranges either.
So what is made from numbers is what is found in words, and a merge is
found again in its word. The operations on policies themselves have these
for their images. -/
theorem nothing_out_of_range :
    (∀ (minLength strength maxFailures lockSeconds : Nat) (remoteWipe : Bool),
        let result := Policy.ofNumbers minLength strength maxFailures lockSeconds remoteWipe
        ((∃ p, result = .ok p)
            ↔ strength ≤ 2 ∧ minLength ≤ 31 ∧ maxFailures ≤ 31 ∧ lockSeconds ≤ 2047)
          ∧ Vets [(.strength, strength), (.minLength, minLength), (.maxFailures, maxFailures),
              (.lockSeconds, lockSeconds)] (fun p => p.remoteWipe = remoteWipe) result
          ∧ result.map Policy.unchecked
            = ofNumbers minLength strength maxFailures lockSeconds remoteWipe)
      ∧ (∀ (minLength : Nat) (strength : Strength) (maxFailures lockSeconds : Nat)
          (remoteWipe : Bool),
        let result := Policy.make minLength strength maxFailures lockSeconds remoteWipe
        ((∃ p, result = .ok p) ↔ minLength ≤ 31 ∧ maxFailures ≤ 31 ∧ lockSeconds ≤ 2047)
          ∧ Vets [(.minLength, minLength), (.maxFailures, maxFailures),
              (.lockSeconds, lockSeconds)]
              (fun p => p.strength = strength ∧ p.remoteWipe = remoteWipe) result
          ∧ result.map Policy.unchecked
            = make minLength strength maxFailures lockSeconds remoteWipe)
      ∧ (∀ u, Obtained u ↔ u.InRange)
      ∧ (∀ u, (∃ minLength strength maxFailures lockSeconds remoteWipe,
            ofNumbers minLength strength maxFailures lockSeconds remoteWipe = .ok u)
          ↔ ∃ word, ofWord word = .ok u)
      ∧ (∀ word, (Policy.ofWord word).map Policy.unchecked = ofWord word)
      ∧ (∀ us, (∀ u ∈ us, Obtained u) → ofWord (merge us).toWord = .ok (merge us))
      ∧ ∀ ps, (Policy.merge ps).unchecked = merge (ps.map Policy.unchecked)
          ∧ (Policy.merge ps).unchecked.toWord = (Policy.merge ps).toWord
          ∧ Policy.ofWord (Policy.merge ps).toWord = .ok (Policy.merge ps) := by
  refine ⟨?numbers, ?make, fun u => obtained_iff_inRange, ofNumbers_iff_ofWord,
    Policy.unchecked_ofWord, ?merge, ?policies⟩
  case numbers =>
    intro minLength strength maxFailures lockSeconds remoteWipe result
    have hvets := Policy.ofNumbers_vets minLength strength maxFailures lockSeconds remoteWipe
    refine ⟨?_, hvets, Policy.unchecked_ofNumbers ..⟩
    simpa [Field.max] using hvets.isOk_iff
  case make =>
    intro minLength strength maxFailures lockSeconds remoteWipe result
    have hvets := Policy.make_vets minLength strength maxFailures lockSeconds remoteWipe
    refine ⟨?_, hvets, Policy.unchecked_make ..⟩
    simpa [Field.max] using hvets.isOk_iff
  case merge =>
    intro us hus
    exact ofWord_toWord (inRange_merge fun u hu => (hus u hu).inRange)
  case policies =>
    intro ps
    exact ⟨Policy.unchecked_merge ps, Policy.unchecked_toWord _, Policy.ofWord_toWord _⟩

/-- One is cut out of a word with the bits set that mean nothing, the
other is made from numbers. -/
theorem nothing_out_of_range_of_two :
    let us : List Unchecked := [⟨31, .strong, 31, 2047, true⟩, ⟨8, .simple, 5, 300, false⟩]
    (∀ u ∈ us, Obtained u) ∧ ofWord (merge us).toWord = .ok (merge us) := by
  intro us
  obtain ⟨-, -, -, -, -, hmerge, -⟩ := nothing_out_of_range
  have hword : ofWord 0xfffffe5f = .ok ⟨31, .strong, 31, 2047, true⟩ := by rfl
  have hnumbers : ofNumbers 8 1 5 300 false = .ok ⟨8, .simple, 5, 300, false⟩ := by rfl
  have hus : ∀ u ∈ us, Obtained u := by
    simp only [us, List.forall_mem_cons]
    exact ⟨.unpacked hword, .numbers hnumbers, nofun⟩
  exact ⟨hus, hmerge us hus⟩

/-- Out of range, a length is taken for a strength in the word. -/
example : ofWord (toWord ⟨32, .unset, 0, 0, false⟩) = .ok ⟨0, .simple, 0, 0, false⟩ := by
  rfl

end Unchecked

end LockPolicy
