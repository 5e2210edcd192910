import LockPolicy.Text.Blank
import Mathlib.Data.List.DropRight
import Mathlib.Data.List.Forall2

/-!
# Spellings of a word

People may write a word with blanks around it, and with capitals for its
small letters. Here that is said of the text as it stands, by what may be
put before, into and after the word (`Spells`); whoever reads it takes
the blanks off and writes every capital small. The two agree
(`spells_iff`): all blanks go and nothing else does, and only the letters
from A to Z have a small form. Other characters that look like a letter,
or become one when they are folded, are no spelling of it.
-/

namespace LockPolicy.Text

variable {cs inner : List Char}

/-! ## Blanks at the ends -/

/-- The text `inner` is what lies between the blanks at the ends of `cs`. -/
structure Stripped (cs inner : List Char) : Prop where
  padded : ∃ before after, cs = before ++ inner ++ after
    ∧ (∀ c ∈ before, isBlank c = true) ∧ ∀ c ∈ after, isBlank c = true
  head : ∀ c ∈ inner.head?, isBlank c = false
  last : ∀ c ∈ inner.getLast?, isBlank c = false

theorem trim_eq_rdropWhile (cs : List Char) :
    trim cs = (cs.dropWhile isBlank).rdropWhile isBlank := rfl

theorem stripped_trim (cs : List Char) : Stripped cs (trim cs) := by
  rw [trim_eq_rdropWhile]
  let rest := cs.dropWhile isBlank
  have hrest : rest.rdropWhile isBlank ++ rest.rtakeWhile isBlank = rest :=
    List.rdropWhile_append_rtakeWhile
  refine ⟨⟨cs.takeWhile isBlank, rest.rtakeWhile isBlank, ?_, ?_, ?_⟩, ?_, ?_⟩
  · rw [List.append_assoc, hrest, List.takeWhile_append_dropWhile]
  · exact fun c hc => List.mem_takeWhile_imp hc
  · exact fun c hc => List.mem_rtakeWhile_imp hc
  · intro c hc
    have hfirst : rest.head? = some c := by
      rw [← hrest, List.head?_append, Option.mem_def.mp hc, Option.some_or]
    have hnot := List.head?_dropWhile_not isBlank cs
    rwa [hfirst] at hnot
  · intro c hc
    obtain ⟨hne, rfl⟩ := List.mem_getLast?_eq_getLast hc
    exact eq_false_of_ne_true (List.rdropWhile_last_not isBlank rest hne)

theorem dropWhile_of_head (h : ∀ c ∈ cs.head?, isBlank c = false) :
    cs.dropWhile isBlank = cs := by
  cases cs with
  | nil => rfl
  | cons c cs => rw [List.dropWhile_cons_of_neg (by simp [h c rfl])]

theorem Stripped.trim_eq (h : Stripped cs inner) : trim cs = inner := by
  obtain ⟨⟨before, after, rfl, hbefore, hafter⟩, hhead, hlast⟩ := h
  rw [trim_eq_rdropWhile, List.append_assoc, List.dropWhile_append_of_pos hbefore]
  cases inner with
  | nil =>
      rw [List.nil_append, List.dropWhile_eq_nil_iff.mpr hafter]
      rfl
  | cons c inner =>
      have hkept : ((c :: inner) ++ after).dropWhile isBlank = (c :: inner) ++ after :=
        dropWhile_of_head hhead
      have hback : ∀ d ∈ after.reverse, isBlank d = true := fun d hd =>
        hafter d (List.mem_reverse.mp hd)
      rw [hkept, List.rdropWhile, List.reverse_append, List.dropWhile_append_of_pos hback,
        dropWhile_of_head (by rwa [List.head?_reverse]), List.reverse_reverse]

theorem trim_eq_iff : trim cs = inner ↔ Stripped cs inner :=
  ⟨fun h => h ▸ stripped_trim cs, Stripped.trim_eq⟩

/-! ## Capitals -/

/-- The character `d` is `c`, or the capital of `c` among those from A
to Z. -/
def SameLetter (c d : Char) : Prop :=
  d = c ∨ ('A' ≤ d ∧ d ≤ 'Z') ∧ d.toNat + 32 = c.toNat

theorem toLower_eq_iff {c d : Char} (hc : c.isUpper = false) :
    d.toLower = c ↔ SameLetter c d := by
  by_cases hd : 'A' ≤ d ∧ d ≤ 'Z'
  · have hne : d ≠ c := by
      rintro rfl
      exact absurd hd (of_decide_eq_false hc)
    have hval : d.val ≥ 'A'.val ∧ d.val ≤ 'Z'.val := hd
    have hlower : d.toLower.toNat = d.toNat + 32 := by
      have hle : d.toNat ≤ 90 := UInt32.le_iff_toNat_le.mp hval.2
      have hfits : d.toNat + 32 < 2 ^ 32 := by omega
      have hadd : d.toLower.val = d.val + 32 := congrArg Char.val (dif_pos hval)
      calc d.toLower.toNat
          = (d.val + 32).toNat := congrArg UInt32.toNat hadd
        _ = (d.toNat + 32) % 2 ^ 32 := UInt32.toNat_add d.val 32
        _ = d.toNat + 32 := Nat.mod_eq_of_lt hfits
    rw [SameLetter, ← Char.toNat_inj, hlower]
    simp only [hne, hd, and_self, true_and, false_or]
  · have hval : ¬(d.val ≥ 'A'.val ∧ d.val ≤ 'Z'.val) := hd
    have hlower : d.toLower = d := dif_neg hval
    rw [SameLetter, hlower]
    simp only [hd, false_and, or_false]

theorem forall₂_sameLetter_iff (h : ∀ c ∈ cs, c.isUpper = false) :
    List.Forall₂ SameLetter cs inner ↔ inner.map Char.toLower = cs := by
  induction cs generalizing inner with
  | nil => rw [List.forall₂_nil_left_iff, List.map_eq_nil_iff]
  | cons c cs ih =>
      obtain ⟨hc, hcs⟩ := List.forall_mem_cons.mp h
      rw [List.forall₂_cons_left_iff, List.map_eq_cons_iff]
      simp only [toLower_eq_iff hc, ← ih hcs]
      constructor
      · rintro ⟨d, rest, hd, hrest, rfl⟩
        exact ⟨d, rest, rfl, hd, hrest⟩
      · rintro ⟨d, rest, rfl, hd, hrest⟩
        exact ⟨d, rest, hd, hrest, rfl⟩

/-- The text is the word, but for blanks around it and for capitals. -/
def Spells (word text : String) : Prop :=
  ∃ inner, Stripped text.toList inner ∧ List.Forall₂ SameLetter word.toList inner

theorem spells_iff {word text : String} (hword : word.toList.any Char.isUpper = false) :
    Spells word text ↔ String.ofList ((trim text.toList).map Char.toLower) = word := by
  have hsmall : ∀ c ∈ word.toList, c.isUpper = false := fun c hc =>
    eq_false_of_ne_true (List.any_eq_false.mp hword c hc)
  calc Spells word text
      ↔ ∃ inner, trim text.toList = inner ∧ inner.map Char.toLower = word.toList := by
        simp only [Spells, trim_eq_iff, forall₂_sameLetter_iff hsmall]
    _ ↔ (trim text.toList).map Char.toLower = word.toList := exists_eq_left'
    _ ↔ String.ofList ((trim text.toList).map Char.toLower) = word := by
        rw [← String.toList_inj, String.toList_ofList]

end LockPolicy.Text
