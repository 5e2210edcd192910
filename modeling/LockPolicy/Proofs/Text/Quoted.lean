import LockPolicy.Proofs.Text.Numerals
import LockPolicy.Text.Quoted

/-!
# Quoted text can be told apart

However a character is written between quotes, where its writing ends and
which character it was can be read off what is there: after a backslash
comes a sign, or the letter `u` and a number in braces, and without one
the character stands for itself. So no two texts are quoted alike
(`quote_inj`).
-/

namespace LockPolicy.Text

/-- The characters that have a sign of their own, with the sign. -/
def signs : List (Char × Char) :=
  [('\x00', '0'), ('\t', 't'), ('\n', 'n'), ('\r', 'r'), ('\x22', '\x22'), ('\\', '\\')]

/-- A character and the way it is written. -/
inductive Written : Char → List Char → Prop
  | sign {c s : Char} (h : (c, s) ∈ signs) : Written c ['\\', s]
  | number (c : Char) :
      Written c ('\\' :: 'u' :: '\x7b' :: (Nat.toDigits 16 c.toNat ++ ['\x7d']))
  | plain {c : Char} (h : c ≠ '\\') : Written c [c]

theorem escape_of_mem_signs : ∀ a ∈ signs, escape a.1 = ['\\', a.2] := by decide

theorem escape_of_no_sign {c : Char} (h : ∀ s, (c, s) ∉ signs) :
    escape c = if isGlyphless c then
        ['\\', 'u', '\x7b'] ++ Nat.toDigits 16 c.toNat ++ ['\x7d']
      else [c] := by
  have hne : ∀ a ∈ signs, c ≠ a.1 := fun a ha heq => h a.2 (heq ▸ ha)
  simp only [signs, List.forall_mem_cons] at hne
  obtain ⟨hzero, htab, hfeed, hreturn, hquote, hslash, -⟩ := hne
  rw [escape, if_neg hzero, if_neg htab, if_neg hfeed, if_neg hreturn, if_neg hquote,
    if_neg hslash]

theorem written_escape (c : Char) : Written c (escape c) := by
  by_cases hsign : ∃ s, (c, s) ∈ signs
  · obtain ⟨s, hs⟩ := hsign
    rw [escape_of_mem_signs _ hs]
    exact .sign hs
  · rw [not_exists] at hsign
    rw [escape_of_no_sign hsign]
    split
    · exact .number c
    · refine .plain fun hslash => hsign '\\' ?_
      rw [hslash]
      decide

theorem signs_inj : ∀ a ∈ signs, ∀ b ∈ signs, a.2 = b.2 → a.1 = b.1 := by decide

theorem no_sign_u : ∀ a ∈ signs, a.2 ≠ 'u' := by decide

/-- Lists are cut in one way at the first place of an element. -/
theorem append_cons_inj {α : Type} {a : α} {l l' xs ys : List α} (hl : a ∉ l) (hl' : a ∉ l')
    (h : l ++ a :: xs = l' ++ a :: ys) : l = l' ∧ xs = ys := by
  rcases List.append_eq_append_iff.mp h with ⟨more, rfl, htail⟩ | ⟨more, rfl, htail⟩
  · cases more with
    | nil => exact ⟨(List.append_nil l).symm, (List.cons.inj htail).2⟩
    | cons b more =>
        obtain ⟨rfl, -⟩ := List.cons.inj htail
        exact absurd (List.mem_append_right l (List.mem_cons_self ..)) hl'
  · cases more with
    | nil => exact ⟨List.append_nil l', (List.cons.inj htail).2.symm⟩
    | cons b more =>
        obtain ⟨rfl, -⟩ := List.cons.inj htail
        exact absurd (List.mem_append_right l' (List.mem_cons_self ..)) hl

theorem Written.ne_nil {c : Char} {w : List Char} (h : Written c w) : w ≠ [] := by
  cases h <;> exact List.cons_ne_nil _ _

/-- What was written, and what stands behind it, can be read off. -/
theorem Written.unique {c d : Char} {w w' xs ys : List Char} (h : Written c w)
    (h' : Written d w') (heq : w ++ xs = w' ++ ys) : c = d ∧ xs = ys := by
  cases h with
  | sign hs =>
      cases h' with
      | sign ht =>
          obtain ⟨hst, hrest⟩ := List.cons.inj (List.cons.inj heq).2
          exact ⟨signs_inj _ hs _ ht hst, hrest⟩
      | number =>
          obtain ⟨hu, -⟩ := List.cons.inj (List.cons.inj heq).2
          exact absurd hu (no_sign_u _ hs)
      | plain hplain => exact absurd (List.cons.inj heq).1.symm hplain
  | number =>
      cases h' with
      | sign ht =>
          obtain ⟨hu, -⟩ := List.cons.inj (List.cons.inj heq).2
          exact absurd hu.symm (no_sign_u _ ht)
      | number =>
          -- The closing brace is no digit, so it ends both numbers at one place.
          have hbrace (n : Nat) : '\x7d' ∉ Nat.toDigits 16 n :=
            Numeral.not_mem_toDigits (by decide) (by decide) (by decide)
          have hdigits : Nat.toDigits 16 c.toNat ++ '\x7d' :: xs
              = Nat.toDigits 16 d.toNat ++ '\x7d' :: ys := by
            simpa using heq
          obtain ⟨hnumber, hrest⟩ := append_cons_inj (hbrace _) (hbrace _) hdigits
          exact ⟨Char.toNat_inj.mp (Numeral.toDigits_inj (by decide) (by decide) hnumber), hrest⟩
      | plain hplain => exact absurd (List.cons.inj heq).1.symm hplain
  | plain hplain =>
      cases h' with
      | sign | number => exact absurd (List.cons.inj heq).1 hplain
      | plain => exact List.cons.inj heq

theorem flatMap_escape_inj {cs ds : List Char} (h : cs.flatMap escape = ds.flatMap escape) :
    cs = ds := by
  induction cs generalizing ds with
  | nil =>
      cases ds with
      | nil => rfl
      | cons d ds =>
          rw [List.flatMap_cons] at h
          exact absurd (List.append_eq_nil_iff.mp h.symm).1 (written_escape d).ne_nil
  | cons c cs ih =>
      cases ds with
      | nil =>
          rw [List.flatMap_cons] at h
          exact absurd (List.append_eq_nil_iff.mp h).1 (written_escape c).ne_nil
      | cons d ds =>
          rw [List.flatMap_cons, List.flatMap_cons] at h
          obtain ⟨rfl, hrest⟩ := (written_escape c).unique (written_escape d) h
          rw [ih hrest]

theorem quote_inj {s t : String} (h : quote s = quote t) : s = t := by
  rw [quote, quote, String.ofList_inj] at h
  exact String.toList_inj.mp (flatMap_escape_inj (List.append_cancel_right (List.cons.inj h).2))

end LockPolicy.Text
