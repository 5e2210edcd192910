import LockPolicy.Text.Lines

/-!
# Where lines end

A line feed cuts the input in two: the lines of what it ends come first,
and those of what follows it come after them, whatever that is
(`lines_append_lineFeed_cons`). Bytes after the last line feed make the
line that they would make with a line feed behind them
(`lines_append_lineFeed`). What a line says is the text whose bytes it is
made of, if there is one (`ofBytes?_eq_some_iff`).
-/

namespace LockPolicy.Text

theorem lines_lineFeed_cons (bs : List UInt8) : lines (lineFeed :: bs) = [] :: lines bs := by
  rw [lines, if_pos rfl]

theorem lines_cons {b : UInt8} (hb : b ≠ lineFeed) (bs : List UInt8) :
    lines (b :: bs) = (b :: (lines bs).headD []) :: (lines bs).tail := by
  rw [lines, if_neg hb]
  cases lines bs <;> rfl

theorem lines_ne_nil {bs : List UInt8} (h : bs ≠ []) : lines bs ≠ [] := by
  cases bs with
  | nil => exact absurd rfl h
  | cons b bs =>
      by_cases hb : b = lineFeed
      · rw [hb, lines_lineFeed_cons]
        nofun
      · rw [lines_cons hb]
        nofun

/-- Bytes without a line feed are one line. -/
theorem lines_of_not_mem {bytes : List UInt8} (hne : bytes ≠ []) (h : lineFeed ∉ bytes) :
    lines bytes = [bytes] := by
  induction bytes with
  | nil => exact absurd rfl hne
  | cons b bytes ih =>
      have hb : b ≠ lineFeed := fun hb => h (hb ▸ List.mem_cons_self)
      have hbytes : lineFeed ∉ bytes := fun hfeed => h (List.mem_cons_of_mem b hfeed)
      rw [lines_cons hb]
      cases bytes with
      | nil => rfl
      | cons b' bytes =>
          rw [ih nofun hbytes]
          rfl

/-- A line that has ended comes before the lines of what follows. -/
theorem lines_append_cons_of_not_mem {bytes : List UInt8} (h : lineFeed ∉ bytes)
    (rest : List UInt8) : lines (bytes ++ lineFeed :: rest) = bytes :: lines rest := by
  induction bytes with
  | nil => exact lines_lineFeed_cons rest
  | cons b bytes ih =>
      have hb : b ≠ lineFeed := fun hb => h (hb ▸ List.mem_cons_self)
      have hbytes : lineFeed ∉ bytes := fun hfeed => h (List.mem_cons_of_mem b hfeed)
      rw [List.cons_append, lines_cons hb, ih hbytes]
      rfl

theorem lines_append_lineFeed_cons (head rest : List UInt8) :
    lines (head ++ lineFeed :: rest) = lines (head ++ [lineFeed]) ++ lines rest := by
  induction head with
  | nil =>
      rw [List.nil_append, List.nil_append, lines_lineFeed_cons, lines_lineFeed_cons]
      rfl
  | cons b bs ih =>
      rw [List.cons_append, List.cons_append]
      by_cases hb : b = lineFeed
      · rw [hb, lines_lineFeed_cons, lines_lineFeed_cons, ih]
        rfl
      · have hne : lines (bs ++ [lineFeed]) ≠ [] :=
          lines_ne_nil (List.append_ne_nil_of_right_ne_nil bs nofun)
        obtain ⟨line, later, hlines⟩ := List.exists_cons_of_ne_nil hne
        rw [lines_cons hb, lines_cons hb, ih, hlines]
        rfl

theorem lines_append_lineFeed {last : UInt8} (h : last ≠ lineFeed) (bs : List UInt8) :
    lines (bs ++ [last, lineFeed]) = lines (bs ++ [last]) := by
  induction bs with
  | nil =>
      rw [List.nil_append, List.nil_append, lines_cons h, lines_cons h, lines_lineFeed_cons]
      rfl
  | cons b bs ih =>
      rw [List.cons_append, List.cons_append]
      by_cases hb : b = lineFeed
      · rw [hb, lines_lineFeed_cons, lines_lineFeed_cons, ih]
      · rw [lines_cons hb, lines_cons hb, ih]

/-- More input after a line feed leaves the lines that there were. -/
theorem lines_append_prefix (input rest : List UInt8) :
    ∃ later, lines (input ++ lineFeed :: rest) = lines input ++ later := by
  rw [lines_append_lineFeed_cons]
  -- The line feed ends the last line of the input or, after another one, an empty line.
  rcases input.eq_nil_or_concat with rfl | ⟨init, last, rfl⟩
  · exact ⟨[[]] ++ lines rest, rfl⟩
  · by_cases hlast : last = lineFeed
    · rw [hlast, List.concat_eq_append, List.append_assoc, List.singleton_append,
        lines_append_lineFeed_cons]
      exact ⟨_, List.append_assoc ..⟩
    · rw [List.concat_eq_append, List.append_assoc, List.singleton_append,
        lines_append_lineFeed hlast]
      exact ⟨lines rest, rfl⟩

/-! ## The text in a line -/

/-- Bytes hold a text if they are its bytes in UTF-8. -/
theorem ofBytes?_eq_some_iff {bytes : List UInt8} {text : String} :
    ofBytes? bytes = some text ↔ bytes = text.toUTF8.data.toList := by
  constructor
  · intro h
    rw [ofBytes?, String.fromUTF8?] at h
    split at h
    · obtain rfl := Option.some.inj h
      rfl
    · cases h
  · rintro rfl
    rw [ofBytes?, String.fromUTF8?]
    exact dif_pos text.isValidUTF8

end LockPolicy.Text
