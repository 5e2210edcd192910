import LockPolicy.Text.Blank

/-!
# Words of a line

A word is text without a blank in it, and not no text at all. The words
of a line are such (`isWord_of_mem_words`), and a line that was put
together of words with a space between each two has these words again
(`words_cons`, `words_singleton`).
-/

namespace LockPolicy.Text

/-- Text that stands as one word. -/
def IsWord (text : String) : Prop :=
  text.toList ≠ [] ∧ ∀ c ∈ text.toList, isBlank c = false

theorem isWord_of_any {text : String} (hne : text.toList ≠ [])
    (h : text.toList.any isBlank = false) : IsWord text :=
  ⟨hne, fun c hc => eq_false_of_ne_true (List.any_eq_false.mp h c hc)⟩

theorem isWord_ofList {cs : List Char} :
    IsWord (String.ofList cs) ↔ cs ≠ [] ∧ ∀ c ∈ cs, isBlank c = false := by
  rw [IsWord, String.toList_ofList]

theorem IsWord.append {first second : String} (h : IsWord first) (h' : IsWord second) :
    IsWord (first ++ second) := by
  rw [IsWord, String.toList_append]
  refine ⟨List.append_ne_nil_of_left_ne_nil h.1 _, fun c hc => ?_⟩
  rcases List.mem_append.mp hc with hc | hc
  · exact h.2 c hc
  · exact h'.2 c hc

theorem words_singleton {word : String} (h : IsWord word) : words word = [word] := by
  have hkept : (decide (word.toList ≠ [])) = true := decide_eq_true h.1
  rw [words, List.splitOnP_eq_singleton h.2, List.filter_cons, hkept, if_pos rfl,
    List.filter_nil, List.map_cons, List.map_nil, String.ofList_toList]

theorem words_cons {word : String} (h : IsWord word) (rest : String) :
    words (word ++ " " ++ rest) = word :: words rest := by
  have hline : (word ++ " " ++ rest).toList = word.toList ++ ' ' :: rest.toList := by
    rw [String.toList_append, String.toList_append, List.append_assoc]
    rfl
  have hkept : (decide (word.toList ≠ [])) = true := decide_eq_true h.1
  rw [words, hline, List.splitOnP_append_cons_of_forall_mem h.2 ' ' rfl, List.filter_cons,
    hkept, if_pos rfl, List.map_cons, String.ofList_toList, words]

/-! ## Text on one line -/

/-- Text without a line feed, so that printing it takes up one line. -/
def OneLine (text : String) : Prop := '\n' ∉ text.toList

instance (text : String) : Decidable (OneLine text) :=
  inferInstanceAs (Decidable (_ ∉ _))

theorem OneLine.append {first second : String} (h : OneLine first) (h' : OneLine second) :
    OneLine (first ++ second) := by
  rw [OneLine, String.toList_append, List.mem_append]
  exact fun hor => hor.elim h h'

end LockPolicy.Text
