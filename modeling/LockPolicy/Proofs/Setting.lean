import LockPolicy.Proofs.Text.Lines
import LockPolicy.Proofs.Text.Quoted
import LockPolicy.Proofs.Text.Spellings
import LockPolicy.Setting

/-!
# The override is on only if somebody said so

Of the two variables the first that holds text decides (`Decides`), and
its text alone settles the answer: a spelling of a yes, a spelling of a
no, or a refusal that names the variable and quotes the text. With no text
at all the override is off. That these are all the answers, each in its
place and in no other, is the statement of `read_exact`. Spellings are
told here without the reader, by what stands in the text (`Text.Spells`).
-/

namespace LockPolicy.Setting

variable {primary secondary : Option (List UInt8)} {name text : String}

/-- The variable is set, and to the bytes of the text in UTF-8. -/
def Holds (value : Option (List UInt8)) (text : String) : Prop :=
  value = some text.toUTF8.data.toList

/-- The variable of the name decides, and this is its text. -/
inductive Decides (primary secondary : Option (List UInt8)) : String → String → Prop
  | first {text : String} (h : Holds primary text) :
      Decides primary secondary primaryName text
  | second {text : String} (hnone : ∀ text, ¬Holds primary text) (h : Holds secondary text) :
      Decides primary secondary secondaryName text

/-- What the two variables come to. -/
inductive Answers (primary secondary : Option (List UInt8)) : Except Fault Bool → Prop
  | unset (h : ∀ name text, ¬Decides primary secondary name text) :
      Answers primary secondary (.ok false)
  | on {name text word : String} (h : Decides primary secondary name text)
      (hword : word ∈ affirmative) (hspells : Text.Spells word text) :
      Answers primary secondary (.ok true)
  | off {name text word : String} (h : Decides primary secondary name text)
      (hword : word ∈ negative) (hspells : Text.Spells word text) :
      Answers primary secondary (.ok false)
  | refused {name text : String} (h : Decides primary secondary name text)
      (hnone : ∀ word ∈ affirmative ++ negative, ¬Text.Spells word text) :
      Answers primary secondary (.error { name, value := text })

/-! ## The variable that decides -/

theorem holds_iff {value : Option (List UInt8)} :
    Holds value text ↔ value.bind Text.ofBytes? = some text := by
  rw [Option.bind_eq_some_iff, Holds]
  simp only [Text.ofBytes?_eq_some_iff, exists_eq_right]

theorem decides_iff : Decides primary secondary name text
    ↔ deciding? primary secondary = some (name, text) := by
  constructor
  · intro h
    cases h with
    | first h => rw [deciding?, holds_iff.mp h]
    | second hnone h =>
        have hprimary : primary.bind Text.ofBytes? = none :=
          Option.eq_none_iff_forall_ne_some.mpr fun other hother =>
            hnone other (holds_iff.mpr hother)
        rw [deciding?, hprimary, holds_iff.mp h]
  · intro h
    rw [deciding?] at h
    split at h
    · rename_i value hvalue
      cases h
      exact .first (holds_iff.mpr hvalue)
    · rename_i hprimary
      split at h
      · rename_i value hvalue
        cases h
        refine .second (fun other hother => ?_) (holds_iff.mpr hvalue)
        rw [holds_iff, hprimary] at hother
        cases hother
      · cases h

theorem deciding?_eq_none_iff : deciding? primary secondary = none
    ↔ ∀ name text, ¬Decides primary secondary name text := by
  simp only [decides_iff, Option.eq_none_iff_forall_ne_some, Prod.forall, ne_eq]

/-! ## The meaning of a text -/

/-- The words are written small, which is how the reader compares them. -/
theorem small_affirmative : ∀ word ∈ affirmative, word.toList.any Char.isUpper = false := by
  decide

theorem small_negative : ∀ word ∈ negative, word.toList.any Char.isUpper = false := by
  decide

theorem not_mem_negative : ∀ word ∈ affirmative, word ∉ negative := by
  decide

/-- The text as the reader compares it. -/
def reduced (text : String) : String :=
  String.ofList ((Text.trim text.toList).map Char.toLower)

theorem exists_spells_iff {words : List String}
    (hsmall : ∀ word ∈ words, word.toList.any Char.isUpper = false) :
    (∃ word ∈ words, Text.Spells word text) ↔ reduced text ∈ words := by
  constructor
  · rintro ⟨word, hword, hspells⟩
    rwa [reduced, (Text.spells_iff (hsmall word hword)).mp hspells]
  · intro h
    exact ⟨reduced text, h, (Text.spells_iff (hsmall _ h)).mpr rfl⟩

theorem meaning?_eq (text : String) :
    meaning? text =
      if reduced text ∈ affirmative then some true
      else if reduced text ∈ negative then some false
      else none := rfl

theorem meaning?_eq_some_true_iff :
    meaning? text = some true ↔ ∃ word ∈ affirmative, Text.Spells word text := by
  rw [exists_spells_iff small_affirmative, meaning?_eq]
  split_ifs with hyes hno <;> simp [hyes]

theorem meaning?_eq_some_false_iff :
    meaning? text = some false ↔ ∃ word ∈ negative, Text.Spells word text := by
  rw [exists_spells_iff small_negative, meaning?_eq]
  split_ifs with hyes hno
  · simp [not_mem_negative _ hyes]
  · simp [hno]
  · simp [hno]

theorem meaning?_eq_none_iff :
    meaning? text = none ↔ ∀ word ∈ affirmative ++ negative, ¬Text.Spells word text := by
  constructor
  · intro h word hword hspells
    rcases List.mem_append.mp hword with hyes | hno
    · have hmeaning := meaning?_eq_some_true_iff.mpr ⟨word, hyes, hspells⟩
      rw [h] at hmeaning
      cases hmeaning
    · have hmeaning := meaning?_eq_some_false_iff.mpr ⟨word, hno, hspells⟩
      rw [h] at hmeaning
      cases hmeaning
  · intro h
    cases hmeaning : meaning? text with
    | none => rfl
    | some on =>
        cases on with
        | true =>
            obtain ⟨word, hword, hspells⟩ := meaning?_eq_some_true_iff.mp hmeaning
            exact absurd hspells (h word (List.mem_append_left _ hword))
        | false =>
            obtain ⟨word, hword, hspells⟩ := meaning?_eq_some_false_iff.mp hmeaning
            exact absurd hspells (h word (List.mem_append_right _ hword))

/-! ## The answer -/

theorem answers_iff {r : Except Fault Bool} :
    Answers primary secondary r ↔ read primary secondary = r := by
  constructor
  · intro h
    cases h with
    | unset h => rw [read, deciding?_eq_none_iff.mpr h]
    | on h hword hspells =>
        have hmeaning := meaning?_eq_some_true_iff.mpr ⟨_, hword, hspells⟩
        simp only [read, decides_iff.mp h, hmeaning]
    | off h hword hspells =>
        have hmeaning := meaning?_eq_some_false_iff.mpr ⟨_, hword, hspells⟩
        simp only [read, decides_iff.mp h, hmeaning]
    | refused h hnone =>
        simp only [read, decides_iff.mp h, meaning?_eq_none_iff.mpr hnone]
  · rintro rfl
    cases hdecides : deciding? primary secondary with
    | none =>
        rw [read, hdecides]
        exact .unset (deciding?_eq_none_iff.mp hdecides)
    | some found =>
        obtain ⟨name, text⟩ := found
        have h := decides_iff.mpr hdecides
        simp only [read, hdecides]
        cases hmeaning : meaning? text with
        | none => exact .refused h (meaning?_eq_none_iff.mp hmeaning)
        | some on =>
            cases on with
            | true =>
                obtain ⟨word, hword, hspells⟩ := meaning?_eq_some_true_iff.mp hmeaning
                exact .on h hword hspells
            | false =>
                obtain ⟨word, hword, hspells⟩ := meaning?_eq_some_false_iff.mp hmeaning
                exact .off h hword hspells

/-! ## The wording of a refusal -/

theorem message_eq (f : Fault) :
    f.message = "invalid boolean for " ++ f.name ++ ": " ++ Text.quote f.value := rfl

theorem head?_primaryName : primaryName.toList.head? = some 'D' := by decide

theorem head?_secondaryName : secondaryName.toList.head? = some 'P' := by decide

/-- Which of the two variables stands in front can be seen from the first
letter. -/
theorem name_of_append {m n s t : String} (hm : m = primaryName ∨ m = secondaryName)
    (hn : n = primaryName ∨ n = secondaryName) (h : m ++ s = n ++ t) : m = n := by
  have hhead := congrArg (fun text => text.toList.head?) h
  simp only [String.toList_append, List.head?_append] at hhead
  rcases hm with rfl | rfl <;> rcases hn with rfl | rfl
  · rfl
  · rw [head?_primaryName, head?_secondaryName] at hhead
    cases hhead
  · rw [head?_primaryName, head?_secondaryName] at hhead
    cases hhead
  · rfl

/-- The wording names the variable and quotes its text, so no two refusals
are worded alike. -/
theorem message_inj {f g : Fault} (hf : f.name = primaryName ∨ f.name = secondaryName)
    (hg : g.name = primaryName ∨ g.name = secondaryName) (h : f.message = g.message) :
    f = g := by
  rw [message_eq, message_eq, String.append_assoc, String.append_assoc, String.append_assoc,
    String.append_assoc, String.append_right_inj] at h
  obtain ⟨name, value⟩ := f
  obtain ⟨name', value'⟩ := g
  obtain rfl : name = name' := name_of_append hf hg h
  rw [String.append_right_inj, String.append_right_inj] at h
  exact congrArg (Fault.mk name) (Text.quote_inj h)

theorem Decides.name_eq (h : Decides primary secondary name text) :
    name = primaryName ∨ name = secondaryName := by
  cases h with
  | first => exact Or.inl rfl
  | second => exact Or.inr rfl

theorem name_of_refused {fault : Fault} (h : read primary secondary = .error fault) :
    fault.name = primaryName ∨ fault.name = secondaryName := by
  cases answers_iff.mpr h with
  | refused hdecides => exact hdecides.name_eq

/-- **The setting is read exactly.** Whatever bytes the two variables are
set to, if they are set at all, the answer is one of four, and the one
that fits (`Answers`): off if neither holds text, on if the text of the
one that decides spells a yes, off if it spells a no, and otherwise a
refusal that names the variable and quotes its text, in words that no
other refusal has. If the primary variable holds text, the other one has
no influence on any of this. -/
theorem read_exact (primary secondary : Option (List UInt8)) :
    (∀ r, Answers primary secondary r ↔ read primary secondary = r)
      ∧ (∀ text, Holds primary text → ∀ other, read primary other = read primary secondary)
      ∧ (∀ fault, read primary secondary = .error fault →
          fault.message
              = "invalid boolean for " ++ fault.name ++ ": " ++ Text.quote fault.value
            ∧ ∀ primary' secondary' fault', read primary' secondary' = .error fault' →
                fault'.message = fault.message → fault' = fault) := by
  refine ⟨fun r => answers_iff, ?alone, ?refusal⟩
  case alone =>
    intro text htext other
    have hdeciding (value : Option (List UInt8)) :
        deciding? primary value = some (primaryName, text) := decides_iff.mp (.first htext)
    rw [read, read, hdeciding, hdeciding]
  case refusal =>
    intro fault hfault
    refine ⟨message_eq fault, fun primary' secondary' fault' hfault' hmessage => ?_⟩
    exact message_inj (name_of_refused hfault') (name_of_refused hfault) hmessage

/-- The primary variable ends in a letter that is folded to an s elsewhere.
It is refused, and the yes in the other variable does not count; if the
primary one holds no text, it does. -/
theorem read_exact_of_lookalike :
    let garbled : Option (List UInt8) := some [0xff]
    let lookalike := some "yeſ".toUTF8.data.toList
    let yes := some "\u3000oN\n".toUTF8.data.toList
    read lookalike yes = .error ⟨primaryName, "yeſ"⟩ ∧ read lookalike none = read lookalike yes
      ∧ read garbled yes = .ok true := by
  intro garbled lookalike yes
  have hgarbled (text : String) : ¬Holds garbled text := fun h => nomatch holds_iff.mp h
  obtain ⟨hrefused, halone, -⟩ := read_exact lookalike yes
  obtain ⟨hon, -⟩ := read_exact garbled yes
  have hspells : Text.Spells "on" "\u3000oN\n" :=
    (Text.spells_iff (small_affirmative "on" (by decide))).mpr (by decide)
  exact ⟨(hrefused _).mp (.refused (.first rfl) (meaning?_eq_none_iff.mp (by decide))),
    halone "yeſ" rfl none, (hon _).mp (.on (.second hgarbled rfl) (by decide) hspells)⟩

end LockPolicy.Setting
