import LockPolicy.Proofs.Console.History
import LockPolicy.Proofs.Text.Lines

/-!
# How a conversation ends

Whether a line stops the conversation is a matter of its bytes and not of
the console: they are no text, or the first word is one of the two that
leave (`Stops`). Any other line is answered, if only with a complaint,
and the next one is read (`read_of_not_stops`). So a conversation is the
answers to the lines before the first that stops, and then the ending
that this line makes, or the end of the input (`converse_eq`). What
follows is in neither part.
-/

namespace LockPolicy

namespace Console

/-! ## Lines that stop -/

/-- The bytes hold no text. -/
def Garbled (bytes : List UInt8) : Prop := Text.ofBytes? bytes = none

def firstWord? (bytes : List UInt8) : Option String :=
  (Text.ofBytes? bytes).bind fun text => (Text.words text).head?

/-- The first word says that somebody leaves. -/
def Leaves (bytes : List UInt8) : Prop :=
  firstWord? bytes = some "exit" ∨ firstWord? bytes = some "quit"

def Stops (bytes : List UInt8) : Prop := Garbled bytes ∨ Leaves bytes

instance : DecidablePred Garbled := fun _ => inferInstanceAs (Decidable (_ = _))

instance : DecidablePred Leaves := fun _ => inferInstanceAs (Decidable (_ ∨ _))

instance : DecidablePred Stops := fun _ => inferInstanceAs (Decidable (_ ∨ _))

/-- What is printed where the input breaks down. -/
def breakdown : Emission := .err "Error: stream did not contain valid UTF-8\n"

/-- What is printed for a line that does not stop the conversation. -/
def answer (c : Console) (bytes : List UInt8) : List Emission :=
  match Text.ofBytes? bytes with
  | none => []
  | some text =>
    match Text.words text with
    | [] => []
    | word :: rest =>
      if word = "help" then print help else (c.obey (word :: rest)).emissions

variable {bytes : List UInt8} {lines : List (List UInt8)} {text word : String}
  {rest : List String}

theorem read_of_garbled (h : Garbled bytes) (c : Console) : c.read bytes = .stop [breakdown] 1 := by
  rw [read, h]
  rfl

theorem leaves_iff_of_words (htext : Text.ofBytes? bytes = some text)
    (hwords : Text.words text = word :: rest) :
    Leaves bytes ↔ word = "exit" ∨ word = "quit" := by
  rw [Leaves, firstWord?, htext, Option.bind_some, hwords, List.head?_cons, Option.some.injEq,
    Option.some.injEq]

theorem Leaves.exists_words (h : Leaves bytes) :
    ∃ text word rest, Text.ofBytes? bytes = some text ∧ Text.words text = word :: rest := by
  have hfirst : ∃ word, firstWord? bytes = some word := h.elim (⟨_, ·⟩) (⟨_, ·⟩)
  obtain ⟨word, hfirst⟩ := hfirst
  obtain ⟨text, htext, hhead⟩ := Option.bind_eq_some_iff.mp hfirst
  obtain ⟨rest, hwords⟩ := List.head?_eq_some_iff.mp hhead
  exact ⟨text, word, rest, htext, hwords⟩

theorem read_of_leaves (h : Leaves bytes) (c : Console) : c.read bytes = .stop [] 0 := by
  obtain ⟨text, word, rest, htext, hwords⟩ := h.exists_words
  have hword := (leaves_iff_of_words htext hwords).mp h
  simp only [read, htext, line, hwords, if_pos hword]

/-- A line that does not stop is answered, carried out and left behind. -/
theorem read_of_not_stops (h : ¬Stops bytes) (c : Console) :
    c.read bytes = .next (c.answer bytes) (c.executeAll (Command.ofLine? bytes).toList) := by
  obtain ⟨hgarbled, hleaves⟩ := not_or.mp h
  obtain ⟨text, htext⟩ := Option.ne_none_iff_exists'.mp hgarbled
  have hnext : ∃ next, c.read bytes = .next (c.answer bytes) next := by
    cases hwords : Text.words text with
    | nil => exact ⟨c, by simp only [read, htext, line, answer, hwords]⟩
    | cons word rest =>
        rw [leaves_iff_of_words htext hwords] at hleaves
        by_cases hhelp : word = "help"
        · exact ⟨c, by simp only [read, htext, line, answer, hwords, if_neg hleaves, if_pos hhelp]⟩
        · exact ⟨(c.obey (word :: rest)).next, by
            simp only [read, htext, line, answer, hwords, if_neg hleaves, if_neg hhelp]⟩
  obtain ⟨next, hnext⟩ := hnext
  rw [hnext, read_eq_executeAll hnext]

/-! ## Whole conversations -/

/-- The answers to the lines, each after its prompt and each from the
console that the lines before it have left. -/
def dialogue : Console → List (List UInt8) → List Emission
  | _, [] => []
  | c, bytes :: rest =>
    prompt :: c.answer bytes ++ dialogue (c.executeAll (Command.ofLine? bytes).toList) rest

/-- The first line that stops. -/
def stopping? (lines : List (List UInt8)) : Option (List UInt8) :=
  lines.find? fun bytes => Stops bytes

/-- The lines before it, or all if there is none. -/
def heard (lines : List (List UInt8)) : List (List UInt8) :=
  lines.takeWhile fun bytes => ¬Stops bytes

/-- What there is after the last answer, by the line that stops the
conversation. -/
def ending : Option (List UInt8) → Transcript
  | none => ⟨[prompt, farewell], 0⟩
  | some bytes => if Garbled bytes then ⟨[prompt, breakdown], 1⟩ else ⟨[prompt], 0⟩

theorem stopping?_cons_of_stops (h : Stops bytes) (rest : List (List UInt8)) :
    stopping? (bytes :: rest) = some bytes :=
  List.find?_cons_of_pos (decide_eq_true h)

theorem stopping?_cons_of_not_stops (h : ¬Stops bytes) (rest : List (List UInt8)) :
    stopping? (bytes :: rest) = stopping? rest :=
  List.find?_cons_of_neg (mt of_decide_eq_true h)

theorem heard_cons_of_stops (h : Stops bytes) (rest : List (List UInt8)) :
    heard (bytes :: rest) = [] :=
  List.takeWhile_cons_of_neg (mt of_decide_eq_true (not_not_intro h))

theorem heard_cons_of_not_stops (h : ¬Stops bytes) (rest : List (List UInt8)) :
    heard (bytes :: rest) = bytes :: heard rest :=
  List.takeWhile_cons_of_pos (decide_eq_true h)

/-- What follows a line that stops does not come into it. -/
theorem stopping?_append (hbytes : bytes ∈ lines) (h : Stops bytes) (rest : List (List UInt8)) :
    stopping? (lines ++ rest) = stopping? lines ∧ heard (lines ++ rest) = heard lines := by
  induction lines with
  | nil => cases hbytes
  | cons first lines ih =>
      by_cases hfirst : Stops first
      · rw [List.cons_append, stopping?_cons_of_stops hfirst, stopping?_cons_of_stops hfirst,
          heard_cons_of_stops hfirst, heard_cons_of_stops hfirst]
        exact ⟨rfl, rfl⟩
      · have hlater : bytes ∈ lines := by
          rcases List.mem_cons.mp hbytes with rfl | hlater
          · exact absurd h hfirst
          · exact hlater
        obtain ⟨hstopping, hheard⟩ := ih hlater
        rw [List.cons_append, stopping?_cons_of_not_stops hfirst,
          stopping?_cons_of_not_stops hfirst, heard_cons_of_not_stops hfirst,
          heard_cons_of_not_stops hfirst, hstopping, hheard]
        exact ⟨rfl, rfl⟩

/-- The lines before the stop are answered, and the stop ends it. -/
theorem converse_eq (c : Console) (lines : List (List UInt8)) :
    c.converse lines = (ending (stopping? lines)).following (c.dialogue (heard lines)) := by
  induction lines generalizing c with
  | nil => rfl
  | cons bytes rest ih =>
      by_cases hstops : Stops bytes
      · rw [stopping?_cons_of_stops hstops, heard_cons_of_stops hstops, converse, ending]
        by_cases hgarbled : Garbled bytes
        · rw [read_of_garbled hgarbled, if_pos hgarbled]
          rfl
        · rw [read_of_leaves (hstops.resolve_left hgarbled), if_neg hgarbled]
          rfl
      · rw [stopping?_cons_of_not_stops hstops, heard_cons_of_not_stops hstops, converse,
          read_of_not_stops hstops, dialogue]
        simp only [ih, Transcript.following, List.cons_append, List.append_assoc]

/-- The conversation gets through the lines before the stop, and they
leave the console that their commands leave. -/
theorem after?_heard (c : Console) (lines : List (List UInt8)) :
    c.after? (heard lines) = some (c.executeAll (commandsIn (heard lines))) := by
  have hthrough : ∃ d, c.after? (heard lines) = some d := by
    induction lines generalizing c with
    | nil => exact ⟨c, rfl⟩
    | cons bytes rest ih =>
        by_cases hstops : Stops bytes
        · exact ⟨c, by rw [heard_cons_of_stops hstops, after?_nil]⟩
        · rw [heard_cons_of_not_stops hstops, after?_cons (read_of_not_stops hstops c)]
          exact ih _
  obtain ⟨d, hd⟩ := hthrough
  rw [hd, after?_eq_executeAll hd]

/-- The first line that stops is no text if and only if some line is none
before anybody leaves. -/
theorem stopping?_garbled_iff :
    (∃ bytes, stopping? lines = some bytes ∧ Garbled bytes)
      ↔ ∃ before bytes after, lines = before ++ bytes :: after ∧ Garbled bytes
          ∧ ∀ line ∈ before, ¬Leaves line := by
  constructor
  · rintro ⟨bytes, hstopping, hgarbled⟩
    induction lines with
    | nil => cases hstopping
    | cons first rest ih =>
        by_cases hfirst : Stops first
        · rw [stopping?_cons_of_stops hfirst] at hstopping
          obtain rfl := Option.some.inj hstopping
          exact ⟨[], first, rest, rfl, hgarbled, nofun⟩
        · rw [stopping?_cons_of_not_stops hfirst] at hstopping
          obtain ⟨before, bytes, after, rfl, hbytes, hbefore⟩ := ih hstopping
          exact ⟨first :: before, bytes, after, rfl, hbytes,
            List.forall_mem_cons.mpr ⟨fun hleaves => hfirst (Or.inr hleaves), hbefore⟩⟩
  · rintro ⟨before, bytes, after, rfl, hgarbled, hbefore⟩
    induction before with
    | nil => exact ⟨bytes, stopping?_cons_of_stops (Or.inl hgarbled) after, hgarbled⟩
    | cons first before ih =>
        obtain ⟨hleaves, hbefore⟩ := List.forall_mem_cons.mp hbefore
        rw [List.cons_append]
        -- Nobody leaves before the bytes, so a line that stops earlier is no text either.
        by_cases hfirst : Stops first
        · exact ⟨first, stopping?_cons_of_stops hfirst _, hfirst.resolve_right hleaves⟩
        · rw [stopping?_cons_of_not_stops hfirst]
          exact ih hbefore

theorem ending_exit (stop : Option (List UInt8)) :
    ((ending stop).exit = 0 ∨ (ending stop).exit = 1)
      ∧ ((ending stop).exit = 1 ↔ ∃ bytes, stop = some bytes ∧ Garbled bytes) := by
  cases stop with
  | none => exact ⟨Or.inl rfl, nofun, nofun⟩
  | some bytes =>
      rw [ending]
      by_cases hgarbled : Garbled bytes
      · rw [if_pos hgarbled]
        exact ⟨Or.inr rfl, fun _ => ⟨bytes, rfl, hgarbled⟩, fun _ => rfl⟩
      · rw [if_neg hgarbled]
        refine ⟨Or.inl rfl, nofun, fun ⟨other, hother, hbad⟩ => ?_⟩
        exact absurd (Option.some.inj hother ▸ hbad) hgarbled

/-! ## Counting prompts -/

theorem prompt_ne_line (line : String) : prompt ≠ .out (line ++ "\n") := by
  intro h
  -- A prompt ends with a space.
  have hlast := congrArg (fun text => text.toList.getLast?) (Emission.out.inj h)
  simp only [String.toList_append, List.getLast?_append] at hlast
  cases hlast

theorem prompt_not_mem_print (texts : List String) : prompt ∉ print texts := by
  intro h
  obtain ⟨line, -, hline⟩ := List.mem_map.mp h
  exact prompt_ne_line line hline.symm

theorem prompt_not_mem_answer (c : Console) (bytes : List UInt8) : prompt ∉ c.answer bytes := by
  unfold answer
  split
  · exact List.not_mem_nil
  · split
    · exact List.not_mem_nil
    · split
      · exact prompt_not_mem_print help
      · rw [Reply.emissions]
        split
        · exact prompt_not_mem_print _
        · exact fun h => Emission.noConfusion (List.mem_singleton.mp h)

theorem count_prompt_dialogue (c : Console) (lines : List (List UInt8)) :
    (c.dialogue lines).count prompt = lines.length := by
  induction lines generalizing c with
  | nil => rfl
  | cons bytes lines ih =>
      have hanswer := List.count_eq_zero_of_not_mem (c.prompt_not_mem_answer bytes)
      rw [dialogue, List.cons_append, List.count_cons_self, List.count_append, hanswer, ih,
        Nat.zero_add, List.length_cons]

theorem count_prompt_ending (stop : Option (List UInt8)) :
    (ending stop).emissions.count prompt = 1 := by
  cases stop with
  | none => rfl
  | some bytes =>
      rw [ending]
      split <;> rfl

/-! ## Whole runs -/

variable {primary secondary : Option (List UInt8)} {override : Bool} {fault : Setting.Fault}

theorem transcript_of_ok (h : Setting.read primary secondary = .ok override)
    (input : List UInt8) :
    let lines := Text.lines input
    transcript primary secondary input
      = ⟨greeting :: (start override).dialogue (heard lines)
            ++ (ending (stopping? lines)).emissions,
          (ending (stopping? lines)).exit⟩ := by
  intro lines
  simp only [transcript, h, converse_eq, Transcript.following]
  rfl

theorem transcript_of_error (h : Setting.read primary secondary = .error fault)
    (input : List UInt8) : transcript primary secondary input = ⟨[refusal fault], 1⟩ := by
  rw [transcript, h]

/-- Runs print the same if their inputs have the same lines up to the
first that stops. -/
theorem transcript_congr {input other : List UInt8}
    (hstopping : stopping? (Text.lines input) = stopping? (Text.lines other))
    (hheard : heard (Text.lines input) = heard (Text.lines other)) :
    transcript primary secondary input = transcript primary secondary other := by
  cases hread : Setting.read primary secondary with
  | ok override => rw [transcript_of_ok hread, transcript_of_ok hread, hstopping, hheard]
  | error fault => rw [transcript_of_error hread, transcript_of_error hread]

theorem transcript_exit (primary secondary : Option (List UInt8)) (input : List UInt8) :
    let t := transcript primary secondary input
    (t.exit = 0 ∨ t.exit = 1)
      ∧ (t.exit = 1 ↔ (∃ fault, Setting.read primary secondary = .error fault)
          ∨ ∃ before bytes after, Text.lines input = before ++ bytes :: after
            ∧ Garbled bytes ∧ ∀ line ∈ before, ¬Leaves line) := by
  intro t
  rw [← stopping?_garbled_iff]
  cases hread : Setting.read primary secondary with
  | ok override =>
      have ht : t.exit = (ending (stopping? (Text.lines input))).exit := by
        rw [show t = _ from transcript_of_ok hread input]
      obtain ⟨hcode, hone⟩ := ending_exit (stopping? (Text.lines input))
      rw [ht]
      refine ⟨hcode, fun h => Or.inr (hone.mp h), ?_⟩
      rintro (⟨fault, hfault⟩ | hgarbled)
      · cases hfault
      · exact hone.mpr hgarbled
  | error fault =>
      rw [show t = _ from transcript_of_error hread input]
      exact ⟨Or.inr rfl, fun _ => Or.inl ⟨fault, rfl⟩, fun _ => rfl⟩

theorem count_prompt_transcript (h : Setting.read primary secondary = .ok override)
    (input : List UInt8) :
    let lines := Text.lines input
    (transcript primary secondary input).emissions.count prompt
      = (heard lines).length + (stopping? lines).toList.length
        + if stopping? lines = none then 1 else 0 := by
  intro lines
  have hgreeting : greeting ≠ prompt := by decide
  have hone : (stopping? lines).toList.length + (if stopping? lines = none then 1 else 0) = 1 := by
    cases stopping? lines <;> rfl
  rw [transcript_of_ok h, Nat.add_assoc, hone]
  simp only [List.cons_append, List.count_cons_of_ne hgreeting, List.count_append,
    count_prompt_dialogue, count_prompt_ending]
  rfl

/-- The conversation goes on after any line that does not stop it. -/
theorem read_next_iff (c : Console) (bytes : List UInt8) :
    (∃ emissions next, c.read bytes = .next emissions next) ↔ ¬Stops bytes := by
  constructor
  · rintro ⟨emissions, next, hread⟩ (hgarbled | hleaves)
    · rw [read_of_garbled hgarbled] at hread
      cases hread
    · rw [read_of_leaves hleaves] at hread
      cases hread
  · exact fun hstops => ⟨_, _, read_of_not_stops hstops c⟩

/-- **How a run ends.** No command ends it: whatever the console is, the
conversation goes on after any line but those that stop it by their
bytes. Take any values of the two variables and any input.

The exit code is `0` or `1`; it is `1` if and only if the setting is
refused, or bytes that are no text come before anybody leaves. Where the
setting is refused, nothing else is printed. Otherwise the greeting is
followed by a prompt and an answer for each line before the first that
stops, each from the console that the commands before it have left, and
by the ending that the stop makes; there is one prompt for each line that
is read and one for the end of the input, if it is read that far.

What comes after the line feed of a line that stops has no influence, and
a last line counts with a line feed or without. -/
theorem transcript_ends (primary secondary : Option (List UInt8)) (input : List UInt8) :
    (∀ (c : Console) (bytes : List UInt8),
        (∃ emissions next, c.read bytes = .next emissions next) ↔ ¬Stops bytes)
      ∧ let t := transcript primary secondary input
        let lines := Text.lines input
        (t.exit = 0 ∨ t.exit = 1)
          ∧ (t.exit = 1 ↔ (∃ fault, Setting.read primary secondary = .error fault)
              ∨ ∃ before bytes after, lines = before ++ bytes :: after ∧ Garbled bytes
                ∧ ∀ line ∈ before, ¬Leaves line)
          ∧ (∀ fault, Setting.read primary secondary = .error fault →
              t.emissions = [refusal fault])
          ∧ (∀ override, Setting.read primary secondary = .ok override →
              t.emissions = greeting :: (start override).dialogue (heard lines)
                  ++ (ending (stopping? lines)).emissions
                ∧ t.emissions.count prompt
                  = (heard lines).length + (stopping? lines).toList.length
                    + (if stopping? lines = none then 1 else 0)
                ∧ (start override).after? (heard lines)
                  = some ((start override).executeAll (commandsIn (heard lines))))
          ∧ ((∃ bytes ∈ lines, Stops bytes) →
              ∀ more, transcript primary secondary (input ++ Text.lineFeed :: more) = t)
          ∧ ∀ init last, last ≠ Text.lineFeed → input = init ++ [last] →
              transcript primary secondary (input ++ [Text.lineFeed]) = t := by
  refine ⟨read_next_iff, ?_⟩
  intro t lines
  obtain ⟨hcode, hone⟩ := transcript_exit primary secondary input
  refine ⟨hcode, hone, ?refused, ?accepted, ?after, ?unterminated⟩
  case refused =>
    intro fault hread
    rw [show t = _ from transcript_of_error hread input]
  case accepted =>
    intro override hread
    refine ⟨?_, count_prompt_transcript hread input, (start override).after?_heard lines⟩
    rw [show t = _ from transcript_of_ok hread input]
  case after =>
    rintro ⟨bytes, hbytes, hstops⟩ more
    obtain ⟨later, hlater⟩ := Text.lines_append_prefix input more
    obtain ⟨hstopping, hheard⟩ := stopping?_append hbytes hstops later
    exact transcript_congr (hlater ▸ hstopping) (hlater ▸ hheard)
  case unterminated =>
    rintro init last hlast rfl
    have hlines : Text.lines (init ++ [last] ++ [Text.lineFeed]) = Text.lines (init ++ [last]) := by
      rw [List.append_assoc]
      exact Text.lines_append_lineFeed hlast init
    exact transcript_congr (congrArg stopping? hlines) (congrArg heard hlines)

/-- A line that leaves makes the bytes after it harmless that end the run
badly where they come first. A refused setting says nothing else. -/
theorem transcript_ends_of_bad_byte :
    transcript none none (" quit now".toUTF8.data.toList ++ Text.lineFeed :: [0xff])
        = ⟨[greeting, prompt], 0⟩
      ∧ (transcript none none [0xff]).exit = 1
      ∧ (transcript (some "maybe".toUTF8.data.toList) none [0xff]).emissions
        = [refusal ⟨Setting.primaryName, "maybe"⟩] := by
  have hquit : Leaves " quit now".toUTF8.data.toList := Or.inr rfl
  have hlines : Text.lines " quit now".toUTF8.data.toList = [" quit now".toUTF8.data.toList] := rfl
  obtain ⟨-, -, -, -, -, hafter, -⟩ := transcript_ends none none " quit now".toUTF8.data.toList
  obtain ⟨-, -, hone, -⟩ := transcript_ends none none [0xff]
  obtain ⟨-, -, -, hrefused, -⟩ := transcript_ends (some "maybe".toUTF8.data.toList) none [0xff]
  refine ⟨?_, hone.mpr (Or.inr ⟨[], [0xff], [], rfl, rfl, nofun⟩), hrefused _ rfl⟩
  rw [hafter ⟨_, hlines ▸ List.mem_singleton_self _, Or.inr hquit⟩ [0xff]]
  rfl

end Console

end LockPolicy
