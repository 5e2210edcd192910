import LockPolicy.Console.Transcript

/-!
# The console line by line

`Console.after?` is the console after some lines of input, as long as
none of them ends the conversation. A line either leaves the console as
it is or carries out one command (`read_next`), so what every command
preserves holds after any lines whatever (`after?_preserves`), however
many of them were blank, mistaken or refused.
-/

namespace LockPolicy

namespace Console

/-- The console after the lines, if the conversation goes on. -/
def after? : Console → List (List UInt8) → Option Console
  | c, [] => some c
  | c, bytes :: rest =>
    match c.read bytes with
    | .next _ next => after? next rest
    | .stop _ _ => none

theorem after?_nil (c : Console) : c.after? [] = some c := rfl

theorem after?_cons {c next : Console} {bytes : List UInt8} {emissions : List Emission}
    (h : c.read bytes = .next emissions next) (rest : List (List UInt8)) :
    c.after? (bytes :: rest) = next.after? rest := by
  rw [after?, h]

/-- Induction over lines that were read to the end: none was left to
read, or one was, and the others were read from what it has left. -/
@[elab_as_elim]
theorem after?_induction {d : Console}
    {motive : ∀ (c : Console) (lines : List (List UInt8)), c.after? lines = some d → Prop}
    (nil : motive d [] rfl)
    (cons : ∀ {c next : Console} {bytes : List UInt8} {rest : List (List UInt8)}
      {emissions : List Emission} (hread : c.read bytes = .next emissions next)
      (hrest : next.after? rest = some d), motive next rest hrest →
        motive c (bytes :: rest) ((after?_cons hread rest).trans hrest))
    {c : Console} {lines : List (List UInt8)} (h : c.after? lines = some d) :
    motive c lines h := by
  induction lines generalizing c with
  | nil =>
      obtain rfl := Option.some.inj h
      exact nil
  | cons bytes rest ih =>
      cases hread : c.read bytes with
      | stop emissions exit =>
          rw [after?, hread] at h
          cases h
      | next emissions next =>
          have hrest : next.after? rest = some d := (after?_cons hread rest).symm.trans h
          exact cons hread hrest (ih hrest)

/-- A conversation goes through the consoles of `after?`: what is printed
from there on is what a conversation from there prints. -/
theorem converse_append {c d : Console} {lines : List (List UInt8)}
    (h : c.after? lines = some d) (rest : List (List UInt8)) :
    ∃ earlier, c.converse (lines ++ rest) = (d.converse rest).following earlier := by
  induction h using after?_induction with
  | nil => exact ⟨[], rfl⟩
  | @cons _ _ _ _ emissions hread _ ih =>
      obtain ⟨earlier, hearlier⟩ := ih
      refine ⟨prompt :: emissions ++ earlier, ?_⟩
      rw [List.cons_append, converse, hread]
      simp only [hearlier, Transcript.following, List.append_assoc]

/-! ## One line -/

theorem obey_next (c : Console) (words : List String) :
    (c.obey words).next = c ∨ ∃ command, (c.obey words).next = (c.execute command).next := by
  unfold obey
  split
  · exact Or.inr ⟨_, rfl⟩
  · exact Or.inl rfl

theorem line_next {c next : Console} {text : String} {emissions : List Emission}
    (h : c.line text = .next emissions next) :
    next = c ∨ ∃ command, next = (c.execute command).next := by
  unfold line at h
  split at h
  · exact Or.inl (Reaction.next.inj h).2.symm
  · split at h
    · cases h
    · split at h
      · exact Or.inl (Reaction.next.inj h).2.symm
      · rw [← (Reaction.next.inj h).2]
        exact c.obey_next _

theorem read_next {c next : Console} {bytes : List UInt8} {emissions : List Emission}
    (h : c.read bytes = .next emissions next) :
    next = c ∨ ∃ command, next = (c.execute command).next := by
  unfold read at h
  split at h
  · exact line_next h
  · cases h

/-- What commands preserve, conversations preserve. -/
theorem after?_preserves {P : Console → Prop}
    (hexecute : ∀ (c : Console) (command : Command), P c → P (c.execute command).next)
    {c d : Console} {lines : List (List UInt8)} (h : c.after? lines = some d) (hc : P c) :
    P d := by
  induction h using after?_induction with
  | nil => exact hc
  | @cons c _ _ _ _ hread _ ih =>
      refine ih ?_
      rcases read_next hread with rfl | ⟨command, rfl⟩
      · exact hc
      · exact hexecute c command hc

/-! ## Lines that hold a command -/

/-- The words that the console itself goes by are no commands. -/
theorem ofWords_head {word : String} {rest : List String} {command : Command}
    (h : Command.ofWords (word :: rest) = .ok command) : word ∉ ["exit", "quit", "help"] := by
  unfold Command.ofWords at h
  split at h <;> simp_all

theorem line_of_words {text word : String} {rest : List String}
    (hwords : Text.words text = word :: rest) (hword : word ∉ ["exit", "quit", "help"])
    (c : Console) :
    c.line text = .next (c.obey (word :: rest)).emissions (c.obey (word :: rest)).next := by
  simp only [List.mem_cons, List.not_mem_nil, or_false, not_or] at hword
  obtain ⟨hexit, hquit, hhelp⟩ := hword
  simp only [line, hwords, if_neg (not_or.mpr ⟨hexit, hquit⟩), if_neg hhelp]

theorem line_of_command {text : String} {command : Command}
    (h : Command.ofWords (Text.words text) = .ok command) (c : Console) :
    c.line text = .next (c.execute command).emissions (c.execute command).next := by
  cases hwords : Text.words text with
  | nil =>
      rw [hwords] at h
      cases h
  | cons word rest =>
      rw [hwords] at h
      rw [line_of_words hwords (ofWords_head h), obey, h]

theorem line_of_ofWords {text : String} {words : List String} (command : Command)
    (hwords : Text.words text = words) (h : Command.ofWords words = .ok command) (c : Console) :
    c.line text = .next (c.execute command).emissions (c.execute command).next := by
  rw [← hwords] at h
  exact line_of_command h c

theorem read_of_command {bytes : List UInt8} {text : String} {command : Command}
    (htext : Text.ofBytes? bytes = some text)
    (h : Command.ofWords (Text.words text) = .ok command) (c : Console) :
    c.read bytes = .next (c.execute command).emissions (c.execute command).next := by
  rw [read, htext]
  exact line_of_command h c

end Console

end LockPolicy
