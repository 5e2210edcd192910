import LockPolicy.Proofs.Console.Lines
import LockPolicy.Proofs.Coordinator.Lifecycle

/-!
# The console by its commands

Which command a line holds does not depend on the console that reads it.
So what a conversation has made of the console is a matter of the
commands in its lines, in their order, and of nothing else that was typed
(`after?_eq_executeAll`). And where each command either settles something
or leaves it alone, the last one that settles it decides
(`view_executeAll`).
-/

namespace LockPolicy

namespace Console

theorem Command.ofLine?_eq_some_iff {bytes : List UInt8} {command : Command} :
    ofLine? bytes = some command
      ↔ ∃ text, Text.ofBytes? bytes = some text
          ∧ ofWords (Text.words text) = .ok command := by
  rw [ofLine?]
  cases htext : Text.ofBytes? bytes with
  | none => simp
  | some text =>
      cases hcommand : ofWords (Text.words text) with
      | ok other => simp [Except.toOption, hcommand]
      | error complaint => simp [Except.toOption, hcommand]

def commandsIn (lines : List (List UInt8)) : List Command :=
  lines.filterMap Command.ofLine?

theorem commandsIn_append (first second : List (List UInt8)) :
    commandsIn (first ++ second) = commandsIn first ++ commandsIn second :=
  List.filterMap_append ..

theorem commandsIn_cons (bytes : List UInt8) (rest : List (List UInt8)) :
    commandsIn (bytes :: rest) = (Command.ofLine? bytes).toList ++ commandsIn rest := by
  rw [commandsIn, List.filterMap_cons]
  cases Command.ofLine? bytes <;> rfl

/-- The console after all of the commands, whatever each has come to. -/
def executeAll (c : Console) (commands : List Command) : Console :=
  commands.foldl (fun c command => (c.execute command).next) c

theorem executeAll_append (c : Console) (first second : List Command) :
    c.executeAll (first ++ second) = (c.executeAll first).executeAll second :=
  List.foldl_append ..

/-- What the last of the commands that have a word on something says. -/
def lastWord {α : Type} (word : Command → Option α) (commands : List Command) : Option α :=
  commands.reverse.findSome? word

/-- If each command either settles what is seen of the console or leaves
it alone, then the last that settles it does. -/
theorem view_executeAll {α : Type} (view : Console → α) {word : Command → Option α}
    (hexecute : ∀ (c : Console) (command : Command),
      view (c.execute command).next = (word command).getD (view c))
    (c : Console) (commands : List Command) :
    view (c.executeAll commands) = (lastWord word commands).getD (view c) :=
  view_foldl view hexecute c commands

theorem line_eq_executeAll {c next : Console} {text : String} {emissions : List Emission}
    (h : c.line text = .next emissions next) :
    next = c.executeAll (Command.ofWords (Text.words text)).toOption.toList := by
  cases hcommand : Command.ofWords (Text.words text) with
  | ok command =>
      rw [line_of_command hcommand] at h
      exact (Reaction.next.inj h).2.symm
  | error complaint =>
      unfold line at h
      split at h
      · exact (Reaction.next.inj h).2.symm
      · rename_i hwords
        split at h
        · cases h
        · split at h
          · exact (Reaction.next.inj h).2.symm
          · rw [← hwords, obey, hcommand] at h
            exact (Reaction.next.inj h).2.symm

theorem read_eq_executeAll {c next : Console} {bytes : List UInt8} {emissions : List Emission}
    (h : c.read bytes = .next emissions next) :
    next = c.executeAll (Command.ofLine? bytes).toList := by
  cases htext : Text.ofBytes? bytes with
  | none =>
      rw [read, htext] at h
      cases h
  | some text =>
      rw [read, htext] at h
      rw [Command.ofLine?, htext]
      exact line_eq_executeAll h

/-- A conversation leaves the console that its commands leave. -/
theorem after?_eq_executeAll {c d : Console} {lines : List (List UInt8)}
    (h : c.after? lines = some d) : d = c.executeAll (commandsIn lines) := by
  induction h using after?_induction with
  | nil => rfl
  | cons hread _ ih => rw [commandsIn_cons, executeAll_append, ← read_eq_executeAll hread, ih]

end Console

end LockPolicy
