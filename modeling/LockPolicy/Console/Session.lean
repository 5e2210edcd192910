import LockPolicy.Console.Log

/-!
# Sessions

A session takes its input byte by byte. A line is read when its line feed
comes or, if the input ends within it, at the end of the input. Each byte
gives a turn: what is uttered for it, and the session that waits for the
next byte, or the exit code.

The program does no more than to hand the bytes in and the utterances
out. `Turn.run` does the same with an input that is all there.
-/

namespace LockPolicy

/-- A conversation that waits for its next byte. -/
structure Session where
  console : Console
  /-- The bytes of the line that has not ended yet, the last one first. -/
  taken : List UInt8 := []

namespace Session

/-- What comes of a byte, or of a whole input. -/
inductive Turn where
  | go (uttered : List Utterance) (session : Session)
  | leave (uttered : List Utterance) (exit : Nat)

/-- Reads what was taken as a line. -/
def readLine (s : Session) : Turn :=
  let bytes := s.taken.reverse
  let uttered := s.console.utterances bytes
  match s.console.read bytes with
  | .next _ next => .go (uttered ++ [.say Console.prompt]) { console := next }
  | .stop _ exit => .leave uttered exit

def feed (s : Session) (b : UInt8) : Turn :=
  if b = Text.lineFeed then s.readLine
  else .go [] { s with taken := b :: s.taken }

/-- What is uttered when the input ends, and the exit code. -/
def finish (s : Session) : List Utterance × Nat :=
  if s.taken = [] then ([.say Console.farewell], 0)
  else match s.readLine with
    | .go uttered _ => (uttered ++ [.say Console.farewell], 0)
    | .leave uttered exit => (uttered, exit)

/-- The first turn, from the values of the two variables. -/
def start (primary secondary : Option (List UInt8)) : Turn :=
  match Setting.read primary secondary with
  | .ok override =>
    .go ((if override then [.log .overrideOn] else [])
        ++ [.log (.started override), .say Console.greeting, .say Console.prompt])
      { console := Console.start override }
  | .error fault => .leave [.say (Console.refusal fault)] 1

/-- All that is uttered from the turn on, and the exit code. -/
def Turn.run : Turn → List UInt8 → List Utterance × Nat
  | .leave uttered exit, _ => (uttered, exit)
  | .go uttered s, [] => (uttered ++ s.finish.1, s.finish.2)
  | .go uttered s, b :: input =>
    let later := (s.feed b).run input
    (uttered ++ later.1, later.2)

end Session

end LockPolicy
