import LockPolicy.Console.Session

/-!
# The program

Runs a session on the standard input. What is uttered is settled in
`LockPolicy.Console.Session`; here the bytes are fetched one at a time
and the pieces of output are sent off. The log is turned off.
-/

namespace LockPolicy.Program

/-- Sends the piece to where it goes, without delay. -/
def send (e : Emission) : IO Unit := do
  let stream ← match e with
    | .out _ => IO.getStdout
    | .err _ => IO.getStderr
  stream.putStr e.text
  stream.flush

def utter (uttered : List Utterance) : IO Unit :=
  (uttered.flatMap (Utterance.shown .off)).forM send

/-- Takes the session from the turn to its end, and returns the exit
code. -/
partial def hold (input : IO.FS.Stream) : Session.Turn → IO UInt32
  | .leave uttered exit => do
    utter uttered
    return exit.toUInt32
  | .go uttered session => do
    utter uttered
    match (← input.read 1).data.toList with
    | [] => hold input (.leave session.finish.1 session.finish.2)
    | b :: _ => hold input (session.feed b)

/-- The bytes of an environment variable, if it is set. -/
def variableBytes (name : String) : IO (Option (List UInt8)) := do
  return (← IO.getEnv name).map fun value => value.toUTF8.data.toList

def run : IO UInt32 := do
  let primary ← variableBytes Setting.primaryName
  let secondary ← variableBytes Setting.secondaryName
  hold (← IO.getStdin) (Session.start primary secondary)

end LockPolicy.Program

def main : IO UInt32 := LockPolicy.Program.run
