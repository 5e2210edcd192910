import LockPolicy.Console.Basic
import LockPolicy.Setting

/-!
# Conversations with the console

The console greets, and then prompts for one line after the other until
the input ends, somebody leaves, or a line turns out to be no text. A
line that cannot be carried out is complained of and nothing more.

What is said in a conversation is settled here: `Console.converse` makes
of the bytes of an input everything that is printed for whoever types,
and the exit code. What follows a line that ends the conversation is
never looked at. What is put on record in the course of it is not said to
anybody and left out of the transcripts. It is the matter of
`LockPolicy.Console.Log`, where the two are brought together again.
-/

namespace LockPolicy

inductive Emission where
  | out (text : String)
  | err (text : String)
deriving DecidableEq, Repr

/-- The text of the piece, wherever it goes. -/
def Emission.text : Emission → String
  | out text | err text => text

/-- Everything that a run of the program prints, the lines of its log
apart, and its exit code. -/
structure Transcript where
  emissions : List Emission
  exit : Nat
deriving DecidableEq, Repr

/-- The transcript of a run that printed something before. -/
def Transcript.following (t : Transcript) (earlier : List Emission) : Transcript :=
  { t with emissions := earlier ++ t.emissions }

namespace Console

def greeting : Emission := .out "device policy demo, type 'help' for commands\n"

def prompt : Emission := .out "> "

def farewell : Emission := .out "\n"

/-- What can be typed, one line for each command. -/
def help : List String := [
  "commands:",
  "  set <account> <len> <none|simple|strong> <max-fails> <lock-secs> <wipe:0|1>",
  "  raw <account> <flags>          store raw flags (decimal or 0x..)",
  "  remove <account>               delete an account",
  "  show                           aggregate policy and device state",
  "  check [account]                check the aggregate, or one account's policy",
  "  apply                          push the aggregate policy to the device",
  "  enable | disable               grant or revoke device admin",
  "  password <len> <quality>       user sets a password (unspecified|numeric|alphanumeric|...)",
  "  timeout <millis>               user changes the screen lock timeout",
  "  wipe <account>                 remote wipe requested by an account's server",
  "  clear <account>                dismiss the security notification",
  "  exit | quit"]

/-- What a line comes to. -/
inductive Reaction where
  | next (emissions : List Emission) (console : Console)
  | stop (emissions : List Emission) (exit : Nat)

def print (lines : List String) : List Emission :=
  lines.map fun line => .out (line ++ "\n")

/-- What is printed for a reply, the lines of the log apart: its own
lines, or its complaint. -/
def Reply.emissions (r : Reply) : List Emission :=
  match r.said with
  | .ok lines => print lines
  | .error complaint => [.err ("error: " ++ complaint.message ++ "\n")]

def obey (c : Console) (words : List String) : Reply :=
  match Command.ofWords words with
  | .ok command => c.execute command
  | .error complaint => { said := .error complaint, next := c }

/-- The reaction to a line of text, which goes by its first word. -/
def line (c : Console) (text : String) : Reaction :=
  match Text.words text with
  | [] => .next [] c
  | word :: rest =>
    if word = "exit" ∨ word = "quit" then .stop [] 0
    else if word = "help" then .next (print help) c
    else
      let r := c.obey (word :: rest)
      .next r.emissions r.next

def read (c : Console) (bytes : List UInt8) : Reaction :=
  match Text.ofBytes? bytes with
  | some text => c.line text
  | none => .stop [.err "Error: stream did not contain valid UTF-8\n"] 1

/-- The command in a line, if there is one. -/
def Command.ofLine? (bytes : List UInt8) : Option Command :=
  match Text.ofBytes? bytes with
  | some text => (Command.ofWords (Text.words text)).toOption
  | none => none

/-- The transcript of a conversation, from the lines of the input. -/
def converse (c : Console) : List (List UInt8) → Transcript
  | [] => ⟨[prompt, farewell], 0⟩
  | bytes :: rest =>
    match c.read bytes with
    | .next emissions next =>
      (converse next rest).following (prompt :: emissions)
    | .stop emissions exit => ⟨prompt :: emissions, exit⟩

/-- What is printed where the setting of the override is refused. -/
def refusal (fault : Setting.Fault) : Emission :=
  .err ("Error: loading policy configuration\n\nCaused by:\n    " ++ fault.message ++ "\n")

/-- The transcript of a run, from the values of the two variables and
the input. -/
def transcript (primary secondary : Option (List UInt8)) (input : List UInt8) :
    Transcript :=
  match Setting.read primary secondary with
  | .ok override => (converse (start override) (Text.lines input)).following [greeting]
  | .error fault => ⟨[refusal fault], 1⟩

end Console

end LockPolicy
