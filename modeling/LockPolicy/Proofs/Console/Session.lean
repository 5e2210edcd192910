import LockPolicy.Console.Session
import LockPolicy.Proofs.Console.Log
import LockPolicy.Proofs.Text.Lines

/-!
# Sessions and transcripts

A session takes its input byte by byte, and a conversation goes over the
lines of an input that is all there. What is said comes out the same
(`transcript_run_start`): the bytes taken so far are the beginning of the
line that is read when its line feed comes (`transcript_run`). Where the
log is turned off, nothing else is printed (`shown_run_start`).
-/

namespace LockPolicy

namespace Session

open Utterance (said said_append)

variable {s : Session} {input : List UInt8}

/-- What is said in a run, and its exit code. -/
def transcript (run : List Utterance × Nat) : Transcript :=
  ⟨said run.1, run.2⟩

theorem transcript_run_go (uttered : List Utterance) (s : Session) (input : List UInt8) :
    transcript ((Turn.go uttered s).run input)
      = (transcript ((Turn.go [] s).run input)).following (said uttered) := by
  cases input <;>
    simp only [Turn.run, transcript, Transcript.following, said_append, List.nil_append]

/-- A prompt and the line after it come out as in a conversation, if what
follows the line does. -/
theorem transcript_run_readLine (s : Session)
    (hinput : ∀ next : Console,
      (transcript ((Turn.go [] { console := next }).run input)).following [Console.prompt]
        = next.converse (Text.lines input)) :
    (transcript (s.readLine.run input)).following [Console.prompt]
      = s.console.converse (s.taken.reverse :: Text.lines input) := by
  have hsaid := s.console.said_utterances s.taken.reverse
  cases hread : s.console.read s.taken.reverse with
  | next emissions next =>
      rw [hread, Console.Reaction.emissions] at hsaid
      have hturn : s.readLine = .go (s.console.utterances s.taken.reverse
          ++ [.say Console.prompt]) { console := next } := by
        simp only [readLine, hread]
      rw [hturn, transcript_run_go, said_append, hsaid]
      simp only [Console.converse, hread, ← hinput next, Transcript.following, List.append_assoc]
      rfl
  | stop emissions exit =>
      rw [hread, Console.Reaction.emissions] at hsaid
      have hturn : s.readLine = .leave (s.console.utterances s.taken.reverse) exit := by
        simp only [readLine, hread]
      rw [hturn, Turn.run, transcript, hsaid]
      simp only [Console.converse, hread]
      rfl

/-- An input that ends within a line is as good as one that ends with the
line. -/
theorem finish_eq_run (htaken : s.taken ≠ []) : s.finish = s.readLine.run [] := by
  rw [finish, if_neg htaken, readLine]
  cases s.console.read s.taken.reverse <;> rfl

/-- After a prompt, a session makes of its input the conversation over
the lines of what it has taken and of what comes. -/
theorem transcript_run (s : Session) (input : List UInt8)
    (htaken : Text.lineFeed ∉ s.taken) :
    (transcript ((Turn.go [] s).run input)).following [Console.prompt]
      = s.console.converse (Text.lines (s.taken.reverse ++ input)) := by
  induction input generalizing s with
  | nil =>
      have hbytes : Text.lineFeed ∉ s.taken.reverse := fun h => htaken (List.mem_reverse.mp h)
      rw [List.append_nil]
      by_cases hnone : s.taken = []
      · rw [Turn.run, finish, if_pos hnone, hnone]
        rfl
      · rw [Turn.run, List.nil_append, finish_eq_run hnone,
          Text.lines_of_not_mem (mt List.reverse_eq_nil_iff.mp hnone) hbytes]
        exact transcript_run_readLine s fun next => rfl
  | cons b input ih =>
      have hbytes : Text.lineFeed ∉ s.taken.reverse := fun h => htaken (List.mem_reverse.mp h)
      rw [Turn.run, List.nil_append, feed]
      by_cases hb : b = Text.lineFeed
      · rw [if_pos hb, hb, Text.lines_append_cons_of_not_mem hbytes]
        exact transcript_run_readLine s fun next => ih { console := next } List.not_mem_nil
      · have hmore : Text.lineFeed ∉ b :: s.taken := fun h =>
          (List.mem_cons.mp h).elim (fun heq => hb heq.symm) htaken
        have hlines := ih { s with taken := b :: s.taken } hmore
        rw [List.reverse_cons, List.append_assoc, List.singleton_append] at hlines
        rw [if_neg hb]
        exact hlines

/-- **A session says what the transcript has.** Whatever the values of the
two variables and the input, what is said in the session that takes the
input byte by byte is the transcript, and the exit code is the same. -/
theorem transcript_run_start (primary secondary : Option (List UInt8)) (input : List UInt8) :
    transcript ((start primary secondary).run input)
      = Console.transcript primary secondary input := by
  cases hread : Setting.read primary secondary with
  | error fault =>
      simp only [start, Console.transcript, hread, Turn.run]
      rfl
  | ok override =>
      have hrun := transcript_run { console := Console.start override } input List.not_mem_nil
      have hsaid : said ((if override then [.log .overrideOn] else [])
          ++ [.log (.started override), .say Console.greeting, .say Console.prompt])
            = [Console.greeting] ++ [Console.prompt] := by
        cases override <;> rfl
      simp only [start, Console.transcript, hread]
      rw [transcript_run_go, hsaid]
      exact congrArg (Transcript.following · [Console.greeting]) hrun

/-- Where the log is turned off, a session prints the transcript. -/
theorem shown_run_start (primary secondary : Option (List UInt8)) (input : List UInt8) :
    ((start primary secondary).run input).1.flatMap (Utterance.shown .off)
      = (Console.transcript primary secondary input).emissions := by
  rw [Utterance.flatMap_shown_off, ← transcript_run_start]
  rfl

end Session

end LockPolicy
