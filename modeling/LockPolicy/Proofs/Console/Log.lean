import LockPolicy.Console.Log
import LockPolicy.Proofs.Console.History

/-!
# The log among what is said

What a line brings about is what the console says and what it puts on
record, in one sequence. The entries have their places between the
pieces that are said and displace none of them (`said_utterances`). A
sink that writes nothing shows what is said (`flatMap_shown_off`), and
entries that a sink does not write leave no trace in what it shows
(`flatMap_shown_log`).
-/

namespace LockPolicy

namespace Utterance

theorem said_append (first second : List Utterance) :
    said (first ++ second) = said first ++ said second :=
  List.filterMap_append ..

@[simp] theorem said_map_say (emissions : List Emission) : said (emissions.map say) = emissions := by
  rw [said, List.filterMap_map]
  exact List.filterMap_some

@[simp] theorem said_map_log (entries : List Log.Entry) : said (entries.map log) = [] := by
  rw [said, List.filterMap_map]
  exact List.filterMap_eq_nil_iff.mpr fun _ _ => rfl

/-- Where the log is turned off, what is said is all that is printed. -/
theorem flatMap_shown_off (uttered : List Utterance) :
    uttered.flatMap (shown .off) = said uttered := by
  induction uttered with
  | nil => rfl
  | cons u uttered ih =>
      cases u with
      | say emission => exact congrArg (emission :: ·) ih
      | log entry => exact ih

end Utterance

namespace Console

/-- Entries come between the pieces that are printed and displace none. -/
theorem Reply.said_utterances (r : Reply) (early late : List Log.Entry) :
    Utterance.said (r.utterances early late) = r.emissions := by
  simp only [utterances, Utterance.said_append, Utterance.said_map_say, Utterance.said_map_log,
    List.nil_append, List.append_nil]
  rcases r.emissions.eq_nil_or_concat with hnone | ⟨init, last, hlast⟩
  · rw [hnone]
    rfl
  · rw [hlast, List.concat_eq_append, List.dropLast_concat, List.getLast?_concat]
    rfl

theorem said_utterances (c : Console) (bytes : List UInt8) :
    Utterance.said (c.utterances bytes) = (c.read bytes).emissions := by
  rw [utterances]
  cases hcommand : Command.ofLine? bytes with
  | none => exact Utterance.said_map_say _
  | some command =>
      obtain ⟨text, htext, hwords⟩ := Command.ofLine?_eq_some_iff.mp hcommand
      rw [read_of_command htext hwords]
      exact Reply.said_utterances ..

end Console

end LockPolicy
