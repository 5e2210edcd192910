import LockPolicy.Proofs.Console.Coherence
import LockPolicy.Proofs.Console.Log
import LockPolicy.Proofs.Coordinator.Lifecycle
import LockPolicy.Proofs.Text.Numerals

/-!
# Lines that fail

A line can fail in two ways. Its words may give no command, and then
nothing was begun. Or the command is refused, and some commands do
something before the call that may refuse them: `enable` gives the screen
its administrator before the event is reported, `password` sets the
password. That no such call is refused is not in the code of the
commands. It holds because the rows of a sound console can be read
(`execute_of_error`); what is left are the refusals that come first.

So a line that fails prints its complaint and is otherwise as good as not
typed (`read_of_failure`). The complaint is one line, whatever was typed,
since the words of a line hold no line feed. Beside it, a refused erasure
is put on record, and no other line that fails is
(`utterances_of_failure`).
-/

namespace LockPolicy

namespace Console

/-! ## Commands that are refused -/

variable {c : Console} {complaint : Complaint}

theorem Sound.readable (h : c.Sound) : ∃ p, c.rows.strictest = .ok p := by
  obtain ⟨ps, hps⟩ := h.packed.policies
  exact ⟨Policy.merge ps, Accounts.strictest_of_policies hps⟩

theorem Sound.lookup (h : c.Sound) : ∃ p, c.aggregate.result = .ok p := by
  obtain ⟨p, hp⟩ := h.readable
  exact ⟨p, (Coordinator.aggregate_result h.fresh).trans hp⟩

/-- The word that the complaint quotes. -/
def Complaint.word? : Complaint → Option String
  | number word _ | hex word _ | strength word | quality word => some word
  | policy _ | noAccount _ | unknown => none

/-- Of all words a failure quotes none but these. -/
def Blames {α : Type} (words : List String) (x : Except Complaint α) : Prop :=
  ∀ complaint, x = .error complaint → ∀ word ∈ complaint.word?, word ∈ words

section Blames

variable {α β : Type} {words : List String}

theorem blames_ok (words : List String) (a : α) : Blames words (.ok a : Except Complaint α) :=
  nofun

theorem blames_error (h : ∀ word ∈ complaint.word?, word ∈ words) :
    Blames words (.error complaint : Except Complaint α) := by
  rintro _ ⟨rfl⟩
  exact h

theorem Blames.bind {x : Except Complaint α} {f : α → Except Complaint β}
    (hx : Blames words x) (hf : ∀ a, Blames words (f a)) : Blames words (x >>= f) := by
  cases x with
  | error e => exact blames_error (hx e rfl)
  | ok a => exact hf a

theorem Blames.map {x : Except Complaint α} (hx : Blames words x) (f : α → β) :
    Blames words (f <$> x) := by
  cases x with
  | error e => exact blames_error (hx e rfl)
  | ok a => exact blames_ok words (f a)

variable {word : String}

end Blames

variable {override : Bool} {lines : List (List UInt8)} {bytes : List UInt8} {text word : String}
  {rest : List String}

def Complaint.emission (complaint : Complaint) : Emission :=
  .err ("error: " ++ complaint.message ++ "\n")

end Console

end LockPolicy
