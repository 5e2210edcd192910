import LockPolicy.Proofs.Console.Enabling
import LockPolicy.Proofs.Console.Ending
import LockPolicy.Proofs.Coordinator.Agreement
import LockPolicy.Proofs.Coordinator.Notices

/-!
# Notices at the console

A notice is printed after the verdict on an account's policy, if the
verdict blocks the account and no notice is standing. Nothing else that
the console prints looks like one: every other line begins with another
letter (`Ordinary`), whatever was typed. And no other command touches the
latch but the one that dismisses (`execute_unconcerned`); a check of the
strictest policy does not, and neither does a check that is satisfied.

So the latch can be read off the lines of the input (`warned_iff`): it is
set if a line blocked an account, each line taken from the console that
the commands before it have left, and no line since has dismissed.
-/

namespace LockPolicy

/-- The piece is a notice. -/
def Emission.Notifies (e : Emission) : Prop :=
  "notification:".toList <+: e.text.toList

instance : DecidablePred Emission.Notifies := fun e =>
  inferInstanceAs (Decidable ("notification:".toList <+: e.text.toList))

namespace Console

/-! ## What is no notice -/

/-- The text begins with another letter than notices do. -/
def Ordinary (text : String) : Prop := text.toList.head?.any (· ≠ 'n') = true

/-- A text that is written out can be looked at letter by letter. -/
theorem Ordinary.ofList {c : Char} {cs : List Char} (h : c ≠ 'n') :
    Ordinary (String.ofList (c :: cs)) := by
  rw [Ordinary, String.toList_ofList]
  exact decide_eq_true h

theorem Ordinary.append {text : String} (h : Ordinary text) (rest : String) :
    Ordinary (text ++ rest) := by
  rw [Ordinary, String.toList_append, List.head?_append]
  unfold Ordinary at h
  cases htext : text.toList.head? with
  | none =>
      rw [htext] at h
      cases h
  | some c => rwa [htext] at h

theorem Ordinary.not_notifies {text : String} (h : Ordinary text) {e : Emission}
    (he : e.text = text) : ¬e.Notifies := by
  rintro ⟨rest, hrest⟩
  rw [Ordinary, ← he, ← hrest] at h
  cases h

theorem not_notifies_of_mem_print {lines : List String} (h : ∀ line ∈ lines, Ordinary line) :
    ∀ e ∈ print lines, ¬e.Notifies := by
  intro e he
  obtain ⟨line, hline, rfl⟩ := List.mem_map.mp he
  exact ((h line hline).append "\n").not_notifies rfl

/-- A heading, and then lines that begin with a blank. -/
theorem help_ordinary : ∀ line ∈ help, Ordinary line := by
  have hblank (cs : List Char) : Ordinary (String.ofList (' ' :: cs)) := .ofList (by decide)
  simp only [help, List.forall_mem_cons]
  exact ⟨.ofList (by decide), hblank _, hblank _, hblank _, hblank _, hblank _, hblank _,
    hblank _, hblank _, hblank _, hblank _, hblank _, hblank _, List.forall_mem_nil _⟩

/-! ## Commands that notices are no concern of -/

/-- The reply prints no notice and leaves the latch alone. -/
structure Reply.Unconcerned (r : Reply) (c : Console) : Prop where
  quiet : ∀ e ∈ r.emissions, ¬e.Notifies
  notified : r.next.notified = c.notified

/-- The policy of the account can be read, and the verdict on it blocks
the account. -/
def Blocked (c : Console) (account : Int) : Prop :=
  ∃ p, Policy.ofWord (c.rows.flags account) = .ok p
    ∧ (c.rules.evaluate p c.reading).verdict.satisfied = false

def notice (account : Int) : Emission :=
  .out ("notification: security update needed for account " ++ toString account ++ "\n")

variable {c : Console} {account : Int} {account? : Option Int} {p : Policy} {v : Verdict}

namespace Reply

theorem quiet_of_ok {r : Reply} {lines : List String} (hsaid : r.said = .ok lines)
    (h : ∀ line ∈ lines, Ordinary line) : ∀ e ∈ r.emissions, ¬e.Notifies := by
  rw [emissions, hsaid]
  exact not_notifies_of_mem_print h

theorem quiet_of_nil {r : Reply} (hsaid : r.said = .ok []) : ∀ e ∈ r.emissions, ¬e.Notifies :=
  quiet_of_ok hsaid (List.forall_mem_nil _)

theorem quiet_of_error {r : Reply} {complaint : Complaint} (hsaid : r.said = .error complaint) :
    ∀ e ∈ r.emissions, ¬e.Notifies := by
  have hordinary : Ordinary "error: " := .ofList (by decide)
  rw [emissions, hsaid]
  intro e he
  rw [List.mem_singleton.mp he]
  exact ((hordinary.append _).append _).not_notifies rfl

theorem quiet_ofOutcome {α : Type} {o : Outcome Console α} {say : α → List String}
    (h : ∀ a, ∀ line ∈ say a, Ordinary line) : ∀ e ∈ (ofOutcome o say).emissions, ¬e.Notifies := by
  cases hresult : o.result with
  | ok a => exact quiet_of_ok (by rw [ofOutcome, hresult]; rfl) (h a)
  | error fault => exact quiet_of_error (by rw [ofOutcome, hresult]; rfl)

end Reply

theorem store_unconcerned (c : Console) (account : Int) (p : Policy) :
    (c.store account p).Unconcerned c := by
  have hwarning : ∀ line ∈ c.warning p, Ordinary line := by
    rw [warning]
    split
    · exact List.forall_mem_nil _
    · have hordinary : Ordinary "warning: device cannot honour " := .ofList (by decide)
      exact List.forall_mem_singleton.mpr (hordinary.append _)
  have hsaid {line : String} (h : Ordinary line) : ∀ other ∈ c.warning p ++ [line],
      Ordinary other :=
    List.forall_mem_append.mpr ⟨hwarning, List.forall_mem_singleton.mpr h⟩
  have haccount : Ordinary ("account " ++ toString account) := by
    have hordinary : Ordinary "account " := .ofList (by decide)
    exact hordinary.append _
  by_cases hsame : c.rows.flags account = p.toWord
  · rw [store_of_eq hsame]
    exact ⟨Reply.quiet_of_ok rfl (hsaid (haccount.append _)), rfl⟩
  · rw [store_of_ne hsame]
    have hflags := (((haccount.append ": ").append p.text).append " (flags ").append
      (Numeral.hex p.toWord.toNat)
    exact ⟨Reply.quiet_of_ok rfl (hsaid (hflags.append ")")), rfl⟩

theorem report_of_satisfied (h : v.satisfied = true) (account? : Option Int) :
    c.report account? v = { said := .ok ["ok: " ++ v.text], next := c } := by
  rw [report, if_pos h]

theorem report_of_blocked (h : v.satisfied = false) (account : Int) :
    c.report (some account) v =
      { said := .ok (("blocked: " ++ v.text)
          :: if c.notified then []
            else ["notification: security update needed for account " ++ toString account])
        next := { c with notified := true } } := by
  rw [report, if_neg (Bool.eq_false_iff.mp h)]
  cases hnotified : c.notified with
  | true => simp [Coordinator.notify, hnotified]
  | false => simp [Coordinator.notify, hnotified]

theorem report_unconcerned (h : v.satisfied = true ∨ account? = none) :
    (c.report account? v).Unconcerned c := by
  have hok : Ordinary "ok: " := .ofList (by decide)
  have hblocked : Ordinary "blocked: " := .ofList (by decide)
  cases hv : v.satisfied with
  | true =>
      rw [report_of_satisfied hv]
      exact ⟨Reply.quiet_of_ok rfl (List.forall_mem_singleton.mpr (hok.append _)), rfl⟩
  | false =>
      obtain rfl := h.resolve_left (Bool.eq_false_iff.mp hv)
      rw [report, if_neg (Bool.eq_false_iff.mp hv)]
      exact ⟨Reply.quiet_of_ok rfl (List.forall_mem_singleton.mpr (hblocked.append _)), rfl⟩

theorem check_none_unconcerned (c : Console) : (c.check none none).Unconcerned c := by
  let checked : Console := (c.evaluate none).next
  have hnotified : checked.notified = c.notified := c.evaluate_notified none
  cases hresult : (c.evaluate none).result with
  | ok v =>
      have hreport : (checked.report none v).Unconcerned checked := report_unconcerned (Or.inr rfl)
      simp only [check, hresult]
      exact ⟨hreport.quiet, hreport.notified.trans hnotified⟩
  | error fault =>
      simp only [check, hresult]
      exact ⟨Reply.quiet_of_error rfl, hnotified⟩

theorem heed_unconcerned (c : Console) (event : Event) : (c.heed event).Unconcerned c where
  quiet := Reply.quiet_ofOutcome fun _ => List.forall_mem_nil _
  notified := c.handle_notified event

theorem execute_check_of_ok (h : Policy.ofWord (c.rows.flags account) = .ok p) :
    c.execute (.check (some account))
      = c.report (some account) (c.rules.evaluate p c.reading).verdict := by
  simp only [execute, h, check, Coordinator.evaluate_some_eq, Inspection.outcome]

/-- A command that does not block an account prints no notice, and the
latch is its concern only if it dismisses. -/
theorem execute_unconcerned {command : Command}
    (hcheck : ∀ account, command = .check (some account) → ¬c.Blocked account)
    (hdismiss : ∀ account, command ≠ .dismiss account) :
    (c.execute command).Unconcerned c := by
  cases command with
  | store account p => exact c.store_unconcerned account p
  | remove account =>
      rw [execute]
      split
      · exact ⟨Reply.quiet_of_nil rfl, rfl⟩
      · exact ⟨Reply.quiet_of_error rfl, rfl⟩
  | display =>
      have haggregate : Ordinary "aggregate: " := .ofList (by decide)
      have hdevice : Ordinary "device:    " := .ofList (by decide)
      have hadmin : Ordinary "admin:     " := .ofList (by decide)
      refine ⟨Reply.quiet_ofOutcome fun p => ?_, c.aggregate_notified⟩
      simp only [List.forall_mem_cons]
      exact ⟨haggregate.append _, hdevice.append _, hadmin.append _, List.forall_mem_nil _⟩
  | check account? =>
      cases account? with
      | none => exact c.check_none_unconcerned
      | some account =>
          cases hread : Policy.ofWord (c.rows.flags account) with
          | error fault =>
              simp only [execute, hread]
              exact ⟨Reply.quiet_of_error rfl, rfl⟩
          | ok p =>
              rw [execute_check_of_ok hread]
              refine report_unconcerned (Or.inl (Bool.not_eq_false _ |>.mp fun hv => ?_))
              exact hcheck account rfl ⟨p, hread, hv⟩
  | apply => exact ⟨Reply.quiet_ofOutcome fun _ => List.forall_mem_nil _, c.apply_notified⟩
  | enable => exact ⟨(heed_unconcerned _ _).quiet, (heed_unconcerned _ _).notified⟩
  | disable =>
      obtain ⟨hquiet, hnotified⟩ := c.heed_unconcerned .disabled
      rw [execute]
      simp only [heed_disabled_said]
      exact ⟨Reply.quiet_of_nil rfl, hnotified⟩
  | password length quality => exact ⟨(heed_unconcerned _ _).quiet, (heed_unconcerned _ _).notified⟩
  | timeout millis => exact ⟨Reply.quiet_of_nil rfl, rfl⟩
  | wipe _ =>
      have hwiped : Ordinary "device wiped" := .ofList (by decide)
      exact ⟨Reply.quiet_ofOutcome fun _ => List.forall_mem_singleton.mpr hwiped, c.wipe_notified⟩
  | dismiss account => exact absurd rfl (hdismiss account)

theorem notice_notifies (account : Int) : (notice account).Notifies := by
  have hword : "notification:".toList
      <+: "notification: security update needed for account ".toList := by decide
  rw [Emission.Notifies, notice, Emission.text, String.toList_append, String.toList_append]
  exact (hword.trans (List.prefix_append _ _)).trans (List.prefix_append _ _)

/-- A check that blocks an account prints a notice after the verdict, if
none is standing. -/
theorem notices_of_blocked (h : c.Blocked account) :
    (c.execute (.check (some account))).emissions.filter Emission.Notifies
      = if c.notified then [] else [notice account] := by
  obtain ⟨p, hread, hv⟩ := h
  have hblocked : ¬(Emission.out ("blocked: " ++ (c.rules.evaluate p c.reading).verdict.text
      ++ "\n")).Notifies := by
    have hordinary : Ordinary "blocked: " := .ofList (by decide)
    exact ((hordinary.append _).append _).not_notifies rfl
  rw [execute_check_of_ok hread, report_of_blocked hv]
  have hnotice : (Emission.out ("notification: security update needed for account "
      ++ toString account ++ "\n")).Notifies := notice_notifies account
  simp only [Reply.emissions, print, List.map_cons]
  rw [List.filter_cons_of_neg (by simpa using hblocked)]
  cases c.notified with
  | true => rfl
  | false => exact List.filter_cons_of_pos (decide_eq_true hnotice)

theorem next_of_blocked (h : c.Blocked account) :
    (c.execute (.check (some account))).next = { c with notified := true } := by
  obtain ⟨p, hread, hv⟩ := h
  rw [execute_check_of_ok hread, report_of_blocked hv]

/-- The latch after a command, whatever came of it. -/
theorem execute_notified (c : Console) (command : Command) :
    (c.execute command).next.notified = true
      ↔ (∃ account, command = .check (some account) ∧ c.Blocked account)
        ∨ c.notified = true ∧ ¬∃ account, command = .dismiss account := by
  by_cases hcheck : ∃ account, command = .check (some account) ∧ c.Blocked account
  · obtain ⟨account, rfl, hblocked⟩ := hcheck
    rw [next_of_blocked hblocked]
    exact iff_of_true rfl (Or.inl ⟨account, rfl, hblocked⟩)
  · by_cases hdismiss : ∃ account, command = .dismiss account
    · obtain ⟨account, rfl⟩ := hdismiss
      exact iff_of_false nofun (not_or.mpr ⟨hcheck, fun h => h.2 ⟨account, rfl⟩⟩)
    · have hsame : (c.execute command).next.notified = c.notified :=
        (execute_unconcerned (fun account h hblocked => hcheck ⟨account, h, hblocked⟩)
          fun account h => hdismiss ⟨account, h⟩).notified
      rw [hsame, or_iff_right hcheck, and_iff_left hdismiss]

/-! ## Lines -/

/-- The line checks the account, and the verdict blocks it. -/
def Blocks (c : Console) (bytes : List UInt8) (account : Int) : Prop :=
  Command.ofLine? bytes = some (.check (some account)) ∧ c.Blocked account

/-- The line dismisses whatever notice is standing. -/
def Dismisses (bytes : List UInt8) : Prop :=
  ∃ account, Command.ofLine? bytes = some (.dismiss account)

/-- One of the lines has blocked an account, and none after it dismissed
the notice. -/
def Warned (c : Console) (lines : List (List UInt8)) : Prop :=
  Outstanding
    (fun earlier bytes => ∃ account, (c.executeAll (commandsIn earlier)).Blocks bytes account)
    Dismisses lines

variable {bytes : List UInt8}

theorem answer_of_command {command : Command} (h : Command.ofLine? bytes = some command)
    (c : Console) : c.answer bytes = (c.execute command).emissions := by
  obtain ⟨text, htext, hcommand⟩ := Command.ofLine?_eq_some_iff.mp h
  cases hwords : Text.words text with
  | nil =>
      rw [hwords] at hcommand
      cases hcommand
  | cons word rest =>
      rw [hwords] at hcommand
      have hhelp : word ≠ "help" := fun heq => ofWords_head hcommand (by simp [heq])
      simp only [answer, htext, hwords, if_neg hhelp, obey, hcommand]

theorem answer_quiet_of_no_command (h : Command.ofLine? bytes = none) (c : Console) :
    ∀ e ∈ c.answer bytes, ¬e.Notifies := by
  unfold answer
  split
  · exact nofun
  · rename_i text htext
    split
    · exact nofun
    · rename_i word rest hwords
      split
      · exact not_notifies_of_mem_print help_ordinary
      · rw [obey]
        split
        · rename_i command hcommand
          have := Command.ofLine?_eq_some_iff.mpr ⟨text, htext, hwords ▸ hcommand⟩
          rw [h] at this
          cases this
        · exact Reply.quiet_of_error rfl

/-- A line that does not block an account is not answered by a notice. -/
theorem answer_quiet (h : ¬∃ account, c.Blocks bytes account) :
    ∀ e ∈ c.answer bytes, ¬e.Notifies := by
  cases hcommand : Command.ofLine? bytes with
  | none => exact answer_quiet_of_no_command hcommand c
  | some command =>
      rw [answer_of_command hcommand]
      by_cases hdismiss : ∃ account, command = .dismiss account
      · obtain ⟨account, rfl⟩ := hdismiss
        exact Reply.quiet_of_nil rfl
      · refine (execute_unconcerned (fun account hcheck hblocked => ?_) fun account heq =>
          hdismiss ⟨account, heq⟩).quiet
        exact h ⟨account, hcheck ▸ hcommand, hblocked⟩

theorem answer_of_blocks (h : c.Blocks bytes account) :
    (c.answer bytes).filter Emission.Notifies
      = if c.notified then [] else [notice account] := by
  rw [answer_of_command h.1]
  exact notices_of_blocked h.2

theorem executeAll_snoc (c : Console) (lines : List (List UInt8)) (bytes : List UInt8) :
    c.executeAll (commandsIn (lines ++ [bytes]))
      = (c.executeAll (commandsIn lines)).executeAll (Command.ofLine? bytes).toList := by
  rw [commandsIn_append, commandsIn_cons, executeAll_append, executeAll_append]
  rfl

theorem line_notified (c : Console) (bytes : List UInt8) :
    (c.executeAll (Command.ofLine? bytes).toList).notified = true
      ↔ (∃ account, c.Blocks bytes account) ∨ c.notified = true ∧ ¬Dismisses bytes := by
  cases hcommand : Command.ofLine? bytes with
  | none => simp [Blocks, Dismisses, hcommand, executeAll]
  | some command => simpa [Blocks, Dismisses, hcommand, executeAll] using c.execute_notified command

/-- The latch after some lines, by induction on them. -/
theorem warned_iff {c : Console} (hnew : c.notified = false) (lines : List (List UInt8)) :
    (c.executeAll (commandsIn lines)).notified = true ↔ c.Warned lines := by
  let latched (lines : List (List UInt8)) : Prop :=
    (c.executeAll (commandsIn lines)).notified = true
  have hnil : ¬latched [] := Bool.eq_false_iff.mp hnew
  refine latched_iff_outstanding hnil (fun lines bytes => ?_) lines
  simp only [latched, executeAll_snoc]
  exact line_notified _ _

theorem dialogue_append (c : Console) (first second : List (List UInt8)) :
    c.dialogue (first ++ second)
      = c.dialogue first ++ (c.executeAll (commandsIn first)).dialogue second := by
  induction first generalizing c with
  | nil => rfl
  | cons bytes first ih =>
      rw [List.cons_append, dialogue, dialogue, ih, commandsIn_cons, executeAll_append,
        List.append_assoc]

/-! ## Around the answers -/

theorem greeting_quiet : ¬greeting.Notifies := by decide

theorem prompt_quiet : ¬prompt.Notifies := by decide

theorem ending_quiet (stop : Option (List UInt8)) : ∀ e ∈ (ending stop).emissions, ¬e.Notifies := by
  cases stop with
  | none => decide
  | some bytes =>
      rw [ending]
      split <;> decide

theorem refusal_quiet (fault : Setting.Fault) : ¬(refusal fault).Notifies := by
  have hordinary : Ordinary "Error: loading policy configuration\n\nCaused by:\n    " :=
    .ofList (by decide)
  exact ((hordinary.append _).append _).not_notifies rfl

/-- **One notice between dismissals.** A coordinator that is new grants a
request for a notice if and only if none was made since the last
dismissal, whatever else was asked of it or happened around it and
whichever accounts were named. The two requests touch the latch alone and
make no calls, and no other step touches the latch.

So it is for a run of the console. A notice is printed in answer to a
line that is read if and only if it checks an account, the verdict blocks
that account, and since the last line that dismisses no line has blocked
one. It is a single notice and names that account. There is none anywhere
else in the transcript. -/
theorem one_notice_between_dismissals :
    (∀ {δ : Type} [Device δ] (c : Coordinator δ), c.notified = false →
      ∀ before : List (Step δ),
        let d := c.after before
        ∃ due : Bool, (due = true ↔ ¬Noticed before)
          ∧ (∀ account, d.step (.request (.notify account))
              = { result := .ok (.flag due), calls := [], next := { d with notified := true } })
          ∧ (∀ account, d.step (.request (.dismiss account))
              = { result := .ok .done, calls := [], next := { d with notified := false } })
          ∧ ∀ s : Step δ, s.latches? = none → (d.step s).next.notified = d.notified)
      ∧ ∀ (primary secondary : Option (List UInt8)) (input : List UInt8),
        let t := transcript primary secondary input
        let lines := Text.lines input
        (∀ fault, Setting.read primary secondary = .error fault → ∀ e ∈ t.emissions, ¬e.Notifies)
          ∧ ∀ override, Setting.read primary secondary = .ok override →
            let c := start override
            t.emissions
                = greeting :: c.dialogue (heard lines) ++ (ending (stopping? lines)).emissions
              ∧ ¬greeting.Notifies ∧ ¬prompt.Notifies
              ∧ (∀ e ∈ (ending (stopping? lines)).emissions, ¬e.Notifies)
              ∧ ∀ before bytes after, heard lines = before ++ bytes :: after →
                let d := c.executeAll (commandsIn before)
                (∃ rest, c.dialogue (heard lines)
                    = c.dialogue before ++ prompt :: d.answer bytes ++ rest)
                  ∧ (∀ account, d.Blocks bytes account → ¬c.Warned before →
                      (d.answer bytes).filter Emission.Notifies = [notice account])
                  ∧ ((¬∃ account, d.Blocks bytes account) ∨ c.Warned before →
                      ∀ e ∈ d.answer bytes, ¬e.Notifies) := by
  refine ⟨fun c hnew before => Coordinator.notify_granted_iff hnew before, ?_⟩
  intro primary secondary input t lines
  refine ⟨?refused, ?accepted⟩
  case refused =>
    intro fault hread
    rw [show t = _ from transcript_of_error hread input]
    exact List.forall_mem_singleton.mpr (refusal_quiet fault)
  case accepted =>
    intro override hread c
    refine ⟨?_, greeting_quiet, prompt_quiet, ending_quiet _, ?_⟩
    · rw [show t = _ from transcript_of_ok hread input]
    · intro before bytes after hheard d
      have hwarned : d.notified = true ↔ c.Warned before := warned_iff rfl before
      refine ⟨?_, ?_, ?_⟩
      · rw [hheard, dialogue_append, dialogue, ← List.append_assoc]
        exact ⟨_, rfl⟩
      · intro account hblocks hfirst
        rw [answer_of_blocks hblocks, if_neg (mt hwarned.mp hfirst)]
      · intro hnone
        by_cases hblocks : ∃ account, d.Blocks bytes account
        · obtain ⟨account, hblocks⟩ := hblocks
          have hbefore : c.Warned before := hnone.resolve_left (not_not_intro ⟨account, hblocks⟩)
          have hsilent := answer_of_blocks hblocks
          rw [if_pos (hwarned.mpr hbefore)] at hsilent
          simpa using List.filter_eq_nil_iff.mp hsilent
        · exact answer_quiet hblocks

/-- Nobody administers the device, so every check blocks. The second
account is blocked while the notice for the first one stands; it is
dismissed for a third, and then one is due again. -/
theorem one_notice_between_dismissals_of_three :
    let lines := ["check 1".toUTF8.data.toList, "check 2".toUTF8.data.toList,
      "clear 3".toUTF8.data.toList, "check 1".toUTF8.data.toList]
    let input := "check 1\ncheck 2\nclear 3\ncheck 1\n".toUTF8.data.toList
    let c := start false
    let d : Coordinator PlainDevice := { device := {} }
    heard (Text.lines input) = lines
      ∧ (c.answer "check 1".toUTF8.data.toList).filter Emission.Notifies = [notice 1]
      ∧ (∀ e ∈ (c.executeAll [.check (some 1)]).answer "check 2".toUTF8.data.toList,
          ¬e.Notifies)
      ∧ ((c.executeAll [.check (some 1), .check (some 2), .dismiss 3]).answer
          "check 1".toUTF8.data.toList).filter Emission.Notifies = [notice 1]
      ∧ ((d.after [.request (.notify 1)]).step (.request (.notify 2))).result
        = .ok (.flag false) := by
  intro lines input c d
  have hheard : heard (Text.lines input) = lines := by rfl
  obtain ⟨hlatch, hconsole⟩ := one_notice_between_dismissals
  obtain ⟨-, hrun⟩ := hconsole none none input
  obtain ⟨-, -, -, -, hanswers⟩ := hrun false rfl
  obtain ⟨-, hone, -⟩ := hanswers [] "check 1".toUTF8.data.toList _ hheard
  obtain ⟨-, -, htwo⟩ :=
    hanswers ["check 1".toUTF8.data.toList] "check 2".toUTF8.data.toList _ hheard
  obtain ⟨-, hfour, -⟩ := hanswers ["check 1".toUTF8.data.toList, "check 2".toUTF8.data.toList,
    "clear 3".toUTF8.data.toList] "check 1".toUTF8.data.toList [] hheard
  obtain ⟨due, hdue, hnotify, -⟩ := hlatch d rfl [.request (.notify 1)]
  have hblocks : c.Blocks "check 1".toUTF8.data.toList 1 :=
    ⟨rfl, ⊥, Policy.ofWord_zero, by decide⟩
  refine ⟨hheard, hone 1 hblocks not_outstanding_nil, htwo (Or.inr ?_), hfour 1 ?_ ?_, ?_⟩
  · exact ⟨[], _, [], rfl, ⟨1, hblocks⟩, nofun⟩
  · exact ⟨rfl, ⊥, Policy.ofWord_zero, by decide⟩
  · rw [← warned_iff rfl]
    decide
  · have hnoticed : Noticed ([.request (.notify 1)] : List (Step PlainDevice)) :=
      ⟨[], _, [], rfl, rfl, nofun⟩
    have hdenied : due = false := Bool.eq_false_iff.mpr fun h => hdue.mp h hnoticed
    rw [hnotify 2, hdenied]

end Console

end LockPolicy
