import LockPolicy.Proofs.Inspection.Shortfall

/-!
# What a check asks

The fields of a policy settle what a check may ask of a device, and in
which order (`Policy.questions`). The device settles how far the check
gets: to the end if every answer meets the policy, and otherwise to the
first answer that does not, which gives the verdict. `Policy.Finds` says
this without the walk through the requirements, and `inspect_eq_iff` says
that it is what a check does.

All that a check makes is queries, so the device is left as it is. And
as nothing is asked where nothing is demanded, the check looks at three
fields of the policy (`inspect_unchecked`) and at no answer but those to
its questions (`AnswersAlike.inspect_eq`). Behind the admission of the
rules one query comes first, and is not made again
(`Rules.evaluate_asked`).
-/

namespace LockPolicy

/-! ## Going through requirements -/

namespace Requirement

variable {r r' : Reading} {qs before : List Requirement} {q : Requirement} {v : Verdict}

theorem inspectAll_of_met (h : ∀ q ∈ qs, q.failure? r = none) :
    inspectAll r qs = { verdict := .met, asked := qs.map query } := by
  induction qs with
  | nil => rfl
  | cons q qs ih =>
      obtain ⟨hq, hqs⟩ := List.forall_mem_cons.mp h
      simp only [inspectAll, hq, ih hqs, List.map_cons]

theorem inspectAll_of_failure (hbefore : ∀ q ∈ before, q.failure? r = none)
    (h : q.failure? r = some v) (after : List Requirement) :
    inspectAll r (before ++ q :: after)
      = { verdict := v, asked := before.map query ++ [q.query] } := by
  induction before with
  | nil => simp only [List.nil_append, inspectAll, h, List.map_nil]
  | cons q' before ih =>
      obtain ⟨hq', hrest⟩ := List.forall_mem_cons.mp hbefore
      simp only [List.cons_append, inspectAll, hq', ih hrest, List.map_cons]

theorem inspectAll_congr (h : ∀ q ∈ qs, q.failure? r' = q.failure? r) :
    inspectAll r' qs = inspectAll r qs := by
  induction qs with
  | nil => rfl
  | cons q qs ih =>
      obtain ⟨hq, hqs⟩ := List.forall_mem_cons.mp h
      simp only [inspectAll, hq, ih hqs]

end Requirement

namespace Policy

variable {p : Policy} {r r' : Reading} {i : Inspection}

/-! ## The questions of a policy -/

/-- What a check of the policy may ask, in its order. -/
def questions (p : Policy) : List Query :=
  (if 0 < p.minLength.val then [.minLength] else [])
    ++ (if p.strength ≠ .unset then [.quality, .sufficient] else [])
    ++ (if 0 < p.lockSeconds.val then [.timeToLock] else [])

/-- The answer to the query does not meet the policy. The verdict is the
one that says so. -/
inductive Unmet (p : Policy) (r : Reading) : Query → Verdict → Prop
  | minLength (h : r.minLength < p.minLength.val) :
      Unmet p r .minLength (.tooShort p.minLength r.minLength)
  | quality (h : r.quality < p.strength.quality) :
      Unmet p r .quality (.tooWeak p.strength.quality r.quality)
  | sufficient (h : r.sufficient = false) : Unmet p r .sufficient .insufficient
  | timeToLock (h : p.lockMillis < r.timeToLock) :
      Unmet p r .timeToLock (.locksTooLate p.lockMillis r.timeToLock)

/-- What a check of the policy finds on the device. -/
inductive Finds (p : Policy) (r : Reading) : Inspection → Prop
  /-- A policy without demands is not checked. -/
  | nothing (h : p = .empty) : Finds p r { verdict := .nothingRequired, asked := [] }
  | met (h : p ≠ .empty) (hmet : ∀ q ∈ p.questions, ∀ v, ¬p.Unmet r q v) :
      Finds p r { verdict := .met, asked := p.questions }
  /-- Nothing is asked after the first answer that does not meet the
  policy. -/
  | unmet {before after : List Query} {q : Query} {v : Verdict}
      (hquestions : p.questions = before ++ q :: after)
      (hbefore : ∀ q' ∈ before, ∀ v', ¬p.Unmet r q' v') (h : p.Unmet r q v) :
      Finds p r { verdict := v, asked := before ++ [q] }

theorem nodup_questions (p : Policy) : p.questions.Nodup := by
  unfold questions
  split <;> split <;> split <;> decide

/-- Who administers the device is not asked in the name of a policy. -/
theorem admin_not_mem_questions (p : Policy) : .admin ∉ p.questions := by
  unfold questions
  split <;> split <;> split <;> decide

theorem map_query_requirements (p : Policy) :
    p.requirements.map Requirement.query = p.questions := by
  simp only [requirements, questions, List.map_append, apply_ite (List.map Requirement.query),
    Nat.pos_iff_ne_zero, ne_eq, ite_not]
  rfl

theorem mem_requirements {q : Requirement} :
    q ∈ p.requirements ↔ p.minLength.val ≠ 0 ∧ q = .minLength p.minLength
      ∨ p.strength ≠ .unset ∧ (q = .quality p.strength.quality ∨ q = .sufficient)
      ∨ p.lockSeconds.val ≠ 0 ∧ q = .timeToLock p.lockMillis := by
  simp only [requirements, List.mem_append, List.mem_ite_nil_left, List.mem_cons,
    List.not_mem_nil, or_false, or_assoc, ne_eq]

/-- A requirement fails as its question is answered. -/
theorem failure?_eq_some_iff {q : Requirement} (hq : q ∈ p.requirements) {v : Verdict} :
    q.failure? r = some v ↔ p.Unmet r q.query v := by
  constructor
  · intro h
    rcases mem_requirements.mp hq with ⟨-, rfl⟩ | ⟨-, rfl | rfl⟩ | ⟨-, rfl⟩
    all_goals
      simp only [Requirement.failure?] at h
      split at h
      all_goals cases h
    · exact .minLength ‹_›
    · exact .quality ‹_›
    · exact .sufficient (Bool.eq_false_of_not_eq_true ‹_›)
    · exact .timeToLock ‹_›
  · intro h
    rcases mem_requirements.mp hq with ⟨-, rfl⟩ | ⟨-, rfl | rfl⟩ | ⟨-, rfl⟩
    all_goals
      obtain ⟨h⟩ | ⟨h⟩ | ⟨h⟩ | ⟨h⟩ := h
      simp [Requirement.failure?, h]

theorem failure?_eq_none {q : Requirement} (hq : q ∈ p.requirements)
    (h : ∀ v, ¬p.Unmet r q.query v) : q.failure? r = none := by
  rw [Option.eq_none_iff_forall_ne_some]
  intro v hv
  exact h v ((failure?_eq_some_iff hq).mp hv)

theorem not_unmet {q : Requirement} (hq : q ∈ p.requirements) (h : q.failure? r = none)
    (v : Verdict) : ¬p.Unmet r q.query v := by
  intro hunmet
  rw [(failure?_eq_some_iff hq).mpr hunmet] at h
  cases h

/-! ## What a check finds -/

theorem inspect_of_ne_empty (h : p ≠ .empty) (r : Reading) :
    p.inspect r = Requirement.inspectAll r p.requirements := by
  rw [inspect, isEmpty, decide_eq_false h]
  rfl

theorem finds_inspect (p : Policy) (r : Reading) : p.Finds r (p.inspect r) := by
  by_cases hempty : p = .empty
  · rw [hempty]
    exact .nothing rfl
  · rw [inspect_of_ne_empty hempty]
    cases hfirst : p.requirements.findSome? (Requirement.failure? r) with
    | none =>
        have hmet := List.findSome?_eq_none_iff.mp hfirst
        rw [Requirement.inspectAll_of_met hmet, map_query_requirements]
        refine .met hempty fun q hq v => ?_
        rw [← map_query_requirements, List.mem_map] at hq
        obtain ⟨q, hq, rfl⟩ := hq
        exact not_unmet hq (hmet q hq) v
    | some v =>
        obtain ⟨before, q, after, hsplit, hq, hbefore⟩ := List.findSome?_eq_some_iff.mp hfirst
        have hquestions : p.questions
            = before.map Requirement.query ++ q.query :: after.map Requirement.query := by
          rw [← map_query_requirements, hsplit, List.map_append, List.map_cons]
        have hmem : q ∈ p.requirements := by simp [hsplit]
        rw [hsplit, Requirement.inspectAll_of_failure hbefore hq]
        refine .unmet hquestions ?_ ((failure?_eq_some_iff hmem).mp hq)
        intro asked hasked v'
        obtain ⟨q', hq', rfl⟩ := List.mem_map.mp hasked
        have hmem' : q' ∈ p.requirements := by simp [hsplit, hq']
        exact not_unmet hmem' (hbefore q' hq') v'

theorem Finds.eq_inspect (h : p.Finds r i) : p.inspect r = i := by
  cases h with
  | nothing hempty =>
      rw [hempty]
      rfl
  | met hempty hmet =>
      have hall : ∀ q ∈ p.requirements, q.failure? r = none := by
        intro q hq
        refine failure?_eq_none hq (hmet q.query ?_)
        rw [← map_query_requirements]
        exact List.mem_map_of_mem hq
      rw [inspect_of_ne_empty hempty, Requirement.inspectAll_of_met hall, map_query_requirements]
  | unmet hquestions hbefore h =>
      have hempty : p ≠ .empty := by
        rintro rfl
        simp [questions, empty] at hquestions
      rw [← map_query_requirements, List.map_eq_append_iff] at hquestions
      obtain ⟨first, rest, hsplit, rfl, hrest⟩ := hquestions
      obtain ⟨q, after, rfl, rfl, -⟩ := List.map_eq_cons_iff.mp hrest
      have hmem : q ∈ p.requirements := by simp [hsplit]
      have hfirst : ∀ q' ∈ first, q'.failure? r = none := by
        intro q' hq'
        have hmem' : q' ∈ p.requirements := by simp [hsplit, hq']
        exact failure?_eq_none hmem' (hbefore q'.query (List.mem_map_of_mem hq'))
      rw [inspect_of_ne_empty hempty, hsplit, Requirement.inspectAll_of_failure hfirst
        ((failure?_eq_some_iff hmem).mpr h)]

/-- A check finds what there is to find, and nothing else. -/
theorem inspect_eq_iff : p.inspect r = i ↔ p.Finds r i := by
  constructor
  · rintro rfl
    exact p.finds_inspect r
  · exact Finds.eq_inspect

theorem Finds.asked_prefix_questions (h : p.Finds r i) : i.asked <+: p.questions := by
  cases h with
  | nothing _ => exact List.nil_prefix
  | met _ _ => exact List.prefix_rfl
  | unmet hquestions _ _ =>
      rw [hquestions]
      exact ⟨_, List.append_assoc ..⟩

theorem asked_prefix_questions (p : Policy) (r : Reading) : (p.inspect r).asked <+: p.questions :=
  (p.finds_inspect r).asked_prefix_questions

theorem Finds.nothingRequired_iff (h : p.Finds r i) :
    i.verdict = .nothingRequired ↔ p = .empty := by
  cases h with
  | nothing hempty => exact iff_of_true rfl hempty
  | met hempty _ => exact iff_of_false nofun hempty
  | unmet hquestions _ h =>
      refine iff_of_false ?_ ?_
      · cases h <;> nofun
      · rintro rfl
        simp [questions, empty] at hquestions

theorem Finds.met_iff (h : p.Finds r i) :
    i.verdict = .met ↔ p ≠ .empty ∧ ∀ q ∈ p.questions, ∀ v, ¬p.Unmet r q v := by
  cases h with
  | nothing hempty => exact iff_of_false nofun fun h => h.1 hempty
  | met hempty hmet => exact iff_of_true rfl ⟨hempty, hmet⟩
  | @unmet before after q v hquestions _ h =>
      refine iff_of_false ?_ ?_
      · cases h <;> nofun
      · rintro ⟨-, hmet⟩
        exact hmet q (by simp [hquestions]) v h

/-! ## What a check does not look at -/

/-- How many failures are let pass and whether the device can be erased
is not checked, unless nothing else is demanded. -/
theorem inspect_unchecked {maxFailures : Fin 32} {remoteWipe : Bool} (hp : p ≠ .empty)
    (hq : { p with maxFailures, remoteWipe } ≠ empty) (r : Reading) :
    inspect { p with maxFailures, remoteWipe } r = p.inspect r := by
  rw [inspect_of_ne_empty hq, inspect_of_ne_empty hp]
  rfl

/-- Two devices answer alike wherever the policy demands something. -/
structure AnswersAlike (p : Policy) (r r' : Reading) : Prop where
  minLength (h : p.minLength.val ≠ 0) : r'.minLength = r.minLength
  quality (h : p.strength ≠ .unset) : r'.quality = r.quality
  sufficient (h : p.strength ≠ .unset) : r'.sufficient = r.sufficient
  timeToLock (h : p.lockSeconds.val ≠ 0) : r'.timeToLock = r.timeToLock

theorem AnswersAlike.inspect_eq (h : p.AnswersAlike r r') : p.inspect r' = p.inspect r := by
  have hfailure : ∀ q ∈ p.requirements, q.failure? r' = q.failure? r := by
    intro q hq
    rcases mem_requirements.mp hq with ⟨hset, rfl⟩ | ⟨hset, rfl | rfl⟩ | ⟨hset, rfl⟩
    · simp only [Requirement.failure?, h.minLength hset]
    · simp only [Requirement.failure?, h.quality hset]
    · simp only [Requirement.failure?, h.sufficient hset]
    · simp only [Requirement.failure?, h.timeToLock hset]
  rw [inspect, inspect, Requirement.inspectAll_congr hfailure]

end Policy

/-! ## Behind the admission -/

namespace Rules

theorem evaluate_of_inactive (rules : Rules) {r : Reading} (h : r.admin = false) (p : Policy) :
    rules.evaluate p r =
      { verdict := if rules.override then .overridden else .adminInactive, asked := [.admin] } := by
  simp only [evaluate, admission, h, Bool.false_eq_true, if_false]

theorem evaluate_of_active (rules : Rules) {r : Reading} (h : r.admin = true) (p : Policy) :
    rules.evaluate p r =
      { verdict := (p.inspect r).verdict, asked := .admin :: (p.inspect r).asked } := by
  simp only [evaluate, admission, h, if_true, List.cons_append, List.nil_append]

theorem evaluate_asked (rules : Rules) (p : Policy) (r : Reading) :
    ∃ rest, (rules.evaluate p r).asked = .admin :: rest ∧ .admin ∉ rest := by
  cases hadmin : r.admin with
  | false =>
      rw [rules.evaluate_of_inactive hadmin]
      exact ⟨[], rfl, List.not_mem_nil⟩
  | true =>
      rw [rules.evaluate_of_active hadmin]
      refine ⟨(p.inspect r).asked, rfl, ?_⟩
      intro hasked
      exact p.admin_not_mem_questions ((p.asked_prefix_questions r).subset hasked)

end Rules

namespace Policy

/-! ## The trace of a check -/

/-- **A check asks up to the first answer that does not meet the
policy.** What a check finds is settled by the questions of the policy
and the answers to them. It asks none of them twice and none out of its
place. Nothing is required exactly where the policy is empty, and all is
met exactly where it is not empty and every answer meets it. Policies
that differ in nothing but the failures and the remote wipe are checked
alike unless one of them is empty, and so are devices that answer alike
wherever the policy demands something. -/
theorem inspect_up_to_unmet (p : Policy) (r : Reading) :
    (∀ i, p.inspect r = i ↔ p.Finds r i)
      ∧ (p.inspect r).asked <+: p.questions ∧ (p.inspect r).asked.Nodup
      ∧ ((p.inspect r).verdict = .nothingRequired ↔ p = .empty)
      ∧ ((p.inspect r).verdict = .met ↔ p ≠ .empty ∧ ∀ q ∈ p.questions, ∀ v, ¬p.Unmet r q v)
      ∧ (∀ maxFailures remoteWipe, p ≠ .empty → { p with maxFailures, remoteWipe } ≠ empty →
          inspect { p with maxFailures, remoteWipe } r = p.inspect r)
      ∧ ∀ r', p.AnswersAlike r r' → p.inspect r' = p.inspect r := by
  have hprefix := p.asked_prefix_questions r
  have hfinds := p.finds_inspect r
  refine ⟨fun i => inspect_eq_iff, hprefix, ?_, hfinds.nothingRequired_iff, hfinds.met_iff, ?_, ?_⟩
  · exact hprefix.sublist.nodup p.nodup_questions
  · intro maxFailures remoteWipe hp hq
    exact inspect_unchecked hp hq r
  · intro r' halike
    exact halike.inspect_eq

/-- The class is the first answer that does not meet the policy, so the
password and the lock time are not asked about. Without demands on the
lock time and on failures the device may answer as it likes there. -/
theorem inspect_up_to_unmet_of_weak :
    let r : Reading := { minLength := 8, quality := .numeric, timeToLock := 600000 }
    inspect ⟨8, .strong, 5, 60, false⟩ r
        = { verdict := .tooWeak .alphanumeric .numeric, asked := [.minLength, .quality] }
      ∧ inspect ⟨8, .strong, 0, 60, true⟩ r = inspect ⟨8, .strong, 5, 60, false⟩ r
      ∧ inspect ⟨8, .strong, 5, 0, false⟩ { r with admin := true, timeToLock := 0 }
        = inspect ⟨8, .strong, 5, 0, false⟩ r := by
  intro r
  obtain ⟨hfinds, -, -, -, -, hunchecked, -⟩ := inspect_up_to_unmet ⟨8, .strong, 5, 60, false⟩ r
  obtain ⟨-, -, -, -, -, -, halike⟩ := inspect_up_to_unmet ⟨8, .strong, 5, 0, false⟩ r
  refine ⟨(hfinds _).mpr ?_, hunchecked 0 true (by decide) (by decide), halike _ ?_⟩
  · have hquestions : questions ⟨8, .strong, 5, 60, false⟩
        = [.minLength] ++ .quality :: [.sufficient, .timeToLock] := rfl
    have hlength : ∀ q ∈ [Query.minLength], ∀ v, ¬Unmet ⟨8, .strong, 5, 60, false⟩ r q v := by
      intro q hq v h
      obtain rfl := List.mem_singleton.mp hq
      cases h with
      | minLength h => exact absurd h (by decide)
    exact .unmet hquestions hlength (.quality (by decide))
  · exact ⟨fun _ => rfl, fun _ => rfl, fun _ => rfl, fun h => absurd rfl h⟩

end Policy

end LockPolicy
