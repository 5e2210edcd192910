import LockPolicy.Proofs.Policy.Join

/-!
# Policies that arrive in portions

The policies of a device need not be at hand in one list. Whoever
collects them adds them to a tally as they arrive, one at a time or many
at once. What the tally holds then depends on the policies alone, not on
how they were cut into portions: there is a tally of a list, told field
by field (`Tally.of`), and to add a policy leads from the tally of a list
to the tally of the longer list (`add_of`).

A tally takes two shortcuts. It passes over a policy that demands
nothing, and as long as nobody has contributed it answers at once. The
plain way takes neither, and its tallies are others: they count every
policy and note the zeros of the empty one. But one shadows the other
(`Shadows`), and so they demand the same.
-/

namespace LockPolicy

/-- Policies that are added at once. -/
inductive Portion where
  | one (p : Policy)
  | many (ps : List Policy)

def Portion.policies : Portion → List Policy
  | one p => [p]
  | many ps => ps

namespace Tally

variable {t u : Tally}

/-! ## Portions -/

section Feeding

variable (step : Tally → Policy → Tally)

/-- Adds a portion to a tally, each of its policies by the given step. -/
def feed (t : Tally) : Portion → Tally
  | .one p => step t p
  | .many ps => ps.foldl step t

def feedAll (t : Tally) (portions : List Portion) : Tally :=
  portions.foldl (feed step) t

theorem feed_eq_foldl (t : Tally) (portion : Portion) :
    feed step t portion = portion.policies.foldl step t := by
  cases portion <;> rfl

/-- Where one portion ends and the next one begins is of no account. -/
theorem feedAll_eq_foldl (t : Tally) (portions : List Portion) :
    feedAll step t portions = (portions.flatMap Portion.policies).foldl step t := by
  induction portions generalizing t with
  | nil => rfl
  | cons portion portions ih =>
      rw [List.flatMap_cons, List.foldl_append, ← feed_eq_foldl]
      exact ih (feed step t portion)

end Feeding

/-! ## What a tally holds -/

/-- The policies that demand anything. -/
def speakers (ps : List Policy) : List Policy :=
  ps.filter (!·.isEmpty)

/-- The values of a field that are limits. -/
def limits {n : Nat} (values : List (Fin (n + 1))) : List (Fin (n + 1)) :=
  values.filter (·.val ≠ 0)

/-- The tally of a list of policies. -/
def of (ps : List Policy) : Tally where
  contributed := (speakers ps).length
  minLength := ((speakers ps).map Policy.minLength).max?
  strength := ((speakers ps).map Policy.strength).max?
  maxFailures := (limits (ps.map Policy.maxFailures)).min?
  lockSeconds := (limits (ps.map Policy.lockSeconds)).min?
  remoteWipe := ps.any Policy.remoteWipe

theorem filter_snoc {α : Type} (keep : α → Bool) (values : List α) (new : α) :
    (values ++ [new]).filter keep
      = if keep new then values.filter keep ++ [new] else values.filter keep := by
  rw [List.filter_append]
  split
  · rename_i hnew
    rw [List.filter_cons_of_pos hnew, List.filter_nil]
  · rename_i hnew
    rw [List.filter_cons_of_neg hnew, List.filter_nil, List.append_nil]

theorem speakers_snoc (ps : List Policy) (p : Policy) :
    speakers (ps ++ [p]) = if p.isEmpty then speakers ps else speakers ps ++ [p] := by
  rw [speakers, filter_snoc]
  cases p.isEmpty <;> rfl

theorem limits_snoc {n : Nat} (values : List (Fin (n + 1))) (new : Fin (n + 1)) :
    limits (values ++ [new]) = if new.val = 0 then limits values else limits values ++ [new] := by
  rw [limits, filter_snoc]
  by_cases hnew : new.val = 0
  · rw [if_pos hnew, if_neg (by simpa using hnew), limits]
  · rw [if_neg hnew, if_pos (by simpa using hnew), limits]

/-- The best of the values so far is raised to the best of one more. -/
theorem raise_max? {α : Type} [LinearOrder α] (values : List α) (new : α) :
    raise values.max? new = (values ++ [new]).max? := by
  cases values with
  | nil => rfl
  | cons a values =>
      rw [List.cons_append, List.max?_cons', List.max?_cons', List.foldl_append]
      exact congrArg some (max_def _ new).symm

theorem tighten_min? {n : Nat} (values : List (Fin (n + 1))) (new : Fin (n + 1)) :
    tighten (limits values).min? new = (limits (values ++ [new])).min? := by
  rw [limits_snoc]
  unfold tighten
  split
  · rfl
  · cases limits values with
    | nil => rfl
    | cons a values =>
        rw [List.cons_append, List.min?_cons', List.min?_cons', List.foldl_append]
        exact congrArg some ((min_def new _).symm.trans (min_comm new _))

/-- What a tally holds after one more policy, whether it is passed over
or taken. -/
theorem add_of (ps : List Policy) (p : Policy) : (of ps).add p = of (ps ++ [p]) := by
  rw [add]
  split
  · rename_i hp
    obtain rfl : p = .empty := Policy.isEmpty_iff.mp hp
    simp [of, speakers_snoc, limits_snoc, Policy.isEmpty, Policy.empty]
  · rename_i hp
    simp [of, take, speakers_snoc, hp, raise_max?, tighten_min?]

theorem addAll_of (ps qs : List Policy) : (of ps).addAll qs = of (ps ++ qs) := by
  induction qs generalizing ps with
  | nil => rw [List.append_nil]; rfl
  | cons q qs ih =>
      calc ((of ps).add q).addAll qs
          = (of (ps ++ [q])).addAll qs := by rw [add_of]
        _ = of (ps ++ q :: qs) := by rw [ih, List.append_assoc, List.singleton_append]

/-- What a run of additions from the start arrives at. -/
theorem feedAll_add_eq_of (portions : List Portion) :
    feedAll add {} portions = of (portions.flatMap Portion.policies) :=
  (feedAll_eq_foldl add {} portions).trans (addAll_of [] _)

/-! ## Which fields are set -/

/-- The tally may stand for the policies: it has counted those that
demand anything and has set the fields that one of them has spoken on. -/
structure Represents (t : Tally) (ps : List Policy) : Prop where
  contributed : t.contributed = (speakers ps).length
  minLength : t.minLength.isSome = true ↔ 0 < t.contributed
  strength : t.strength.isSome = true ↔ 0 < t.contributed
  maxFailures : t.maxFailures.isSome = true ↔ ∃ p ∈ ps, p.maxFailures.val ≠ 0
  maxFailures_ne : ∀ a ∈ t.maxFailures, a.val ≠ 0
  lockSeconds : t.lockSeconds.isSome = true ↔ ∃ p ∈ ps, p.lockSeconds.val ≠ 0
  lockSeconds_ne : ∀ a ∈ t.lockSeconds, a.val ≠ 0

theorem max?_isSome_iff {α : Type} [LinearOrder α] (f : Policy → α) (ps : List Policy) :
    (ps.map f).max?.isSome = true ↔ 0 < ps.length := by
  rw [List.isSome_max?_iff, ne_eq, List.map_eq_nil_iff, List.length_pos_iff]

theorem limits_isSome_iff {n : Nat} (f : Policy → Fin (n + 1)) (ps : List Policy) :
    (limits (ps.map f)).min?.isSome = true ↔ ∃ p ∈ ps, (f p).val ≠ 0 := by
  rw [List.isSome_min?_iff, limits, ne_eq, List.filter_eq_nil_iff]
  simp

theorem ne_of_mem_limits {n : Nat} {values : List (Fin (n + 1))} {a : Fin (n + 1)}
    (h : a ∈ (limits values).min?) : a.val ≠ 0 := by
  have hmem : a ∈ limits values := List.min?_mem h
  exact of_decide_eq_true (List.mem_filter.mp hmem).2

theorem represents_of (ps : List Policy) : Represents (of ps) ps where
  contributed := rfl
  minLength := max?_isSome_iff _ _
  strength := max?_isSome_iff _ _
  maxFailures := limits_isSome_iff _ _
  maxFailures_ne _ := ne_of_mem_limits
  lockSeconds := limits_isSome_iff _ _
  lockSeconds_ne _ := ne_of_mem_limits

/-! ## The plain way -/

/-- The tallies demand the same, whichever of their fields are set. -/
structure Shadows (u t : Tally) : Prop where
  sound_left : u.Sound
  sound_right : t.Sound
  demands_eq : u.demands = t.demands

/-- One step of both: where the right one passes over an empty policy,
the left one notes its zeros. -/
theorem Shadows.step (h : Shadows u t) (p : Policy) : Shadows (u.take p) (t.add p) where
  sound_left := h.sound_left.take p
  sound_right := h.sound_right.add p
  demands_eq := by
    rw [demands_take h.sound_left, demands_add h.sound_right, h.demands_eq]

theorem Shadows.foldl (h : Shadows u t) (ps : List Policy) :
    Shadows (ps.foldl take u) (ps.foldl add t) := by
  induction ps generalizing u t with
  | nil => exact h
  | cons p ps ih => exact ih (h.step p)

/-- A run of both from the start, portion by portion. -/
theorem Shadows.feedAll (portions : List Portion) :
    Shadows (feedAll take {} portions) (feedAll add {} portions) := by
  have hstart : Shadows {} {} := ⟨sound_empty, sound_empty, rfl⟩
  rw [feedAll_eq_foldl, feedAll_eq_foldl]
  exact hstart.foldl _

/-- **Streaming is merging.** After any portions the tally is the one of
all their policies: it has counted those that demand anything, its
maxima are set once one has, a minimum is set once one limits that field,
and holds a limit then. Its answer is the merge of all the policies in
one list, which is also what a tally demands that took the empty policies
too and does not answer early. -/
theorem streaming_is_merging (portions : List Portion) :
    let fed := portions.flatMap Portion.policies
    let t := feedAll add {} portions
    t = of fed ∧ Represents t fed ∧ t.strictest = Policy.merge fed
      ∧ (feedAll take {} portions).demands = t.strictest := by
  intro fed t
  have ht : t = of fed := feedAll_add_eq_of portions
  refine ⟨ht, ht ▸ represents_of fed, ?merge, ?plain⟩
  case merge =>
    exact congrArg strictest (feedAll_eq_foldl add {} portions)
  case plain =>
    have h := Shadows.feedAll portions
    rw [h.demands_eq, strictest_eq_demands h.sound_right]

/-- The two tallies themselves differ once an empty policy was there. -/
example : feedAll take {} [.many [.empty]] ≠ feedAll add {} [.many [.empty]] := by
  decide

end Tally

end LockPolicy
