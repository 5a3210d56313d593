import DpostV2.Runtime.Gates
import Mathlib.Data.List.Chain
import Mathlib.Data.List.Induction

/-!
# All decisions of the debounce gate

`ModifiedEventGate` over whole sequences of evaluations. What the gate has stored for a key is
the time of the last evaluation it allowed (`after_lastAllow`), so that the answer to
an evaluation is told by the answers before it (`evaluations_debounced`).
-/

namespace DpostV2.Runtime.ModifiedEventGate

structure Evaluation where
  key : String
  timestamp : Seconds
  answer : Except Exn ModifiedEventGateResult

def Evaluation.decision? (e : Evaluation) : Option ModifiedEventDecision :=
  e.answer.toOption.map ModifiedEventGateResult.decision

def fresh : LastSeen := fun _ => none

/-- The times at which a key was allowed. -/
def allowTimes (key : String) (es : List Evaluation) : List Seconds :=
  (es.filter fun e => e.key = key ∧ e.decision? = some .allow).map Evaluation.timestamp

def lastAllow (key : String) (es : List Evaluation) : Option Seconds := (allowTimes key es).getLast?

theorem allowTimes_append (key : String) (es es' : List Evaluation) :
    allowTimes key (es ++ es') = allowTimes key es ++ allowTimes key es' := by
  simp [allowTimes]

/-- Evaluations that do not allow the key leave its last one as it is. -/
theorem lastAllow_append {key : String} {es es' : List Evaluation}
    (h : ∀ e ∈ es', e.key = key → e.decision? ≠ some .allow) :
    lastAllow key (es ++ es') = lastAllow key es := by
  have hnone : allowTimes key es' = [] := by
    simp only [allowTimes, List.map_eq_nil_iff, List.filter_eq_nil_iff, decide_eq_true_eq]
    rintro e he ⟨hkey, hallow⟩
    exact h e he hkey hallow
  rw [lastAllow, allowTimes_append, hnone, List.append_nil, lastAllow]

section
variable [Interpreter] (config : ModifiedEventGateConfig)

def evaluated (seen : LastSeen) (key : String) (timestamp : Seconds) : Evaluation :=
  { key, timestamp, answer := (evaluate config seen key timestamp).1 }

def evaluations (seen : LastSeen) : List (String × Seconds) → List Evaluation
  | [] => []
  | (key, timestamp) :: rest => evaluated config seen key timestamp ::
      evaluations (evaluate config seen key timestamp).2 rest

def after (seen : LastSeen) (calls : List (String × Seconds)) : LastSeen :=
  calls.foldl (fun seen call => (evaluate config seen call.1 call.2).2) seen

/-- What the gate says of a key last allowed at some time, if ever. -/
inductive Verdict (key : String) (last : Option Seconds) (timestamp : Seconds) :
    Except Exn ModifiedEventGateResult → Prop
  | allowed (result : ModifiedEventGateResult) (named : key ≠ "")
      (decision : result.decision = .allow)
      (eligible : ∀ a, last = some a → a + config.windowSeconds ≤ timestamp) :
      Verdict key last timestamp (.ok result)
  | dropped (result : ModifiedEventGateResult) (named : key ≠ "") (a : Seconds)
      (allowed : last = some a) (decision : result.decision = .dropDuplicate)
      (since : a ≤ timestamp) (inside : timestamp < a + config.windowSeconds)
      (next : result.nextEligibleAt = some (a + config.windowSeconds)) :
      Verdict key last timestamp (.ok result)
  | unnamed (e : Exn) (empty : key = "") : Verdict key last timestamp (.error e)
  | regressed (e : Exn) (a : Seconds) (allowed : last = some a) (regression : timestamp < a) :
      Verdict key last timestamp (.error e)

-- ---------------------------------------------------------------------------
-- One evaluation
-- ---------------------------------------------------------------------------

theorem evaluate_verdict (seen : LastSeen) (key : String) (timestamp : Seconds) :
    Verdict config key (seen key) timestamp (evaluate config seen key timestamp).1 := by
  unfold evaluate
  split
  · rename_i hkey
    exact .unnamed _ hkey
  · rename_i hkey
    split
    · rename_i hnone
      rw [hnone]
      exact .allowed _ hkey rfl nofun
    · rename_i lastSeen hlast
      rw [hlast]
      split
      · rename_i hregression
        exact .regressed _ lastSeen rfl hregression
      · rename_i hsince
        split
        · rename_i hinside
          exact .dropped _ hkey lastSeen rfl rfl (not_lt.mp hsince)
            (sub_lt_iff_lt_add'.mp hinside) rfl
        · rename_i hinside
          refine .allowed _ hkey rfl ?_
          rintro _ ⟨⟩
          exact le_sub_iff_add_le'.mp (not_lt.mp hinside)

variable {config} in
omit [Interpreter] in
theorem Verdict.eligible {e : Evaluation} {last : Option Seconds}
    (h : Verdict config e.key last e.timestamp e.answer) (hallow : e.decision? = some .allow) :
    ∀ a, last = some a → a + config.windowSeconds ≤ e.timestamp := by
  obtain ⟨key, timestamp, answer⟩ := e
  cases h with
  | allowed result _ _ eligible => exact eligible
  | dropped result _ a _ decision _ _ _ =>
    simp [Evaluation.decision?, Except.toOption, decision] at hallow
  | unnamed e _ => simp [Evaluation.decision?, Except.toOption] at hallow
  | regressed e a _ _ => simp [Evaluation.decision?, Except.toOption] at hallow

/-- An evaluation stores its time where it allows its key, and nothing else. -/
theorem evaluate_stores (seen : LastSeen) (eventKey : String) (timestamp : Seconds) (key : String) :
    (evaluate config seen eventKey timestamp).2 key =
      if (evaluated config seen eventKey timestamp).key = key ∧
        (evaluated config seen eventKey timestamp).decision? = some .allow then some timestamp
      else seen key := by
  unfold evaluated Evaluation.decision? evaluate
  dsimp only
  split
  · simp [Except.toOption]
  · split
    · simp [Except.toOption, Function.update_apply, eq_comm]
    · split
      · simp [Except.toOption]
      · split
        · simp [Except.toOption]
        · simp [Except.toOption, Function.update_apply, eq_comm]

theorem evaluate_raised {seen : LastSeen} {key : String} {timestamp : Seconds} {e : Exn}
    (h : (evaluate config seen key timestamp).1 = .error e) :
    (evaluate config seen key timestamp).2 = seen := by
  funext key'
  rw [evaluate_stores]
  simp [evaluated, Evaluation.decision?, h, Except.toOption]

/-- An answer depends on what is stored for its key. -/
theorem evaluated_congr {seen seen' : LastSeen} {key : String} (timestamp : Seconds)
    (h : seen key = seen' key) :
    evaluated config seen key timestamp = evaluated config seen' key timestamp := by
  unfold evaluated evaluate
  rw [← h]
  split
  · rfl
  · split
    · rfl
    · split
      · rfl
      · split <;> rfl

@[simp] theorem evaluated_key (seen : LastSeen) (key : String) (timestamp : Seconds) :
    (evaluated config seen key timestamp).key = key := rfl

-- ---------------------------------------------------------------------------
-- Sequences
-- ---------------------------------------------------------------------------

theorem evaluations_append (seen : LastSeen) (calls calls' : List (String × Seconds)) :
    evaluations config seen (calls ++ calls') =
      evaluations config seen calls ++ evaluations config (after config seen calls) calls' := by
  induction calls generalizing seen with
  | nil => rfl
  | cons call rest ih => simp [evaluations, after, ih]

theorem evaluations_length (seen : LastSeen) (calls : List (String × Seconds)) :
    (evaluations config seen calls).length = calls.length := by
  induction calls generalizing seen with
  | nil => rfl
  | cons call rest ih => simp [evaluations, ih]

theorem after_snoc (seen : LastSeen) (calls : List (String × Seconds)) (call : String × Seconds) :
    after config seen (calls ++ [call]) =
      (evaluate config (after config seen calls) call.1 call.2).2 := by
  simp [after]

/-- Where an evaluation stands, a call stands. -/
theorem evaluations_split {seen : LastSeen} {calls : List (String × Seconds)}
    {before later : List Evaluation} {e : Evaluation}
    (h : evaluations config seen calls = before ++ e :: later) :
    ∃ calls₁ calls₂, calls = calls₁ ++ (e.key, e.timestamp) :: calls₂ ∧
      evaluations config seen calls₁ = before ∧
      e.answer = (evaluate config (after config seen calls₁) e.key e.timestamp).1 ∧
      later = evaluations config
        (evaluate config (after config seen calls₁) e.key e.timestamp).2 calls₂ := by
  induction before generalizing seen calls with
  | nil =>
    cases calls with
    | nil => cases h
    | cons call rest =>
      obtain ⟨rfl, rfl⟩ := List.cons.inj h
      exact ⟨[], rest, rfl, rfl, rfl, rfl⟩
  | cons first before ih =>
    cases calls with
    | nil => cases h
    | cons call rest =>
      obtain ⟨hfirst, hrest⟩ := List.cons.inj h
      obtain ⟨calls₁, calls₂, rfl, hbefore, hanswer, hlater⟩ := ih hrest
      refine ⟨call :: calls₁, calls₂, rfl, ?_, hanswer, hlater⟩
      rw [evaluations, hbefore]
      exact congrArg (· :: before) hfirst

/-- What is stored for a key is when it was last allowed. -/
theorem after_lastAllow (calls : List (String × Seconds)) (key : String) :
    after config fresh calls key = lastAllow key (evaluations config fresh calls) := by
  induction calls using List.reverseRecOn with
  | nil => rfl
  | append_singleton calls call ih =>
    have hone : ∀ e : Evaluation, allowTimes key [e] =
        if e.key = key ∧ e.decision? = some .allow then [e.timestamp] else [] := by
      intro e
      simp only [allowTimes, List.filter_cons, List.filter_nil, decide_eq_true_eq]
      split <;> rfl
    rw [after_snoc, evaluate_stores, ih, evaluations_append, lastAllow, lastAllow,
      allowTimes_append, evaluations, evaluations, hone]
    split
    · rw [List.getLast?_concat]
      rfl
    · rw [List.append_nil]

/-- An answer is told by the answers before it. -/
theorem evaluations_verdict {calls : List (String × Seconds)} {before later : List Evaluation}
    {e : Evaluation} (h : evaluations config fresh calls = before ++ e :: later) :
    Verdict config e.key (lastAllow e.key before) e.timestamp e.answer := by
  obtain ⟨calls₁, calls₂, -, rfl, hanswer, -⟩ := evaluations_split config h
  rw [hanswer, ← after_lastAllow]
  exact evaluate_verdict config _ _ _

theorem evaluations_perKey {seen seen' : LastSeen} {key : String} (h : seen key = seen' key)
    (calls : List (String × Seconds)) :
    (evaluations config seen calls).filter (·.key = key) =
      evaluations config seen' (calls.filter (·.1 = key)) := by
  induction calls generalizing seen seen' with
  | nil => rfl
  | cons call rest ih =>
    obtain ⟨eventKey, timestamp⟩ := call
    by_cases hkey : eventKey = key
    · subst hkey
      have hevaluated := evaluated_congr config timestamp h
      have hstored : (evaluate config seen eventKey timestamp).2 eventKey =
          (evaluate config seen' eventKey timestamp).2 eventKey := by
        rw [evaluate_stores, evaluate_stores, hevaluated, h]
      simp [evaluations, hevaluated, ih hstored]
    · have hstored := (evaluate_other config seen timestamp hkey).trans h
      simp [evaluations, hkey, ih hstored]

/-- The times a key is allowed at are a window apart. -/
theorem allowTimes_spaced (calls : List (String × Seconds)) (key : String) :
    (allowTimes key (evaluations config fresh calls)).IsChain
      fun a b => a + config.windowSeconds ≤ b := by
  induction calls using List.reverseRecOn with
  | nil => exact .nil
  | append_singleton calls call ih =>
    have hverdict := evaluations_verdict config
      (evaluations_append config fresh calls [call])
    rw [evaluations_append, allowTimes_append, List.isChain_append]
    refine ⟨ih, ?_, ?_⟩
    · simp only [evaluations, allowTimes, List.filter_cons, List.filter_nil]
      split <;> simp
    · intro a ha b hb
      simp only [evaluations, allowTimes, List.filter_cons, List.filter_nil] at hb
      split at hb
      · rename_i hallow
        obtain ⟨hkey, hdecision⟩ := of_decide_eq_true hallow
        simp only [List.map_cons, List.map_nil, List.head?_cons, Option.mem_some_iff] at hb
        subst hb
        subst hkey
        exact hverdict.eligible hdecision a ha
      · simp at hb

-- ---------------------------------------------------------------------------
-- The gate over whole sequences
-- ---------------------------------------------------------------------------

structure Debounced (calls : List (String × Seconds)) : Prop where
  spaced : ∀ key, (allowTimes key (evaluations config fresh calls)).IsChain
    fun a b => a + config.windowSeconds ≤ b
  dropped : ∀ before e later result, evaluations config fresh calls = before ++ e :: later →
    e.answer = .ok result → result.decision = .dropDuplicate →
    ∃ a, lastAllow e.key before = some a ∧ a ≤ e.timestamp ∧
      e.timestamp < a + config.windowSeconds ∧
      result.nextEligibleAt = some (a + config.windowSeconds)
  /-- As long as the key has not been allowed since. -/
  eligible : ∀ before d between e later result next,
    evaluations config fresh calls = before ++ d :: between ++ e :: later →
    d.answer = .ok result → result.decision = .dropDuplicate → result.nextEligibleAt = some next →
    e.key = d.key → (∀ other ∈ between, other.key = d.key → other.decision? ≠ some .allow) →
    next ≤ e.timestamp → e.decision? = some .allow
  perKey : ∀ key, (evaluations config fresh calls).filter (·.key = key) =
    evaluations config fresh (calls.filter (·.1 = key))
  undisturbed : ∀ before e later exn, evaluations config fresh calls = before ++ e :: later →
    e.answer = .error exn →
    ∃ calls₁ calls₂, calls = calls₁ ++ (e.key, e.timestamp) :: calls₂ ∧
      calls₁.length = before.length ∧
      evaluations config fresh (calls₁ ++ calls₂) = before ++ later

theorem evaluations_debounced (calls : List (String × Seconds)) : Debounced config calls where
  spaced := allowTimes_spaced config calls
  dropped before e later result h hanswer hdrop := by
    have hverdict := evaluations_verdict config h
    rw [hanswer] at hverdict
    cases hverdict with
    | allowed _ _ decision _ => simp [decision] at hdrop
    | dropped _ _ a allowed _ since inside next => exact ⟨a, allowed, since, inside, next⟩
  eligible before d between e later result next h hanswer hdrop hnext hkey hbetween hle := by
    have hdropped := evaluations_verdict config
      (h.trans (by simp) : _ = before ++ d :: (between ++ e :: later))
    have hverdict := evaluations_verdict config h
    rw [hanswer] at hdropped
    cases hdropped with
    | allowed _ _ decision _ => simp [decision] at hdrop
    | dropped _ named a allowed _ _ _ next' =>
      obtain rfl : a + config.windowSeconds = next := Option.some.inj (next'.symm.trans hnext)
      have hlast : lastAllow e.key (before ++ d :: between) = some a := by
        rw [hkey, lastAllow_append, allowed]
        intro other hother hsame
        rcases List.mem_cons.mp hother with rfl | hother
        · simp [Evaluation.decision?, hanswer, Except.toOption, hdrop]
        · exact hbetween other hother hsame
      rw [hlast] at hverdict
      have hwindow := config.windowSeconds_ok
      generalize hanswer' : e.answer = answer at hverdict
      cases hverdict with
      | allowed result' _ decision _ =>
        simp [Evaluation.decision?, hanswer', Except.toOption, decision]
      | dropped _ _ a' allowed' _ _ inside _ =>
        cases allowed'
        exact absurd hle (not_le.mpr inside)
      | unnamed _ empty => exact absurd (hkey.symm.trans empty) named
      | regressed _ a' allowed' regression =>
        cases allowed'
        linarith
  perKey key := evaluations_perKey config rfl calls
  undisturbed before e later exn h hanswer := by
    obtain ⟨calls₁, calls₂, hcalls, hbefore, hanswer', hlater⟩ := evaluations_split config h
    refine ⟨calls₁, calls₂, hcalls, by rw [← hbefore, evaluations_length], ?_⟩
    rw [evaluate_raised config (hanswer'.symm.trans hanswer)] at hlater
    rw [evaluations_append, hbefore, hlater]

end

end DpostV2.Runtime.ModifiedEventGate
