import DpostV2.Ingestion.RetryPlanner
import DpostV2.Ingestion.State
import DpostV2.Lib.DateTime
import DpostV2.Lib.Float

/-!
# The retry plan of a failed persist

`_normalized_retry_plan` and `_retry_or_terminal_for_failure` over whatever a planner answers:
numbers out of the range of a float, values of other classes, mappings that cannot be copied.
`retry_safe_iff` says of which answers the stage makes a sound retry, and that the attempts of a
candidate count upwards over those.
-/

namespace DpostV2.Ingestion.PersistRetry

-- ---------------------------------------------------------------------------
-- What a planner answers
-- ---------------------------------------------------------------------------

/-- A value of any other class, by what the stage asks of it; `number` is the number it is, where
its class is one of numbers. -/
structure PlanObject where
  text : Except Exn String
  asInt : Except Exn Int
  asFloat : Except Exn PyFloat
  equalsRetry : Except Exn Bool
  number : Option PyFloat

inductive PlanValue where
  | none
  | bool (b : Bool)
  | int (n : Int)
  | float (x : PyFloat)
  | str (s : String)
  | object (o : PlanObject)

abbrev Plan := String → Option PlanValue

/-- `plan.get(key, default)`. -/
def Plan.getD (plan : Plan) (key : String) (value : PlanValue) : PlanValue := (plan key).getD value

/-- `copied` is what `dict(raw_plan)` gives for a mapping. -/
inductive RawPlan where
  | mapping (copied : Except Exn Plan)
  | other

inductive Planned where
  | raised (e : Exn)
  | returned (rawPlan : RawPlan)

/-- The number a value is, before any conversion. -/
def PlanValue.number? : PlanValue → Option PyFloat
  | .bool b => some (.finite (if b then 1 else 0))
  | .int n => some (.finite n)
  | .float x => some x
  | .object o => o.number
  | .none | .str _ => Option.none

/-- `str()` refuses an integer of more digits. -/
def digitLimit : Nat := 10 ^ 4300

section
variable [DatedInterpreter]

/-- `str(value)`. -/
def PlanValue.text : PlanValue → Except Exn String
  | .none => .ok (pyStr .none)
  | .bool b => .ok (pyStr (.bool b))
  | .int n =>
    if n.natAbs < digitLimit then .ok (pyStr (.int n))
    else .error (valueError "Exceeds the limit (4300 digits) for integer string conversion")
  | .float (.finite q) => .ok (pyStr (.float q))
  | .float (.inf negative) => .ok (if negative then "-inf" else "inf")
  | .float .nan => .ok "nan"
  | .str s => .ok s
  | .object o => o.text

/-- `int(value)`. -/
def PlanValue.toInt : PlanValue → Except Exn Int
  | .none =>
    .error (typeError "int() argument must be a string, a bytes-like object or a real number")
  | .bool b => .ok (if b then 1 else 0)
  | .int n => .ok n
  | .float x => x.toInt
  | .str s => match Interpreter.parseInt s with
    | some n => .ok n
    | Option.none => .error (valueError "invalid literal for int() with base 10")
  | .object o => o.asInt

/-- `value == "retry"`. -/
def PlanValue.equalsRetry : PlanValue → Except Exn Bool
  | .str s => .ok (s == "retry")
  | .object o => o.equalsRetry
  | _ => .ok false

end

-- ---------------------------------------------------------------------------
-- The stage
-- ---------------------------------------------------------------------------

/-- The state of the stage with its retry plan beside it, as the planner's numbers are not all
among those of a `Dict`. -/
structure RetryState where
  base : IngestionState
  retryPlan : Option Plan := none

def RetryState.attemptIndex (state : RetryState) : Int := state.base.attemptIndex

def invalidRetryPlan (state : RetryState) : StageDirective RetryState :=
  .terminal .failed { state with base := state.base.withReason "persist" "invalid_retry_plan" }

section
-- What `float()` makes of a text, `none` where it raises `ValueError`.
variable [DatedInterpreter] (parseFloat : String → Option PyFloat)

/-- `float(value)`. -/
def PlanValue.toFloat : PlanValue → Except Exn PyFloat
  | .none => .error (typeError "float() argument must be a string or a real number")
  | .bool b => .ok (.finite (if b then 1 else 0))
  | .int n => PyFloat.ofInt n
  | .float x => .ok x
  | .str s => match parseFloat s with
    | some x => .ok x
    | Option.none => .error (valueError "could not convert string to float")
  | .object o => o.asFloat

/-- `except (TypeError, ValueError)`. -/
def caught (e : Exn) : Bool := e.isInstance "TypeError" || e.isInstance "ValueError"

def nextAttemptOf (plan : Plan) (attemptIndex : Int) : PlanValue :=
  plan.getD "next_attempt" (.int (attemptIndex + 1))

def delayOf (plan : Plan) : PlanValue := plan.getD "delay_seconds" (.float (.finite 0))

/-- The body of the `try`. -/
def retryNumbers (plan : Plan) (attemptIndex : Int) : Except Exn (Int × PyFloat) := do
  let nextAttempt ← (nextAttemptOf plan attemptIndex).toInt
  let delaySeconds ← (delayOf plan).toFloat parseFloat
  return (nextAttempt, delaySeconds)

def withNumbers (plan : Plan) (nextAttempt : Int) (delaySeconds : PyFloat) : Plan :=
  Function.update (Function.update (Function.update plan "terminal_type" (some (.str "retry")))
    "next_attempt" (some (.int nextAttempt))) "delay_seconds" (some (.float delaySeconds))

/-- The text of `terminal_type` that is compared with `"retry"`. -/
def terminalTypeOf (plan : Plan) : Except Exn String := do
  let text ← (plan.getD "terminal_type" (.str "")).text
  return Interpreter.lower (strip text)

def normalizedRetryPlan (rawPlan : RawPlan) (attemptIndex : Int) : Except Exn (Option Plan) :=
  match rawPlan with
  | .other => .ok none
  | .mapping copied => do
    let plan ← copied
    if (← terminalTypeOf plan) ≠ "retry" then return some plan
    else match retryNumbers parseFloat plan attemptIndex with
    | .error e => if caught e then return none else .error e
    | .ok (nextAttempt, delaySeconds) =>
      let nextAttempt := if nextAttempt ≤ attemptIndex then attemptIndex + 1 else nextAttempt
      return some (withNumbers plan nextAttempt delaySeconds.clamp.round6)

/-- `plan.get("terminal_type") == "retry"`. -/
def Plan.isRetry (plan : Plan) : Except Exn Bool :=
  (plan.getD "terminal_type" .none).equalsRetry

def retryOrTerminalForFailure (state : RetryState) (reason : String) (planned : Planned) :
    Except Exn (Option (StageDirective RetryState)) :=
  match planned with
  | .raised _ => .ok (some (invalidRetryPlan state))
  | .returned rawPlan => do
    match ← normalizedRetryPlan parseFloat rawPlan state.attemptIndex with
    | none => return some (invalidRetryPlan state)
    | some plan =>
      if !(← plan.isRetry) then return none
      else do
        let nextAttempt ← (nextAttemptOf plan state.attemptIndex).toInt
        let base := state.base.withReason "persist" reason
        return some (.terminal .retry
          { base := { base with attemptIndex := nextAttempt }, retryPlan := some plan })

-- ---------------------------------------------------------------------------
-- What is promised, and of which answers
-- ---------------------------------------------------------------------------

/-- The plan asks for a retry as the normalization reads it. -/
def AsksRetry (plan : Plan) : Prop := terminalTypeOf plan = .ok "retry"

def UsableNumbers (plan : Plan) (attemptIndex : Int) : Prop :=
  ∃ nextAttempt delaySeconds,
    retryNumbers parseFloat plan attemptIndex = .ok (nextAttempt, delaySeconds) ∧
      delaySeconds.Bounded

/-- The first conversion that fails raises what the stage catches. -/
def RefusedNumbers (plan : Plan) (attemptIndex : Int) : Prop :=
  ∃ e, retryNumbers parseFloat plan attemptIndex = .error e ∧ caught e = true

/-- The numbers of the plan are a larger attempt and a finite delay before any conversion. -/
structure Ordered (plan : Plan) (attemptIndex nextAttempt : Int) : Prop where
  later : attemptIndex < nextAttempt
  attempt : ∃ v, plan "next_attempt" = some v ∧ v.number? = some (.finite nextAttempt)
  delay : ∃ v q, plan "delay_seconds" = some v ∧ v.number? = some (.finite q) ∧ 0 ≤ q

structure Safe (state : RetryState) (reason : String) (planned : Planned) : Prop where
  returns : ∃ directive, retryOrTerminalForFailure parseFloat state reason planned = .ok directive
  retried : ∀ next, retryOrTerminalForFailure parseFloat state reason planned =
      .ok (some (.terminal .retry next)) →
    ∃ plan, next.retryPlan = some plan ∧ Ordered plan state.attemptIndex next.attemptIndex
  unusable : ∀ plan, planned = .returned (.mapping (.ok plan)) → AsksRetry plan →
    ¬ UsableNumbers parseFloat plan state.attemptIndex →
    retryOrTerminalForFailure parseFloat state reason planned = .ok (some (invalidRetryPlan state))

/-- A plan whose `terminal_type` equals `"retry"` and does not read as it is taken as it is. -/
def Unnormalized (plan : Plan) (attemptIndex : Int) : Prop :=
  plan.isRetry = .ok false ∨ plan.isRetry = .ok true ∧
    ∃ nextAttempt, (nextAttemptOf plan attemptIndex).toInt = .ok nextAttempt ∧
      Ordered plan attemptIndex nextAttempt

/-- What the stage copes with: a mapping that can be copied and whose `terminal_type` has a text,
with numbers that are in range or refused by one of the two caught exceptions. -/
def Handled (attemptIndex : Int) : Planned → Prop
  | .raised _ | .returned .other => True
  | .returned (.mapping copied) => ∃ plan, copied = .ok plan ∧
      (AsksRetry plan ∧ (UsableNumbers parseFloat plan attemptIndex ∨
          RefusedNumbers parseFloat plan attemptIndex) ∨
        (∃ text, terminalTypeOf plan = .ok text ∧ text ≠ "retry") ∧ Unnormalized plan attemptIndex)

-- ---------------------------------------------------------------------------
-- One call
-- ---------------------------------------------------------------------------

variable {parseFloat} {state : RetryState} {reason : String} {plan : Plan}

omit [DatedInterpreter] in
@[simp] theorem withNumbers_terminal (nextAttempt : Int) (delaySeconds : PyFloat) :
    withNumbers plan nextAttempt delaySeconds "terminal_type" = some (.str "retry") := by
  simp [withNumbers, Function.update]

omit [DatedInterpreter] in
@[simp] theorem withNumbers_attempt (nextAttempt : Int) (delaySeconds : PyFloat) :
    withNumbers plan nextAttempt delaySeconds "next_attempt" = some (.int nextAttempt) := by
  simp [withNumbers, Function.update]

omit [DatedInterpreter] in
@[simp] theorem withNumbers_delay (nextAttempt : Int) (delaySeconds : PyFloat) :
    withNumbers plan nextAttempt delaySeconds "delay_seconds" = some (.float delaySeconds) := by
  simp [withNumbers, Function.update]

/-- The attempt a normalized plan holds. -/
def laterAttempt (nextAttempt attemptIndex : Int) : Int :=
  if nextAttempt ≤ attemptIndex then attemptIndex + 1 else nextAttempt

omit [DatedInterpreter] in
theorem lt_laterAttempt (nextAttempt attemptIndex : Int) :
    attemptIndex < laterAttempt nextAttempt attemptIndex := by
  unfold laterAttempt
  split <;> omega

/-- The state a plan taken for a retry leads to. -/
def retriedWith (state : RetryState) (reason : String) (plan : Plan) (nextAttempt : Int) :
    RetryState :=
  { base := { state.base.withReason "persist" reason with attemptIndex := nextAttempt },
    retryPlan := some plan }

theorem retryOrTerminal_usable (reason : String) {nextAttempt : Int} {delaySeconds : PyFloat}
    (hasks : AsksRetry plan)
    (hnumbers : retryNumbers parseFloat plan state.attemptIndex = .ok (nextAttempt, delaySeconds)) :
    retryOrTerminalForFailure parseFloat state reason (.returned (.mapping (.ok plan))) =
      .ok (some (.terminal .retry (retriedWith state reason
        (withNumbers plan (laterAttempt nextAttempt state.attemptIndex) delaySeconds.clamp.round6)
        (laterAttempt nextAttempt state.attemptIndex)))) := by
  have hplan : normalizedRetryPlan parseFloat (.mapping (.ok plan)) state.attemptIndex =
      .ok (some (withNumbers plan (laterAttempt nextAttempt state.attemptIndex)
        delaySeconds.clamp.round6)) := by
    unfold AsksRetry at hasks
    simp only [normalizedRetryPlan, bind, Except.bind, hasks, hnumbers]
    rfl
  simp [retryOrTerminalForFailure, bind, Except.bind, hplan, Plan.isRetry, Plan.getD,
    PlanValue.equalsRetry, nextAttemptOf, PlanValue.toInt, retriedWith, pure, Except.pure]

theorem retryOrTerminal_refused (reason : String) {e : Exn} (hasks : AsksRetry plan)
    (hnumbers : retryNumbers parseFloat plan state.attemptIndex = .error e) :
    retryOrTerminalForFailure parseFloat state reason (.returned (.mapping (.ok plan))) =
      if caught e then .ok (some (invalidRetryPlan state)) else .error e := by
  unfold AsksRetry at hasks
  simp only [retryOrTerminalForFailure, normalizedRetryPlan, bind, Except.bind, hasks, hnumbers]
  cases caught e <;> rfl

/-- A plan that does not ask for a retry is only compared. -/
theorem retryOrTerminal_unasked (reason : String) {text : String}
    (htext : terminalTypeOf plan = .ok text) (hne : text ≠ "retry") :
    retryOrTerminalForFailure parseFloat state reason (.returned (.mapping (.ok plan))) = do
      if !(← plan.isRetry) then return none
      else do
        let nextAttempt ← (nextAttemptOf plan state.attemptIndex).toInt
        return some (.terminal .retry (retriedWith state reason plan nextAttempt)) := by
  have hplan : normalizedRetryPlan parseFloat (.mapping (.ok plan)) state.attemptIndex =
      .ok (some plan) := by
    simp only [normalizedRetryPlan, bind, Except.bind, htext, if_pos hne]
    rfl
  simp only [retryOrTerminalForFailure, bind, Except.bind, hplan]
  rfl

theorem retryOrTerminal_untyped {e : Exn} (htext : terminalTypeOf plan = .error e) :
    retryOrTerminalForFailure parseFloat state reason (.returned (.mapping (.ok plan))) =
      .error e := by
  simp only [retryOrTerminalForFailure, normalizedRetryPlan, bind, Except.bind, htext]

omit [DatedInterpreter] in
theorem terminal_state_inj {outcome : PipelineTerminalOutcome} {next next' : RetryState}
    (h : StageDirective.terminal outcome next = .terminal outcome next') : next = next' :=
  Option.some.inj (congrArg StageDirective.state h)

omit [DatedInterpreter] in
theorem invalidRetryPlan_ne_retry {next : RetryState} :
    invalidRetryPlan state ≠ .terminal .retry next := by
  intro h
  exact absurd (congrArg StageDirective.outcome h)
    (by simp [invalidRetryPlan, StageDirective.terminal])

/-- A failed stage is sound whatever was answered. -/
theorem safe_of_invalid {planned : Planned}
    (h : retryOrTerminalForFailure parseFloat state reason planned =
      .ok (some (invalidRetryPlan state))) : Safe parseFloat state reason planned where
  returns := ⟨_, h⟩
  retried _ hnext :=
    absurd (Option.some.inj (Except.ok.inj (h.symm.trans hnext))) invalidRetryPlan_ne_retry
  unusable _ _ _ _ := h

theorem not_safe_of_error {planned : Planned} {e : Exn}
    (h : retryOrTerminalForFailure parseFloat state reason planned = .error e) :
    ¬ Safe parseFloat state reason planned := by
  intro hsafe
  obtain ⟨directive, hok⟩ := hsafe.returns
  exact nomatch h.symm.trans hok

omit [DatedInterpreter] in
/-- The numbers written into a plan are in order where the delay is no infinity and not NaN. -/
theorem ordered_withNumbers_iff {nextAttempt attemptIndex : Int} {delaySeconds : PyFloat} :
    Ordered (withNumbers plan (laterAttempt nextAttempt attemptIndex) delaySeconds.clamp.round6)
        attemptIndex (laterAttempt nextAttempt attemptIndex) ↔ delaySeconds.Bounded := by
  rw [PyFloat.bounded_iff]
  constructor
  · rintro ⟨-, -, v, q, hv, hnumber, hq⟩
    rw [withNumbers_delay, Option.some.injEq] at hv
    subst hv
    have hround : delaySeconds.clamp.round6 = .finite q := Option.some.inj hnumber
    exact PyFloat.bounded_iff.mp (PyFloat.bounded_of_round hround)
  · rintro ⟨q, hq, hclamp⟩
    refine ⟨lt_laterAttempt _ _, ⟨_, withNumbers_attempt _ _, rfl⟩, _, pyRound6 q,
      withNumbers_delay _ _, ?_, RetryPlanner.pyRound6_nonneg hq⟩
    rw [hclamp]
    rfl

theorem asked_safe_iff (hasks : AsksRetry plan) :
    Safe parseFloat state reason (.returned (.mapping (.ok plan))) ↔
      UsableNumbers parseFloat plan state.attemptIndex ∨
        RefusedNumbers parseFloat plan state.attemptIndex := by
  cases hnumbers : retryNumbers parseFloat plan state.attemptIndex with
  | error e =>
    have hunusable : ¬ UsableNumbers parseFloat plan state.attemptIndex := by
      rintro ⟨_, _, hok, -⟩
      exact nomatch hnumbers.symm.trans hok
    have hcall := retryOrTerminal_refused reason hasks hnumbers
    rw [or_iff_right hunusable]
    by_cases hcaught : caught e = true
    · rw [if_pos hcaught] at hcall
      exact iff_of_true (safe_of_invalid hcall) ⟨e, hnumbers, hcaught⟩
    · rw [if_neg hcaught] at hcall
      refine iff_of_false (not_safe_of_error hcall) ?_
      rintro ⟨e', he, hcaught'⟩
      obtain rfl := Except.error.inj (hnumbers.symm.trans he)
      exact hcaught hcaught'
  | ok numbers =>
    obtain ⟨nextAttempt, delaySeconds⟩ := numbers
    have hcall := retryOrTerminal_usable reason hasks hnumbers
    have husable : UsableNumbers parseFloat plan state.attemptIndex ↔ delaySeconds.Bounded := by
      refine ⟨?_, fun h => ⟨_, _, hnumbers, h⟩⟩
      rintro ⟨_, _, hok, hbounded⟩
      obtain ⟨rfl, rfl⟩ := Prod.mk.inj (Except.ok.inj (hnumbers.symm.trans hok))
      exact hbounded
    have hrefused : ¬ RefusedNumbers parseFloat plan state.attemptIndex := by
      rintro ⟨_, he, -⟩
      exact nomatch hnumbers.symm.trans he
    rw [or_iff_left hrefused, husable]
    constructor
    · intro hsafe
      obtain ⟨_, hplan, hordered⟩ := hsafe.retried _ hcall
      obtain rfl := Option.some.inj hplan
      exact ordered_withNumbers_iff.mp hordered
    · intro hbounded
      refine ⟨⟨_, hcall⟩, fun next hnext => ?_, fun plan' hplan hasks' hunusable => ?_⟩
      · obtain rfl := terminal_state_inj (Option.some.inj (Except.ok.inj (hcall.symm.trans hnext)))
        exact ⟨_, rfl, ordered_withNumbers_iff.mpr hbounded⟩
      · cases hplan
        exact absurd (husable.mpr hbounded) hunusable

theorem unasked_safe_iff {text : String} (htext : terminalTypeOf plan = .ok text)
    (hne : text ≠ "retry") :
    Safe parseFloat state reason (.returned (.mapping (.ok plan))) ↔
      Unnormalized plan state.attemptIndex := by
  have hcall : retryOrTerminalForFailure parseFloat state reason
      (.returned (.mapping (.ok plan))) = _ := retryOrTerminal_unasked reason htext hne
  have hunasked : ¬ AsksRetry plan := fun h => hne (Except.ok.inj (htext.symm.trans h))
  have hunusable : ∀ plan', Planned.returned (.mapping (.ok plan)) =
      .returned (.mapping (.ok plan')) → ¬ AsksRetry plan' := by
    rintro _ ⟨⟩
    exact hunasked
  unfold Unnormalized
  cases hretry : plan.isRetry with
  | error e =>
    rw [hretry] at hcall
    refine iff_of_false (not_safe_of_error hcall) ?_
    rintro (h | ⟨h, -⟩) <;> exact nomatch h
  | ok isRetry =>
    rw [hretry] at hcall
    cases isRetry with
    | false =>
      refine iff_of_true ⟨⟨_, hcall⟩, fun next hnext => ?_, fun plan' h hasks => ?_⟩ (.inl rfl)
      · exact nomatch hcall.symm.trans hnext
      · exact absurd hasks (hunusable plan' h)
    | true =>
      cases hattempt : (nextAttemptOf plan state.attemptIndex).toInt with
      | error e =>
        rw [hattempt] at hcall
        refine iff_of_false (not_safe_of_error hcall) ?_
        rintro (h | ⟨-, _, h, -⟩) <;> exact nomatch h
      | ok nextAttempt =>
        rw [hattempt] at hcall
        constructor
        · intro hsafe
          obtain ⟨_, hplan, hordered⟩ := hsafe.retried _ hcall
          obtain rfl := Option.some.inj hplan
          exact .inr ⟨rfl, nextAttempt, rfl, hordered⟩
        · rintro (h | ⟨-, _, h, hordered⟩)
          · exact nomatch h
          · obtain rfl := Except.ok.inj h
            refine ⟨⟨_, hcall⟩, fun next hnext => ?_, fun plan' h' hasks => ?_⟩
            · obtain rfl :=
                terminal_state_inj (Option.some.inj (Except.ok.inj (hcall.symm.trans hnext)))
              exact ⟨plan, rfl, hordered⟩
            · exact absurd hasks (hunusable plan' h')

theorem safe_iff_handled (state : RetryState) (reason : String) (planned : Planned) :
    Safe parseFloat state reason planned ↔ Handled parseFloat state.attemptIndex planned := by
  match planned with
  | .raised e => exact iff_of_true (safe_of_invalid rfl) trivial
  | .returned .other => exact iff_of_true (safe_of_invalid rfl) trivial
  | .returned (.mapping (.error e)) =>
    refine iff_of_false (not_safe_of_error (e := e) rfl) ?_
    rintro ⟨_, h, -⟩
    exact nomatch h
  | .returned (.mapping (.ok plan)) =>
    have hplan : Handled parseFloat state.attemptIndex (.returned (.mapping (.ok plan))) ↔
        AsksRetry plan ∧ (UsableNumbers parseFloat plan state.attemptIndex ∨
            RefusedNumbers parseFloat plan state.attemptIndex) ∨
          (∃ text, terminalTypeOf plan = .ok text ∧ text ≠ "retry") ∧
            Unnormalized plan state.attemptIndex := by
      refine ⟨?_, fun h => ⟨plan, rfl, h⟩⟩
      rintro ⟨_, hok, h⟩
      obtain rfl := Except.ok.inj hok
      exact h
    rw [hplan]
    cases htext : terminalTypeOf plan with
    | error e =>
      refine iff_of_false (not_safe_of_error (retryOrTerminal_untyped htext)) ?_
      rintro (⟨h, -⟩ | ⟨⟨_, h, -⟩, -⟩)
      · exact nomatch htext.symm.trans h
      · exact nomatch h
    | ok text =>
      by_cases heq : text = "retry"
      · subst heq
        have hother : ¬ ∃ text, Except.ok "retry" = (Except.ok text : Except Exn String) ∧
            text ≠ "retry" := by
          rintro ⟨_, h, hne⟩
          exact hne (Except.ok.inj h).symm
        rw [asked_safe_iff htext]
        simp only [AsksRetry, htext, true_and, hother, false_and, or_false]
      · have hunasked : ¬ AsksRetry plan := fun h => heq (Except.ok.inj (htext.symm.trans h))
        rw [unasked_safe_iff htext heq]
        simp only [hunasked, false_and, false_or]
        exact ⟨fun h => ⟨⟨text, rfl, heq⟩, h⟩, And.right⟩

-- ---------------------------------------------------------------------------
-- The attempts of a candidate
-- ---------------------------------------------------------------------------

variable (parseFloat) in
/-- A retry, whatever was planned, as long as the stage copes with it. -/
def Retries (state next : RetryState) : Prop :=
  ∃ reason planned, Handled parseFloat state.attemptIndex planned ∧
    retryOrTerminalForFailure parseFloat state reason planned = .ok (some (.terminal .retry next))

theorem Retries.attempt_lt {next : RetryState} (h : Retries parseFloat state next) :
    state.attemptIndex < next.attemptIndex := by
  obtain ⟨reason, planned, hhandled, hcall⟩ := h
  obtain ⟨_, -, hordered⟩ :=
    ((safe_iff_handled state reason planned).mpr hhandled).retried next hcall
  exact hordered.later

end

/-- The stage makes a sound retry of an answer where it copes with it, and over those the attempts
only grow. -/
theorem retry_safe_iff [DatedInterpreter] (parseFloat : String → Option PyFloat) :
    (∀ (state : RetryState) (reason : String) (planned : Planned),
      Safe parseFloat state reason planned ↔ Handled parseFloat state.attemptIndex planned) ∧
    ∀ states : List RetryState, states.IsChain (Retries parseFloat) →
      states.Pairwise (·.attemptIndex < ·.attemptIndex) := by
  refine ⟨safe_iff_handled, fun states hchain => ?_⟩
  have hstep : states.IsChain (·.attemptIndex < ·.attemptIndex) :=
    hchain.imp fun _ _ h => h.attempt_lt
  exact hstep.pairwise

section
attribute [local instance] DatedInterpreter.ascii

def firstAttempt : RetryState := { base := { event := Dict.empty } }

/-- A plan for a retry with these two entries. -/
def planOf (nextAttempt delaySeconds : PlanValue) : Plan := fun key =>
  if key = "terminal_type" then some (.str " Retry ")
  else if key = "next_attempt" then some nextAttempt
  else if key = "delay_seconds" then some delaySeconds
  else none

theorem planOf_asks (nextAttempt delaySeconds : PlanValue) :
    AsksRetry (planOf nextAttempt delaySeconds) := by
  have htext : terminalTypeOf (planOf nextAttempt delaySeconds) =
      .ok (Interpreter.lower (strip " Retry ")) := rfl
  have hlower : Interpreter.lower (strip " Retry ") = "retry" := by decide +kernel
  rw [AsksRetry, htext, hlower]

/-- The third attempt, after a delay below zero. -/
def thirdAttempt : RetryState :=
  retriedWith firstAttempt "move_failed" (withNumbers (planOf (.int 3) (.int (-1))) 3 (.finite 0)) 3

theorem third_attempt_safe :
    Safe (fun _ => none) firstAttempt "move_failed"
        (.returned (.mapping (.ok (planOf (.int 3) (.int (-1)))))) ∧
      [firstAttempt, thirdAttempt].Pairwise (·.attemptIndex < ·.attemptIndex) := by
  have hnumbers : retryNumbers (fun _ => none) (planOf (.int 3) (.int (-1)))
      firstAttempt.attemptIndex = .ok (3, .finite (-1)) := by decide +kernel
  have hhandled : Handled (fun _ => none) firstAttempt.attemptIndex
      (.returned (.mapping (.ok (planOf (.int 3) (.int (-1)))))) :=
    ⟨_, rfl, .inl ⟨planOf_asks _ _, .inl ⟨_, _, hnumbers, trivial⟩⟩⟩
  have hdelay : (PyFloat.finite (-1)).clamp.round6 = .finite 0 := by decide +kernel
  have hcall := retryOrTerminal_usable "move_failed" (planOf_asks _ _) hnumbers
  rw [hdelay] at hcall
  have hretries : Retries (fun _ => none) firstAttempt thirdAttempt :=
    ⟨"move_failed", _, hhandled, hcall⟩
  exact ⟨((retry_safe_iff _).1 _ _ _).mpr hhandled,
    (retry_safe_iff _).2 _ (.cons_cons hretries (.singleton _))⟩

/-- An infinite attempt raises what the stage does not catch. -/
theorem infinite_attempt_raises :
    retryOrTerminalForFailure (fun _ => none) firstAttempt "move_failed"
        (.returned (.mapping (.ok (planOf (.float (.inf false)) (.int 1))))) =
      .error (overflowError "cannot convert float infinity to integer") ∧
    ¬ Safe (fun _ => none) firstAttempt "move_failed"
        (.returned (.mapping (.ok (planOf (.float (.inf false)) (.int 1))))) := by
  have hnumbers : retryNumbers (fun _ => none) (planOf (.float (.inf false)) (.int 1))
      firstAttempt.attemptIndex =
        .error (overflowError "cannot convert float infinity to integer") := rfl
  have hcall := retryOrTerminal_refused "move_failed" (planOf_asks _ _) hnumbers
  exact ⟨hcall, not_safe_of_error hcall⟩

end

end DpostV2.Ingestion.PersistRetry
