import DpostV2.Ingestion.State

/-!
# Deferred retries

A stage that wants another attempt leaves its plan in the state of its RETRY
directive. `mapPipelineResult` does not look there: `plan_carried_iff` says that
the plan reaches the outcome in no run that ends so.
-/

namespace DpostV2.Ingestion

variable {Act : Type} {Res : Act → Type}

section
variable (engine : IngestionEngine IngestionState Act Res) (event : Value)
  (factory : Dict → Except Exn IngestionState) (t : List (Step Act Res))

def PlannedRetry [Interpreter] (plan : Dict) : Prop :=
  ∃ state result, factory (coerceEventPayload event) = .ok state ∧
    (engine.pipelineRunner.run engine.stageHandlers .failed state engine.cancellationSignal).Ends t
      (.ok result) ∧
    result.outcome = .retry ∧ result.state.retryPlan = some plan

/-- A stage the run has reached asks for another attempt with `plan`. -/
def StageRetry [Interpreter] (plan : Dict) : Prop :=
  ∃ initial stage state log t₁ tc th handler d,
    factory (coerceEventPayload event) = .ok initial ∧ t = t₁ ++ (tc ++ th) ∧
    Reached engine.pipelineRunner engine.stageHandlers (engine.cancellationSignal.getD (pure false))
      initial stage state log t₁ ∧
    engine.stageHandlers stage = some handler ∧ (handler state).Ends th (.ok d) ∧
    d.kind = "terminal" ∧ d.outcome = some .retry ∧ (d.state.getD state).retryPlan = some plan

/-- Whatever outcome the run has, it carries the plan of the stage that deferred it. -/
def CarriesPlan [Interpreter] : Prop :=
  ∀ outcome plan, (engine.process event factory).Ends t (.ok outcome) →
    PlannedRetry engine event factory t plan →
    outcome.kind = .deferredRetry ∧ outcome.retryPlan = some plan

variable {engine event factory t}

theorem PlannedRetry.stage [Interpreter] {plan : Dict}
    (h : PlannedRetry engine event factory t plan) :
    StageRetry engine event factory t plan := by
  obtain ⟨initial, result, hinitial, hrun, hretry, hplan⟩ := h
  unfold PipelineRunner.run at hrun
  split at hrun
  · obtain ⟨-, h⟩ := hrun
    cases h
  · obtain ⟨stage, state, log, t₁, t₂, ht, hr, hf⟩ := loop_ends hrun .start
    rw [List.nil_append] at ht
    generalize hx : (Except.ok result : Except Exn (PipelineRunResult IngestionState)) = x at hf
    cases hf with
    | uncalled _ ho =>
      rw [ho result hx.symm] at hretry
      cases hretry
    | raised => cases hx
    | @ended policy handler tc th d outcome _ hhandler _ hd hkind ho _ =>
      cases hx
      cases hretry
      exact ⟨initial, stage, state, log, t₁, tc, th, handler, d, hinitial, ht, hr, hhandler, hd,
        hkind, ho, hplan⟩

theorem process_maps [Interpreter] {state : IngestionState}
    {result : PipelineRunResult IngestionState}
    (hstate : factory (coerceEventPayload event) = .ok state)
    (hrun : (engine.pipelineRunner.run engine.stageHandlers .failed state
      engine.cancellationSignal).Ends t (.ok result)) :
    (engine.process event factory).Ends t (.ok (mapPipelineResult result)) := by
  unfold IngestionEngine.process
  refine Prog.ends_bind.mpr (.inr ⟨.ok (mapPipelineResult result), t, [], by simp, ?_, rfl, rfl⟩)
  refine Prog.ends_attempt.mpr ⟨_, ?_, rfl⟩
  refine Prog.ends_bind.mpr (.inr ⟨state, [], t, rfl, ⟨rfl, hstate.symm⟩, ?_⟩)
  exact Prog.ends_bind.mpr (.inr ⟨result, t, [], by simp, hrun, rfl, rfl⟩)

/-- The outcome of no run that a stage deferred carries the plan. -/
theorem plan_carried_iff [Interpreter] (engine : IngestionEngine IngestionState Act Res)
    (event : Value) (factory : Dict → Except Exn IngestionState) (t : List (Step Act Res)) :
    CarriesPlan engine event factory t ↔ ∀ plan, ¬PlannedRetry engine event factory t plan := by
  constructor
  · intro h plan hplan
    obtain ⟨state, result, hstate, hrun, -, -⟩ := id hplan
    obtain ⟨-, hcarried⟩ := h _ plan (process_maps hstate hrun) hplan
    cases hcarried
  · intro h outcome plan _ hplan
    exact absurd hplan (h plan)

end

section
attribute [local instance] Interpreter.ascii

def laterPlan : Dict :=
  Dict.ofEntries [("terminal_type", .str "retry"), ("next_attempt", .int 1),
    ("delay_seconds", .int 5)]

def retryingEngine : IngestionEngine IngestionState Empty nofun where
  pipelineRunner := { startStage := "stabilize",
                      transitionTable := defaultIngestionTransitionTable }
  stageHandlers := fun _ => some fun state =>
    return .terminal .retry { state with retryPlan := some laterPlan, attemptIndex := 1 }

def deferredResult : PipelineRunResult IngestionState where
  outcome := .retry
  finalStageId := some "stabilize"
  state := { event := Dict.empty, retryPlan := some laterPlan, attemptIndex := 1 }
  transitionLog := [⟨"stabilize", "terminal", none, some .retry⟩]

/-- The stage's plan is lost, and with it when to come back. -/
theorem planDropped :
    PlannedRetry retryingEngine (.dict []) (fun event => .ok { event }) [] laterPlan ∧
    (∃ outcome, (retryingEngine.process (.dict []) fun event => .ok { event }).Ends []
      (.ok outcome) ∧
      outcome.kind = .deferredRetry ∧ outcome.retryPlan = none) ∧
    ¬CarriesPlan retryingEngine (.dict []) (fun event => .ok { event }) [] := by
  have hrun : (retryingEngine.process (.dict []) fun event => .ok { event }).Ends []
      (.ok (mapPipelineResult deferredResult)) := ⟨rfl, rfl⟩
  have hplanned : PlannedRetry retryingEngine (.dict [])
    (fun event => .ok { event }) [] laterPlan :=
    ⟨_, _, rfl, ⟨rfl, rfl⟩, rfl, rfl⟩
  refine ⟨hplanned, ⟨_, hrun, rfl, rfl⟩, ?_⟩
  intro h
  obtain ⟨-, hcarried⟩ := h _ laterPlan hrun hplanned
  cases hcarried

end

end DpostV2.Ingestion
