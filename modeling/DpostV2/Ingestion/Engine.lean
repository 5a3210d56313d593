import DpostV2.Ingestion.Pipeline

/-!
# The ingestion engine

`IngestionEngine.process`: a pipeline run, its terminal result mapped to an
outcome, and every exception turned into one. Whatever its parts do, a
processed event gives an outcome (`process_ok`).
-/

namespace DpostV2.Ingestion

inductive IngestionOutcomeKind where
  | succeeded
  | deferredStage
  | deferredRetry
  | rejected
  | failedTerminal
  deriving DecidableEq, Repr

inductive FailureTerminalType where
  | retry
  | rejected
  | failed
  deriving DecidableEq, Repr

/-- The enumeration of the same name that the failure policies define. -/
inductive PolicyTerminalType where
  | retry
  | failed
  | rejected
  deriving DecidableEq, Repr

/-- A terminal type as an object: `is` tells the members of the two enumerations apart. -/
inductive TerminalMember where
  | engine (terminalType : FailureTerminalType)
  | policy (terminalType : PolicyTerminalType)
  deriving DecidableEq, Repr

structure FailureClassification where
  reasonCode : String
  severity : String
  retryable : Bool
  stageId : Option String
  diagnostics : List (String × String)

structure FailureOutcome where
  terminalType : TerminalMember
  stageId : Option String
  reasonCode : String
  severity : String
  retryPlan : Option Dict
  shouldEmit : Bool

structure IngestionOutcome (S : Type) where
  kind : IngestionOutcomeKind
  finalStageId : Option String
  state : Option S
  stageTrace : List PipelineTransitionRecord
  retryPlan : Option Dict
  emissionStatus : String

variable {S Act : Type} {Res : Act → Type}

def requiredStageOrder : List String :=
  ["resolve", "stabilize", "transform", "route", "persist", "post_persist"]

structure IngestionEngine (S Act : Type) (Res : Act → Type) where
  pipelineRunner : PipelineRunner
  stageHandlers : String → Option (StageHandler S Act Res)
  errorHandlingPolicy : Option (Exn → Option String →
    Prog Act Res Exn FailureClassification) := none
  failureOutcomePolicy : Option (FailureClassification → Prog Act Res Exn FailureOutcome) := none
  failureEmitter : Option (FailureOutcome → Dict → Prog Act Res Exn Unit) := none
  cancellationSignal : Option (Prog Act Res Exn Bool) := none

def mapPipelineTerminal : PipelineTerminalOutcome → IngestionOutcomeKind
  | .completed => .succeeded
  | .deferredStage => .deferredStage
  | .retry => .deferredRetry
  | .rejected => .rejected
  | .failed => .failedTerminal

/-- `_map_failure_terminal`, which compares with `is`. -/
def mapFailureTerminal (terminalType : TerminalMember) : IngestionOutcomeKind :=
  if terminalType = .engine .retry then .deferredRetry
  else if terminalType = .engine .rejected then .rejected
  else .failedTerminal

def mapPipelineResult (result : PipelineRunResult S) : IngestionOutcome S :=
  { kind := mapPipelineTerminal result.outcome, finalStageId := result.finalStageId,
    state := some result.state, stageTrace := result.transitionLog, retryPlan := none,
    emissionStatus := "skipped" }

/-- `_coerce_event_payload`. -/
def coerceEventPayload [Interpreter] (event : Value) : Dict :=
  match event.asDict? with
  | some payload => payload
  | none => Dict.ofEntries [("raw_event", .str (pyRepr event))]

namespace IngestionEngine
variable (engine : IngestionEngine S Act Res)

def classifyException (exc : Exn) (stageId : Option String) :
    Prog Act Res Exn FailureClassification :=
  match engine.errorHandlingPolicy with
  | some policy => policy exc stageId
  | none => return { reasonCode := "ingestion_unhandled_exception", severity := "error",
                     retryable := false, stageId,
                     diagnostics := [("type", exc.className), ("message", exc.message)] }

def buildFailureOutcome (classification : FailureClassification) :
    Prog Act Res Exn FailureOutcome :=
  match engine.failureOutcomePolicy with
  | some policy => policy classification
  | none => return { terminalType := .engine (if classification.retryable then .retry else .failed),
                     stageId := classification.stageId, reasonCode := classification.reasonCode,
                     severity := classification.severity,
                     retryPlan := if classification.retryable then
                        some (Dict.ofEntries [("delay_seconds", .int 0), ("next_attempt", .int 1)])
                      else none,
                     shouldEmit := true }

def safeClassification (exc : Exn) (stageId : Option String) :
    Prog Act Res Exn FailureClassification := do
  match ← (engine.classifyException exc stageId).attempt with
  | .ok classification => return classification
  | .error policyExc =>
    return { reasonCode := "error_handling_policy_failed", severity := "error", retryable := false,
             stageId,
             diagnostics := [("type", exc.className), ("message", exc.message),
              ("policy_error_type", policyExc.className),
              ("policy_error_message", policyExc.message)] }

def safeFailureOutcome (classification : FailureClassification) :
    Prog Act Res Exn FailureOutcome := do
  match ← (engine.buildFailureOutcome classification).attempt with
  | .ok failureOutcome => return failureOutcome
  | .error _ =>
    return { terminalType := .engine .failed, stageId := classification.stageId,
             reasonCode := classification.reasonCode, severity := classification.severity,
             retryPlan := none, shouldEmit := true }

def emitFailureIfNeeded (failureOutcome : FailureOutcome) (event : Dict) :
    Prog Act Res Exn String :=
  if !failureOutcome.shouldEmit then return "skipped"
  else match engine.failureEmitter with
  | none => return "skipped"
  | some emitter => do
    match ← (emitter failureOutcome event).attempt with
    | .ok _ => return "emitted"
    | .error _ => return "failed"

def normalizeException (exc : Exn) (event : Dict) : Prog Act Res Exn (IngestionOutcome S) := do
  let classification ← engine.safeClassification exc exc.stageId
  let failureOutcome ← engine.safeFailureOutcome classification
  let emissionStatus ← engine.emitFailureIfNeeded failureOutcome event
  return { kind := mapFailureTerminal failureOutcome.terminalType,
           finalStageId := failureOutcome.stageId, state := none, stageTrace := [],
           retryPlan := failureOutcome.retryPlan, emissionStatus }

def process [Interpreter] (event : Value) (initialStateFactory : Dict → Except Exn S) :
    Prog Act Res Exn (IngestionOutcome S) := do
  let eventPayload := coerceEventPayload event
  let attempted ← Prog.attempt do
    let initialState ← Prog.lift (initialStateFactory eventPayload)
    let result ← engine.pipelineRunner.run engine.stageHandlers .failed initialState
      engine.cancellationSignal
    return mapPipelineResult result
  match attempted with
  | .ok outcome => return outcome
  | .error exc => engine.normalizeException exc eventPayload

-- ---------------------------------------------------------------------------
-- Every event gets an outcome
-- ---------------------------------------------------------------------------

variable {engine}

theorem safeClassification_ok (exc : Exn) (stageId : Option String) :
    (engine.safeClassification exc stageId).Ensures fun _ x => ∃ c, x = .ok c := by
  refine .attempt_bind ?_
  intro y _ _
  cases y <;> exact .pure ⟨_, rfl⟩

theorem safeFailureOutcome_ok (classification : FailureClassification) :
    (engine.safeFailureOutcome classification).Ensures fun _ x => ∃ o, x = .ok o := by
  refine .attempt_bind ?_
  intro y _ _
  cases y <;> exact .pure ⟨_, rfl⟩

theorem emitFailureIfNeeded_ok (failureOutcome : FailureOutcome) (event : Dict) :
    (engine.emitFailureIfNeeded failureOutcome event).Ensures fun _ x => ∃ s, x = .ok s := by
  unfold emitFailureIfNeeded
  split
  · exact .pure ⟨_, rfl⟩
  · split
    · exact .pure ⟨_, rfl⟩
    · refine .attempt_bind ?_
      intro y _ _
      cases y <;> exact .pure ⟨_, rfl⟩

theorem mapFailureTerminal_ne_succeeded (terminalType : TerminalMember) :
    mapFailureTerminal terminalType ≠ .succeeded := by
  unfold mapFailureTerminal
  split
  · simp
  · split <;> simp

theorem normalizeException_ok (exc : Exn) (event : Dict) :
    (engine.normalizeException exc event).Ensures fun _ x =>
      ∃ o, x = .ok o ∧ o.kind ≠ .succeeded := by
  refine .bind (safeClassification_ok exc exc.stageId) ?_ (by rintro e t ⟨_, h⟩; cases h)
  rintro classification t -
  refine .bind (safeFailureOutcome_ok classification) ?_ (by rintro e t ⟨_, h⟩; cases h)
  rintro failureOutcome t -
  refine .bind (emitFailureIfNeeded_ok failureOutcome event) ?_ (by rintro e t ⟨_, h⟩; cases h)
  rintro emissionStatus t -
  exact .pure ⟨_, rfl, mapFailureTerminal_ne_succeeded _⟩

/-- The pipeline ran to a result, or an exception was turned into a failure. -/
theorem process_ends [Interpreter] {event : Value} {factory : Dict → Except Exn S}
    (h : (engine.process event factory).Ends t x) :
    (∃ state result, factory (coerceEventPayload event) = .ok state ∧
      (engine.pipelineRunner.run engine.stageHandlers .failed state engine.cancellationSignal).Ends
        t (.ok result) ∧ x = .ok (mapPipelineResult result)) ∨
    ∃ exc t₁ t₂ outcome, t = t₁ ++ t₂ ∧
      (engine.normalizeException exc (coerceEventPayload event)).Ends t₂ x ∧
      x = .ok outcome ∧ outcome.kind ≠ .succeeded ∧
      (t₁ = [] ∨ ∃ state, factory (coerceEventPayload event) = .ok state ∧
        (engine.pipelineRunner.run engine.stageHandlers .failed state
          engine.cancellationSignal).Ends t₁ (.error exc)) := by
  unfold process at h
  rcases Prog.ends_bind.mp h with ⟨e, he, -⟩ | ⟨y, t₁, t₂, rfl, hy, h⟩
  · obtain ⟨y, -, hy⟩ := Prog.ends_attempt.mp he
    cases hy
  obtain ⟨z, hz, heq⟩ := Prog.ends_attempt.mp hy
  cases heq
  have hfail : ∀ exc, y = .error exc → ∃ outcome, x = .ok outcome ∧ outcome.kind ≠ .succeeded ∧
      (engine.normalizeException exc (coerceEventPayload event)).Ends t₂ x := by
    rintro exc rfl
    obtain ⟨outcome, hx, hk⟩ := normalizeException_ok _ _ t₂ x h
    exact ⟨outcome, hx, hk, h⟩
  rcases Prog.ends_bind.mp hz with ⟨e, ⟨rfl, -⟩, rfl⟩ | ⟨state, _, u, rfl, ⟨rfl, hs⟩, hrun⟩
  · obtain ⟨outcome, hx, hk, hn⟩ := hfail e rfl
    exact .inr ⟨e, [], t₂, outcome, rfl, hn, hx, hk, .inl rfl⟩
  rcases Prog.ends_bind.mp hrun with ⟨e, he, rfl⟩ | ⟨result, v, w, rfl, hr, ⟨rfl, rfl⟩⟩
  · obtain ⟨outcome, hx, hk, hn⟩ := hfail e rfl
    exact .inr ⟨e, _, t₂, outcome, rfl, hn, hx, hk, .inr ⟨state, hs.symm, he⟩⟩
  · obtain ⟨rfl, rfl⟩ := h
    refine .inl ⟨state, result, hs.symm, ?_, rfl⟩
    simpa using hr

theorem process_ok [Interpreter] (event : Value) (factory : Dict → Except Exn S) :
    (engine.process event factory).Ensures fun _ x => ∃ outcome, x = .ok outcome := by
  intro t x h
  rcases process_ends h with ⟨_, result, -, -, hx⟩ | ⟨_, _, _, outcome, -, -, hx, -⟩
  · exact ⟨_, hx⟩
  · exact ⟨outcome, hx⟩

end IngestionEngine

end DpostV2.Ingestion
