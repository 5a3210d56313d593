import DpostV2.Ingestion.ForcePath
import DpostV2.Ingestion.MovePlan

/-!
# The six stages

Each stage is the source's function of the same name, its callables the
actions of `Call`. A Python `try` is `tryCall` followed by a match; an
exception no `except` names leaves the stage.
-/

namespace DpostV2.Ingestion

variable [Interpreter]

abbrev Directive := StageDirective IngestionState

def runResolveStage (state : IngestionState) : StageProg Directive := do
  let path := strip (pyStr (state.event.getD "path" (.str "")))
  match ← tryCall (.fsFacts path) with
  | .error _ => return .terminal .failed (state.withReason "resolve" "fs_facts_unavailable")
  | .ok fsFacts =>
    match fsFacts.asDict? with
    | none => return .terminal .failed (state.withReason "resolve" "invalid_fs_facts")
    | some fsFacts =>
      match Candidate.fromEvent state.event fsFacts with
      | .error e =>
        if e.isInstance "CandidateError" then
          return .terminal .rejected (state.withReason "resolve" "invalid_candidate")
        else Prog.raise e
      | .ok candidate =>
        match ← tryCall (.selectProcessor candidate) with
        | .error e =>
          if e.isInstance "ProcessorNotFoundError" then
            return .terminal .rejected (state.withReason "resolve" "processor_not_found")
          else if e.isInstance "ProcessorAmbiguousMatchError" then
            return .terminal .failed (state.withReason "resolve" "processor_ambiguous")
          else Prog.raise e
        | .ok selection => do
          let descriptor := selection.descriptor
          let candidate ← Prog.lift
            (candidate.withResolution descriptor.pluginId descriptor.processorKey)
          let state := state.withDiagnostics "resolve"
            [("plugin_id", .str descriptor.pluginId),
              ("capability_reason", .str descriptor.capabilityReason),
              ("cache_hit", .bool descriptor.cacheHit)]
          return .continueTo "stabilize"
            { state with candidate := some candidate, processor := some selection.processor }

def runStabilizeStage (settleDelaySeconds : Seconds) (state : IngestionState) :
    StageProg Directive :=
  if settleDelaySeconds < 0 then
    Prog.raise { mro := ["StabilizePolicyConfigurationError", "ValueError", "Exception"],
                 message := "settle_delay_seconds must be non-negative." }
  else match state.candidate with
  | none => return .terminal .failed state
  | some candidate => do
    let now ← call .now
    let nowValue ← Prog.lift (pyFloat now)
    let decision ← call (.modifiedEventGate candidate.identityToken nowValue)
    let decision := decision.getD "allow"
    if decision = "drop_duplicate" then
      return .terminal .rejected (state.withReason "stabilize" "duplicate_event")
    else if decision = "defer" ∨ decision = "defer_retry" then
      return .terminal .retry (state.withReason "stabilize" "gate_deferred")
    else match candidate.modifiedAt with
    | none => return .terminal .failed (state.withReason "stabilize" "missing_modified_timestamp")
    | some modifiedAt =>
      if nowValue < modifiedAt then
        return .terminal .failed (state.withReason "stabilize" "clock_regression")
      else
        let age := nowValue - modifiedAt
        if age < settleDelaySeconds then
          return .terminal .retry (state.withDiagnostics "stabilize"
            [("reason_code", .str "settle_delay_not_elapsed"), ("age_seconds", .float age),
              ("required_seconds", .float settleDelaySeconds)])
        else return .continueTo "transform" (state.withReason "stabilize" "ready")

/-- `prepare(raw_input) if callable(prepare) else raw_input`. -/
def prepareInput (processor : Processor) (rawInput : Dict) : StageProg Value :=
  if processor.hasPrepare then call (.prepare processor rawInput)
  else return .dict rawInput.entries

/-- `bool(can_process(prepared_input))`, `False` where it raises, `True` where it is missing. -/
def supportsInput (processor : Processor) (preparedInput : Dict) : StageProg Bool :=
  if processor.hasCanProcess then do
    match ← tryCall (.canProcess processor preparedInput) with
    | .ok supported => return supported.truthy
    | .error _ => return false
  else return true

def runTransformStage (state : IngestionState) : StageProg Directive :=
  match state.candidate, state.processor, state.processingContext with
  | some candidate, some processor, some processingContext => do
    let rawInput ← Prog.lift candidate.toPayload
    match ← (prepareInput processor rawInput).attempt with
    | .error _ => return .terminal .failed (state.withReason "transform" "prepare_failed")
    | .ok prepared =>
      match prepared.asDict? with
      | none => return .terminal .failed (state.withReason "transform" "invalid_prepared_input")
      | some preparedInput => do
        if !(← supportsInput processor preparedInput) then
          return .terminal .deferredStage (state.withDiagnostics "transform"
            [("reason_code", .str "deferred"),
              ("prepared_kind", .str
                (strip (pyStr (preparedInput.getD "prepared_kind" (.str "")))))])
        else if !processor.hasProcess then
          return .terminal .failed (state.withReason "transform" "missing_process")
        else do
          let processed ← Prog.attempt do
            let output ← call (.process processor preparedInput processingContext)
            Prog.lift (validateProcessorResult output)
          match processed with
          | .error _ => return .terminal .failed (state.withReason "transform" "process_failed")
          | .ok processorResult =>
            let state := state.withDiagnostics "transform"
              [("reason_code", .str "processed"), ("datatype", .str processorResult.datatype)]
            return .continueTo "route"
              { state with preparedInput := some preparedInput,
                           processorResult := some processorResult }
  | _, _, _ => return .terminal .failed (state.withReason "transform" "missing_processing_context")

def runRouteStage (allowedRoots : List String) (state : IngestionState) : StageProg Directive :=
  match state.candidate with
  | none => return .terminal .failed state
  | some candidate => do
    let routeRoot := (← call (.selectRoute candidate)).getD ""
    if routeRoot = "" then
      return .terminal .rejected (state.withReason "route" "no_route_rule")
    else do
      let filename ← call (.buildFilename state)
      let defaultTarget := ((PurePath.parse routeRoot).join (PurePath.parse filename)).str
      let decision := evaluateForcePath (state.event.getNone "force_path")
        allowedRoots defaultTarget none
      if decision.decisionType = .rejectOverride then
        return .terminal .rejected (state.withReason "route" decision.reasonCode)
      else match decision.normalizedPath with
      | none => return .terminal .failed (state.withReason "route" "missing_target_path")
      | some normalizedPath => do
        let routed ← Prog.lift (candidate.withRoute normalizedPath
          [("force_path_decision", decision.decisionType.value),
            ("reason_code", decision.reasonCode)])
        let state := state.withDiagnostics "route"
          [("target_path", .str normalizedPath), ("reason_code", .str decision.reasonCode)]
        return .continueTo "persist" { state with candidate := some routed }

-- ---------------------------------------------------------------------------
-- Persist
-- ---------------------------------------------------------------------------

/-- `int(..)` and `float(..)` of a retry plan; `none` where either raises. -/
def retryNumbers (plan : Dict) (attemptIndex : Int) : Option (Int × Seconds) :=
  match pyInt (plan.getD "next_attempt" (.int (attemptIndex + 1))),
    pyFloat (plan.getD "delay_seconds" (.float 0)) with
  | .ok nextAttempt, .ok delaySeconds => some (nextAttempt, delaySeconds)
  | _, _ => none

def normalizedRetryPlan (rawPlan : Value) (attemptIndex : Int) : Option Dict :=
  match rawPlan.asDict? with
  | none => none
  | some plan =>
    let terminalType := Interpreter.lower (strip (pyStr (plan.getD "terminal_type" (.str ""))))
    if terminalType ≠ "retry" then some plan
    else match retryNumbers plan attemptIndex with
    | none => none
    | some (nextAttempt, delaySeconds) =>
      let nextAttempt := if nextAttempt ≤ attemptIndex then attemptIndex + 1 else nextAttempt
      let delaySeconds := if delaySeconds < 0 then 0 else delaySeconds
      some (((plan.set "terminal_type" (.str "retry")).set "next_attempt" (.int nextAttempt)).set
        "delay_seconds" (.float (pyRound6 delaySeconds)))

/-- `plan.get("terminal_type") != "retry"`. -/
def Dict.isRetry (plan : Dict) : Bool :=
  match plan.get? "terminal_type" with
  | some (.str s) => s == "retry"
  | _ => false

def retryOrTerminalForFailure (state : IngestionState) (reason : String) :
    StageProg (Option Directive) := do
  match ← tryCall (.planRetry reason state.attemptIndex) with
  | .error _ => return some (.terminal .failed (state.withReason "persist" "invalid_retry_plan"))
  | .ok rawPlan =>
    match normalizedRetryPlan rawPlan state.attemptIndex with
    | none => return some (.terminal .failed (state.withReason "persist" "invalid_retry_plan"))
    | some plan =>
      if !Dict.isRetry plan then return none
      else do
        let nextAttempt ← Prog.lift
          (pyInt (plan.getD "next_attempt" (.int (state.attemptIndex + 1))))
        let state := state.withReason "persist" reason
        return some (.terminal .retry
          { state with retryPlan := some plan, attemptIndex := nextAttempt })

/-- The loop over the move plan: the reason of the first move that did not succeed. -/
def runMovePlan : List (String × String) → StageProg (Option String)
  | [] => return none
  | (sourcePath, targetPath) :: rest => do
    let moveResult ← call (.moveFile sourcePath targetPath)
    if moveResult.success then runMovePlan rest
    else return some (moveResult.reasonCode "move_failed")

/-- The `processor_result` entry of a record payload. -/
def resultPayload : Option ProcessorResult → Value
  | none => .none
  | some result => .dict [("final_path", .str result.finalPath), ("datatype", .str result.datatype),
      ("force_paths", .tuple (result.forcePaths.map .str))]

def recordPayload (candidatePayload : Dict) (persistedResult : Option ProcessorResult)
    (targetPath : String) : Dict :=
  Dict.ofEntries [("candidate", .dict candidatePayload.entries),
    ("processor_result", resultPayload persistedResult), ("target_path", .str targetPath)]

/-- `getattr(save_result, "value", {}) or {}`, on which `.get` is called. -/
def savedValue (result : CallResult) : Except Exn Dict :=
  if !result.value.truthy then .ok Dict.empty
  else match result.value.asDict? with
  | some saved => .ok saved
  | none => .error (attributeError "object has no attribute 'get'")

def savedRecordId (saved : Dict) : String :=
  let recordId := strip (pyStr (saved.getD "record_id" (.str "")))
  if recordId = "" then "unknown-record" else recordId

/-- From a record saved to the end of the stage. -/
def finishPersist (state : IngestionState) (candidate : Candidate) (targetPath : String)
    (persistedResult : Option ProcessorResult) (saveResult : CallResult) : StageProg Directive := do
  let saved ← Prog.lift (savedValue saveResult)
  let recordId := savedRecordId saved
  let persistedCandidate ← Prog.lift (candidate.withPersistResult recordId targetPath)
  let state := state.withReason "persist" "persisted"
  return .continueTo "post_persist"
    { state with candidate := some persistedCandidate, processorResult := persistedResult,
                 recordId := some recordId,
                 recordSnapshot := (saved.getNone "record_snapshot").asDict? }

/-- From all moves made to the end of the stage. -/
def savePersisted (state : IngestionState) (candidate : Candidate) (targetPath : String)
    (persistedResult : Option ProcessorResult) : StageProg Directive := do
  let candidatePayload ← Prog.lift candidate.toPayload
  let saveResult ← call
    (.saveRecord (recordPayload candidatePayload persistedResult targetPath))
  if !saveResult.success then do
    let reason := saveResult.reasonCode "record_save_failed"
    match ← retryOrTerminalForFailure state reason with
    | some directive => return directive
    | none => return .terminal .failed (state.withReason "persist" reason)
  else finishPersist state candidate targetPath persistedResult saveResult

def runPersistStage (state : IngestionState) : StageProg Directive :=
  match state.candidate with
  | none => return .terminal .failed state
  | some candidate =>
    match candidate.targetPath with
    | none => return .terminal .failed state
    | some targetPath => do
      let persistedResult ← Prog.lift (buildPersistedProcessorResult state)
      let movePlan := buildMovePlan targetPath candidate state.processorResult
      match ← runMovePlan movePlan with
      | some moveReason => do
        match ← retryOrTerminalForFailure state moveReason with
        | some directive => return directive
        | none =>
          if moveReason = "collision" then
            return .terminal .rejected (state.withReason "persist" moveReason)
          else return .terminal .failed (state.withReason "persist" moveReason)
      | none => savePersisted state candidate targetPath persistedResult

-- ---------------------------------------------------------------------------
-- Post-persist
-- ---------------------------------------------------------------------------

def runPostPersistStage (immediateSyncEnabled : Bool) (state : IngestionState) :
    StageProg Directive :=
  match state.candidate, state.recordId with
  | some candidate, some recordId => do
    let bookkeepingResult ← call (.updateBookkeeping recordId candidate)
    if !bookkeepingResult.success then
      return .terminal .failed (state.withReason "post_persist" "bookkeeping_failed")
    else if !immediateSyncEnabled then
      return .terminal .completed (state.withReason "post_persist" "completed")
    else do
      let syncResult ← call (.triggerSync state)
      if !syncResult.success then do
        let reasonCode := syncResult.reasonCode "sync_failed"
        call (.emitSyncError
          (pyStr (state.event.getD "event_id" (.str (state.correlationId.getD "")))) recordId
          reasonCode)
        let state := state.withReason "post_persist" "sync_warning"
        return .terminal .completed { state with syncWarning := some reasonCode }
      else return .terminal .completed (state.withReason "post_persist" "completed")
  | _, _ => return .terminal .failed state

/-- What the stages are configured with besides their callables. -/
structure StageSettings where
  settleDelaySeconds : Seconds
  allowedRoots : List String
  immediateSyncEnabled : Bool

def stageHandlers (settings : StageSettings) (stage : String) :
    Option (StageHandler IngestionState Call Call.Res) :=
  if stage = "resolve" then some runResolveStage
  else if stage = "stabilize" then some (runStabilizeStage settings.settleDelaySeconds)
  else if stage = "transform" then some runTransformStage
  else if stage = "route" then some (runRouteStage settings.allowedRoots)
  else if stage = "persist" then some runPersistStage
  else if stage = "post_persist" then some (runPostPersistStage settings.immediateSyncEnabled)
  else none

/-- Which of the engine's optional callables are given. -/
structure EngineHooks where
  errorHandlingPolicy : Bool := false
  failureOutcomePolicy : Bool := false
  failureEmitter : Bool := false
  cancellationSignal : Bool := false

def ingestionEngine (settings : StageSettings) (hooks : EngineHooks) :
    IngestionEngine IngestionState Call Call.Res :=
  { pipelineRunner :=
      { startStage := "resolve", transitionTable := defaultIngestionTransitionTable }
    stageHandlers := stageHandlers settings
    errorHandlingPolicy := if hooks.errorHandlingPolicy then
        some fun exc stageId => call (.handleError exc stageId)
      else none
    failureOutcomePolicy := if hooks.failureOutcomePolicy then
        some fun classification => call (.failureOutcome classification)
      else none
    failureEmitter := if hooks.failureEmitter then
        some fun outcome event => call (.emitFailure outcome event)
      else none
    cancellationSignal := if hooks.cancellationSignal then some (call .shouldCancel) else none }

end DpostV2.Ingestion
