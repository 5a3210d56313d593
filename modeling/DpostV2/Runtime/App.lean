import DpostV2.Contracts.Context
import DpostV2.Ingestion.Engine
import DpostV2.Lib.Effect
import DpostV2.Runtime.Session

/-!
# The runtime loop

`DPostApp.run`: poll the event source, hand every event to the ingestion
engine once, and end the session when the run ends. The loop has no bound of
its own, so `run` takes the number of polls it is followed for and answers
`none` while the loop is still going.

The clocks, the event source, the cancellation signal, the engine, the
emitter and the idle wait are calls to a world, each free to raise.
-/

namespace DpostV2.Runtime

open DpostV2.Ingestion (IngestionOutcomeKind)

inductive LoopMode where
  | oneshot
  | continuous
  deriving DecidableEq, Repr

/-- What `DPostApp.__init__` keeps and never changes. -/
structure AppSettings where
  policy : SessionPolicy
  sessionId : String
  traceId : String
  runtimeEventId : String
  runtimeTraceId : String
  stopOnFailure : Bool := true
  loopMode : LoopMode := .oneshot
  pollIntervalSeconds : Seconds := 1
  eventSourceCallable : Bool := true
  engineAcceptsProcessingContext : Bool := true

structure AppState where
  session : SessionState Seconds := .initial
  seenEventIds : List String := []
  eventSourceConsumed : Bool := false

inductive AppCall where
  | sessionNow
  | now
  | systemNow
  | eventSource
  | cancellationSignal
  | process (event : Dict) (processingContext : Option ProcessingContext)
  | emit (event : Dict)
  | idleWait (seconds : Seconds)

abbrev AppCall.Answer : AppCall → Type
  | .sessionNow | .now | .systemNow => Seconds
  | .eventSource => Option (List Dict)
  | .cancellationSignal => Bool
  | .process .. => IngestionOutcomeKind
  | .emit _ | .idleWait _ => Unit

abbrev AppCall.Res (c : AppCall) : Type := Except Exn c.Answer

abbrev AppStep := Step AppCall AppCall.Res

structure RunResult where
  processedCount : Nat
  skippedCount : Nat
  failedCount : Nat
  terminalReason : String
  deriving DecidableEq, Repr

/-- The three counters of `run`. -/
structure RunCounts where
  processed : Nat := 0
  skipped : Nat := 0
  failed : Nat := 0
  deriving DecidableEq, Repr

abbrev AppM (W : Type) := Eff Exn (Traced AppState W AppCall AppCall.Res)

def kindValue : IngestionOutcomeKind → String
  | .succeeded => "succeeded"
  | .deferredStage => "deferred_stage"
  | .deferredRetry => "deferred_retry"
  | .rejected => "rejected"
  | .failedTerminal => "failed_terminal"

/-- `_extract_event_id`. -/
def extractEventId (event : Dict) : Except Exn String :=
  match event.getNone "event_id" with
  | .str s =>
    if blank s then
      .error (valueError "event_id must be a non-empty string in runtime event payload")
    else .ok (strip s)
  | _ => .error (valueError "event_id must be a non-empty string in runtime event payload")

/-- `isinstance(value, str)` and not blank; the message is the one of the check. -/
def requireText (value : Value) (message : String) : Except Exn String :=
  match value with
  | .str s => if blank s then .error (valueError message) else .ok s
  | _ => .error (valueError message)

section
variable [Interpreter] {W : Type} (exec : (c : AppCall) → W → c.Res × W) (settings : AppSettings)

def request (c : AppCall) : AppM W c.Answer := Traced.perform exec c

-- ---------------------------------------------------------------------------
-- The session manager's methods, at the time its clock shows
-- ---------------------------------------------------------------------------

def setSession (session : SessionState Seconds) : AppM W Unit :=
  Traced.write fun s => { s with session }

def startSession : AppM W Unit := do
  let state ← Traced.read
  let (normalizedId, same) ← Eff.lift (state.session.startable settings.sessionId)
  match same with
  | some _ => return ()
  | none => do
    let eventTime ← request exec .sessionNow
    setSession (.started normalizedId eventTime)

def recordActivity : AppM W Unit := do
  let state ← Traced.read
  let active ← Eff.lift (state.session.requireActive settings.sessionId)
  let observedAt ← request exec .sessionNow
  let next ← Eff.lift (active.withActivity observedAt)
  setSession next

/-- `stop_session` with the kind COMPLETED, `abort_session` with ABORTED. -/
def endSession (kind : SessionStateKind) (reasonCode : String) : AppM W Unit := do
  let state ← Traced.read
  let active ← Eff.lift (state.session.requireActive settings.sessionId)
  let observedAt ← request exec .sessionNow
  let next ← Eff.lift (active.ended kind observedAt reasonCode)
  setSession next

def stopSession : AppM W Unit := endSession exec settings .completed "stopped"

def abortSession (reasonCode : String) : AppM W Unit := endSession exec settings .aborted reasonCode

def evaluateTimeouts : AppM W TimeoutEvaluation := do
  let state ← Traced.read
  if state.session.kind ≠ .active then return SessionState.notStarted
  else do
    let currentTime ← request exec .sessionNow
    Eff.lift (state.session.timeouts settings.policy currentTime)

-- ---------------------------------------------------------------------------
-- Emissions
-- ---------------------------------------------------------------------------

/-- The payload of `_emit`. -/
def runtimeEmission (kind : String) (occurredAt : Seconds) (extraPayload : List (String × Value)) :
    Dict :=
  (Dict.ofEntries [("kind", .str kind), ("session_id", .str settings.sessionId),
    ("trace_id", .str settings.traceId),
    ("occurred_at", .str (Interpreter.isoformat occurredAt))]).updateEntries extraPayload

def emit (kind : String) (extraPayload : List (String × Value) := []) : AppM W Unit := do
  let occurredAt ← request exec .now
  request exec (.emit (runtimeEmission settings kind occurredAt extraPayload))

/-- `to_payload(event_from_outcome(_outcome_payload(outcome_kind), context))`. -/
def canonicalOutcomeEvent (outcomeKind : IngestionOutcomeKind) (context : ProcessingContext)
    (occurredAt : Seconds) : Dict :=
  let (kind, severity, payload) : String × String × List (String × Value) :=
    match outcomeKind with
    | .succeeded => ("ingestion_succeeded", "info", [("candidate_id", .str context.eventId)])
    | .deferredStage =>
      ("ingestion_deferred", "warning", [("reason_code", .str "deferred_stage")])
    | .deferredRetry =>
      ("ingestion_deferred", "warning", [("reason_code", .str "deferred_retry")])
    | .rejected => ("ingestion_failed", "error", [("reason_code", .str "rejected")])
    | .failedTerminal => ("ingestion_failed", "error", [("reason_code", .str "failed_terminal")])
  Dict.ofEntries [("event_id", .str context.eventId), ("trace_id", .str context.traceId),
    ("occurred_at", .str (Interpreter.isoformat occurredAt)), ("stage", .str "ingestion"),
    ("kind", .str kind), ("severity", .str severity), ("payload", .dict payload)]

def emitCanonicalOutcomeEvent (outcomeKind : IngestionOutcomeKind) (context : ProcessingContext) :
    AppM W Unit := do
  let occurredAt ← request exec .systemNow
  request exec (.emit (canonicalOutcomeEvent outcomeKind context occurredAt))

-- ---------------------------------------------------------------------------
-- One event
-- ---------------------------------------------------------------------------

/-- `event.get(key, event.get(other, default))`. -/
def getEither (event : Dict) (key other : String) (default : Value) : Value :=
  event.getD key (event.getD other default)

def buildProcessingContext (event : Dict) (eventId : String) : AppM W ProcessingContext := do
  let sourcePath ← Eff.lift (requireText (getEither event "path" "source_path" .none)
    "runtime event must include non-empty 'path' or 'source_path'")
  let now ← request exec .now
  let observedAt := event.getD "observed_at" (.datetime now)
  match observedAt with
  | .datetime observedAt => do
    let eventType ← Eff.lift
      (requireText (getEither event "event_type" "event_kind" (.str "created"))
      "runtime event must include non-empty event type")
    Eff.lift (ProcessingContext.forCandidate
      (Dict.ofEntries [("source_path", .str sourcePath), ("event_type", .str eventType),
        ("observed_at", .datetime observedAt), ("event_id", .str eventId),
        ("trace_id", .str settings.traceId)])
      (.str settings.runtimeEventId) (.str settings.runtimeTraceId))
  | _ => Eff.raise (valueError "runtime event 'observed_at' must be datetime when provided")

def nextEventBatch : AppM W (List Dict) := do
  if settings.eventSourceCallable then return (← request exec .eventSource).getD []
  else do
    let state ← Traced.read
    if state.eventSourceConsumed then return []
    else do
      Traced.write fun s => { s with eventSourceConsumed := true }
      return (← request exec .eventSource).getD []

/-- What the loop does once it has reached an event whose id is new: from the
id to the emissions of its outcome. -/
def processNewEvent (event : Dict) (eventId : String) : AppM W IngestionOutcomeKind := do
  Traced.write fun s => { s with seenEventIds := eventId :: s.seenEventIds }
  let processingContext ← buildProcessingContext exec settings event eventId
  recordActivity exec settings
  let outcomeKind ← request exec (.process event
    (if settings.engineAcceptsProcessingContext then some processingContext else none))
  emit exec settings "runtime_event_processed"
    [("event_id", .str eventId), ("outcome_kind", .str (kindValue outcomeKind))]
  emitCanonicalOutcomeEvent exec outcomeKind processingContext
  return outcomeKind

/-- The duplicate branch. -/
def skipEvent (eventId : String) : AppM W Unit :=
  emit exec settings "runtime_event_skipped"
    [("event_id", .str eventId), ("reason_code", .str "duplicate_event_id")]

/-- What stops the loop before it reaches the next event. -/
def stopBeforeEvent : AppM W (Option String) := do
  let timeoutState ← evaluateTimeouts exec settings
  match timeoutState.outcome with
  | .hardTimeout => return some "hard_timeout"
  | .softTimeout => return some "soft_timeout"
  | _ => if ← request exec .cancellationSignal then return some "cancelled" else return none

def processEventBatch : List Dict → RunCounts → AppM W (RunCounts × Option String)
  | [], counts => return (counts, none)
  | event :: rest, counts => do
    match ← stopBeforeEvent exec settings with
    | some reason => return (counts, some reason)
    | none => do
      let eventId ← Eff.lift (extractEventId event)
      let state ← Traced.read
      if eventId ∈ state.seenEventIds then do
        skipEvent exec settings eventId
        processEventBatch rest { counts with skipped := counts.skipped + 1 }
      else do
        let outcomeKind ← processNewEvent exec settings event eventId
        let counts := { counts with processed := counts.processed + 1 }
        if outcomeKind = .rejected ∨ outcomeKind = .failedTerminal then
          let counts := { counts with failed := counts.failed + 1 }
          if settings.stopOnFailure then return (counts, some "failed_terminal")
          else processEventBatch rest counts
        else processEventBatch rest counts

-- ---------------------------------------------------------------------------
-- The loop
-- ---------------------------------------------------------------------------

/-- One turn of the `while True`: the reason to leave it, if there is one. -/
def pollOnce (counts : RunCounts) : AppM W (RunCounts × Option String) := do
  let timeoutState ← evaluateTimeouts exec settings
  match timeoutState.outcome with
  | .hardTimeout => return (counts, some "hard_timeout")
  | .softTimeout => return (counts, some "soft_timeout")
  | _ => do
    let batch ← nextEventBatch exec settings
    if batch.isEmpty then
      if ← request exec .cancellationSignal then return (counts, some "cancelled")
      else if settings.loopMode = .oneshot then return (counts, some "end_of_stream")
      else do
        request exec (.idleWait settings.pollIntervalSeconds)
        return (counts, none)
    else do
      let (counts, reason) ← processEventBatch exec settings batch counts
      match reason with
      | some reason => return (counts, some reason)
      | none =>
        if settings.loopMode = .oneshot then return (counts, some "end_of_stream")
        else return (counts, none)

def runLoop : Nat → RunCounts → AppM W (RunCounts × Option String)
  | 0, counts => return (counts, none)
  | turns + 1, counts => do
    let (counts, reason) ← pollOnce exec settings counts
    match reason with
    | some reason => return (counts, some reason)
    | none => runLoop turns counts

/-- What `run` does with the session once it has left the loop. -/
def closeSession (terminalReason : String) : AppM W Unit :=
  if terminalReason = "failed_terminal" ∨ terminalReason = "hard_timeout" then do
    abortSession exec settings terminalReason
    emit exec settings "runtime_failed" [("reason_code", .str terminalReason)]
  else if terminalReason = "cancelled" then do
    abortSession exec settings terminalReason
    emit exec settings "runtime_cancelled" [("reason_code", .str terminalReason)]
  else do
    stopSession exec settings
    emit exec settings "runtime_completed" [("reason_code", .str terminalReason)]

/-- `DPostApp.run`, followed for the given number of turns. -/
def run (turns : Nat) : AppM W (Option RunResult) := do
  startSession exec settings
  emit exec settings "runtime_started"
  match ← (runLoop exec settings turns {}).attempt with
  | .error e => do
    abortSession exec settings "runtime_exception"
    emit exec settings "runtime_failed" [("reason_code", .str "runtime_exception")]
    Eff.raise e
  | .ok (counts, some terminalReason) => do
    closeSession exec settings terminalReason
    return some { processedCount := counts.processed, skippedCount := counts.skipped,
                  failedCount := counts.failed, terminalReason }
  | .ok (_, none) => return none

end

end DpostV2.Runtime
