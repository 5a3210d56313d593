import DpostV2.Contracts.Context
import DpostV2.Ingestion.Candidate
import DpostV2.Ingestion.Engine

/-!
# What the stages share

The state that travels through the pipeline, and the calls the stages and
the engine make to what they are given. The answer to a call is anything: a
result of any status, or an exception.
-/

namespace DpostV2.Ingestion

/-- A processor object: which of its attributes can be called. -/
structure Processor where
  pluginId : String
  hasPrepare : Bool
  hasCanProcess : Bool
  hasProcess : Bool

structure IngestionState where
  event : Dict
  correlationId : Option String := none
  candidate : Option Candidate := none
  processor : Option Processor := none
  processingContext : Option ProcessingContext := none
  preparedInput : Option Dict := none
  processorResult : Option ProcessorResult := none
  recordId : Option String := none
  recordSnapshot : Option Dict := none
  retryPlan : Option Dict := none
  syncWarning : Option String := none
  attemptIndex : Int := 0
  diagnostics : Dict := Dict.empty

section
variable [Interpreter]

def IngestionState.fromEvent (event : Dict) (processingContext : Option ProcessingContext) :
    IngestionState :=
  let eventId := strip (pyStr (event.getD "event_id" (.str "")))
  let base := pyStr (event.getD "path" (.str "")) ++ "|" ++
    pyStr (event.getD "observed_at" (.str ""))
  { event,
    correlationId := some (if eventId ≠ "" then eventId
      else String.ofList ((Interpreter.textDigest base).toList.take 16)),
    processingContext }

end

/-- `with_updates(diagnostics={stage: entries})`, the other updates aside. -/
def IngestionState.withDiagnostics (state : IngestionState) (stage : String)
    (entries : List (String × Value)) : IngestionState :=
  { state with diagnostics := state.diagnostics.set stage (.dict entries) }

def IngestionState.withReason (state : IngestionState) (stage reasonCode : String) :
    IngestionState :=
  state.withDiagnostics stage [("reason_code", .str reasonCode)]

-- ---------------------------------------------------------------------------
-- Calls
-- ---------------------------------------------------------------------------

/-- What a runtime call returns, as the stages read it: `status` is the text of
its status, `"failed"` when it has none. -/
structure CallResult where
  status : String
  value : Value := .none
  diagnostics : Value := .none

def CallResult.success (result : CallResult) : Bool := result.status == "success"

/-- `_reason_code(result, fallback)`. -/
def CallResult.reasonCode [Interpreter] (result : CallResult) (fallback : String) : String :=
  match result.diagnostics.asDict? with
  | none => fallback
  | some diagnostics => pyStr (diagnostics.getD "reason_code" (.str fallback))

structure SelectionDescriptor where
  pluginId : String
  processorKey : String
  capabilityReason : String
  cacheHit : Bool

structure ProcessorSelection where
  processor : Processor
  descriptor : SelectionDescriptor

/-- A call of one of the injected callables, with its arguments. -/
inductive Call where
  | fsFacts (path : String)
  | selectProcessor (candidate : Candidate)
  | now
  | modifiedEventGate (eventKey : String) (eventTimestamp : Seconds)
  | prepare (processor : Processor) (rawInput : Dict)
  | canProcess (processor : Processor) (preparedInput : Dict)
  | process (processor : Processor) (preparedInput : Dict) (context : ProcessingContext)
  | selectRoute (candidate : Candidate)
  | buildFilename (state : IngestionState)
  | moveFile (source target : String)
  | saveRecord (recordPayload : Dict)
  | planRetry (reason : String) (attempt : Int)
  | updateBookkeeping (recordId : String) (candidate : Candidate)
  | triggerSync (state : IngestionState)
  | emitSyncError (eventId recordId reason : String)
  | shouldCancel
  | handleError (exc : Exn) (stageId : Option String)
  | failureOutcome (classification : FailureClassification)
  | emitFailure (failureOutcome : FailureOutcome) (event : Dict)

/-- What a call returns when it returns. The gate's answer is the text of the
result's `decision`, `none` when it has no such attribute. -/
abbrev Call.Answer : Call → Type
  | .fsFacts _ | .now | .prepare .. | .canProcess .. | .planRetry .. => Value
  | .selectProcessor _ => ProcessorSelection
  | .modifiedEventGate .. | .selectRoute _ => Option String
  | .process .. => ProcessorOutput
  | .buildFilename _ => String
  | .moveFile .. | .saveRecord _ | .updateBookkeeping .. | .triggerSync _ => CallResult
  | .emitSyncError .. | .emitFailure .. => Unit
  | .shouldCancel => Bool
  | .handleError .. => FailureClassification
  | .failureOutcome _ => FailureOutcome

abbrev Call.Res (c : Call) : Type := Except Exn c.Answer

abbrev StageProg := Prog Call Call.Res Exn

/-- Make the call; what it raises is raised. -/
def call (c : Call) : StageProg c.Answer := .act c fun r => .done r

/-- Make the call inside a `try`. -/
def tryCall (c : Call) : StageProg (Except Exn c.Answer) := (call c).attempt

end DpostV2.Ingestion
