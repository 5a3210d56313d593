import DpostV2.Ingestion.Safety
import DpostV2.Runtime.Records
import DpostV2.Storage.FileOps

/-!
# The runtime ingestion engine

`_build_runtime_ingestion_engine`: what the callables of the stages are when
the runtime builds them. Files and records are the ones modelled, a device
processor, the plugin host, the clocks and the sync port are an `Environment`
that answers as it likes and may change files while it does.
-/

namespace DpostV2.Runtime

open DpostV2.Ingestion

/-- What is not the runtime's: the files, and everything behind the other ports. -/
structure Outside (D : Type) where
  files : Fs
  devices : D

structure RuntimeWorld (D : Type) extends Outside D where
  lastSeen : String → Option Seconds
  records : RecordWorld

/-- Before the first ingestion, with an empty store. -/
def RuntimeWorld.start (outside : Outside D) : RuntimeWorld D :=
  { toOutside := outside, lastSeen := fun _ => none,
    records := { store := fun _ => none, recordRevisions := fun _ => none } }

structure SyncResponse where
  status : String
  reasonCode : Option String

/-- What the runtime calls besides its files and records. -/
structure Environment (D : Type) where
  clock : Outside D → Seconds × Outside D
  /-- The record store's own clock. -/
  updatedAt : Outside D → String
  normalizePath : String → String
  /-- Size and modification time; `none` where `stat` fails. -/
  stat : String → Outside D → Option (Int × Seconds)
  selectProcessor : Candidate → Outside D → Except Exn ProcessorSelection × Outside D
  prepare : Processor → Dict → Outside D → Except Exn Value × Outside D
  canProcess : Processor → Dict → Outside D → Except Exn Value × Outside D
  process : Processor → Dict → ProcessingContext → Outside D →
    Except Exn ProcessorOutput × Outside D
  /-- The payload built from the stored record, and the sync port's response to it. -/
  syncRecord : IngestionState → RecordStore.Db → Outside D → Except Exn SyncResponse × Outside D
  emit : String → String → String → Outside D → Except Exn Unit × Outside D

structure RuntimeSettings where
  dest : Option String
  settleDelaySeconds : Value
  fileOps : FileOps

def resolveRouteRoot (settings : RuntimeSettings) : String :=
  match settings.dest with
  | some candidate => if blank candidate then "processed" else (PurePath.parse candidate).str
  | none => "processed"

def filenameBuilder (candidate : Candidate) : String :=
  let filename := (PurePath.parse candidate.sourcePath).name
  if blank filename then candidate.identityToken ++ ".dat" else filename

def buildRuntimeFilename (state : IngestionState) : String :=
  let fallbackName := match state.candidate with
    | some candidate => filenameBuilder candidate
    | none => "artifact.dat"
  match state.processorResult with
  | none => fallbackName
  | some result =>
    let candidateName := (PurePath.parse result.finalPath).name
    if blank candidateName then fallbackName else candidateName

section
variable [Interpreter]

def resolveSettleDelaySeconds (settings : RuntimeSettings) : Seconds :=
  match pyFloat settings.settleDelaySeconds with
  | .ok value => if value < 0 then 0 else value
  | .error _ => 0

def stageSettings (settings : RuntimeSettings) : StageSettings :=
  { settleDelaySeconds := resolveSettleDelaySeconds settings,
    allowedRoots := [resolveRouteRoot settings], immediateSyncEnabled := true }

/-- The payload of `_read_runtime_file_facts`. -/
def fileFacts (path : String) (size : Int) (modifiedAt : Seconds) : Value :=
  let seconds := if 0 ≤ modifiedAt then ⌊modifiedAt⌋ else ⌈modifiedAt⌉
  .dict [("size", .int size), ("modified_at", .float modifiedAt),
    ("fingerprint", .str ("fp:" ++ (PurePath.parse path).str ++ ":" ++ toString size ++ ":" ++
      toString seconds))]

-- ---------------------------------------------------------------------------
-- The callables
-- ---------------------------------------------------------------------------

variable {D : Type} (env : Environment D) (settings : RuntimeSettings)

abbrev RuntimeM (D : Type) := Eff Exn (RuntimeWorld D)

/-- A call behind another port. -/
def ask (f : Outside D → Except Exn α × Outside D) : RuntimeM D α := fun w =>
  ((f w.toOutside).1, { w with toOutside := (f w.toOutside).2 })

def withFiles (m : Eff Exn Fs α) : RuntimeM D α := fun w =>
  ((m.run w.files).1, { w with files := (m.run w.files).2 })

def withRecords (m : String → RecordM α) : RuntimeM D α := fun w =>
  (((m (env.updatedAt w.toOutside)).run w.records).1,
    { w with records := ((m (env.updatedAt w.toOutside)).run w.records).2 })

def clockSeconds : RuntimeM D Seconds :=
  ask fun o => (.ok (env.clock o).1, (env.clock o).2)

def readRuntimeFileFacts (path : String) : RuntimeM D Value := do
  let fallbackModifiedAt ← clockSeconds env
  let w ← Eff.get
  match env.stat path w.toOutside with
  | some (size, modifiedAt) => return fileFacts path size modifiedAt
  | none => return fileFacts path 0 fallbackModifiedAt

/-- The gate's answer is a mapping, which has no attribute `decision`. -/
def modifiedEventGate (eventKey : String) (eventTimestamp : Seconds) :
    RuntimeM D (Option String) := do
  Eff.modify fun w =>
    { w with lastSeen := Function.update w.lastSeen eventKey (some eventTimestamp) }
  return none

def moveFile (source target : String) : RuntimeM D CallResult := do
  match ← (withFiles (settings.fileOps.move source target)).attempt with
  | .ok path => return successResult (.object "PosixPath" path.text) "move"
  | .error exc => return failedResult "move_failed" exc

def syncFailed (diagnostics : List (String × Value)) : CallResult :=
  { status := "failed", diagnostics := .dict diagnostics }

def syncStatuses : List String := ["synced", "queued", "skipped_noop"]

def triggerSync (state : IngestionState) : RuntimeM D CallResult :=
  match state.recordId with
  | none => return syncFailed [("reason_code", .str "sync_failed")]
  | some recordId =>
    if blank recordId then return syncFailed [("reason_code", .str "sync_failed")]
    else do
      let w ← Eff.get
      match ← (ask (env.syncRecord state w.records.store)).attempt with
      | .error exc => do
        withRecords env fun now => markRuntimeRecordUnsynced now recordId
        return syncFailed [("reason_code", .str "sync_failed"), ("error", .str exc.message)]
      | .ok response =>
        if Interpreter.lower response.status ∈ syncStatuses then
          return successResult (.object "SyncResponse" response.status) "trigger_sync"
        else do
          withRecords env fun now => markRuntimeRecordUnsynced now recordId
          return syncFailed [("reason_code", .str (pyStr (optional .str response.reasonCode)))]

/-- No such callable is given to the engine. -/
def notGiven : RuntimeM D α := Eff.raise (typeError "'NoneType' object is not callable")

def runtimeCall : (c : Call) → RuntimeM D c.Answer
  | .fsFacts path => readRuntimeFileFacts env (env.normalizePath path)
  | .selectProcessor candidate => ask (env.selectProcessor candidate)
  | .now => do return .float (← clockSeconds env)
  | .modifiedEventGate eventKey eventTimestamp => modifiedEventGate eventKey eventTimestamp
  | .prepare processor rawInput => ask (env.prepare processor rawInput)
  | .canProcess processor preparedInput => ask (env.canProcess processor preparedInput)
  | .process processor preparedInput context => ask (env.process processor preparedInput context)
  | .selectRoute _ => return some (resolveRouteRoot settings)
  | .buildFilename state => return buildRuntimeFilename state
  | .moveFile source target => moveFile settings source target
  | .saveRecord recordPayload => withRecords env fun now => saveRecord now recordPayload
  | .planRetry reason _ =>
    return .dict [("terminal_type", .str "stop_retrying"), ("reason_code", .str reason)]
  | .updateBookkeeping recordId candidate =>
    withRecords env fun now => updateBookkeeping now recordId candidate
  | .triggerSync state => triggerSync env state
  | .emitSyncError eventId recordId reason => ask (env.emit eventId recordId reason)
  | .shouldCancel => notGiven
  | .handleError .. => notGiven
  | .failureOutcome _ => notGiven
  | .emitFailure .. => notGiven

def runtimeExec (c : Call) : RuntimeWorld D → c.Res × RuntimeWorld D :=
  (runtimeCall env settings c).run

-- ---------------------------------------------------------------------------
-- Ingestions
-- ---------------------------------------------------------------------------

structure Ingestion where
  event : Value
  processingContext : ProcessingContext

/-- `_RuntimeIngestionEngineAdapter.process`, with the processing context it is given or builds. -/
def ingestion (i : Ingestion) : StageProg (IngestionOutcome IngestionState) :=
  (ingestionEngine (stageSettings settings) {}).process i.event fun payload =>
    .ok (IngestionState.fromEvent payload (some i.processingContext))

/-- What happens outside between two ingestions, and the ingestion. -/
structure Turn (D : Type) where
  change : Outside D → Outside D
  ingestion : Ingestion

def Turn.begin (turn : Turn D) (w : RuntimeWorld D) : RuntimeWorld D :=
  { w with toOutside := turn.change w.toOutside }

def Turn.trace (w : RuntimeWorld D) (turn : Turn D) : List CallStep :=
  (Runtime.ingestion settings turn.ingestion).trace (runtimeExec env settings) (turn.begin w)

def Turn.run (w : RuntimeWorld D) (turn : Turn D) : RuntimeWorld D :=
  ((Runtime.ingestion settings turn.ingestion).run (runtimeExec env settings) (turn.begin w)).2

section
variable (turn : Turn D) (w : RuntimeWorld D)

theorem Turn.run_eq : turn.run env settings w =
    Prog.after (runtimeExec env settings) (turn.begin w) (turn.trace env settings w) :=
  Prog.run_after _ _

theorem Turn.played : Prog.Played (runtimeExec env settings) (turn.begin w)
    (turn.trace env settings w) :=
  Prog.played_trace _ _

/-- The state an ingestion starts with. -/
def Ingestion.initialState (i : Ingestion) : IngestionState :=
  IngestionState.fromEvent (coerceEventPayload i.event) (some i.processingContext)

theorem Turn.ingestionRun : IngestionRun (stageSettings settings) {}
    (.ok turn.ingestion.initialState) (turn.trace env settings w) := by
  obtain ⟨_, -, hrun, -⟩ := process_run _ _ _ _
    (Prog.run_ends (runtimeExec env settings) (Runtime.ingestion settings turn.ingestion)
      (turn.begin w))
  exact hrun

end

/-- A lifetime of the runtime: its maps start empty, files and records are as they were left. -/
structure Lifetime (D : Type) where
  env : Environment D
  settings : RuntimeSettings
  turns : List (Turn D)

def RuntimeWorld.restart (w : RuntimeWorld D) : RuntimeWorld D :=
  { w with
    lastSeen := fun _ => none
    records := { w.records with recordRevisions := fun _ => none } }

end

-- ---------------------------------------------------------------------------
-- Ports and records
-- ---------------------------------------------------------------------------

section
variable {D : Type} (env : Environment D) (settings : RuntimeSettings)

theorem run_withRecords (m : String → RecordM α) (w : RuntimeWorld D) :
    (withRecords env m).run w = (((m (env.updatedAt w.toOutside)).run w.records).1,
      { w with records := ((m (env.updatedAt w.toOutside)).run w.records).2 }) := rfl

theorem run_ask (f : Outside D → Except Exn α × Outside D) (w : RuntimeWorld D) :
    (ask f).run w = ((f w.toOutside).1, { w with toOutside := (f w.toOutside).2 }) := rfl

theorem readRuntimeFileFacts_records (path : String) (w : RuntimeWorld D) :
    ((readRuntimeFileFacts env path).run w).2.records = w.records := by
  simp only [readRuntimeFileFacts, clockSeconds, Eff.run_bind, run_ask, Eff.run_get]
  split <;> rfl

theorem moveFile_records (source target : String) (w : RuntimeWorld D) :
    ((moveFile settings source target).run w).2.records = w.records := by
  simp only [moveFile, Eff.run_bind, Eff.run_attempt]
  split <;> rfl

end

-- ---------------------------------------------------------------------------
-- The default device
-- ---------------------------------------------------------------------------

section
variable [Interpreter]

/-- `_DefaultDeviceProcessor.can_process`. -/
def defaultCanProcess (candidate : Dict) : Value :=
  .bool (!blank (pyStr (candidate.getD "source_path" (.str ""))))

/-- `_DefaultDeviceProcessor.process`. -/
def defaultProcess (pluginId : String) (candidate : Dict) : ProcessorOutput :=
  .value (.dict [("final_path", .str (pyStr (candidate.getD "source_path" (.str "")))),
    ("datatype", .str (pluginId ++ "/output"))])

/-- Nothing but the default device, on a system whose clock stands still. -/
def defaultDevice : Environment Unit where
  clock o := (10, o)
  updatedAt _ := "1970-01-01T00:00:10+00:00"
  normalizePath path := (PurePath.parse path).str
  stat _ _ := some (1, 5)
  selectProcessor _ o :=
    (.ok { processor := { pluginId := "default_device", hasPrepare := false,
                          hasCanProcess := true, hasProcess := true },
           descriptor := { pluginId := "default_device", processorKey := "default_device",
                           capabilityReason := "pc_scope_default", cacheHit := false } }, o)
  prepare _ rawInput o := (.ok (.dict rawInput.entries), o)
  canProcess _ preparedInput o := (.ok (defaultCanProcess preparedInput), o)
  process processor preparedInput _ o :=
    (.ok (defaultProcess processor.pluginId preparedInput), o)
  syncRecord _ _ o := (.ok { status := "skipped_noop", reasonCode := none }, o)
  emit _ _ _ o := (.ok (), o)

end

def toOut : RuntimeSettings where
  dest := some "/out"
  settleDelaySeconds := .int 0
  fileOps := { root := [], home := fun _ => none, crossDevice := fun _ _ => false }

/-- A file put in place, its directory made where it is missing. -/
def dropFile (p : FsPath) (content : Bytes) (o : Outside Unit) : Outside Unit :=
  match (do (← o.files.mkdirs p.dropLast).write p content : Except OsError Fs) with
  | .ok files => { o with files }
  | .error _ => o

def arrival (path : String) (h : PathToken path) : Ingestion where
  event := .dict [("path", .str path), ("event_kind", .str "created"), ("event_id", .str path)]
  processingContext :=
    { sourcePath := path, eventType := "created", observedAt := 0, eventId := path, traceId := "t",
      forcePaths := [], sourcePath_ok := h, eventType_ok := by decide +kernel,
      eventId_ok := h.1, traceId_ok := by decide +kernel, forcePaths_ok := by simp }

theorem inX_ok : PathToken "/in/x.csv" := by decide +kernel

end DpostV2.Runtime
