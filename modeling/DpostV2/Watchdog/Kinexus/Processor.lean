import DpostV2.Lib.Assoc
import DpostV2.Watchdog.StagePairs

/-!
# The preprocessing of Kinexus files

`FileProcessorRHEKinexus`: exports and native files of a folder are paired in the order in which
they come. An export that no native waits for is a sentinel; the native that comes after it ends
the batch, which is then staged. Of the moves on the disk the processor remembers only where it
wanted the files to be, so they are left out here, but for the outcome of making the staging
directory. Beside its state a processor has a log of what became of each file.
-/

namespace DpostV2.Watchdog.Kinexus

-- ---------------------------------------------------------------------------
-- Folders
-- ---------------------------------------------------------------------------

structure Pair where
  exportPath : PurePath
  rawPath : PurePath
  created : Seconds
  deriving DecidableEq

structure PendingRaw where
  path : PurePath
  created : Seconds
  deriving DecidableEq

structure Sentinel where
  exportPath : PurePath
  stem : String
  created : Seconds
  deriving DecidableEq

structure FlushBatch where
  stem : String
  pairs : List Pair
  deriving DecidableEq

structure FolderState where
  pendingRaw : List PendingRaw := []
  bucket : List Pair := []
  sentinel : Option Sentinel := none
  deriving DecidableEq

/-- What became of a file. -/
inductive Note where
  | paired (exportPath rawPath : PurePath)
  | rememberedExport (path : PurePath)
  | rememberedNative (path : PurePath)
  | flushed (path : PurePath) (pairs : List Pair) (batch : FlushBatch)
  /-- A sentinel that another replaced, or an export that waited for too long. -/
  | droppedExport (path : PurePath)
  | droppedNative (path : PurePath)
  deriving DecidableEq

namespace FolderState

def isIdle (s : FolderState) : Bool :=
  s.pendingRaw.isEmpty && s.bucket.isEmpty && s.sentinel.isNone

def exportTracked (s : FolderState) (path : PurePath) : Bool :=
  s.sentinel.any (fun sentinel => sentinel.exportPath = path) ||
    s.bucket.any fun pair => pair.exportPath = path

def rawTracked (s : FolderState) (path : PurePath) : Bool :=
  s.bucket.any (fun pair => pair.rawPath = path) ||
    s.pendingRaw.any fun pending => pending.path = path

/-- `_handle_export` of a path that is not tracked. -/
def takeExport (s : FolderState) (path : PurePath) (now : Seconds) : FolderState × List Note :=
  match s.pendingRaw with
  | pending :: rest =>
    ({ s with pendingRaw := rest, bucket := s.bucket ++ [⟨path, pending.path, now⟩] },
      [.paired path pending.path])
  | [] =>
    ({ s with sentinel := some ⟨path, path.stem, now⟩ },
      s.sentinel.toList.map (fun sentinel => .droppedExport sentinel.exportPath) ++
        [.rememberedExport path])

/-- The relocated pair. -/
def stagedPair (stageDir : PurePath) (pair : Pair) : Pair where
  exportPath := stageDir.slash pair.exportPath.name
  rawPath := stageDir.slash pair.rawPath.name
  created := pair.created

/-- The pairs that a native file flushes behind a sentinel. -/
def batchPairs (s : FolderState) (sentinel : Sentinel) (path : PurePath) (now : Seconds) :
    List Pair :=
  s.bucket ++ [⟨sentinel.exportPath, path, now⟩]

def stagedBatch (pairs : List Pair) (path stageDir : PurePath) : FlushBatch where
  stem := path.stem
  pairs := pairs.map (stagedPair stageDir)

/-- `_purge_stale` of one folder. -/
def purge (s : FolderState) (ttl now : Seconds) : FolderState × List Note :=
  let stale created := decide (now - created > ttl)
  ({ pendingRaw := s.pendingRaw.filter fun pending => !stale pending.created
     bucket := s.bucket.filter fun pair => !stale pair.created
     sentinel := s.sentinel.filter fun sentinel => !stale sentinel.created },
    (s.pendingRaw.filter fun pending => stale pending.created).map (.droppedNative ·.path) ++
    (s.bucket.filter fun pair => stale pair.created).flatMap
      (fun pair => [.droppedExport pair.exportPath, .droppedNative pair.rawPath]) ++
    (s.sentinel.filter fun sentinel => stale sentinel.created).toList.map
      (.droppedExport ·.exportPath))

end FolderState

-- ---------------------------------------------------------------------------
-- The processor
-- ---------------------------------------------------------------------------

/-- `device_config.files`, and the time to live of a batch. -/
structure DeviceConfig where
  nativeExtensions : List String
  exportedExtensions : List String
  ttlSeconds : Seconds

section
variable [Interpreter]

def DeviceConfig.isNative (config : DeviceConfig) (path : PurePath) : Bool :=
  decide (Interpreter.lower path.suffix ∈ config.nativeExtensions.map Interpreter.lower)

def DeviceConfig.isExport (config : DeviceConfig) (path : PurePath) : Bool :=
  decide (Interpreter.lower path.suffix ∈ config.exportedExtensions.map Interpreter.lower)

end

/-- Dictionaries are keyed by `str(path)`, that is, by the path. -/
structure Processor where
  state : Assoc String FolderState := .empty
  finalizing : Assoc PurePath FlushBatch := .empty
  rawToStage : Assoc PurePath PurePath := .empty
  log : List (String × Note) := []

def marker : String := ".__staged__"

/-- A call of `device_specific_preprocessing`, with what the disk and the clock tell it. -/
structure Arrival where
  path : PurePath
  present : Bool
  /-- `str(element.parent.resolve())`. -/
  folderKey : String
  created : Seconds
  disk : StageDisk
  now : Seconds
  /-- The stale staging directories that are moved to the exceptions. -/
  abandoned : List PurePath

/-- `_create_unique_stage_dir` for a native file. -/
def Arrival.stageDir (a : Arrival) : Except Exn PurePath :=
  createUniqueStageDir a.disk a.path.parent a.path.stem marker 1000

namespace Processor

def folder (p : Processor) (key : String) : FolderState := (p.state.get? key).getD {}

/-- What became of the files of a folder. -/
def logOf (p : Processor) (key : String) : List Note :=
  (p.log.filter fun entry => entry.1 = key).map Prod.snd

/-- Write back the state of a folder, with its notes. -/
def put (p : Processor) (key : String) (result : FolderState × List Note) : Processor :=
  { p with
    state := p.state.set key result.1
    log := p.log ++ result.2.map fun note => (key, note) }

/-- `_state.setdefault(folder_key, _FolderState())`. -/
def setdefault (p : Processor) (key : String) : Processor :=
  match p.state.get? key with
  | some _ => p
  | none => { p with state := p.state.set key {} }

def cleanupState (p : Processor) (key : String) : Processor :=
  if (p.state.get? key).any FolderState.isIdle then { p with state := p.state.erase key } else p

def isExportFinalizing (p : Processor) (path : PurePath) : Bool :=
  p.finalizing.values.any fun batch => batch.pairs.any fun pair => pair.exportPath = path

def handleExport (p : Processor) (a : Arrival) : Processor :=
  if p.isExportFinalizing a.path then p
  else if (p.folder a.folderKey).exportTracked a.path then p
  else p.put a.folderKey ((p.folder a.folderKey).takeExport a.path a.created)

/-- The flush of a folder into its staging directory. -/
def flush (p : Processor) (a : Arrival) (sentinel : Sentinel) (stageDir : PurePath) : Processor :=
  let pairs := (p.folder a.folderKey).batchPairs sentinel a.path a.created
  let batch := FolderState.stagedBatch pairs a.path stageDir
  { p.put a.folderKey ({}, [.flushed a.path pairs batch]) with
    rawToStage :=
      pairs.foldl (fun stages (pair : Pair) => stages.set pair.rawPath stageDir) p.rawToStage
    finalizing := p.finalizing.set stageDir batch }.cleanupState a.folderKey

def rememberNative (p : Processor) (a : Arrival) : Processor :=
  let s := p.folder a.folderKey
  p.put a.folderKey
    ({ s with pendingRaw := s.pendingRaw ++ [⟨a.path, a.created⟩] }, [.rememberedNative a.path])

/-- `_handle_native` of a path that is not staged. -/
def handleNative (p : Processor) (a : Arrival) : Except Exn (Option PurePath) × Processor :=
  if (p.folder a.folderKey).rawTracked a.path then (.ok none, p)
  else match (p.folder a.folderKey).sentinel with
    | some sentinel =>
      match a.stageDir with
      | .ok stageDir => (.ok (some stageDir), p.flush a sentinel stageDir)
      | .error e => (.error e, p)
    | none => (.ok none, p.rememberNative a)

def purgeFolder (p : Processor) (ttl now : Seconds) (key : String) : Processor :=
  match p.state.get? key with
  | none => p
  | some s => (p.put key (s.purge ttl now)).cleanupState key

def forgetStages (p : Processor) (stageDirs : List PurePath) : Processor :=
  { p with
    rawToStage := stageDirs.foldl (fun stages dir => stages.filterValues (· ≠ dir)) p.rawToStage }

def purgeStale (p : Processor) (ttl now : Seconds) (abandoned : List PurePath) : Processor :=
  (p.state.keys.foldl (fun p key => p.purgeFolder ttl now key) p).forgetStages abandoned

variable [Interpreter]

/-- `device_specific_preprocessing`; the path that is passed through, if there is one. -/
def preprocess (config : DeviceConfig) (p : Processor) (a : Arrival) :
    Except Exn (Option PurePath) × Processor :=
  match p.rawToStage.get? a.path with
  | some stageDir => (.ok (some stageDir), p)
  | none =>
    if a.present = false then (.ok none, p)
    else
      let p := p.setdefault a.folderKey
      if config.isExport a.path then
        (.ok none, (p.handleExport a).purgeStale config.ttlSeconds a.now a.abandoned)
      else if config.isNative a.path then
        match p.handleNative a with
        | (.ok result, p) => (.ok result, p.purgeStale config.ttlSeconds a.now a.abandoned)
        | (.error e, p) => (.error e, p)
      else (.ok none, p.purgeStale config.ttlSeconds a.now a.abandoned)

end Processor

/-- What is done with a processor; of the processing of a staged batch only what it leaves in the
memory of the processor. -/
inductive Event where
  | arrived (a : Arrival)
  | processed (src : PurePath) (isDir completed : Bool)

def Event.run [Interpreter] (config : DeviceConfig) (p : Processor) : Event → Processor
  | .arrived a => (p.preprocess config a).2
  | .processed src isDir completed =>
    let p := { p with finalizing := p.finalizing.erase src }
    if isDir && completed then p.forgetStages [src] else p

def Processor.after [Interpreter] (config : DeviceConfig) (events : List Event) : Processor :=
  events.foldl (Event.run config) {}

end DpostV2.Watchdog.Kinexus
