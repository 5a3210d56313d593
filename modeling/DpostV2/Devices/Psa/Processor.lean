import DpostV2.Devices.Template
import DpostV2.Ingestion.Candidate
import DpostV2.Lib.Disk
import DpostV2.Lib.FileName
import Mathlib.Logic.Function.Basic

/-!
# The PSA Horiba processor

`prepare` pairs the files of a folder in the order they come: an NGB waits for the CSV after
it, and a CSV before which no NGB waits is the sentinel of a batch, which the next
NGB completes. The batch is moved into a stage directory of its own. `process` renames
it into the output directory, with the registered batch or with one read from
the stage directory.
-/

namespace DpostV2.Devices.Psa

structure PendingNgb where
  path : PurePath
  createdAt : Seconds

structure Pair where
  csvPath : PurePath
  ngbPath : PurePath
  createdAt : Seconds

structure Sentinel where
  csvPath : PurePath
  namePrefix : String
  createdAt : Seconds

structure FolderState where
  pendingNgb : List PendingNgb := []
  bucket : List Pair := []
  sentinel : Option Sentinel := none

structure StagedBatch where
  stageDir : PurePath
  namePrefix : String
  pairs : List Pair
  createdAt : Seconds

/-- A folder without an entry is an idle one; a batch stands under the text of its directory. -/
structure ProcessorState where
  folders : FsPath → FolderState := fun _ => {}
  stagedBatches : String → Option StagedBatch := fun _ => none
  ngbToStage : String → Option String := fun _ => none

/-- Where the processor runs: the machine, how it decodes bytes (`none` where `decode` raises
`UnicodeDecodeError`), and the settings beyond the profile of the plugin. -/
structure Setup where
  machine : Machine
  decode : String → Bytes → Option String
  decodeIgnoring : Bytes → String
  extra : Dict

abbrev PsaM := DiskM ProcessorState

abbrev PsaWorld := OnDisk ProcessorState

/-- `validate_psa_horiba_settings` overrides both, whatever it is given. -/
def settings (extra : Dict) : DevicePluginSettings where
  pluginId := "psa_horiba"
  sourceExtensions := [".csv", ".tsv", ".ngb"]
  extra := extra

def stageMarker : String := ".__staged__"

def stagedKind : String := "staged_batch"

def waitingKinds : List String :=
  ["awaiting_export_pair", "awaiting_sentinel_pair", "bucketed_pair"]

def probenameKey : String := "probenname"

-- ---------------------------------------------------------------------------
-- The metadata of a CSV
-- ---------------------------------------------------------------------------

def isLineBreak (c : Char) : Bool :=
  c.toNat ∈ [10, 11, 12, 13, 28, 29, 30, 133, 8232, 8233]

/-- `str.splitlines`, with the beginning of the first line. -/
def splitLines : List Char → List Char → List String
  | [], [] => []
  | line, [] => [String.ofList line]
  | line, '\r' :: '\n' :: rest => String.ofList line :: splitLines [] rest
  | line, c :: rest =>
    if isLineBreak c then String.ofList line :: splitLines [] rest
    else splitLines (line ++ [c]) rest

/-- `re.split(r"\t+|;", ..)`, with the beginning of the first cell and whether a tab
is before it. -/
def splitCells : Bool → List Char → List Char → List String
  | _, cell, [] => [String.ofList cell]
  | tabbed, cell, c :: rest =>
    if c = ';' then String.ofList cell :: splitCells false [] rest
    else if c = '\t' then
      if tabbed then splitCells true cell rest else String.ofList cell :: splitCells true [] rest
    else splitCells false (cell ++ [c]) rest

/-- `text.strip(c)`. -/
def stripChar (c : Char) (s : String) : String :=
  String.ofList ((s.toList.dropWhile (· = c)).rdropWhile (· = c))

def isAsciiDigit (c : Char) : Bool := '0' ≤ c && c ≤ '9'

/-- `[xX]\([^)]*\)` -/
def isAxisHeader (token : List Char) : Bool :=
  match token with
  | x :: '(' :: rest => (x = 'x' || x = 'X') && rest.dropWhile (· ≠ ')') = [')']
  | _ => false

/-- `([\sEe][+-]?[0-9]+)?\s*` -/
def isNumberTail (tail : List Char) : Bool :=
  tail.all isSpace || match tail with
    | c :: rest =>
      let digits := match rest with
        | '+' :: rest | '-' :: rest => rest
        | rest => rest
      (isSpace c || c = 'E' || c = 'e') && !(digits.takeWhile isAsciiDigit).isEmpty &&
        (digits.dropWhile isAsciiDigit).all isSpace
    | [] => true

/-- `[\s]*[0-9]*[.,]?[0-9]+([\sEe][+-]?[0-9]+)?\s*` -/
def isNumber (token : List Char) : Bool :=
  let token := token.dropWhile isSpace
  match token.dropWhile isAsciiDigit with
  | '.' :: rest | ',' :: rest =>
    !(rest.takeWhile isAsciiDigit).isEmpty && isNumberTail (rest.dropWhile isAsciiDigit)
  | rest => !(token.takeWhile isAsciiDigit).isEmpty && isNumberTail rest

def looksLikeTableHeader (token : String) : Bool :=
  isAxisHeader token.toList || isNumber token.toList

section
variable [Interpreter]

/-- The entries of the lines up to the table, the last one first. -/
def parseCsvMetadata (metadata : List (String × String)) : List String → List (String × String)
  | [] => metadata
  | line :: rest =>
    if blank line then parseCsvMetadata metadata rest
    else
      let parts := splitCells false [] (strip line).toList
      let key := stripChar '\ufeff' (stripChar '"' (strip (parts.headD "")))
      if looksLikeTableHeader key then metadata
      else match parts with
        | _ :: value :: _ =>
          let value := stripChar '"' (strip value)
          if key ≠ "" ∧ value ≠ "" then
            parseCsvMetadata ((Interpreter.lower key, value) :: metadata) rest
          else parseCsvMetadata metadata rest
        | _ => parseCsvMetadata metadata rest

variable (setup : Setup)

def readTextPrefix (path : PurePath) : PsaM String := do
  let rawBytes := (← onDisk setup.machine (.readBytes path)).take 200000
  match ["utf-8-sig", "utf-8", "cp1252", "latin-1"].findSome? (setup.decode · rawBytes) with
  | some text => return text
  | none => return setup.decodeIgnoring rawBytes

def parseCsvPrefix (path : PurePath) : PsaM String := do
  let text ← readTextPrefix setup path
  return strip (((parseCsvMetadata [] (splitLines [] text.toList)).lookup probenameKey).getD "")

-- ---------------------------------------------------------------------------
-- Payloads
-- ---------------------------------------------------------------------------

def requireSourcePath (payload : Dict) : Except Exn String :=
  match payload.getNone "source_path" with
  | .str sourcePath =>
    if blank sourcePath then
      .error (deviceError "DeviceProcessorValidationError" "source_path is required")
    else .ok (strip sourcePath)
  | _ => .error (deviceError "DeviceProcessorValidationError" "source_path is required")

def waitingPayload (path : PurePath) (preparedKind : String) (namePrefix : String := "") : Dict :=
  Dict.ofEntries ([("source_path", .str path.str),
    ("plugin_id", .str (settings setup.extra).pluginId), ("prepared_kind", .str preparedKind)] ++
    if namePrefix = "" then [] else [("prefix_hint", .str namePrefix)])

def stagedPayload (stageDir : PurePath) : Dict :=
  Dict.ofEntries [("source_path", .str stageDir.str),
    ("plugin_id", .str (settings setup.extra).pluginId), ("prepared_kind", .str stagedKind),
    ("output_dir", .str stageDir.parent.str)]

-- ---------------------------------------------------------------------------
-- What has waited too long
-- ---------------------------------------------------------------------------

def staleAfterSeconds : Seconds :=
  match pyFloat ((settings setup.extra).extra.getD "stale_after_seconds" (.float 600)) with
  | .ok seconds => max seconds 0
  | .error _ => 600

def fresh (now createdAt : Seconds) : Bool := now - createdAt ≤ staleAfterSeconds setup

def isPresent (fs : Fs) (path : PurePath) : Bool := fs.present (setup.machine.at path)

def FolderState.purged (now : Seconds) (fs : Fs) (folder : FolderState) : FolderState where
  pendingNgb := folder.pendingNgb.filter fun pending =>
    fresh setup now pending.createdAt && isPresent setup fs pending.path
  bucket := folder.bucket.filter fun pair =>
    fresh setup now pair.createdAt && isPresent setup fs pair.csvPath &&
      isPresent setup fs pair.ngbPath
  sentinel := folder.sentinel.filter fun sentinel =>
    fresh setup now sentinel.createdAt && isPresent setup fs sentinel.csvPath

def staleBatch (now : Seconds) (fs : Fs) (batch : StagedBatch) : Bool :=
  !fresh setup now batch.createdAt || !isPresent setup fs batch.stageDir

def ProcessorState.purged (now : Seconds) (fs : Fs) (state : ProcessorState) : ProcessorState where
  folders key := (state.folders key).purged setup now fs
  stagedBatches key := (state.stagedBatches key).filter (!staleBatch setup now fs ·)
  ngbToStage key := (state.ngbToStage key).filter fun stageDir =>
    !(state.stagedBatches stageDir).any (staleBatch setup now fs)

def purgeStale (now : Seconds) : PsaM Unit := do
  let fs ← inspect id
  Traced.write (·.purged setup now fs)

-- ---------------------------------------------------------------------------
-- Prepare
-- ---------------------------------------------------------------------------

def ProcessorState.setFolder (state : ProcessorState) (key : FsPath) (folder : FolderState) :
    ProcessorState :=
  { state with folders := Function.update state.folders key folder }

def prepareCsv (path : PurePath) (folderKey : FsPath) (now : Seconds) : PsaM Dict := do
  let namePrefix ← parseCsvPrefix setup path
  let folder := (← Traced.read).folders folderKey
  match folder.pendingNgb with
  | pending :: rest => do
    Traced.write (·.setFolder folderKey { folder with
      pendingNgb := rest
      bucket := folder.bucket ++ [⟨path, pending.path, now⟩] })
    return waitingPayload setup path "bucketed_pair" namePrefix
  | [] => do
    Traced.write (·.setFolder folderKey { folder with sentinel := some ⟨path, namePrefix, now⟩ })
    return waitingPayload setup path "awaiting_sentinel_pair" namePrefix

/-- `f"{n:02d}"`. -/
def twoDigits (n : Nat) : String := if n < 10 then "0" ++ toString n else toString n

def stageCandidate (baseDir : PurePath) (namePrefix : String) (index : Nat) : PurePath :=
  baseDir.slash ((if namePrefix = "" then "psa" else namePrefix) ++ stageMarker ++ twoDigits index)

/-- The first of the numbered names that is free. `findFree_isSome`: there is one among so many. -/
def createUniqueStageDir (baseDir : PurePath) (namePrefix : String) : PsaM PurePath := do
  let fs ← inspect id
  match (List.range (fs.paths.length + 1)).find? fun i =>
      !isPresent setup fs (stageCandidate baseDir namePrefix (i + 1)) with
  | some i => do
    let candidate := stageCandidate baseDir namePrefix (i + 1)
    onDisk setup.machine (.mkdir candidate)
    return candidate
  | none => Eff.raise (valueError "no name is free")

def relocated (stageDir : PurePath) (pair : Pair) : Pair :=
  { pair with
    csvPath := stageDir.slash pair.csvPath.name
    ngbPath := stageDir.slash pair.ngbPath.name }

def relocatePairToStage (stageDir : PurePath) (pair : Pair) : PsaM Pair := do
  onDisk setup.machine (.move pair.csvPath (relocated stageDir pair).csvPath)
  onDisk setup.machine (.move pair.ngbPath (relocated stageDir pair).ngbPath)
  return relocated stageDir pair

def relocatePairs (stageDir : PurePath) : List Pair → PsaM (List Pair)
  | [] => return []
  | pair :: rest => do
    let pair ← relocatePairToStage setup stageDir pair
    return pair :: (← relocatePairs stageDir rest)

def Sentinel.stagePrefix (sentinel : Sentinel) : String :=
  if sentinel.namePrefix ≠ "" then sentinel.namePrefix
  else if sentinel.csvPath.stem ≠ "" then sentinel.csvPath.stem else "psa"

def prepareNgb (path : PurePath) (folderKey : FsPath) (now : Seconds) : PsaM Dict := do
  let folder := (← Traced.read).folders folderKey
  match folder.sentinel with
  | none => do
    Traced.write (·.setFolder folderKey
      { folder with pendingNgb := folder.pendingNgb ++ [⟨path, now⟩] })
    return waitingPayload setup path "awaiting_export_pair"
  | some sentinel => do
    let stageDir ← createUniqueStageDir setup path.parent sentinel.stagePrefix
    let pairs ← relocatePairs setup stageDir (folder.bucket ++ [⟨sentinel.csvPath, path, now⟩])
    Traced.write fun state =>
      { folders := Function.update state.folders folderKey {}
        stagedBatches := Function.update state.stagedBatches stageDir.str
          (some { stageDir, namePrefix := sentinel.stagePrefix, pairs, createdAt := now })
        ngbToStage := Function.update state.ngbToStage path.str (some stageDir.str) }
    return stagedPayload setup stageDir

/-- What `prepare` does with a file that no stage directory stands for yet. -/
def prepareFile (sourcePath : String) (now : Seconds) : PsaM Dict := do
  let extension := normalizeExtension sourcePath
  if extension ∉ (settings setup.extra).sourceExtensions then
    Eff.raise (unsupportedExtension (settings setup.extra) extension)
  else do
    let path := PurePath.parse sourcePath
    if !(← inspect (isPresent setup · path)) then
      Eff.raise (deviceError "DeviceProcessorValidationError" "source_path does not exist")
    else do
      purgeStale setup now
      if extension ∈ [".csv", ".tsv"] then prepareCsv setup path (setup.machine.at path.parent) now
      else if extension = ".ngb" then prepareNgb setup path (setup.machine.at path.parent) now
      else Eff.raise (unsupportedExtension (settings setup.extra) extension)

def prepare (now : Seconds) (rawInput : Value) : PsaM Dict :=
  match rawInput.asDict? with
  | none => Eff.raise (deviceError "DeviceProcessorFormatError" "raw_input must be a mapping")
  | some rawInput => do
    let sourcePath ← Eff.lift (requireSourcePath rawInput)
    match (← Traced.read).ngbToStage sourcePath with
    | some stagedPath => return stagedPayload setup (PurePath.parse stagedPath)
    | none => prepareFile setup sourcePath now

-- ---------------------------------------------------------------------------
-- A batch read from its stage directory
-- ---------------------------------------------------------------------------

def stemOf (name : String) : String := (splitSuffix name).1

def groupByStem (names : List String) (stem : String) : List String :=
  names.filter (stemOf · = stem)

def sorted (names : List String) : List String := names.mergeSort fun a b => a ≤ b

/-- The pairs of equal stem, of each stem as many as it has of both. -/
def stemPairs (csvNames ngbNames : List String) : List (String × String) :=
  (sorted ((csvNames.map stemOf).dedup.filter (· ∈ ngbNames.map stemOf))).flatMap fun stem =>
    (groupByStem csvNames stem).zip (groupByStem ngbNames stem)

/-- What the pairs of equal stem leave of the first names. -/
def remaining (names others : List String) : List String :=
  sorted ((names.map stemOf).dedup.flatMap fun stem =>
    (groupByStem names stem).drop (groupByStem others stem).length)

def reconstructionFailed : Exn := valueError "stage pair reconstruction failed for PSA batch"

def pairNames (csvNames ngbNames : List String) : Except Exn (List (String × String)) :=
  if csvNames.length ≠ ngbNames.length ∨ csvNames = [] then .error reconstructionFailed
  else if (remaining csvNames ngbNames).length ≠ (remaining ngbNames csvNames).length then
    .error reconstructionFailed
  else .ok (stemPairs csvNames ngbNames ++
    (remaining csvNames ngbNames).zip (remaining ngbNames csvNames))

/-- What is before the first marker. -/
def beforeMarker (marker : List Char) : List Char → List Char
  | [] => []
  | c :: cs => if marker.isPrefixOf (c :: cs) then [] else c :: beforeMarker marker cs

def prefixOfStage (stageDir : PurePath) : String :=
  let namePrefix := String.ofList (beforeMarker stageMarker.toList stageDir.name.toList)
  if namePrefix = "" then "psa" else namePrefix

def isCsvName (name : String) : Bool := Interpreter.lower (splitSuffix name).2 ∈ [".csv", ".tsv"]

def isNgbName (name : String) : Bool := Interpreter.lower (splitSuffix name).2 = ".ngb"

/-- The files of a directory with such a name, in order. -/
def listFiles (stageDir : PurePath) (suitable : String → Bool) : PsaM (List String) := do
  let names ← onDisk setup.machine (.iterdir stageDir)
  let fs ← inspect id
  return sorted (names.filter fun name =>
    fs.isFile (setup.machine.at (stageDir.slash name)) && suitable name)

def reconstructBatchFromStage (stageDir : PurePath) (now : Seconds) : PsaM StagedBatch := do
  if !(← inspect (·.isDir (setup.machine.at stageDir))) then
    Eff.raise (valueError "stage directory is missing for PSA batch reconstruction")
  else do
    let csvNames ← listFiles setup stageDir isCsvName
    let ngbNames ← listFiles setup stageDir isNgbName
    let paired ← Eff.lift (pairNames csvNames ngbNames)
    return {
      stageDir
      namePrefix := prefixOfStage stageDir
      pairs := paired.map fun (csv, ngb) => ⟨stageDir.slash csv, stageDir.slash ngb, now⟩
      createdAt := now }

-- ---------------------------------------------------------------------------
-- Process
-- ---------------------------------------------------------------------------

/-- What is before and behind the last `-`, if there is one. -/
def rpartitionDash (stem : String) : Option (String × String) :=
  match stem.toList.reverse.dropWhile (· ≠ '-') with
  | '-' :: before => some (String.ofList before.reverse,
      String.ofList (stem.toList.reverse.takeWhile (· ≠ '-')).reverse)
  | _ => none

/-- `str.isdigit`. -/
def isDigitText (s : String) : Bool := s ≠ "" && s.toList.all Interpreter.isDigit

def maxIndex (namePrefix : String) (highest : Nat) : List String → Except Exn Nat
  | [] => .ok highest
  | name :: rest =>
    match rpartitionDash (stemOf name) with
    | some (base, suffix) =>
      if base = namePrefix ∧ isDigitText suffix = true then do
        maxIndex namePrefix (max highest (← pyInt (.str suffix)).toNat) rest
      else maxIndex namePrefix highest rest
    | none => maxIndex namePrefix highest rest

def nextSequenceBasename (directory : PurePath) (namePrefix : String) : PsaM String := do
  let names ← onDisk setup.machine (.iterdir directory)
  let fs ← inspect id
  let highest ← Eff.lift (maxIndex namePrefix 0 (names.filter fun name =>
    fs.isFile (setup.machine.at (directory.slash name))))
  return namePrefix ++ "-" ++ twoDigits (highest + 1)

def zipNgb (sourcePath destinationPath : PurePath) (archiveName : String) : PsaM Unit := do
  onDisk setup.machine (.openZip destinationPath)
  onDisk setup.machine (.writeZip destinationPath sourcePath archiveName)
  onDisk setup.machine (.unlink sourcePath)

def csvDest (outputDir : PurePath) (basename : String) : PurePath :=
  outputDir.slash (basename ++ ".csv")

def zipDest (outputDir : PurePath) (basename : String) : PurePath :=
  outputDir.slash (basename ++ ".zip")

def finalizePair (outputDir : PurePath) (namePrefix : String) (pair : Pair) :
    PsaM (List String) := do
  let fs ← inspect id
  if !isPresent setup fs pair.csvPath || !isPresent setup fs pair.ngbPath then
    Eff.raise (valueError "stage batch pair is incomplete")
  else do
    let basename ← nextSequenceBasename setup outputDir namePrefix
    onDisk setup.machine (.move pair.csvPath (csvDest outputDir basename))
    zipNgb setup pair.ngbPath (zipDest outputDir basename) (basename ++ ".ngb")
    return [(csvDest outputDir basename).str, (zipDest outputDir basename).str]

def finalizePairs (outputDir : PurePath) (namePrefix : String) : List Pair → PsaM (List String)
  | [] => return []
  | pair :: rest => do
    let created ← finalizePair setup outputDir namePrefix pair
    return created ++ (← finalizePairs outputDir namePrefix rest)

def cleanupStageDir (stageDir : PurePath) : PsaM Unit := do
  if !(← inspect (isPresent setup · stageDir)) then return ()
  else do
    let names ← onDisk setup.machine (.iterdir stageDir)
    if !names.isEmpty then return () else onDisk setup.machine (.rmdir stageDir)

def removeStageReverseMappings (stageDir : PurePath) : PsaM Unit :=
  Traced.write fun state =>
    { state with ngbToStage := fun key => (state.ngbToStage key).filter (· ≠ stageDir.str) }

def popBatch (stageDir : PurePath) (now : Seconds) : PsaM StagedBatch := do
  let state ← Traced.read
  Traced.write fun state =>
    { state with stagedBatches := Function.update state.stagedBatches stageDir.str none }
  match state.stagedBatches stageDir.str with
  | some batch => return batch
  | none => reconstructBatchFromStage setup stageDir now

/-- `Path(str(prepared_input.get("output_dir", "")).strip() or str(stage_dir.parent))`. -/
def outputDirIn (preparedInput : Dict) (stageDir : PurePath) : PurePath :=
  let given := strip (pyStr (preparedInput.getD "output_dir" (.str "")))
  PurePath.parse (if given = "" then stageDir.parent.str else given)

def processStagedBatch (now : Seconds) (preparedInput : Dict) : PsaM ProcessorResult := do
  let stageDir := PurePath.parse (← Eff.lift (requireSourcePath preparedInput))
  let outputDir := outputDirIn preparedInput stageDir
  let batch ← popBatch setup stageDir now
  if batch.pairs.isEmpty then Eff.raise (valueError "stage batch has no pairs to finalize")
  else do
    onDisk setup.machine (.mkdirs outputDir)
    let createdPaths ← finalizePairs setup outputDir batch.namePrefix batch.pairs
    cleanupStageDir setup stageDir
    removeStageReverseMappings stageDir
    match createdPaths with
    | first :: rest => Eff.lift (ProcessorResult.make first "psa" (rest.map .str))
    | [] => Eff.raise { mro := ["IndexError", "LookupError", "Exception"],
                        message := "list index out of range" }

def preparedKind (preparedInput : Dict) : String :=
  strip (pyStr (preparedInput.getD "prepared_kind" (.str "")))

def process (now : Seconds) (preparedInput : Dict) : PsaM ProcessorResult :=
  if preparedKind preparedInput ∈ waitingKinds then
    Eff.raise (valueError "sentinel batch pair is incomplete and cannot finalize")
  else if preparedKind preparedInput = stagedKind then processStagedBatch setup now preparedInput
  else do
    let sourcePath ← Eff.lift (requireSourcePath preparedInput)
    Eff.lift (ProcessorResult.make sourcePath "psa_horiba/template" [])

def canProcess (candidate : Dict) : Bool :=
  if preparedKind candidate ∈ waitingKinds then false
  else if preparedKind candidate = stagedKind then true
  else
    let sourcePath := strip (pyStr (candidate.getD "source_path" (.str "")))
    '.' ∈ sourcePath.toList && normalizeExtension sourcePath ∈
      (settings setup.extra).sourceExtensions

-- ---------------------------------------------------------------------------
-- Runs
-- ---------------------------------------------------------------------------

/-- A call of the processor, with what `time.time()` gives in it, or a change of the disk by
something else. -/
inductive Event where
  | prepare (now : Seconds) (rawInput : Value)
  | process (now : Seconds) (preparedInput : Dict)
  | disk (disk : Disk)

def play (s : PsaWorld) : Event → PsaWorld
  | .prepare now rawInput => ((prepare setup now rawInput).run s).2
  | .process now preparedInput => ((process setup now preparedInput).run s).2
  | .disk disk => { s with world := disk }

def playAll (s : PsaWorld) (events : List Event) : PsaWorld := events.foldl (play setup) s

def started (disk : Disk) : PsaWorld := ⟨{}, disk, []⟩

end

end DpostV2.Devices.Psa
