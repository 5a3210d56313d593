import DpostV2.Startup.Settings
import Mathlib.Data.List.Sort

/-!
# The settings service

`load_startup_settings`: the four sources, their fingerprint, the cache, the
merge, the schema and the settings. Only a `SettingsServiceError` becomes a
failure result; every other exception leaves the call. What a call finds around
it (environment, config file, working directory) is its own parameter.
-/

namespace DpostV2.Startup.Settings

def serviceError (cls message : String) : Exn :=
  { mro := [cls, "SettingsServiceError", "RuntimeError", "Exception"], message }

def sourceReadError := serviceError "SettingsSourceReadError"

-- ---------------------------------------------------------------------------
-- Requests, sources and surroundings
-- ---------------------------------------------------------------------------

/-- A source as it is given: a value, or a callable and what its call comes to. -/
inductive Source where
  | value (v : Value)
  | callable (answer : Except Exn Value)

abbrev Sources := List (String × Source)

/-- What a load reads of its request. -/
structure SettingsRequest where
  mode : Value
  profile : Value := .none
  configPath : Value := .none
  settingsSources : Option Sources := none

/-- What looking for a config file and reading it comes to. -/
inductive ConfigFile where
  | missing
  | notFile
  | unreadable
  | malformed
  | payload (v : Value)
  | raises (fault : Fault)

structure Surroundings extends FileSystem where
  environ : String → Option String
  configFile : PurePath → ConfigFile

def sourceOrder : List String := ["defaults", "file", "environment", "cli"]

/-- The entries of the four sources, in `_SOURCE_ORDER`. -/
structure Payloads where
  defaults : List (String × Value)
  file : List (String × Value)
  environment : List (String × Value)
  cli : List (String × Value)

def Payloads.inOrder (payloads : Payloads) : List (String × List (String × Value)) :=
  sourceOrder.zip [payloads.defaults, payloads.file, payloads.environment, payloads.cli]

section
variable [Interpreter]

/-- `_normalized_settings_mode`. -/
def normalizedSettingsMode (request : SettingsRequest) : String :=
  let requestedMode := token (request.mode.orElse (.str ""))
  if requestedMode == "v2" then "headless"
  else if requestedMode == "" then "headless"
  else requestedMode

/-- The path both readers of `config_path` take; `none` for an empty one. -/
def configFilePath (configPath : Value) (rootHint : Option PurePath) : Option PurePath :=
  if !configPath.truthy || blank (pyStr configPath) then none
  else
    let configFile := PurePath.parse (strip (pyStr configPath))
    match rootHint with
    | some hint => some (hint.join configFile)
    | none => some configFile

def resolveSettingsRootHint (fs : FileSystem) (request : SettingsRequest)
    (rootHint : Option PurePath) : Except Exn (Option PurePath) :=
  match configFilePath request.configPath rootHint with
  | none => .ok rootHint
  | some configFile => do
    let resolved ← Fault.lift (fs.resolve configFile)
    return some resolved.val.parent

def loadFileConfig (around : Surroundings) (configPath : Value) (rootHint : Option PurePath) :
    Except Exn (List (String × Value)) :=
  match configFilePath configPath rootHint with
  | none => .ok []
  | some configFile =>
    let shown := configFile.str
    match around.configFile configFile with
    | .missing => .error (sourceReadError ("Config file not found: " ++ shown ++ "."))
    | .notFile => .error (sourceReadError ("Config path is not a file: " ++ shown ++ "."))
    | .unreadable => .error (sourceReadError ("Failed reading config file " ++ shown ++ "."))
    | .malformed => .error (sourceReadError ("Invalid JSON in config file " ++ shown ++ "."))
    | .payload (.dict entries) => .ok entries
    | .payload _ =>
      .error (sourceReadError ("Config file payload must be a mapping: " ++ shown ++ "."))
    | .raises fault => .error fault.exn

def firstEnvValue (environ : String → Option String) (names : List String) : Option String :=
  names.findSome? fun name =>
    let candidate := strip ((environ name).getD "")
    if candidate == "" then none else some candidate

def splitEnvPluginIds : Option String → List String
  | none => []
  | some rawValue =>
    let commas := rawValue.toList.map fun c => if c = ';' then ',' else c
    ((commas.splitOn ',').map fun t => strip (String.ofList t)).filter (· != "")

def loadEnvironmentSettings (environ : String → Option String) : List (String × Value) :=
  let pcName := match firstEnvValue environ ["DPOST_PC_NAME", "PC_NAME"] with
    | some name => [("pc_name", Value.str name)]
    | none => []
  let pluginIds := splitEnvPluginIds
    (firstEnvValue environ ["DPOST_DEVICE_PLUGINS", "DEVICE_PLUGINS"])
  let devicePlugins :=
    if pluginIds.isEmpty then [] else [("device_plugins", Value.tuple (pluginIds.map .str))]
  let plugins := pcName ++ devicePlugins
  if plugins.isEmpty then [] else [("plugins", .dict plugins)]

def defaultSettings (mode : String) : List (String × Value) :=
  [("mode", .str mode), ("profile", .str "default"), ("paths", .dict [("root", .str ".")]),
    ("ui", .dict [("backend", .str "headless")]), ("sync", .dict [("backend", .str "noop")]),
    ("ingestion", .dict [("retry_limit", .int 3), ("retry_delay_seconds", .float 1)]),
    ("naming", .dict [("prefix", .str "DPOST"), ("policy", .str "prefix_only")]),
    ("plugins", .dict [("pc_name", .none), ("device_plugins", .tuple [])])]

def defaultSourcesFromRequest (around : Surroundings) (request : SettingsRequest)
    (rootHint : Option PurePath) : Except Exn Sources :=
  match request.settingsSources with
  | some sources => .ok sources
  | none => do
    let mode := normalizedSettingsMode request
    let configSettings ← loadFileConfig around request.configPath rootHint
    let profile := match request.profile with
      | .none => []
      | profile => [("profile", profile)]
    return [("defaults", .value (.dict (defaultSettings mode))),
      ("file", .value (.dict configSettings)),
      ("environment", .value (.dict (loadEnvironmentSettings around.environ))),
      ("cli", .value (.dict (("mode", .str mode) :: profile)))]

/-- One source of `_resolve_sources`. -/
def resolveSource (sources : Sources) (name : String) : Except Exn (List (String × Value)) := do
  let value ← match (sources.lookup name).getD (.value (.dict [])) with
    | .value v => .ok v
    | .callable (.ok v) => .ok v
    | .callable (.error _) => .error (sourceReadError
        ("Failed reading settings source " ++ Interpreter.reprOf name ++ "."))
  match value with
  | .none => return []
  | .dict entries => return entries
  | _ => .error (sourceReadError
      ("Settings source " ++ Interpreter.reprOf name ++ " must be a mapping."))

def resolveSources (around : Surroundings) (request : SettingsRequest)
    (explicitSources : Option Sources) (rootHint : Option PurePath) : Except Exn Payloads := do
  let given := explicitSources.getD []
  let sources ←
    if given.isEmpty then defaultSourcesFromRequest around request rootHint else .ok given
  let defaults ← resolveSource sources "defaults"
  let file ← resolveSource sources "file"
  let environment ← resolveSource sources "environment"
  let cli ← resolveSource sources "cli"
  return { defaults, file, environment, cli }

end

-- ---------------------------------------------------------------------------
-- The merge
-- ---------------------------------------------------------------------------

def mergeTypeError (fullPath : String) : Exn :=
  serviceError "SettingsMergeTypeError"
    ("Incompatible settings merge at " ++
      fullPath ++ ": cannot merge mapping with non-mapping value.")

def dotted (pathPrefix key : String) : String :=
  if pathPrefix == "" then key else pathPrefix ++ "." ++ key

section
variable [Interpreter]

mutual
/-- One entry of `_deep_merge`. -/
def deepMergeEntry (sourceName pathPrefix key : String) (target : List (String × Value))
    (provenance : Dict) : Value → Except Exn (List (String × Value) × Dict)
  | .dict incoming =>
    match target.lookup key with
    | some (.dict existing) => do
      let (merged, provenance) ←
        deepMerge sourceName (dotted pathPrefix key) existing provenance incoming
      return (setEntry key (.dict merged) target, provenance)
    | some _ => .error (mergeTypeError (Interpreter.reprOf (dotted pathPrefix key)))
    | none => .ok (setEntry key (.dict incoming) target,
        provenance.set (dotted pathPrefix key) (.str sourceName))
  | value =>
    match target.lookup key with
    | some (.dict _) => .error (mergeTypeError (Interpreter.reprOf (dotted pathPrefix key)))
    | _ => .ok (setEntry key value target,
        provenance.set (dotted pathPrefix key) (.str sourceName))
/-- `_deep_merge`: the merged target and the provenance. -/
def deepMerge (sourceName pathPrefix : String) (target : List (String × Value))
    (provenance : Dict) : List (String × Value) → Except Exn (List (String × Value) × Dict)
  | [] => .ok (target, provenance)
  | (key, value) :: rest => do
    let (target, provenance) ← deepMergeEntry sourceName pathPrefix key target provenance value
    deepMerge sourceName pathPrefix target provenance rest
end

def mergeSources (payloads : Payloads) : Except Exn (List (String × Value) × Dict) :=
  payloads.inOrder.foldlM
    (fun merged source => deepMerge source.1 "" merged.1 merged.2 source.2) ([], Dict.empty)

end

-- ---------------------------------------------------------------------------
-- The fingerprint
-- ---------------------------------------------------------------------------

mutual
/-- No integer of the value has more than the 4300 digits the interpreter writes. -/
def writable : Value → Bool
  | .int i => i.natAbs < 10 ^ 4300
  | .list xs | .tuple xs => writableAll xs
  | .dict es => writableEntries es
  | _ => true
def writableAll : List Value → Bool
  | [] => true
  | v :: vs => writable v && writableAll vs
def writableEntries : List (String × Value) → Bool
  | [] => true
  | (_, v) :: es => writable v && writableEntries es
end

mutual
/-- The value with the keys of its dicts in order. -/
def sortKeys : Value → Value
  | .list xs => .list (sortKeysAll xs)
  | .dict es => .dict ((sortKeysEntries es).insertionSort fun a b => a.1 ≤ b.1)
  | v => v
def sortKeysAll : List Value → List Value
  | [] => []
  | v :: vs => sortKeys v :: sortKeysAll vs
def sortKeysEntries : List (String × Value) → List (String × Value)
  | [] => []
  | (k, v) :: es => (k, sortKeys v) :: sortKeysEntries es
end

/-- What `json.dumps` with sorted keys writes, read back. -/
def serialized (v : Value) : Except Exn Value :=
  match v.toJson with
  | none => .error (typeError "Object is not JSON serializable")
  | some json =>
    if writable json then .ok (sortKeys json)
    else .error (valueError "Exceeds the limit (4300 digits) for integer string conversion")

def canonicalPayloads (payloads : Payloads) : Value :=
  .dict (payloads.inOrder.map fun source => (source.1, .dict source.2))

/-- `_compute_fingerprint`; `digest` is SHA-256 over the compact text of what is serialized. -/
def computeFingerprint (digest : Value → String) (payloads : Payloads) : Except Exn String := do
  let json ← serialized (canonicalPayloads payloads)
  return digest json

-- ---------------------------------------------------------------------------
-- Loading
-- ---------------------------------------------------------------------------

structure SettingsLoadFailure where
  stage : String
  errorType : String
  message : String

structure Diagnostics where
  cacheHit : Bool
  fingerprint : Option String := none
  redactedSettings : Option StartupSettings := none
  cacheIntegrityError : Option String := none

structure SettingsLoadResult where
  isSuccess : Bool
  settings : Option StartupSettings := none
  provenance : Dict := Dict.empty
  diagnostics : Diagnostics
  fingerprint : Option String := none
  failure : Option SettingsLoadFailure := none

structure SettingsCacheEntry where
  fingerprint : String
  settings : Option StartupSettings
  diagnostics : Diagnostics
  settingsFingerprint : Option String := none

structure SettingsCache where
  entry : Option SettingsCacheEntry := none

def cacheIntegrityError : Exn :=
  serviceError "SettingsCacheIntegrityError"
    ("Settings cache entry fingerprint mismatch between cache metadata and " ++
      "stored settings fingerprint.")

def detectCacheDesync (entry : SettingsCacheEntry) : Option Exn :=
  match entry.settingsFingerprint with
  | none => none
  | some fingerprint => if fingerprint = entry.fingerprint then none else some cacheIntegrityError

/-- The cache after the desync check, and what the check found. -/
def checkedCache (cache : Option SettingsCache) : Option SettingsCache × Option Exn :=
  match cache with
  | some { entry := some entry } =>
    match detectCacheDesync entry with
    | some issue => (some {}, some issue)
    | none => (cache, none)
  | _ => (cache, none)

/-- The settings of the entry, when it is of this fingerprint. -/
def cachedSettings (cache : Option SettingsCache) (fingerprint : String) : Option StartupSettings :=
  match cache with
  | some { entry := some entry } =>
    if entry.fingerprint = fingerprint then entry.settings else none
  | _ => none

/-- The handler of `load_startup_settings`. -/
def handled (e : Exn) : Except Exn SettingsLoadResult :=
  if e.isInstance "SettingsServiceError" then
    .ok {
      isSuccess := false
      failure := some { stage := "settings_service", errorType := e.className,
                        message := e.message }
      diagnostics := { cacheHit := false } }
  else .error e

section
variable [Interpreter]

/-- The schema's own errors, as the service raises them. -/
def validatedPayload (merged : List (String × Value)) : Except Exn Payload :=
  match validateRawSettings (Dict.ofEntries merged) with
  | .ok payload => .ok payload
  | .error raised =>
    if raised.exn.isInstance "SettingsSchemaError" then
      .error (serviceError "SettingsValidationError" raised.exn.message)
    else .error raised.exn

/-- From the sources to the settings. -/
def buildSettings (around : Surroundings) (request : SettingsRequest) (rootHint : Option PurePath)
    (payloads : Payloads) (fingerprint : String) : Except Exn (StartupSettings × Dict) := do
  let (merged, provenance) ← mergeSources payloads
  let payload ← validatedPayload merged
  let hint ← resolveSettingsRootHint around.toFileSystem request rootHint
  let settings ← fromRaw around.toFileSystem payload hint (some fingerprint)
  return (settings, provenance)

def loadStartupSettings (digest : Value → String) (around : Surroundings)
    (request : SettingsRequest) (rootHint : Option PurePath) (sources : Option Sources)
    (cache : Option SettingsCache) : Except Exn SettingsLoadResult × Option SettingsCache :=
  match resolveSources around request sources rootHint with
  | .error e => (handled e, cache)
  | .ok payloads =>
    match computeFingerprint digest payloads with
    | .error e => (handled e, cache)
    | .ok fingerprint =>
      let (cache, integrityIssue) := checkedCache cache
      match cachedSettings cache fingerprint with
      | some settings =>
        (.ok {
          isSuccess := true
          settings := some settings
          diagnostics := {
            cacheHit := true
            fingerprint := some fingerprint
            redactedSettings := some settings.redacted }
          fingerprint := some fingerprint }, cache)
      | none =>
        match buildSettings around request rootHint payloads fingerprint with
        | .error e => (handled e, cache)
        | .ok (settings, provenance) =>
          let diagnostics : Diagnostics := {
            cacheHit := false
            fingerprint := some fingerprint
            redactedSettings := some settings.redacted
            cacheIntegrityError := integrityIssue.map fun e => e.className ++ ": " ++ e.message }
          let stored : SettingsCacheEntry := {
            fingerprint
            settings := some settings
            diagnostics
            settingsFingerprint := settings.sourceFingerprint }
          (.ok {
            isSuccess := true
            settings := some settings
            provenance
            diagnostics
            fingerprint := some fingerprint }, cache.map fun _ => { entry := some stored })

end

end DpostV2.Startup.Settings
