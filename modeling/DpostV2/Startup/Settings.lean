import DpostV2.Lib.PurePath
import DpostV2.Startup.SettingsSchema

/-!
# Startup settings

`from_raw` over a payload of the schema's shape, with `normalize_paths`,
`normalize_retry_policy` and the checks the records make when they are built.
The file system is a parameter: `resolve` and the working directory may raise.
-/

namespace DpostV2.Startup.Settings

-- ---------------------------------------------------------------------------
-- The records
-- ---------------------------------------------------------------------------

structure RuntimeSettings where
  mode : String
  profile : Option String
  loopMode : String
  pollIntervalSeconds : Seconds
  idleTimeoutSeconds : Option Seconds
  maxRuntimeSeconds : Option Seconds
  deriving DecidableEq

structure PathSettings where
  root : String
  watch : String
  dest : String
  staging : String
  deriving DecidableEq

structure NamingSettings where
  prefixText : String
  policy : String
  deriving DecidableEq

structure IngestionSettings where
  retryLimit : Int
  retryDelaySeconds : Seconds
  deriving DecidableEq

structure SyncSettings where
  backend : String
  apiToken : Option String
  deriving DecidableEq

structure UiSettings where
  backend : String
  deriving DecidableEq

structure PluginPolicySettings where
  pcName : Option String
  devicePlugins : List String
  deriving DecidableEq

structure StartupSettings where
  runtime : RuntimeSettings
  paths : PathSettings
  naming : NamingSettings
  ingestion : IngestionSettings
  sync : SyncSettings
  ui : UiSettings
  plugins : PluginPolicySettings
  sourceFingerprint : Option String
  deriving DecidableEq

/-- `to_redacted_dict`. -/
def StartupSettings.redacted (settings : StartupSettings) : StartupSettings :=
  { settings with
    sync := { settings.sync with apiToken := settings.sync.apiToken.map fun _ => "<redacted>" } }

-- ---------------------------------------------------------------------------
-- Where paths lead
-- ---------------------------------------------------------------------------

/-- What `Path.resolve` and `Path.cwd` return. -/
abbrev AbsolutePath := { path : PurePath // path.root ≠ .relative }

/-- An exception of the operating system or the interpreter. -/
structure Fault where
  exn : Exn
  foreign : exn.isInstance "SettingsServiceError" = false

/-- What a load finds around it when it is called. -/
structure FileSystem where
  cwd : Except Fault AbsolutePath
  resolve : PurePath → Except Fault AbsolutePath

def Fault.lift (x : Except Fault α) : Except Exn α :=
  match x with
  | .ok a => .ok a
  | .error fault => .error fault.exn

def settingsError (cls message : String) : Exn :=
  { mro := [cls, "SettingsError", "ValueError", "Exception"], message }

def normalizationError := settingsError "SettingsNormalizationError"
def rangeError := settingsError "SettingsRangeError"
def shapeError := settingsError "SettingsShapeError"
def pathError := settingsError "SettingsPathError"

/-- `_normalize_path`. -/
def normalizedPath (fs : FileSystem) (rawValue : String) (anchor : PurePath) :
    Except Exn AbsolutePath :=
  Fault.lift (fs.resolve (anchor.join (.parse rawValue)))

mutual
/-- Whether a value can be looked up in a set. -/
def hashable : Value → Bool
  | .list _ | .dict _ => false
  | .tuple xs => hashableAll xs
  | _ => true
def hashableAll : List Value → Bool
  | [] => true
  | v :: vs => hashable v && hashableAll vs
end

section
variable [Interpreter]

def normalizeOptionalString : Value → Option String
  | .none => none
  | value => if blank (pyStr value) then none else some (strip (pyStr value))

def normalizeProfile (rawProfile : Value) : Option String :=
  (normalizeOptionalString rawProfile).map Interpreter.lower

def normalizeMode (rawMode : Value) : Except Exn String :=
  let mode := token (rawMode.orElse (.str ""))
  if modes.contains mode then .ok mode
  else .error (normalizationError ("Unsupported startup mode: " ++ pyRepr rawMode ++ "."))

def rootBase (fs : FileSystem) (rootHint : Option PurePath) : Except Exn AbsolutePath :=
  match rootHint with
  | some hint => Fault.lift (fs.resolve hint)
  | none => Fault.lift fs.cwd

def normalizePaths (fs : FileSystem) (rawPaths : Dict) (rootHint : Option PurePath) :
    Except Exn PathSettings :=
  match normalizeOptionalString (rawPaths.getNone "root") with
  | none => .error (pathError "Settings block 'paths.root' is required.")
  | some rootRaw => do
    let base ← rootBase fs rootHint
    let root ← normalizedPath fs rootRaw base.val
    let below (key default : String) :=
      normalizedPath fs ((normalizeOptionalString (rawPaths.getNone key)).getD default) root.val
    let watch ← below "watch" "incoming"
    let dest ← below "dest" "processed"
    let staging ← below "staging" "tmp"
    return { root := root.val.str, watch := watch.val.str, dest := dest.val.str
             staging := staging.val.str }

def normalizeRetryPolicy (rawIngestion : Dict) : Except Exn IngestionSettings := do
  let retryLimit ← pyInt (rawIngestion.getD "retry_limit" (.int 0))
  let retryDelaySeconds ← toFloat (rawIngestion.getD "retry_delay_seconds" (.float 0))
  if retryLimit < 0 then
    .error (rangeError ("ingestion.retry_limit must be >= 0. Got " ++
      pyStr (.int retryLimit) ++ "."))
  else if retryDelaySeconds < 0 then
    .error (rangeError ("ingestion.retry_delay_seconds must be >= 0. Got " ++
      pyStr (.float retryDelaySeconds) ++ "."))
  else return { retryLimit, retryDelaySeconds }

def normalizeOptionalFloat (value : Value) (fieldName : String) : Except Exn (Option Seconds) :=
  match value with
  | .none => .ok none
  | value => do
    let normalized ← toFloat value
    if normalized < 0 then .error (rangeError (fieldName ++ " must be >= 0."))
    else return some normalized

/-- `RuntimeSettings.__post_init__`. -/
def runtimeSettings (mode : String) (profile : Option String) (runtimeBlock : Dict) :
    Except Exn RuntimeSettings := do
  let mode ← normalizeMode (.str mode)
  let profile := profile.bind fun profile => normalizeProfile (.str profile)
  let rawLoopMode := runtimeBlock.getD "loop_mode" (.str "oneshot")
  let loopMode := Interpreter.lower ((normalizeOptionalString rawLoopMode).getD "oneshot")
  if !loopModes.contains loopMode then
    .error (normalizationError ("Unsupported runtime loop mode: " ++ pyRepr rawLoopMode ++ "."))
  else
    let pollIntervalSeconds ← toFloat (runtimeBlock.getD "poll_interval_seconds" (.float 1))
    if pollIntervalSeconds < 0 then
      .error (rangeError "runtime.poll_interval_seconds must be >= 0.")
    else
      let idleTimeoutSeconds ← normalizeOptionalFloat (runtimeBlock.getNone "idle_timeout_seconds")
        "runtime.idle_timeout_seconds"
      let maxRuntimeSeconds ← normalizeOptionalFloat (runtimeBlock.getNone "max_runtime_seconds")
        "runtime.max_runtime_seconds"
      return { mode, profile, loopMode, pollIntervalSeconds, idleTimeoutSeconds, maxRuntimeSeconds }

def policyTokens : List Value → Except Exn (List String)
  | [] => .ok []
  | pluginId :: rest =>
    match normalizeOptionalString pluginId with
    | none =>
      .error (normalizationError "plugins.device_plugins entries must be non-empty strings.")
    | some text => do
      let normalized ← policyTokens rest
      return Interpreter.lower text :: normalized

/-- `_normalize_device_plugin_ids`: the value is looked up in the set of empty
values first, which a list cannot be. -/
def normalizeDevicePluginIds (value : Value) : Except Exn (List String) :=
  if !hashable value then .error (typeError "unhashable type")
  else match value with
    | .none => .ok []
    | .str "" => .ok []
    | .tuple pluginIds | .list pluginIds => policyTokens pluginIds
    | _ => .error (normalizationError "plugins.device_plugins must be a sequence of plugin ids.")

/-- `PluginPolicySettings.__post_init__`. -/
def pluginPolicySettings (pcName : Option String) (devicePlugins : List String) :
    Except Exn PluginPolicySettings := do
  let normalized ← policyTokens (devicePlugins.map .str)
  return {
    pcName := pcName.bind fun name =>
      (normalizeOptionalString (.str name)).map Interpreter.lower
    devicePlugins := normalized }

/-- A token that has to be one of `allowed`. -/
def choice (what : String) (allowed : List String) (raw : Value) : Except Exn String :=
  if allowed.contains (token raw) then .ok (token raw)
  else .error (normalizationError ("Unsupported " ++ what ++ ": " ++ pyRepr raw ++ "."))

def fromRaw (fs : FileSystem) (rawConfig : Payload) (rootHint : Option PurePath)
    (sourceFingerprint : Option String) : Except Exn StartupSettings := do
  let mode ← normalizeMode (rawConfig.mode.getD .none)
  let profile := normalizeProfile rawConfig.profile
  let paths ← normalizePaths fs (rawConfig.blocks .paths) rootHint
  let ingestion ← normalizeRetryPolicy (rawConfig.blocks .ingestion)
  let prefixText := strip (pyStr ((rawConfig.blocks .naming).getD "prefix" (.str "")))
  if prefixText == "" then .error (shapeError "Settings block 'naming.prefix' is required.")
  else
    let policy ← choice "naming policy" namingPolicies
      ((rawConfig.blocks .naming).getD "policy" (.str ""))
    let uiBackend ← choice "ui backend" uiBackends ((rawConfig.blocks .ui).getD "backend" (.str ""))
    let syncBackend ← choice "sync backend" syncBackends
      ((rawConfig.blocks .sync).getD "backend" (.str ""))
    let runtime ← runtimeSettings mode profile (rawConfig.blocks .runtime)
    let devicePlugins ← normalizeDevicePluginIds
      ((rawConfig.blocks .plugins).getD "device_plugins" (.tuple []))
    let plugins ← pluginPolicySettings
      (normalizeOptionalString ((rawConfig.blocks .plugins).getNone "pc_name")) devicePlugins
    return {
      runtime
      paths
      naming := { prefixText, policy }
      ingestion
      sync := {
        backend := syncBackend
        apiToken := normalizeOptionalString ((rawConfig.blocks .sync).getNone "api_token") }
      ui := { backend := uiBackend }
      plugins
      sourceFingerprint }

/-- What `from_raw` asks of a payload, and the settings it makes of it. -/
theorem fromRaw_ok {fs : FileSystem} {payload : Payload} :
    fromRaw fs payload hint fingerprint = .ok s ↔
      ∃ mode paths ingestion policy uiBackend syncBackend runtime devicePlugins plugins,
        normalizeMode (payload.mode.getD .none) = .ok mode ∧
        normalizePaths fs (payload.blocks .paths) hint = .ok paths ∧
        normalizeRetryPolicy (payload.blocks .ingestion) = .ok ingestion ∧
        strip (pyStr ((payload.blocks .naming).getD "prefix" (.str ""))) ≠ "" ∧
        choice "naming policy" namingPolicies
          ((payload.blocks .naming).getD "policy" (.str "")) = .ok policy ∧
        choice "ui backend" uiBackends
          ((payload.blocks .ui).getD "backend" (.str "")) = .ok uiBackend ∧
        choice "sync backend" syncBackends
          ((payload.blocks .sync).getD "backend" (.str "")) = .ok syncBackend ∧
        runtimeSettings mode (normalizeProfile payload.profile) (payload.blocks .runtime) =
          .ok runtime ∧
        normalizeDevicePluginIds
          ((payload.blocks .plugins).getD "device_plugins" (.tuple [])) = .ok devicePlugins ∧
        pluginPolicySettings (normalizeOptionalString ((payload.blocks .plugins).getNone "pc_name"))
          devicePlugins = .ok plugins ∧
        { runtime, paths, ingestion, plugins
          naming := {
            prefixText := strip (pyStr ((payload.blocks .naming).getD "prefix" (.str "")))
            policy }
          sync := {
            backend := syncBackend
            apiToken := normalizeOptionalString ((payload.blocks .sync).getNone "api_token") }
          ui := { backend := uiBackend }
          sourceFingerprint := fingerprint } = s := by
  by_cases hp : strip (pyStr ((payload.blocks .naming).getD "prefix" (.str ""))) = ""
  · simp [fromRaw, except_bind_ok, hp]
  · simp only [fromRaw, except_bind_ok, except_pure_ok, beq_iff_eq, hp, if_false]
    constructor
    · rintro ⟨mode, hm, paths, hpaths, ingestion, hi, policy, hpol, ui, hui, sync, hsync, runtime,
        hr, ids, hids, plugins, hplug, rfl⟩
      exact ⟨mode, paths, ingestion, policy, ui, sync, runtime, ids, plugins, hm, hpaths, hi, hp,
        hpol, hui, hsync, hr, hids, hplug, rfl⟩
    · rintro ⟨mode, paths, ingestion, policy, ui, sync, runtime, ids, plugins, hm, hpaths, hi, -,
        hpol, hui, hsync, hr, hids, hplug, rfl⟩
      exact ⟨mode, hm, paths, hpaths, ingestion, hi, policy, hpol, ui, hui, sync, hsync, runtime,
        hr, ids, hids, plugins, hplug, rfl⟩

theorem fromRaw_fingerprint {fs : FileSystem} {payload : Payload}
    (h : fromRaw fs payload hint fingerprint = .ok s) : s.sourceFingerprint = fingerprint := by
  obtain ⟨_, _, _, _, _, _, _, _, _, _, _, _, _, _, _, _, _, _, _, rfl⟩ := fromRaw_ok.mp h
  rfl

/-- Settings rest on the file system by their paths alone. -/
theorem fromRaw_places {fs fs' : FileSystem} {hint hint' : Option PurePath} {payload : Payload}
    (h : normalizePaths fs (payload.blocks .paths) hint =
      normalizePaths fs' (payload.blocks .paths) hint') :
    fromRaw fs payload hint fingerprint = fromRaw fs' payload hint' fingerprint := by
  simp only [fromRaw, h]

end

end DpostV2.Startup.Settings
