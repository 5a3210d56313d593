import DpostV2.Lib.Effect
import DpostV2.Lib.Python

/-!
# Bootstrap

`run_bootstrap`: settings, dependencies, context, composition, launch, with a
cleanup hook from the dependencies and one from the composition. What it is
given to call may return or raise at every call, and `str()` of an exception of
theirs may raise as well.
-/

namespace DpostV2

/-- `value is None`. -/
def Value.isNone : Value → Bool
  | .none => true
  | _ => false

namespace Startup

/-- A callable, by its identity. -/
abbrev Hook := Nat

structure BootstrapRequest where
  mode : String
  profile : Option String
  traceId : String
  metadata : Dict

structure PluginSettings where
  pcName : Value
  devicePlugins : Value

/-- What startup reads of a settings object: its attributes, its entries where it is a
mapping, and what `to_dependency_payload` does where there is one. -/
structure StartupSettings where
  mode : Option Value
  profile : Option Value
  plugins : Option PluginSettings := none
  mapping : Option Dict
  dependencyPayload : Option (Except Raised Value)

structure SettingsLoadFailure where
  stage : String
  errorType : String
  message : String

structure SettingsLoadResult where
  isSuccess : Bool
  settings : Option StartupSettings
  provenance : Dict
  fingerprint : Option String
  failure : Option SettingsLoadFailure

inductive LoadedSettings where
  | result (loaded : SettingsLoadResult)
  | settings (settings : StartupSettings)

/-- The factories by their ports. -/
structure StartupDependencies where
  factories : List String
  selectedBackends : Dict
  warnings : List String := []
  diagnostics : Dict := Dict.empty
  cleanup : Option Hook

structure LaunchMetadata where
  requestedMode : String
  requestedProfile : Option String
  traceId : String
  processId : Int
  bootTimestampUtc : String

structure StartupContext where
  settings : StartupSettings
  dependencies : StartupDependencies
  launch : LaunchMetadata

structure CompositionBundle where
  runtimeHandle : Value
  portBindings : List String
  diagnostics : Dict
  shutdownAll : Hook

structure StartupFailure where
  stage : String
  errorType : String
  message : String
  deriving DecidableEq, Repr

structure StartupEvent where
  name : String
  traceId : String
  payload : Dict

structure BootstrapResult where
  isSuccess : Bool
  context : Option StartupContext := none
  runtimeHandle : Option Value := none
  failure : Option StartupFailure := none

inductive BootCall where
  | loadSettings (request : BootstrapRequest)
  | resolveDependencies (settings : StartupSettings) (request : BootstrapRequest)
  | composeRuntime (context : StartupContext)
  | launchRuntime (runtimeHandle : Value) (context : StartupContext)
  | cleanup (hook : Hook)
  | emitEvent (event : StartupEvent)

abbrev BootCall.Answer : BootCall → Type
  | .loadSettings _ => LoadedSettings
  | .resolveDependencies .. => StartupDependencies
  | .composeRuntime _ => CompositionBundle
  | .launchRuntime .. => Value
  | .cleanup _ | .emitEvent _ => Unit

abbrev BootCall.Res (c : BootCall) : Type := Except Raised c.Answer

abbrev Boot (W : Type) := Traced Unit W BootCall BootCall.Res

abbrev BootM (W : Type) := Eff Raised (Boot W)

def textOrNone : Option String → Value
  | some s => .str s
  | none => .none

-- ---------------------------------------------------------------------------
-- The startup context
-- ---------------------------------------------------------------------------

def contextError (cls message : String) : Exn :=
  { mro := [cls, "StartupContextError", "RuntimeError", "Exception"], message }

section
variable [Interpreter]

/-- `str(value).strip().lower()`. -/
def normalizedToken (value : Value) : String := Interpreter.lower (strip (pyStr value))

/-- `candidate.strip().lower()` where there is one and it is not blank. -/
def backendToken (candidate : Value) : Option String :=
  if candidate.isNone then none
  else if normalizedToken candidate = "" then none
  else some (normalizedToken candidate)

/-- `payload["backends"]["plugins"]` as a token. -/
def pluginBackendOf (payload : Value) : Option String :=
  match payload.asDict? with
  | none => none
  | some payload =>
    match (payload.getNone "backends").asDict? with
    | none => none
    | some backends => backendToken (backends.getNone "plugins")

def resolvePluginBackendFromSettings (settings : StartupSettings) :
    Except Raised (Option String) :=
  match settings.mapping.bind fun mapping => pluginBackendOf (.dict mapping.entries) with
  | some token => .ok (some token)
  | none =>
    match settings.dependencyPayload with
    | none => .ok none
    | some payload => do
      let payload ← payload
      return pluginBackendOf payload

/-- The diagnostics as far as they were updated, and what `to_dependency_payload` raised. -/
def updateDiagnosticsWithSettings (diagnostics : Dict) (settings : StartupSettings)
    (provenance : Dict) (fingerprint : Option String) : Dict × Except Raised Unit :=
  let diagnostics := (diagnostics.set "settings_fingerprint" (textOrNone fingerprint)).set
    "settings_provenance" (.dict provenance.entries)
  let diagnostics := match settings.mode with
    | some mode => diagnostics.set "mode" mode
    | none => diagnostics
  let diagnostics := match settings.profile with
    | some profile => diagnostics.set "profile" profile
    | none => diagnostics
  match resolvePluginBackendFromSettings settings with
  | .error e => (diagnostics, .error e)
  | .ok none => (diagnostics, .ok ())
  | .ok (some backend) =>
    ((diagnostics.set "plugin_backend" (.str backend)).set "plugin_visibility" (.str "configured"),
      .ok ())

/-- The settings, their provenance and their fingerprint. -/
def unwrapSettings : LoadedSettings → Except Exn (StartupSettings × Dict × Option String)
  | .settings settings => .ok (settings, Dict.empty, none)
  | .result { isSuccess := true, settings := some settings, provenance, fingerprint, .. } =>
    .ok (settings, provenance, fingerprint)
  | .result loaded =>
    let failure := loaded.failure.getD
      { stage := "settings_service", errorType := "SettingsLoadFailure",
        message := "Settings load returned unsuccessful result." }
    .error { mro := ["RuntimeError", "Exception"],
             message := failure.errorType ++ ": " ++ failure.message }

end

-- ---------------------------------------------------------------------------
-- The startup sequence
-- ---------------------------------------------------------------------------

section
variable [Interpreter] {W : Type} (exec : (c : BootCall) → W → c.Res × W)
  (request : BootstrapRequest)

def perform (c : BootCall) : BootM W c.Answer := Traced.perform exec c

/-- What comes of the answer of `load_settings`, and the diagnostics by then. -/
def settledSettings (eventDiagnostics : Dict) : Except Raised LoadedSettings →
    Except Raised StartupSettings × Dict
  | .error e => (.error e, eventDiagnostics)
  | .ok loaded =>
    match unwrapSettings loaded with
    | .error exn => (.error { exn }, eventDiagnostics)
    | .ok (settings, provenance, fingerprint) =>
      match updateDiagnosticsWithSettings eventDiagnostics settings provenance fingerprint with
      | (diagnostics, .error e) => (.error e, diagnostics)
      | (diagnostics, .ok ()) => (.ok settings, diagnostics)

end

def Boot.initial {W : Type} (w : W) : Boot W := { state := (), world := w, log := [] }

end Startup

end DpostV2
