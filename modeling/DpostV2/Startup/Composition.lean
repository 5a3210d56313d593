import DpostV2.Startup.Bootstrap

/-!
# Composition

`compose_runtime`: the adapters of the required ports are instantiated in a
fixed order, checked, and handed to the app factory. Factories, healthchecks
and the app factory are called in a world that may raise at every call. The
bundle carries the hooks of its adapters; nothing but `shutdown_all` calls them.
-/

namespace DpostV2

/-- `value` where it is a tuple or a list. -/
def Value.asSequence? : Value → Option (List Value)
  | .tuple xs | .list xs => some xs
  | _ => Option.none

namespace Startup

/-- The value of an attribute: the object it is, or, for a bound method, its function and its
adapter, as the method itself is another object at every access. -/
structure Attribute where
  id : Hook
  callable : Bool
  bound : Bool := false
  deriving DecidableEq, Repr

/-- An object a factory returns, other than `None`. -/
structure Adapter where
  getattr : String → Option Attribute
  callable : Bool
  mapping : Option Dict

/-- `callable(getattr(adapter, name, None))`. -/
def Adapter.hasMethod (adapter : Adapter) (name : String) : Bool :=
  match adapter.getattr name with
  | some value => value.callable
  | none => false

/-- `isinstance(adapter, Mapping) and adapter.get("kind") == kind`. -/
def Adapter.isKind (adapter : Adapter) (kind : String) : Bool :=
  match adapter.mapping with
  | none => false
  | some mapping =>
    match mapping.getNone "kind" with
    | .str kind' => kind' = kind
    | _ => false

/-- An adapter of the composition module itself. -/
def Adapter.ofMethods (methods : List String) : Adapter where
  getattr name := if name ∈ methods then some { id := 0, callable := true } else none
  callable := false
  mapping := none

/-- `None` where a factory returned it. -/
abbrev Bindings := List (String × Option Adapter)

/-- `bindings.get(port)`. -/
def Bindings.bound (bindings : Bindings) (port : String) : Option Adapter :=
  (bindings.reverse.lookup port).join

structure RuntimePluginPolicy where
  selectedPcPlugin : Option String
  scopedDevicePlugins : List String
  pcScopeApplied : Bool

def RuntimePluginPolicy.unscoped : RuntimePluginPolicy :=
  { selectedPcPlugin := none, scopedDevicePlugins := [], pcScopeApplied := false }

structure ApplicationPorts where
  ui : Adapter
  event : Adapter
  recordStore : Adapter
  fileOps : Adapter
  sync : Adapter
  pluginHost : Adapter
  clock : Adapter
  filesystem : Adapter

structure ComposedRuntime where
  app : Value
  portBindings : Bindings
  diagnostics : Dict
  /-- What `shutdown_all` calls, in the order the adapters were instantiated. -/
  hooks : List Hook

inductive ComposeCall where
  | factory (port : String)
  | healthcheck (check : Nat) (bindings : Bindings)
  | resolveDeviceScopeForPc (pluginHost : Adapter) (pcPlugin : String)
  | appFactory (bindings : Bindings) (context : StartupContext)
  | defaultAppFactory (bindings : Bindings) (context : StartupContext)
      (applicationPorts : ApplicationPorts) (pluginPolicy : RuntimePluginPolicy)
  | shutdown (hook : Hook)

abbrev ComposeCall.Answer : ComposeCall → Type
  | .factory _ => Option Adapter
  | .healthcheck .. | .shutdown _ => Unit
  | .resolveDeviceScopeForPc .. => List String
  | .appFactory .. | .defaultAppFactory .. => Value

abbrev ComposeCall.Res (c : ComposeCall) : Type := Except Exn c.Answer

abbrev Composing (W : Type) := Traced Unit W ComposeCall ComposeCall.Res

abbrev ComposeM (W : Type) := Eff Exn (Composing W)

-- ---------------------------------------------------------------------------
-- Required ports
-- ---------------------------------------------------------------------------

def compositionError (cls message : String) : Exn :=
  { mro := [cls, "CompositionError", "RuntimeError", "Exception"], message }

def compositionBindingError (message : String) : Exn :=
  compositionError "CompositionBindingError" message

def initializationError (message : String) : Exn :=
  compositionError "CompositionInitializationError" message

def pluginBindingError (message : String) : Exn :=
  compositionError "CompositionPluginBindingError" message

section
variable [Interpreter]

def validateNoDuplicatePorts (seen : List String) : List String → Except Exn Unit
  | [] => .ok ()
  | port :: rest =>
    if port ∈ seen then
      .error (compositionError "CompositionDuplicateBindingError"
        ("Duplicate port binding requested for " ++ pyRepr (.str port) ++ "."))
    else validateNoDuplicatePorts (port :: seen) rest

def missingBinding (port : String) : Exn :=
  compositionBindingError ("Missing required port binding: " ++ pyRepr (.str port) ++ ".")

def validateRequiredBindings (factories : List String) : List String → Except Exn Unit
  | [] => .ok ()
  | port :: rest =>
    if port ∉ factories then .error (missingBinding port)
    else validateRequiredBindings factories rest

end

def portPriority (port : String) : Nat :=
  (["observability", "storage", "filesystem", "clock", "sync", "ui", "event_sink", "plugins"].idxOf?
    port).getD 100

def deterministicPortOrder (requiredPorts : List String) : List String :=
  requiredPorts.mergeSort fun a b =>
    portPriority a < portPriority b ∨ portPriority a = portPriority b ∧ a ≤ b

-- ---------------------------------------------------------------------------
-- Application ports
-- ---------------------------------------------------------------------------

/-- What the coercion of one binding asks for, and the adapter it puts for a mapping of the
right kind. -/
structure PortSpec where
  name : String
  port : String
  methods : List String
  kind : String
  builtin : Adapter

def uiPort : PortSpec :=
  { name := "ui", port := "ui",
    methods := ["initialize", "notify", "prompt", "show_status", "shutdown"], kind := "ui",
    builtin := .ofMethods ["initialize", "notify", "prompt", "show_status", "shutdown"] }

def eventPort : PortSpec :=
  { name := "event", port := "event_sink", methods := ["emit"], kind := "event_sink",
    builtin := .ofMethods ["emit"] }

def recordStorePort : PortSpec :=
  { name := "record_store", port := "storage",
    methods := ["create", "update", "mark_unsynced", "save"], kind := "storage",
    builtin := .ofMethods ["create", "update", "mark_unsynced", "save"] }

def fileOpsPort : PortSpec :=
  { name := "file_ops", port := "filesystem",
    methods := ["read_bytes", "move", "exists", "mkdir", "delete"], kind := "filesystem",
    builtin := .ofMethods ["read_bytes", "move", "exists", "mkdir", "delete"] }

def syncPort : PortSpec :=
  { name := "sync", port := "sync", methods := ["sync_record"], kind := "sync",
    builtin := .ofMethods ["sync_record"] }

def pluginHostPort : PortSpec :=
  { name := "plugin_host", port := "plugins",
    methods := ["get_device_plugins", "get_pc_plugins", "get_by_capability"], kind := "plugins",
    builtin := .ofMethods ["get_device_plugins", "get_pc_plugins", "get_by_capability"] }

def clockPort : PortSpec :=
  { name := "clock", port := "clock", methods := ["now"], kind := "clock",
    builtin := .ofMethods ["now"] }

def filesystemPort : PortSpec :=
  { name := "filesystem", port := "filesystem", methods := ["normalize_path"], kind := "filesystem",
    builtin := .ofMethods ["normalize_path"] }

def protocolError (name : String) : Exn :=
  compositionBindingError ("binding for '" ++ name ++ "' does not match protocol")

/-- All `_coerce_*` but that of the event port. -/
def coercePort (spec : PortSpec) (binding : Adapter) : Except Exn Adapter :=
  if spec.methods.all binding.hasMethod then .ok binding
  else if binding.isKind spec.kind then .ok spec.builtin
  else .error (protocolError spec.name)

/-- A callable is wrapped in an adapter of its own. -/
def coerceEventPort (binding : Adapter) : Except Exn Adapter :=
  if binding.hasMethod "emit" then .ok binding
  else if binding.callable then .ok (.ofMethods ["emit"])
  else if binding.isKind "event_sink" then .ok eventPort.builtin
  else .error (protocolError "event")

/-- Each port with the methods of its protocol; there is none missing and none unknown. -/
def ApplicationPorts.protocols (ports : ApplicationPorts) : List (PortSpec × Adapter) :=
  [(uiPort, ports.ui), (eventPort, ports.event), (recordStorePort, ports.recordStore),
    (fileOpsPort, ports.fileOps), (syncPort, ports.sync), (pluginHostPort, ports.pluginHost),
    (clockPort, ports.clock), (filesystemPort, ports.filesystem)]

def validatePortBindings : List (PortSpec × Adapter) → Except Exn Unit
  | [] => .ok ()
  | (spec, binding) :: rest =>
    if spec.methods.all binding.hasMethod then validatePortBindings rest
    else .error (protocolError spec.name)

/-- The bindings of the ports but the clock's. -/
structure PortBindings where
  eventSink : Adapter
  storage : Adapter
  filesystem : Adapter
  sync : Adapter
  ui : Adapter
  plugins : Adapter

section
variable [Interpreter]

def requireBinding (bindings : Bindings) (port : String) : Except Exn Adapter :=
  match bindings.bound port with
  | some binding => .ok binding
  | none => .error (missingBinding port)

def requireBindings (bindings : Bindings) : Except Exn PortBindings := do
  let eventSink ← requireBinding bindings "event_sink"
  let storage ← requireBinding bindings "storage"
  let filesystem ← requireBinding bindings "filesystem"
  let sync ← requireBinding bindings "sync"
  let ui ← requireBinding bindings "ui"
  let plugins ← requireBinding bindings "plugins"
  return { eventSink, storage, filesystem, sync, ui, plugins }

end

-- ---------------------------------------------------------------------------
-- Plugin policy
-- ---------------------------------------------------------------------------

section
variable [Interpreter]

/-- `candidate.strip().lower()` of a string that is not blank. -/
def pluginToken : Value → Option String
  | .str candidate => if blank candidate then none else some (Interpreter.lower (strip candidate))
  | _ => none

def extractSelectedPcPlugin (settings : StartupSettings) : Option String :=
  match settings.plugins.bind fun plugins => pluginToken plugins.pcName with
  | some pcPlugin => some pcPlugin
  | none =>
    match (settings.mapping.map fun mapping => mapping.getNone "plugins").bind Value.asDict? with
    | some rawPlugins => pluginToken (rawPlugins.getNone "pc_name")
    | none => none

def normalizedPluginIds (candidates : List Value) : List String :=
  (candidates.filter fun pluginId => ¬blank (pyStr pluginId)).map normalizedToken

def extractSelectedDevicePlugins (settings : StartupSettings) : List String :=
  match settings.plugins.bind fun plugins => plugins.devicePlugins.asSequence? with
  | some candidates => normalizedPluginIds candidates
  | none =>
    match (settings.mapping.map fun mapping => mapping.getNone "plugins").bind Value.asDict? with
    | some rawPlugins =>
      match (rawPlugins.getD "device_plugins" (.tuple [])).asSequence? with
      | some candidates => normalizedPluginIds candidates
      | none => []
    | none => []

end

-- ---------------------------------------------------------------------------
-- Composition
-- ---------------------------------------------------------------------------

/-- The first of the three attributes that is callable. -/
def extractShutdownHook (adapter : Adapter) : Option Attribute :=
  ["shutdown", "close", "stop"].findSome? fun name =>
    if adapter.hasMethod name then adapter.getattr name else none

/-- The loop of `_build_shutdown_hook`, over the attributes it finds; no bound method is an object
that was seen. -/
def registerHooks (seenHooks : List Hook) : List Attribute → List Hook
  | [] => []
  | shutdown :: rest =>
    if shutdown.bound then shutdown.id :: registerHooks seenHooks rest
    else if shutdown.id ∈ seenHooks then registerHooks seenHooks rest
    else shutdown.id :: registerHooks (shutdown.id :: seenHooks) rest

def shutdownAttributes (bindings : Bindings) : List Attribute :=
  (bindings.filterMap Prod.snd).filterMap extractShutdownHook

/-- The hooks `shutdown_all` goes through. -/
def buildShutdownHooks (bindings : Bindings) : List Hook :=
  registerHooks [] (shutdownAttributes bindings)

section
variable {W : Type} (exec : (c : ComposeCall) → W → c.Res × W)

def ask (c : ComposeCall) : ComposeM W c.Answer := Traced.perform exec c

/-- `try: .. except Exception as exc: raise failure from exc`. -/
def askOr (c : ComposeCall) (failure : Exn) : ComposeM W c.Answer := do
  match ← (ask exec c).attempt with
  | .ok answer => return answer
  | .error _ => Eff.raise failure

def instantiateBindings [Interpreter] : List String → ComposeM W Bindings
  | [] => return []
  | port :: rest => do
    let adapter ← askOr exec (.factory port)
      (initializationError ("Failed to initialize adapter for port " ++ pyRepr (.str port) ++ "."))
    let bindings ← instantiateBindings rest
    return (port, adapter) :: bindings

def validatePluginBinding : Option Adapter → Except Exn Unit
  | none => .error (pluginBindingError "Missing plugin host binding for required 'plugins' port.")
  | some _ => .ok ()

def runHealthchecks (bindings : Bindings) : List Nat → ComposeM W Unit
  | [] => return ()
  | check :: rest => do
    askOr exec (.healthcheck check bindings) (initializationError "Composition healthcheck failed.")
    runHealthchecks bindings rest

/-- The factory of the clock is called again where there is no clock among the bindings. -/
def clockCandidate (bindings : Bindings) (factories : List String) : ComposeM W (Option Adapter) :=
  match bindings.bound "clock" with
  | some candidate => return some candidate
  | none => if "clock" ∈ factories then ask exec (.factory "clock") else return none

def resolveClockBinding (bindings : Bindings) (factories : List String) : ComposeM W Adapter := do
  match ← clockCandidate exec bindings factories with
  | none => Eff.raise (compositionBindingError "Missing required clock binding for runtime app.")
  | some candidate => Eff.lift (coercePort clockPort candidate)

variable [Interpreter]

def buildApplicationPorts (bindings : Bindings) (factories : List String) :
    ComposeM W ApplicationPorts := do
  let bound ← Eff.lift (requireBindings bindings)
  let ui ← Eff.lift (coercePort uiPort bound.ui)
  let event ← Eff.lift (coerceEventPort bound.eventSink)
  let recordStore ← Eff.lift (coercePort recordStorePort bound.storage)
  let fileOps ← Eff.lift (coercePort fileOpsPort bound.filesystem)
  let sync ← Eff.lift (coercePort syncPort bound.sync)
  let pluginHost ← Eff.lift (coercePort pluginHostPort bound.plugins)
  let clock ← resolveClockBinding exec bindings factories
  let filesystem ← Eff.lift (coercePort filesystemPort bound.filesystem)
  let ports : ApplicationPorts :=
    { ui, event, recordStore, fileOps, sync, pluginHost, clock, filesystem }
  Eff.lift (validatePortBindings ports.protocols)
  return ports

def resolveRuntimePluginPolicy (pluginHost : Adapter) (settings : StartupSettings) :
    ComposeM W RuntimePluginPolicy := do
  let rawDevicePlugins := extractSelectedDevicePlugins settings
  match extractSelectedPcPlugin settings with
  | none =>
    return { selectedPcPlugin := none, scopedDevicePlugins := rawDevicePlugins,
             pcScopeApplied := false }
  | some selectedPcPlugin =>
    if pluginHost.hasMethod "resolve_device_scope_for_pc" then do
      match ← (ask exec (.resolveDeviceScopeForPc pluginHost selectedPcPlugin)).attempt with
      | .error exc =>
        Eff.raise (if "PluginHostActivationError" ∈ exc.mro then pluginBindingError exc.message
          else exc)
      | .ok scopedDevicePlugins =>
        return { selectedPcPlugin := some selectedPcPlugin, pcScopeApplied := true,
                 scopedDevicePlugins :=
                   if rawDevicePlugins.isEmpty then scopedDevicePlugins
                   else scopedDevicePlugins.filter (· ∈ rawDevicePlugins) }
    else Eff.raise (pluginBindingError
      "binding for 'plugin_host' does not support PC device scope resolution")

def texts (xs : List String) : Value := .tuple (xs.map .str)

def extractBackendProvenance (dependencyDiagnostics : Dict) : Dict :=
  match (dependencyDiagnostics.getNone "backend_provenance").asDict? with
  | some raw => Dict.ofEntries (raw.entries.map fun entry => (entry.1, .str (pyStr entry.2)))
  | none => Dict.empty

def resolvePluginVisibility (pluginPortBound pluginContractValid : Bool) : String :=
  if !pluginPortBound then "missing" else if pluginContractValid then "bound" else "configured"

def applicationPortNames : List String :=
  ["clock", "event", "file_ops", "filesystem", "plugin_host", "record_store", "sync", "ui"]

def compositionDiagnostics (context : StartupContext) (orderedPorts : List String)
    (bindings : Bindings) (contractValid : Bool) (pluginPolicy : RuntimePluginPolicy) : Dict :=
  let selectedBackends := context.dependencies.selectedBackends
  let pluginPortBound := (bindings.bound "plugins").isSome
  Dict.ofEntries [("requested_mode", .str context.launch.requestedMode),
    ("requested_profile", textOrNone context.launch.requestedProfile),
    ("mode", .str (pyStr (context.settings.mode.getD (.str context.launch.requestedMode)))),
    ("profile", context.settings.profile.getD (textOrNone context.launch.requestedProfile)),
    ("required_ports", texts orderedPorts),
    ("bound_ports", texts ((bindings.map Prod.fst).mergeSort (· ≤ ·))),
    ("selected_backends", .dict selectedBackends.entries),
    ("backend_provenance",
      .dict (extractBackendProvenance context.dependencies.diagnostics).entries),
    ("plugin_backend", selectedBackends.getNone "plugins"),
    ("plugin_port_bound", .bool pluginPortBound), ("plugin_contract_valid", .bool contractValid),
    ("plugin_visibility", .str (resolvePluginVisibility pluginPortBound contractValid)),
    ("selected_pc_plugin", textOrNone pluginPolicy.selectedPcPlugin),
    ("scoped_device_plugins", texts pluginPolicy.scopedDevicePlugins),
    ("pc_scope_applied", .bool pluginPolicy.pcScopeApplied),
    ("warnings", texts context.dependencies.warnings),
    ("application_ports", texts (if contractValid then applicationPortNames else []))]

/-- The app, the plugin policy, and whether the application ports were built for it. The default
factory is called like one that is given: what it calls may raise. -/
def buildApp (context : StartupContext) (appFactory : Bool) (bindings : Bindings) :
    ComposeM W (Value × RuntimePluginPolicy) := do
  let failure := initializationError "Failed to build runtime app."
  if appFactory then do
    let app ← askOr exec (.appFactory bindings context) failure
    return (app, .unscoped)
  else do
    let ports ← buildApplicationPorts exec bindings context.dependencies.factories
    let pluginPolicy ← resolveRuntimePluginPolicy exec ports.pluginHost context.settings
    let app ← askOr exec (.defaultAppFactory bindings context ports pluginPolicy) failure
    return (app, pluginPolicy)

def composeRuntime (context : StartupContext) (requiredPorts : List String) (appFactory : Bool)
    (healthchecks : List Nat) : ComposeM W ComposedRuntime := do
  Eff.lift (validateNoDuplicatePorts [] requiredPorts)
  Eff.lift (validateRequiredBindings context.dependencies.factories requiredPorts)
  let orderedPorts := deterministicPortOrder requiredPorts
  let bindings ← instantiateBindings exec orderedPorts
  Eff.lift (validatePluginBinding (bindings.bound "plugins"))
  runHealthchecks exec bindings healthchecks
  let (app, pluginPolicy) ← buildApp exec context appFactory bindings
  return { app, portBindings := bindings, hooks := buildShutdownHooks bindings,
           diagnostics :=
             compositionDiagnostics context orderedPorts bindings (!appFactory) pluginPolicy }

omit [Interpreter] in
/-- The first call of `shutdown_all`; every later one returns at once. -/
def shutdownAll : List Hook → ComposeM W Unit
  | [] => return ()
  | hook :: rest => do
    shutdownAll rest
    ask exec (.shutdown hook)

end

def Composing.initial {W : Type} (w : W) : Composing W := { state := (), world := w, log := [] }

end Startup

end DpostV2
