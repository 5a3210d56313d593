import DpostV2.Lib.Effect
import DpostV2.Plugins.Selection

/-!
# The plugin host

`activate_profile` and `shutdown` of `PluginHost`, over hooks that may raise
whenever they are called. A plugin that does not export a hook goes through the
step without a call. Both operations go down a sorted list of plugins; what they
differ in is the active set they leave when a hook raises.
-/

namespace DpostV2.Plugins

inductive Phase where
  | activate
  | shutdown
  deriving DecidableEq, Repr

def Phase.other : Phase → Phase
  | .activate => .shutdown
  | .shutdown => .activate

def PluginDescriptor.exports (descriptor : PluginDescriptor) : Phase → Bool
  | .activate => descriptor.onActivate
  | .shutdown => descriptor.onShutdown

/-- What the host does with one plugin: the call of a hook, with what it is
called with, or the step of a plugin that has none. -/
inductive LifecycleStep where
  | onActivate (pluginId : String) (profile : Value)
  | onShutdown (pluginId : String)
  | withoutHook (phase : Phase) (pluginId : String)

namespace LifecycleStep

def pluginId : LifecycleStep → String
  | .onActivate pluginId _ | .onShutdown pluginId | .withoutHook _ pluginId => pluginId

def phase : LifecycleStep → Phase
  | .onActivate .. => .activate
  | .onShutdown _ => .shutdown
  | .withoutHook phase _ => phase

def isHook : LifecycleStep → Bool
  | .withoutHook .. => false
  | _ => true

end LifecycleStep

/-- `module_exports.get("on_activate")`, with what it would be called with. -/
def PluginDescriptor.activateStep (descriptor : PluginDescriptor) (profile : Value) :
    LifecycleStep :=
  if descriptor.onActivate then .onActivate descriptor.pluginId profile
  else .withoutHook .activate descriptor.pluginId

def PluginDescriptor.shutdownStep (descriptor : PluginDescriptor) : LifecycleStep :=
  if descriptor.onShutdown then .onShutdown descriptor.pluginId
  else .withoutHook .shutdown descriptor.pluginId

section
variable (descriptor : PluginDescriptor) (profile : Value)

@[simp] theorem activateStep_pluginId :
    (descriptor.activateStep profile).pluginId = descriptor.pluginId := by
  unfold PluginDescriptor.activateStep
  split <;> rfl

@[simp] theorem activateStep_phase : (descriptor.activateStep profile).phase = .activate := by
  unfold PluginDescriptor.activateStep
  split <;> rfl

@[simp] theorem activateStep_isHook :
    (descriptor.activateStep profile).isHook = descriptor.exports .activate := by
  unfold PluginDescriptor.activateStep PluginDescriptor.exports
  split <;> simp_all [LifecycleStep.isHook]

@[simp] theorem shutdownStep_pluginId : descriptor.shutdownStep.pluginId = descriptor.pluginId := by
  unfold PluginDescriptor.shutdownStep
  split <;> rfl

@[simp] theorem shutdownStep_phase : descriptor.shutdownStep.phase = .shutdown := by
  unfold PluginDescriptor.shutdownStep
  split <;> rfl

@[simp] theorem shutdownStep_isHook :
    descriptor.shutdownStep.isHook = descriptor.exports .shutdown := by
  unfold PluginDescriptor.shutdownStep PluginDescriptor.exports
  split <;> simp_all [LifecycleStep.isHook]

end

abbrev LifecycleStep.Answer (_ : LifecycleStep) : Type := Unit

abbrev LifecycleStep.Res (step : LifecycleStep) : Type := Except Exn step.Answer

structure HostState where
  active : Finset String := ∅

abbrev Host (W : Type) := Traced HostState W LifecycleStep LifecycleStep.Res

abbrev HostM (W : Type) := Eff Exn (Host W)

def hostError [Interpreter] (cls pluginId message : String) : Exn :=
  { mro := [cls, "PluginHostError", "RuntimeError", "Exception"],
    message := "plugin " ++ Interpreter.reprOf pluginId ++ message }

section
variable [Interpreter] {W : Type} (hooks : (step : LifecycleStep) → W → step.Res × W)
  (catalog : PluginCatalogSnapshot)

/-- A step without a hook calls nothing. -/
def takeStep (step : LifecycleStep) (w : W) : step.Res × W :=
  if step.isHook then hooks step w else (.ok (), w)

def perform (step : LifecycleStep) : HostM W Unit :=
  Traced.perform (takeStep hooks) step

def setActive (active : Finset String) : HostM W Unit :=
  Traced.write fun _ => { active }

/-- The loop over `removed_ids`. -/
def removePlugins : List String → Finset String → HostM W (Finset String)
  | [], currentActive => return currentActive
  | pluginId :: rest, currentActive => do
    let descriptor ← Eff.lift (getPlugin catalog pluginId)
    match ← (perform hooks descriptor.shutdownStep).attempt with
    | .error _ => do
      setActive currentActive
      Eff.raise (hostError "PluginHostShutdownError" pluginId " shutdown hook failed")
    | .ok _ => removePlugins rest (currentActive.erase pluginId)

/-- The loop over `added_ids`. -/
def addPlugins (profile : Value) : List String → Finset String → HostM W (Finset String)
  | [], currentActive => return currentActive
  | pluginId :: rest, currentActive => do
    let descriptor ← Eff.lift (getPlugin catalog pluginId)
    match ← (perform hooks (descriptor.activateStep profile)).attempt with
    | .error _ => do
      setActive currentActive
      Eff.raise (hostError "PluginHostActivationError" pluginId " activation hook failed")
    | .ok _ => addPlugins profile rest (insert pluginId currentActive)

def activateProfile (profile : Value) (knownProfiles : Option (List Value))
    (allowPluginIds denyPluginIds : List Value) : HostM W PluginSelectionResult := do
  let selection ← Eff.lift
    (selectPluginsForProfile catalog profile knownProfiles allowPluginIds denyPluginIds)
  let state ← Traced.read
  let currentActive ← removePlugins hooks catalog
    (sorted (state.active \ selection.selectedIds)).reverse
    state.active
  let currentActive ← addPlugins hooks catalog profile
    (sorted (selection.selectedIds \ state.active))
    currentActive
  setActive currentActive
  return selection

/-- The loop of `shutdown`, which leaves the active set alone. -/
def shutdownPlugins : List String → HostM W Unit
  | [] => return ()
  | pluginId :: rest => do
    let descriptor ← Eff.lift (getPlugin catalog pluginId)
    match ← (perform hooks descriptor.shutdownStep).attempt with
    | .error _ => Eff.raise (hostError "PluginHostShutdownError" pluginId " shutdown hook failed")
    | .ok _ => shutdownPlugins rest

def shutdown : HostM W Unit := do
  let state ← Traced.read
  shutdownPlugins hooks catalog (sorted state.active).reverse
  setActive ∅

inductive HostCall where
  | activateProfile (profile : Value) (knownProfiles : Option (List Value))
    (allowPluginIds denyPluginIds : List Value)
  | shutdown

/-- The host after the call, whether it has returned or raised. -/
def HostCall.after : HostCall → Host W → Host W
  | .activateProfile profile known allow deny, s =>
    ((Plugins.activateProfile hooks catalog profile known allow deny).run s).2
  | .shutdown, s => ((Plugins.shutdown hooks catalog).run s).2

def afterCalls (calls : List HostCall) (s : Host W) : Host W :=
  calls.foldl (fun s call => call.after hooks catalog s) s

end

/-- A new host. -/
def Host.initial (w : W) : Host W := { state := {}, world := w, log := [] }

end DpostV2.Plugins
