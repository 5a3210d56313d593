import DpostV2.Ingestion.State
import DpostV2.Lib.FileName
import DpostV2.Plugins.Host

/-!
# The choice of a processor

`_select_runtime_processor` of the composed runtime over a plugin host: the plugin ids of
the scope, or those of the active device plugins, are tried in order, with processors kept from
one call to the next. Where the host builds none, a processor of the runtime's own
stands in. `selection_sound_iff` says which calls this goes well in.
-/

namespace DpostV2.Runtime

open DpostV2.Ingestion (SelectionDescriptor)
open DpostV2.Plugins

/-- The plugin modules and the objects they build, as a call meets them: whatever a hook does
when it is called, it returns or raises. -/
structure Modules (P : Type) where
  /-- What the export `create_processor` does with `{}`, where there is one: the object it
  returns, if that is a `ProcessorContract`. -/
  createProcessor : String → Option (Except Exn (Option P))
  /-- `settings.source_extensions` where it is a tuple or a list. -/
  sourceExtensions : P → Option (List Value)
  /-- `bool(can_process({"source_path": ..}))`. -/
  canProcess : P → Option (String → Except Exn Bool)
  processCallable : P → Bool

structure PluginHost where
  catalog : PluginCatalogSnapshot
  state : HostState

inductive RuntimeProcessor (P : Type) where
  | built (processor : P)
  /-- `_DefaultDeviceProcessor(plugin_id)` -/
  | standIn (pluginId : String)

abbrev ProcessorCache (P : Type) := String → Option P

structure RuntimeSelection (P : Type) where
  processor : RuntimeProcessor P
  descriptor : SelectionDescriptor

structure SelectCall (P : Type) where
  modules : Modules P
  host : PluginHost
  candidate : Candidate
  scopedPluginIds : List String
  pcScopeApplied : Bool

section
variable [Interpreter] {P : Type}

def activationError (message : String) : Exn :=
  { mro := ["PluginHostActivationError", "PluginHostError", "RuntimeError", "Exception"], message }

def processorNotFound : Exn :=
  { mro := ["ProcessorNotFoundError", "ProcessorFactoryError", "RuntimeError", "Exception"],
    message := "No runtime processor available for candidate." }

-- ---------------------------------------------------------------------------
-- The host
-- ---------------------------------------------------------------------------

def PluginHost.createDeviceProcessor (host : PluginHost) (modules : Modules P) (pluginId : String) :
    Except Exn P := do
  let descriptor ← getPlugin host.catalog pluginId
  let named := "plugin " ++ Interpreter.reprOf pluginId
  if descriptor.family ≠ .device then throw (activationError (named ++ " is not a device plugin"))
  else if pluginId ∉ host.state.active then
    throw (activationError (named ++ " is not active for the current profile"))
  else match modules.createProcessor pluginId with
    | none => throw (activationError ("device " ++ named ++ " missing create_processor export"))
    | some (.error _) =>
      throw (activationError ("device " ++ named ++ " failed to build processor"))
    | some (.ok none) =>
      throw (activationError ("device " ++ named ++ " returned invalid processor contract"))
    | some (.ok (some processor)) => return processor

def PluginHost.getDevicePlugins (host : PluginHost) : List String :=
  (host.catalog.descriptors.filter fun descriptor =>
    descriptor.family = .device ∧ descriptor.pluginId ∈ host.state.active).map
      PluginDescriptor.pluginId

-- ---------------------------------------------------------------------------
-- The runtime
-- ---------------------------------------------------------------------------

/-- `tuple(str(x).strip() for x in ids if str(x).strip())`. -/
def strippedIds (pluginIds : List String) : List String :=
  (pluginIds.map strip).filter (· ≠ "")

def resolveDevicePluginIds (host : PluginHost) : List String :=
  if strippedIds host.getDevicePlugins = [] then ["default_device"]
  else strippedIds host.getDevicePlugins

def candidateExtension (candidate : Candidate) : String :=
  Interpreter.lower (PurePath.parse candidate.sourcePath).suffix

def normalizedExtensions (sourceExtensions : List Value) : List String :=
  ((sourceExtensions.map fun token => strip (pyStr token)).filter (· ≠ "")).map Interpreter.lower

/-- What is left of `_processor_supports_runtime_candidate` where no extension decides. -/
def canProcessCandidate (modules : Modules P) (candidate : Candidate) (processor : P) : Bool :=
  match modules.canProcess processor with
  | some canProcess =>
    match canProcess candidate.sourcePath with
    | .ok answer => answer
    | .error _ => false
  | none => true

def processorSupports (modules : Modules P) (candidate : Candidate) : RuntimeProcessor P → Bool
  | .built processor =>
    match modules.sourceExtensions processor with
    | some sourceExtensions =>
      if candidateExtension candidate ≠ "" then
        candidateExtension candidate ∈ normalizedExtensions sourceExtensions
      else canProcessCandidate modules candidate processor
    | none => canProcessCandidate modules candidate processor
  | .standIn _ => strip candidate.sourcePath ≠ ""

def RuntimeProcessor.processCallable (modules : Modules P) : RuntimeProcessor P → Bool
  | .built processor => modules.processCallable processor
  | .standIn _ => true

/-- The processor that is tried for a plugin id, whether it was in the cache, and the cache then. -/
def SelectCall.lookup (call : SelectCall P) (cache : ProcessorCache P) (pluginId : String) :
    RuntimeProcessor P × Bool × ProcessorCache P :=
  match cache pluginId with
  | some processor => (.built processor, true, cache)
  | none =>
    match call.host.createDeviceProcessor call.modules pluginId with
    | .ok processor => (.built processor, false, Function.update cache pluginId (some processor))
    | .error _ => (.standIn pluginId, false, cache)

/-- `None` where the processor does not support the candidate. -/
def SelectCall.buildRuntimeProcessor (call : SelectCall P) (cache : ProcessorCache P)
    (pluginId : String) : Option (RuntimeProcessor P) × Bool × ProcessorCache P :=
  let (processor, cacheHit, cache) := call.lookup cache pluginId
  if processorSupports call.modules call.candidate processor = true ∧
      processor.processCallable call.modules = true then (some processor, cacheHit, cache)
  else (none, cacheHit, cache)

def SelectCall.capabilityReason (call : SelectCall P) : String :=
  if call.scopedPluginIds ≠ [] then
    if call.pcScopeApplied then "pc_scope_selected" else "device_scope_selected"
  else "pc_scope_default"

def SelectCall.selectAmong (call : SelectCall P) (cache : ProcessorCache P) :
    List String → Except Exn (RuntimeSelection P) × ProcessorCache P
  | [] => (.error processorNotFound, cache)
  | pluginId :: rest =>
    match call.buildRuntimeProcessor cache pluginId with
    | (none, _, cache) => call.selectAmong cache rest
    | (some processor, cacheHit, cache) =>
      (.ok { processor
             descriptor := { pluginId, processorKey := pluginId,
                             capabilityReason := call.capabilityReason, cacheHit } }, cache)

def SelectCall.pluginIds (call : SelectCall P) : List String :=
  if call.pcScopeApplied = true ∨ call.scopedPluginIds ≠ [] then strippedIds call.scopedPluginIds
  else resolveDevicePluginIds call.host

def SelectCall.run (call : SelectCall P) (cache : ProcessorCache P) :
    Except Exn (RuntimeSelection P) × ProcessorCache P :=
  call.selectAmong cache call.pluginIds

/-- The cache of a runtime after its calls. -/
def cacheAfter (calls : List (SelectCall P)) : ProcessorCache P :=
  calls.foldl (fun cache call => (call.run cache).2) fun _ => none

-- ---------------------------------------------------------------------------
-- What a choice should be
-- ---------------------------------------------------------------------------

def PluginHost.ActiveDevice (host : PluginHost) (pluginId : String) : Prop :=
  pluginId ∈ host.state.active ∧
    ∃ descriptor ∈ host.catalog.descriptors, descriptor.pluginId = pluginId ∧
      descriptor.family = .device

/-- The plugin's own `create_processor` returned the processor in one of the calls. -/
def BuiltIn (calls : List (SelectCall P)) (pluginId : String) (processor : P) : Prop :=
  ∃ call ∈ calls, call.modules.createProcessor pluginId = some (.ok (some processor))

structure SoundSelection (past : List (SelectCall P)) (call : SelectCall P)
    (selection : RuntimeSelection P) : Prop where
  active : call.host.ActiveDevice selection.descriptor.pluginId
  inScope : call.pcScopeApplied = true ∨ call.scopedPluginIds ≠ [] →
    selection.descriptor.pluginId ∈ call.scopedPluginIds.map strip
  built : ∃ processor, selection.processor = .built processor ∧
    BuiltIn (past ++ [call]) selection.descriptor.pluginId processor
  supports : processorSupports call.modules call.candidate selection.processor = true

/-- A call after others of the same runtime selects soundly or finds no processor. -/
def SoundCall (past : List (SelectCall P)) (call : SelectCall P) : Prop :=
  match (call.run (cacheAfter past)).1 with
  | .ok selection => SoundSelection past call selection
  | .error e => e.isInstance "ProcessorNotFoundError" = true

/-- The processor of a plugin, from the cache or built by the host. -/
def SelectCall.ownProcessor (call : SelectCall P) (cache : ProcessorCache P) (pluginId : String) :
    Option P :=
  match cache pluginId with
  | some processor => some processor
  | none => (call.host.createDeviceProcessor call.modules pluginId).toOption

def SelectCall.triedProcessor (call : SelectCall P) (cache : ProcessorCache P) (pluginId : String) :
    RuntimeProcessor P :=
  match call.ownProcessor cache pluginId with
  | some processor => .built processor
  | none => .standIn pluginId

/-- The plugin has a processor of its own that supports the candidate, or it has none at all and
the candidate a path. -/
def SelectCall.accepts (call : SelectCall P) (cache : ProcessorCache P)
    (pluginId : String) : Bool :=
  processorSupports call.modules call.candidate (call.triedProcessor cache pluginId) &&
    (call.triedProcessor cache pluginId).processCallable call.modules

/-- The first plugin id that is accepted is that of an active device plugin with a processor. -/
def FirstIsOwn (past : List (SelectCall P)) (call : SelectCall P) : Prop :=
  ∀ pluginId, call.pluginIds.find? (call.accepts (cacheAfter past)) = some pluginId →
    call.host.ActiveDevice pluginId ∧ (call.ownProcessor (cacheAfter past) pluginId).isSome

-- ---------------------------------------------------------------------------
-- One call
-- ---------------------------------------------------------------------------

section
variable {call : SelectCall P} {cache : ProcessorCache P} {pluginId : String} {processor : P}

theorem lookup_eq : (call.lookup cache pluginId).1 = call.triedProcessor cache pluginId := by
  unfold SelectCall.lookup SelectCall.triedProcessor SelectCall.ownProcessor
  cases cache pluginId with
  | some processor => rfl
  | none => cases call.host.createDeviceProcessor call.modules pluginId <;> rfl

variable (cache pluginId) in
/-- What is kept is what would be built again. -/
theorem lookup_ownProcessor (other : String) :
    call.ownProcessor (call.lookup cache pluginId).2.2 other = call.ownProcessor cache other := by
  unfold SelectCall.lookup
  cases hcached : cache pluginId with
  | some processor => rfl
  | none =>
    cases hbuilt : call.host.createDeviceProcessor call.modules pluginId with
    | error e => rfl
    | ok processor =>
      by_cases hother : other = pluginId
      · subst hother
        simp [SelectCall.ownProcessor, hcached, hbuilt, Except.toOption]
      · simp [SelectCall.ownProcessor, Function.update_of_ne hother]

variable (call) in
theorem accepts_congr {cache' : ProcessorCache P}
    (h : ∀ other, call.ownProcessor cache' other = call.ownProcessor cache other) :
    call.accepts cache' = call.accepts cache ∧
      call.triedProcessor cache' = call.triedProcessor cache := by
  have htried : call.triedProcessor cache' = call.triedProcessor cache := by
    funext other
    rw [SelectCall.triedProcessor, SelectCall.triedProcessor, h]
  refine ⟨?_, htried⟩
  funext other
  rw [SelectCall.accepts, SelectCall.accepts, htried]

theorem buildRuntimeProcessor_eq : call.buildRuntimeProcessor cache pluginId =
    (if call.accepts cache pluginId = true then some (call.triedProcessor cache pluginId) else none,
      (call.lookup cache pluginId).2) := by
  unfold SelectCall.buildRuntimeProcessor SelectCall.accepts
  simp only [← lookup_eq, Bool.and_eq_true]
  split <;> rfl

variable (call cache) in
/-- The call selects the first plugin id that is accepted. -/
theorem selectAmong_find (ids : List String) :
    match ids.find? (call.accepts cache) with
    | some pluginId => ∃ cacheHit, (call.selectAmong cache ids).1 = .ok
        { processor := call.triedProcessor cache pluginId
          descriptor := { pluginId, processorKey := pluginId,
                          capabilityReason := call.capabilityReason, cacheHit } }
    | none => (call.selectAmong cache ids).1 = .error processorNotFound := by
  induction ids generalizing cache with
  | nil => rfl
  | cons pluginId rest ih =>
    rw [List.find?_cons]
    unfold SelectCall.selectAmong
    rw [buildRuntimeProcessor_eq]
    cases haccepts : call.accepts cache pluginId with
    | true =>
      rw [if_pos rfl]
      exact ⟨_, rfl⟩
    | false =>
      rw [if_neg (by simp)]
      have hrest := ih (call.lookup cache pluginId).2.2
      obtain ⟨hsame, htried⟩ := accepts_congr call (lookup_ownProcessor cache pluginId)
      rw [hsame, htried] at hrest
      exact hrest

theorem createDeviceProcessor_ok
    (h : call.host.createDeviceProcessor call.modules pluginId = .ok processor) :
    call.modules.createProcessor pluginId = some (.ok (some processor)) := by
  unfold PluginHost.createDeviceProcessor at h
  obtain ⟨descriptor, -, h⟩ := except_bind_ok.mp h
  split at h
  · cases h
  · split at h
    · cases h
    · split at h
      · cases h
      · cases h
      · cases h
      · rename_i built hbuilt
        cases h
        exact hbuilt

theorem ownProcessor_cases (h : call.ownProcessor cache pluginId = some processor) :
    cache pluginId = some processor ∨
      call.modules.createProcessor pluginId = some (.ok (some processor)) := by
  unfold SelectCall.ownProcessor at h
  split at h
  · rename_i cached hcached
    exact .inl (hcached.trans h)
  · cases hbuilt : call.host.createDeviceProcessor call.modules pluginId with
    | error e =>
      rw [hbuilt] at h
      cases h
    | ok built =>
      rw [hbuilt] at h
      cases h
      exact .inr (createDeviceProcessor_ok hbuilt)

theorem selectAmong_ownProcessor (ids : List String) (other : String) :
    call.ownProcessor (call.selectAmong cache ids).2 other = call.ownProcessor cache other := by
  induction ids generalizing cache with
  | nil => rfl
  | cons first rest ih =>
    unfold SelectCall.selectAmong
    rw [buildRuntimeProcessor_eq]
    cases call.accepts cache first with
    | true =>
      rw [if_pos rfl]
      exact lookup_ownProcessor _ _ other
    | false =>
      rw [if_neg (by simp)]
      exact ih.trans (lookup_ownProcessor _ _ other)

end

-- ---------------------------------------------------------------------------
-- A runtime
-- ---------------------------------------------------------------------------

section
variable {calls past : List (SelectCall P)} {call : SelectCall P} {pluginId : String}
    {processor : P}

/-- What is in the cache of a runtime was built by its plugin in one of its calls. -/
theorem cacheAfter_built (h : cacheAfter calls pluginId = some processor) :
    BuiltIn calls pluginId processor := by
  induction calls using List.reverseRecOn with
  | nil => cases h
  | append_singleton calls call ih =>
    rw [cacheAfter, List.foldl_append] at h
    have hcached : (call.run (cacheAfter calls)).2 pluginId = some processor := h
    have hown : call.ownProcessor (call.run (cacheAfter calls)).2 pluginId = some processor := by
      rw [SelectCall.ownProcessor, hcached]
    rw [SelectCall.run, selectAmong_ownProcessor] at hown
    rcases ownProcessor_cases hown with hold | hnew
    · obtain ⟨earlier, hmem, hbuilt⟩ := ih hold
      exact ⟨earlier, List.mem_append_left _ hmem, hbuilt⟩
    · exact ⟨call, by simp, hnew⟩

theorem triedProcessor_built {cache : ProcessorCache P}
    (h : call.triedProcessor cache pluginId = .built processor) :
    call.ownProcessor cache pluginId = some processor := by
  unfold SelectCall.triedProcessor at h
  split at h
  · rename_i own hown
    cases h
    exact hown
  · cases h

omit [Interpreter] in
theorem pluginIds_inScope (hscope : call.pcScopeApplied = true ∨ call.scopedPluginIds ≠ [])
    (h : pluginId ∈ call.pluginIds) : pluginId ∈ call.scopedPluginIds.map strip := by
  rw [SelectCall.pluginIds, if_pos hscope] at h
  exact (List.mem_filter.mp h).1

end

theorem selection_sound_iff (past : List (SelectCall P)) (call : SelectCall P) :
    SoundCall past call ↔ FirstIsOwn past call := by
  have hfind := selectAmong_find call (cacheAfter past) call.pluginIds
  unfold SoundCall FirstIsOwn SelectCall.run
  cases hfirst : call.pluginIds.find? (call.accepts (cacheAfter past)) with
  | none =>
    rw [hfirst] at hfind
    rw [hfind]
    exact ⟨nofun, fun _ => rfl⟩
  | some pluginId =>
    rw [hfirst] at hfind
    obtain ⟨cacheHit, hselection⟩ := hfind
    rw [hselection]
    constructor
    · rintro ⟨hactive, -, ⟨processor, hbuilt, -⟩, -⟩ _ ⟨⟩
      exact ⟨hactive, by rw [triedProcessor_built hbuilt]; rfl⟩
    · intro hown
      obtain ⟨hactive, hsome⟩ := hown pluginId rfl
      obtain ⟨processor, hprocessor⟩ := Option.isSome_iff_exists.mp hsome
      have htried : call.triedProcessor (cacheAfter past) pluginId = .built processor := by
        rw [SelectCall.triedProcessor, hprocessor]
      have haccepts := List.find?_some hfirst
      rw [SelectCall.accepts, Bool.and_eq_true] at haccepts
      refine ⟨hactive, fun hscope => pluginIds_inScope hscope (List.mem_of_find?_eq_some hfirst),
        ⟨processor, htried, ?_⟩, haccepts.1⟩
      rcases ownProcessor_cases hprocessor with hcached | hnew
      · obtain ⟨earlier, hmem, hbuilt⟩ := cacheAfter_built hcached
        exact ⟨earlier, List.mem_append_left _ hmem, hbuilt⟩
      · exact ⟨call, by simp, hnew⟩

end

section
attribute [local instance] Interpreter.ascii

def brokenDescriptor : PluginDescriptor where
  pluginId := "sem"
  family := .device
  supportedProfiles := []
  onActivate := false
  onShutdown := false

theorem unspaced_t : Unspaced "t" := by decide

/-- An active device plugin whose `create_processor` raises, and a file it could never process. -/
def brokenCall : SelectCall Unit where
  modules := { createProcessor := fun _ => some (.error (valueError "no instrument")),
               sourceExtensions := fun _ => none, canProcess := fun _ => none,
               processCallable := fun _ => true }
  host := { catalog := ⟨[brokenDescriptor], by decide⟩, state := { active := {"sem"} } }
  candidate := { identityToken := "t", sourcePath := "/in/notes.txt", eventKind := "created",
                 observedAt := 0, identityToken_ok := unspaced_t }
  scopedPluginIds := ["sem"]
  pcScopeApplied := true

/-- The stand-in of the runtime is selected under the plugin's name. -/
theorem brokenCall_unsound : ¬ SoundCall [] brokenCall := by
  have hids : brokenCall.pluginIds = ["sem"] := by decide
  have hrun : brokenCall.run (cacheAfter []) = (.ok
      { processor := .standIn "sem"
        descriptor := { pluginId := "sem", processorKey := "sem",
                        capabilityReason := "pc_scope_selected", cacheHit := false } },
      fun _ => none) := by
    rw [SelectCall.run, hids]
    rfl
  intro h
  rw [SoundCall, hrun] at h
  obtain ⟨processor, hbuilt, -⟩ := h.built
  cases hbuilt

end

end DpostV2.Runtime
