import DpostV2.Plugins.Contract

/-!
# Plugin discovery

`discover_plugins`: the loop over the sorted module names with the descriptors,
the issues and the skipped modules it collects. The loop expects
`PluginContractError` and `KeyError` from a module it looks at; any other
exception of foreign code ends the whole discovery. The last section says
exactly when a faulty module leaves the discovery of the others alone.
-/

namespace DpostV2.Plugins.Discovery

open Plugins

structure PluginDiscoveryIssue where
  moduleName : String
  reason : String
  deriving DecidableEq, Repr

structure PluginDescriptor where
  pluginId : String
  family : PluginFamily
  version : String
  contractVersion : String
  supportedProfiles : List String
  capabilities : PluginCapabilities
  moduleName : String
  moduleExports : Exports

structure PluginDiscoveryDiagnostics where
  importErrors : List PluginDiscoveryIssue := []
  manifestErrors : List PluginDiscoveryIssue := []
  skippedModules : List String := []
  warnings : List String := []

structure PluginDiscoveryResult where
  descriptors : List PluginDescriptor
  diagnostics : PluginDiscoveryDiagnostics
  fingerprint : String

/-- What an import hands over: a mapping, whose reading may raise, or an object,
with its namespace if it has one. -/
inductive Module where
  | mapping (items : Except Exn Exports)
  | object (namespace? : Option Exports)

/-- `_module_exports`. -/
def moduleExports : Module → Except Exn Exports
  | .mapping items => items
  | .object (some exports) => .ok exports
  | .object none => .error (typeError "vars() argument must have __dict__ attribute")

abbrev Importer := String → Except Raised Module

def familyError (message : String) : Exn :=
  { mro := ["PluginDiscoveryFamilyError", "PluginDiscoveryError", "RuntimeError", "Exception"]
    message }

def duplicateIdError (message : String) : Exn :=
  { mro := ["PluginDiscoveryDuplicateIdError", "PluginDiscoveryError", "RuntimeError", "Exception"]
    message }

/-- The `except` clause around the validation. -/
def expected (e : Raised) : Bool :=
  e.exn.isInstance "PluginContractError" || e.exn.isInstance "KeyError"

theorem refusal_expected {e : Raised} (h : Refusal e) : expected e = true ∧ e.broken = none :=
  ⟨by simp [expected, h.1], h.2⟩

/-- What the loop has collected. -/
structure Found where
  descriptors : List PluginDescriptor := []
  importIssues : List PluginDiscoveryIssue := []
  manifestIssues : List PluginDiscoveryIssue := []
  skipped : List String := []
  seenPluginIds : Finset String := ∅

section
variable [Interpreter]

/-- The descriptor of a module, its profiles stripped and in lower case. -/
def descriptorOf (metadata : PluginMetadata) (capabilities : PluginCapabilities)
    (moduleName : String) (exports : Exports) : PluginDescriptor where
  pluginId := metadata.pluginId
  family := metadata.family
  version := metadata.version
  contractVersion := metadata.contractVersion
  supportedProfiles := (metadata.supportedProfiles.filter (!blank ·)).map
    fun profile => Interpreter.lower (strip profile)
  capabilities
  moduleName
  moduleExports := exports

/-- The checks of `PluginDescriptor.__post_init__`. -/
def pluginDescriptor (metadata : PluginMetadata) (capabilities : PluginCapabilities)
    (moduleName : String) (exports : Exports) : Except Exn PluginDescriptor :=
  if blank metadata.pluginId then .error (valueError "plugin_id must be a non-empty string")
  else if blank metadata.version then .error (valueError "version must be a non-empty string")
  else if blank metadata.contractVersion then
    .error (valueError "contract_version must be a non-empty string")
  else if blank moduleName then .error (valueError "module_name must be a non-empty string")
  else .ok (descriptorOf metadata capabilities moduleName exports)

def discoverModule (importer : Importer) (allowed : List String) (s : Found) (moduleName : String) :
    Except Exn Found :=
  match importer moduleName with
  | .error e => do
    let reason ← e.str
    return { s with
      importIssues := s.importIssues ++ [{ moduleName, reason }]
      skipped := s.skipped ++ [moduleName] }
  | .ok module => do
    let exports ← moduleExports module
    match inspect exports with
    | .error e =>
      if expected e then do
        let reason ← e.str
        return { s with
          manifestIssues := s.manifestIssues ++ [{ moduleName, reason }]
          skipped := s.skipped ++ [moduleName] }
      else .error e.exn
    | .ok (metadata, capabilities) =>
      if metadata.family.text ∉ allowed then
        .error (familyError ("plugin " ++ pyRepr (.str metadata.pluginId) ++ " declared family " ++
          pyRepr (.str metadata.family.text) ++ " not allowed by policy"))
      else if metadata.pluginId ∈ s.seenPluginIds then
        .error (duplicateIdError ("duplicate plugin id discovered: " ++ metadata.pluginId))
      else do
        let descriptor ← pluginDescriptor metadata capabilities moduleName exports
        return { s with
          seenPluginIds := insert metadata.pluginId s.seenPluginIds
          descriptors := s.descriptors ++ [descriptor] }

def normalizeFamilies (allowedFamilies : List Value) : List String :=
  allowedFamilies.filterMap fun
    | .str family => if blank family then none else some (Interpreter.lower (strip family))
    | _ => none

/-- The key descriptors are sorted by. -/
def before (d d' : PluginDescriptor) : Bool :=
  d.pluginId < d'.pluginId || (d.pluginId = d'.pluginId && d.moduleName ≤ d'.moduleName)

def descriptorText (d : PluginDescriptor) : String :=
  d.pluginId ++ "|" ++ d.family.text ++ "|" ++ d.version ++ "|" ++ d.contractVersion ++ "|" ++
    ",".intercalate d.supportedProfiles ++ "|" ++ d.moduleName

def discoveryFingerprint (descriptors : List PluginDescriptor) : String :=
  Interpreter.textDigest (String.join (descriptors.map descriptorText))

def resultOf (s : Found) : PluginDiscoveryResult :=
  let descriptorsSorted := s.descriptors.mergeSort before
  { descriptors := descriptorsSorted
    diagnostics := {
      importErrors := s.importIssues
      manifestErrors := s.manifestIssues
      skippedModules := sorted s.skipped.toFinset }
    fingerprint := discoveryFingerprint descriptorsSorted }

def discoverPlugins (moduleNames : List String) (importer : Importer)
    (allowedFamilies : List Value) : Except Exn PluginDiscoveryResult :=
  let allowed := normalizeFamilies allowedFamilies
  if allowed.isEmpty then .error (familyError "allowed_families cannot be empty")
  else do
    let s ← (sorted moduleNames.toFinset).foldlM (discoverModule importer allowed) {}
    return resultOf s

-- ---------------------------------------------------------------------------
-- What discovery is for
-- ---------------------------------------------------------------------------

/-- The module keeps the plugin contract, and `d` is what it declares. -/
def Conforms (importer : Importer) (name : String) (d : PluginDescriptor) : Prop :=
  ∃ module exports metadata capabilities, importer name = .ok module ∧
    moduleExports module = .ok exports ∧ Declares exports metadata capabilities ∧
    d = descriptorOf metadata capabilities name exports

/-- The conforming modules have plugin ids of their own and families of the policy. -/
structure Compatible (importer : Importer) (allowed : List String) (names : List String) :
    Prop where
  ids : ∀ name ∈ names, ∀ name' ∈ names, ∀ d d', Conforms importer name d →
    Conforms importer name' d' → d.pluginId = d'.pluginId → name = name'
  families : ∀ name ∈ names, ∀ d, Conforms importer name d → d.family.text ∈ allowed

/-- The descriptors are those of the conforming modules, and each other module
is skipped with one issue. -/
structure Complete (importer : Importer) (names : List String) (result : PluginDiscoveryResult) :
    Prop where
  descriptors : ∀ d, d ∈ result.descriptors ↔ ∃ name ∈ names, Conforms importer name d
  sorted : result.descriptors.Pairwise fun d d' => d.pluginId < d'.pluginId
  skipped : ∀ name, name ∈ result.diagnostics.skippedModules ↔
    name ∈ names ∧ ¬ ∃ d, Conforms importer name d
  issue : ∀ name ∈ names, (¬ ∃ d, Conforms importer name d) →
    ((result.diagnostics.importErrors ++ result.diagnostics.manifestErrors).map
      PluginDiscoveryIssue.moduleName).count name = 1

/-- A faulty module leaves the discovery of the others alone. -/
structure Isolates (importer : Importer) (allowedFamilies : List Value) (names : List String) :
    Prop where
  returns : Compatible importer (normalizeFamilies allowedFamilies) names →
    ∃ result, discoverPlugins names importer allowedFamilies = .ok result ∧
      Complete importer names result
  unordered : ∀ names', (∀ name, name ∈ names' ↔ name ∈ names) →
    discoverPlugins names' importer allowedFamilies = discoverPlugins names importer allowedFamilies

/-- The faults of a module are of the kinds discovery expects. -/
structure Contained (importer : Importer) (name : String) : Prop where
  printed : ∀ e, importer name = .error e → e.broken = none
  readable : ∀ module, importer name = .ok module → ∃ exports, moduleExports module = .ok exports
  expected : ∀ module exports, importer name = .ok module → moduleExports module = .ok exports →
    ∀ e, Raises exports e → expected e = true ∧ e.broken = none
  named : ∀ d, Conforms importer name d → blank name = false

theorem Conforms.moduleName {importer : Importer} {d : PluginDescriptor}
    (h : Conforms importer name d) : d.moduleName = name := by
  obtain ⟨_, _, _, _, _, _, _, rfl⟩ := h
  rfl

theorem conforms_iff {importer : Importer} {module : Module} {exports : Exports}
    (hm : importer name = .ok module) (he : moduleExports module = .ok exports) :
    Conforms importer name d ↔ ∃ metadata capabilities,
      inspect exports = .ok (metadata, capabilities) ∧
      d = descriptorOf metadata capabilities name exports := by
  simp only [Conforms, inspect_ok]
  constructor
  · rintro ⟨module', exports', metadata, capabilities, hm', he', hd, rfl⟩
    obtain rfl : module = module' := by simpa [hm] using hm'
    obtain rfl : exports = exports' := by simpa [he] using he'
    exact ⟨metadata, capabilities, hd, rfl⟩
  · rintro ⟨metadata, capabilities, hd, rfl⟩
    exact ⟨module, exports, metadata, capabilities, hm, he, hd, rfl⟩

theorem Conforms.unique {importer : Importer} (h : Conforms importer name d)
    (h' : Conforms importer name d') : d = d' := by
  obtain ⟨module, exports, m, c, hm, he, hd, rfl⟩ := h
  obtain ⟨m', c', hd', rfl⟩ := (conforms_iff hm he).mp h'
  obtain ⟨rfl, rfl⟩ := Prod.mk.inj (Except.ok.inj ((inspect_ok.mpr hd).symm.trans hd'))
  rfl

theorem pluginDescriptor_ok {metadata : PluginMetadata} {capabilities : PluginCapabilities}
    {exports : Exports} : pluginDescriptor metadata capabilities name exports = .ok d ↔
      blank name = false ∧ descriptorOf metadata capabilities name exports = d := by
  simp only [pluginDescriptor, metadata.named, metadata.versioned, metadata.contracted,
    Bool.false_eq_true, if_false]
  cases blank name <;> simp

-- ---------------------------------------------------------------------------
-- One round of the loop
-- ---------------------------------------------------------------------------

/-- What the loop has collected covers the modules it has been through. -/
structure Covers (importer : Importer) (done : List String) (s : Found) : Prop where
  descriptors : ∀ d, d ∈ s.descriptors ↔ ∃ name ∈ done, Conforms importer name d
  seen : ∀ id, id ∈ s.seenPluginIds ↔ ∃ d ∈ s.descriptors, d.pluginId = id
  ids : (s.descriptors.map PluginDescriptor.pluginId).Nodup
  skipped : ∀ name, name ∈ s.skipped ↔ name ∈ done ∧ ¬ ∃ d, Conforms importer name d
  once : s.skipped.Nodup
  issues : ((s.importIssues ++ s.manifestIssues).map PluginDiscoveryIssue.moduleName).Perm s.skipped

theorem Covers.init {importer : Importer} : Covers importer [] {} := by
  constructor <;> simp

/-- A module that does not conform is skipped with an issue. -/
theorem Covers.skip {importer : Importer} {s : Found} (h : Covers importer done s)
    (hnew : name ∉ done) (hn : ¬ ∃ d, Conforms importer name d)
    {importIssues manifestIssues : List PluginDiscoveryIssue}
    (hi : ((importIssues ++ manifestIssues).map PluginDiscoveryIssue.moduleName).Perm
      (s.skipped ++ [name])) :
    Covers importer (done ++ [name])
      { s with importIssues, manifestIssues, skipped := s.skipped ++ [name] } where
  descriptors d := by
    rw [h.descriptors]
    constructor
    · rintro ⟨name', hm, hd⟩
      exact ⟨name', List.mem_append_left _ hm, hd⟩
    · rintro ⟨name', hm, hd⟩
      rcases List.mem_append.mp hm with hm | hm
      · exact ⟨name', hm, hd⟩
      · obtain rfl := List.mem_singleton.mp hm
        exact absurd ⟨d, hd⟩ hn
  seen := h.seen
  ids := h.ids
  skipped name' := by
    simp only [List.mem_append, List.mem_singleton, h.skipped]
    constructor
    · rintro (⟨hm, hd⟩ | rfl)
      · exact ⟨.inl hm, hd⟩
      · exact ⟨.inr rfl, hn⟩
    · rintro ⟨hm | rfl, hd⟩
      · exact .inl ⟨hm, hd⟩
      · exact .inr rfl
  once := by
    refine List.nodup_append.mpr ⟨h.once, List.nodup_singleton _, ?_⟩
    intro a ha b hb
    obtain rfl := List.mem_singleton.mp hb
    rintro rfl
    exact hnew ((h.skipped a).mp ha).1
  issues := hi

theorem Covers.add {importer : Importer} {s : Found} (h : Covers importer done s)
    (hnew : name ∉ done) (hd : Conforms importer name d) (hid : d.pluginId ∉ s.seenPluginIds) :
    Covers importer (done ++ [name])
      { s with
        seenPluginIds := insert d.pluginId s.seenPluginIds
        descriptors := s.descriptors ++ [d] } where
  descriptors d' := by
    simp only [List.mem_append, List.mem_singleton, h.descriptors]
    constructor
    · rintro (⟨name', hm, hd'⟩ | rfl)
      · exact ⟨name', .inl hm, hd'⟩
      · exact ⟨name, .inr rfl, hd⟩
    · rintro ⟨name', hm | rfl, hd'⟩
      · exact .inl ⟨name', hm, hd'⟩
      · exact .inr (hd'.unique hd)
  seen id := by
    simp only [Finset.mem_insert, h.seen, List.mem_append, List.mem_singleton]
    grind
  ids := by
    rw [List.map_append, List.nodup_append]
    refine ⟨h.ids, List.nodup_singleton _, ?_⟩
    intro id hm id' hm'
    obtain rfl := List.mem_singleton.mp hm'
    rintro rfl
    obtain ⟨d', hd', he⟩ := List.mem_map.mp hm
    exact hid ((h.seen _).mpr ⟨d', hd', he⟩)
  skipped name' := by
    rw [h.skipped]
    constructor
    · rintro ⟨hm, hn⟩
      exact ⟨List.mem_append_left _ hm, hn⟩
    · rintro ⟨hm, hn⟩
      rcases List.mem_append.mp hm with hm | hm
      · exact ⟨hm, hn⟩
      · obtain rfl := List.mem_singleton.mp hm
        exact absurd ⟨d, hd⟩ hn
  once := h.once
  issues := h.issues

/-- A round that gets through has met no fault but those discovery expects. -/
theorem discoverModule_contained {importer : Importer} {s : Found}
    (h : discoverModule importer allowed s name = .ok s') : Contained importer name := by
  unfold discoverModule at h
  cases hm : importer name with
  | error e =>
    simp only [hm, except_bind_ok, Raised.str_ok] at h
    obtain ⟨_, ⟨hb, -⟩, -⟩ := h
    refine ⟨?_, ?_, ?_, ?_⟩
    · rintro _ he
      obtain rfl := Except.error.inj (hm.symm.trans he)
      exact hb
    · simp [hm]
    · simp [hm]
    · rintro d ⟨_, _, _, _, hm', -⟩
      simp [hm] at hm'
  | ok module =>
    simp only [hm, except_bind_ok] at h
    obtain ⟨exports, he, h⟩ := h
    have hread : ∀ module', importer name = .ok module' → module' = module := by simp [hm]
    refine ⟨by simp [hm], ?_, ?_, ?_⟩
    · intro module' hm'
      exact ⟨exports, hread module' hm' ▸ he⟩
    · intro module' exports' hm' he' e hr
      obtain rfl := hread module' hm'
      obtain rfl : exports = exports' := by simpa [he] using he'
      rw [hr.inspect] at h
      simp only at h
      split at h
      · next hx =>
        simp only [except_bind_ok, Raised.str_ok] at h
        obtain ⟨_, ⟨hb, -⟩, -⟩ := h
        exact ⟨hx, hb⟩
      · cases h
    · intro d hd
      obtain ⟨metadata, capabilities, hi, rfl⟩ := (conforms_iff hm he).mp hd
      rw [hi] at h
      simp only at h
      split at h
      · cases h
      split at h
      · cases h
      simp only [except_bind_ok, pluginDescriptor_ok] at h
      obtain ⟨_, ⟨hb, -⟩, -⟩ := h
      exact hb

/-- A round over a module whose faults are expected covers one module more. -/
theorem Covers.round {importer : Importer} (allowed : List String) {s : Found}
    (h : Covers importer done s) (hnew : name ∉ done) (hc : Contained importer name)
    (hfam : ∀ d, Conforms importer name d → d.family.text ∈ allowed)
    (hids : ∀ name' ∈ done, ∀ d d', Conforms importer name d → Conforms importer name' d' →
      d.pluginId ≠ d'.pluginId) :
    ∃ s', discoverModule importer allowed s name = .ok s' ∧
      Covers importer (done ++ [name]) s' := by
  unfold discoverModule
  cases hm : importer name with
  | error e =>
    have hn : ¬ ∃ d, Conforms importer name d := by
      rintro ⟨d, _, _, _, _, hm', -⟩
      simp [hm] at hm'
    simp only [Raised.str_ok.mpr ⟨hc.printed e hm, rfl⟩, bind, Except.bind]
    refine ⟨_, rfl, h.skip hnew hn ?_⟩
    have hperm := List.Perm.append_right [name] h.issues
    simp only [List.map_append, List.map_cons, List.map_nil, List.append_assoc] at hperm ⊢
    exact (List.Perm.append_left _ List.perm_append_comm).trans hperm
  | ok module =>
    obtain ⟨exports, he⟩ := hc.readable module hm
    simp only [he, bind, Except.bind]
    cases hi : inspect exports with
    | error e =>
      have hn : ¬ ∃ d, Conforms importer name d := by
        rintro ⟨d, hd⟩
        obtain ⟨_, _, hi', -⟩ := (conforms_iff hm he).mp hd
        simp [hi] at hi'
      have hx : expected e = true ∧ e.broken = none :=
        (inspect_raises exports e hi).elim refusal_expected (hc.expected module exports hm he e)
      simp only [hx.1, if_true, Raised.str_ok.mpr ⟨hx.2, rfl⟩]
      refine ⟨_, rfl, h.skip hnew hn ?_⟩
      have hperm := List.Perm.append_right [name] h.issues
      simpa only [List.map_append, List.map_cons, List.map_nil, List.append_assoc] using hperm
    | ok declared =>
      obtain ⟨metadata, capabilities⟩ := declared
      have hd := (conforms_iff hm he).mpr ⟨metadata, capabilities, hi, rfl⟩
      have hid : metadata.pluginId ∉ s.seenPluginIds := by
        rw [h.seen]
        rintro ⟨d', hd', heq⟩
        obtain ⟨name', hn', hd'⟩ := (h.descriptors d').mp hd'
        exact hids name' hn' _ d' hd hd' heq.symm
      have hf : metadata.family.text ∈ allowed := hfam _ hd
      simp only [hf, hid, not_true, if_false, pluginDescriptor_ok.mpr ⟨hc.named _ hd, rfl⟩]
      exact ⟨_, rfl, h.add hnew hd hid⟩

-- ---------------------------------------------------------------------------
-- The whole discovery
-- ---------------------------------------------------------------------------

theorem foldlM_contained {importer : Importer} {names : List String} {s s' : Found}
    (h : names.foldlM (discoverModule importer allowed) s = .ok s') :
    ∀ name ∈ names, Contained importer name := by
  induction names generalizing s with
  | nil => simp
  | cons name names ih =>
    rw [List.foldlM_cons] at h
    obtain ⟨s₁, h₁, h⟩ := except_bind_ok.mp h
    intro name' hm
    rcases List.mem_cons.mp hm with rfl | hm
    · exact discoverModule_contained h₁
    · exact ih h name' hm

theorem foldlM_covers {importer : Importer} {names done : List String} {s : Found}
    (h : Covers importer done s) (hnodup : (done ++ names).Nodup)
    (hc : ∀ name ∈ names, Contained importer name)
    (hcompat : Compatible importer allowed (done ++ names)) :
    ∃ s', names.foldlM (discoverModule importer allowed) s = .ok s' ∧
      Covers importer (done ++ names) s' := by
  induction names generalizing done s with
  | nil => exact ⟨s, rfl, by simpa using h⟩
  | cons name names ih =>
    rw [show done ++ name :: names = (done ++ [name]) ++ names by simp] at hnodup hcompat ⊢
    have hnew : name ∉ done := by
      have := (List.nodup_append.mp (List.nodup_append.mp hnodup).1).2.2
      exact fun hm => this name hm name (by simp) rfl
    obtain ⟨s₁, h₁, hs₁⟩ := h.round allowed hnew (hc name (by simp))
      (hcompat.families name (by simp))
      (fun name' hm d d' hd hd' heq =>
        hnew (hcompat.ids name (by simp) name' (by simp [hm]) d d' hd hd' heq ▸ hm))
    obtain ⟨s', hs', hcov⟩ := ih hs₁ hnodup (fun n hn => hc n (List.mem_cons_of_mem _ hn)) hcompat
    refine ⟨s', ?_, hcov⟩
    rw [List.foldlM_cons]
    exact except_bind_ok.mpr ⟨s₁, h₁, hs'⟩

omit [Interpreter] in
theorem before_total (d d' : PluginDescriptor) : (before d d' || before d' d) = true := by
  simp only [before, Bool.or_eq_true, Bool.and_eq_true, decide_eq_true_eq]
  rcases lt_trichotomy d.pluginId d'.pluginId with h | h | h
  · exact .inl (.inl h)
  · exact (le_total d.moduleName d'.moduleName).imp (fun hl => .inr ⟨h, hl⟩) fun hl =>
      .inr ⟨h.symm, hl⟩
  · exact .inr (.inl h)

omit [Interpreter] in
theorem before_trans (d₁ d₂ d₃ : PluginDescriptor) (h : before d₁ d₂ = true)
    (h' : before d₂ d₃ = true) : before d₁ d₃ = true := by
  simp only [before, Bool.or_eq_true, Bool.and_eq_true, decide_eq_true_eq] at h h' ⊢
  rcases h with h | ⟨h, hl⟩
  · rcases h' with h' | ⟨h', -⟩
    · exact .inl (h.trans h')
    · exact .inl (h' ▸ h)
  · rcases h' with h' | ⟨h', hl'⟩
    · exact .inl (h ▸ h')
    · exact .inr ⟨h.trans h', hl.trans hl'⟩

omit [Interpreter] in
/-- With ids of their own the sorted descriptors go up strictly. -/
theorem sorted_ids {ds : List PluginDescriptor} (h : (ds.map PluginDescriptor.pluginId).Nodup) :
    (ds.mergeSort before).Pairwise fun d d' => d.pluginId < d'.pluginId := by
  have hsorted := List.pairwise_mergeSort before_trans before_total ds
  have hids : ((ds.mergeSort before).map PluginDescriptor.pluginId).Nodup :=
    ((List.mergeSort_perm ds before).map _).nodup_iff.mpr h
  refine (hsorted.and (List.pairwise_map.mp hids)).imp ?_
  rintro d d' ⟨hb, hne⟩
  simpa [before, hne] using hb

theorem Covers.complete {importer : Importer} {s : Found} (h : Covers importer done s)
    (hdone : ∀ name, name ∈ done ↔ name ∈ names) : Complete importer names (resultOf s) where
  descriptors d := by simp [resultOf, h.descriptors, hdone]
  sorted := sorted_ids h.ids
  skipped name := by simp [resultOf, h.skipped, hdone]
  issue name hm hn := by
    simp only [resultOf]
    rw [h.issues.count_eq]
    exact List.count_eq_one_of_mem h.once ((h.skipped name).mpr ⟨(hdone name).mpr hm, hn⟩)

/-- What the loop goes through is the set of the names. -/
theorem discoverPlugins_unordered (importer : Importer) (allowedFamilies : List Value)
    {names names' : List String} (h : ∀ name, name ∈ names' ↔ name ∈ names) :
    discoverPlugins names' importer allowedFamilies =
      discoverPlugins names importer allowedFamilies := by
  have hset : names'.toFinset = names.toFinset := by
    ext name
    simp [h]
  simp only [discoverPlugins, hset]

/-- A discovery that returns has met no fault but those it expects. -/
theorem discoverPlugins_contained {importer : Importer} {names : List String}
    (h : discoverPlugins names importer allowedFamilies = .ok result) :
    normalizeFamilies allowedFamilies ≠ [] ∧ ∀ name ∈ names, Contained importer name := by
  unfold discoverPlugins at h
  simp only at h
  split at h
  · cases h
  next hne =>
  obtain ⟨s, hs, -⟩ := except_bind_ok.mp h
  exact ⟨by simpa using hne, fun name hm => foldlM_contained hs name (by simpa using hm)⟩

theorem discoverPlugins_complete {importer : Importer} {names : List String}
    (hcompat : Compatible importer (normalizeFamilies allowedFamilies) names)
    (hne : normalizeFamilies allowedFamilies ≠ []) (hc : ∀ name ∈ names, Contained importer name) :
    ∃ result, discoverPlugins names importer allowedFamilies = .ok result ∧
      Complete importer names result := by
  have hmem : ∀ name, name ∈ ([] ++ names.toFinset.sort) ↔ name ∈ names := by simp
  have hsorted : Compatible importer (normalizeFamilies allowedFamilies)
      ([] ++ names.toFinset.sort) :=
    ⟨fun n hn n' hn' => hcompat.ids n ((hmem n).mp hn) n' ((hmem n').mp hn'),
      fun n hn => hcompat.families n ((hmem n).mp hn)⟩
  obtain ⟨s, hs, hcov⟩ := foldlM_covers Covers.init (by simp)
    (fun name hm => hc name ((hmem name).mp (by simpa using hm))) hsorted
  refine ⟨resultOf s, ?_, hcov.complete hmem⟩
  simp only [discoverPlugins, List.isEmpty_iff, hne, if_false, hs]
  rfl

/-- Discovery leaves a faulty module alone exactly when some family is allowed
and the faults of every module are of the kinds it expects. -/
theorem isolates_iff (importer : Importer) (allowedFamilies : List Value) (names : List String) :
    Isolates importer allowedFamilies names ↔
      (Compatible importer (normalizeFamilies allowedFamilies) names →
        normalizeFamilies allowedFamilies ≠ [] ∧ ∀ name ∈ names, Contained importer name) := by
  constructor
  · intro h hcompat
    obtain ⟨result, hr, -⟩ := h.returns hcompat
    exact discoverPlugins_contained hr
  · intro h
    refine ⟨fun hcompat => ?_, fun names' => discoverPlugins_unordered importer allowedFamilies⟩
    exact discoverPlugins_complete hcompat (h hcompat).1 (h hcompat).2

end

/-- A device plugin that keeps the contract. -/
def psaExports : Exports
  | "metadata" => some (.hook fun _ => .ok (.mapping
      [("plugin_id", .value (.str "psa_horiba")), ("family", .value (.str "device")),
        ("version", .value (.str "1.0.0")), ("contract_version", .value (.str "2.0.0"))]))
  | "capabilities" => some (.hook fun _ => .ok (.capabilities ⟨true, true, false, false⟩))
  | "create_processor" => some (.hook fun _ => .ok .processor)
  | "validate_settings" => some (.hook fun _ => .ok .other)
  | _ => none

def noDriver : Raised :=
  { exn := { mro := ["RuntimeError", "Exception"], message := "driver not installed" } }

/-- The same plugin, its `metadata()` raising. -/
def brokenExports : Exports
  | "metadata" => some (.hook fun _ => .error noDriver)
  | name => psaExports name

def oneBroken : Importer := fun name =>
  .ok (.object (some (if name = "devices.broken" then brokenExports else psaExports)))

section
attribute [local instance] Interpreter.ascii

theorem brokenExports_raises : Raises brokenExports noDriver :=
  .metadata ⟨_, rfl⟩ ⟨_, rfl⟩ rfl

theorem broken_conforms_not : ¬ Conforms oneBroken "devices.broken" d := by
  intro h
  obtain ⟨_, _, hi, -⟩ := (conforms_iff rfl (rfl : moduleExports _ = .ok brokenExports)).mp h
  rw [brokenExports_raises.inspect] at hi
  cases hi

theorem oneBroken_compatible :
    Compatible oneBroken ["device", "pc"] ["devices.psa", "devices.broken"] where
  ids := by
    intro name hn name' hn' d d' hd hd' _
    simp only [List.mem_cons, List.not_mem_nil, or_false] at hn hn'
    rcases hn with rfl | rfl
    · rcases hn' with rfl | rfl
      · rfl
      · exact absurd hd' broken_conforms_not
    · exact absurd hd broken_conforms_not
  families := by
    intro name _ d _
    cases d.family <;> simp [PluginFamily.text]

/-- One module whose `metadata()` raises a RuntimeError, and nothing is discovered. -/
theorem oneBroken_spoils :
    ¬ Isolates oneBroken [.str "device", .str "pc"] ["devices.psa", "devices.broken"] := by
  intro h
  have hall : normalizeFamilies [.str "device", .str "pc"] = ["device", "pc"] := by decide +kernel
  obtain ⟨result, hr, -⟩ := h.returns (hall ▸ oneBroken_compatible)
  have hc := (discoverPlugins_contained hr).2 "devices.broken" (by simp)
  have hx := (hc.expected _ brokenExports rfl rfl noDriver brokenExports_raises).1
  exact absurd hx (by decide)

end

end DpostV2.Plugins.Discovery
