import DpostV2.Lib.Python
import Mathlib.Data.Finset.Sort
import Mathlib.Data.String.Basic

/-!
# Plugins and their selection

The catalog of plugin descriptors and `select_plugins_for_profile`. Of a
module's exports a descriptor keeps whether the two lifecycle hooks can be
called. Whatever is selected is in the catalog (`selected_registered`).
-/

namespace DpostV2.Plugins

inductive PluginFamily where
  | device
  | pc
  deriving DecidableEq, Repr

structure PluginDescriptor where
  pluginId : String
  family : PluginFamily
  supportedProfiles : List String
  onActivate : Bool
  onShutdown : Bool

/-- `build_catalog` refuses a second descriptor of one id. -/
structure PluginCatalogSnapshot where
  descriptors : List PluginDescriptor
  nodup : (descriptors.map PluginDescriptor.pluginId).Nodup

def PluginCatalogSnapshot.knownPluginIds (catalog : PluginCatalogSnapshot) : Finset String :=
  (catalog.descriptors.map PluginDescriptor.pluginId).toFinset

def getPlugin (snapshot : PluginCatalogSnapshot) (pluginId : String) :
    Except Exn PluginDescriptor :=
  match snapshot.descriptors.find? fun descriptor => descriptor.pluginId == pluginId with
  | some descriptor => .ok descriptor
  | none => .error
      { mro := ["PluginCatalogNotFoundError", "PluginCatalogError", "RuntimeError", "Exception"],
        message := "unknown plugin_id: " ++ pluginId }

theorem getPlugin_ok {catalog : PluginCatalogSnapshot} {pluginId : String}
    (h : pluginId ∈ catalog.knownPluginIds) :
    ∃ descriptor ∈ catalog.descriptors, getPlugin catalog pluginId = .ok descriptor ∧
      descriptor.pluginId = pluginId := by
  unfold getPlugin
  cases hfind : catalog.descriptors.find? fun descriptor => descriptor.pluginId == pluginId with
  | some descriptor =>
    have hid : descriptor.pluginId = pluginId := by simpa using List.find?_some hfind
    exact ⟨descriptor, List.mem_of_find?_eq_some hfind, rfl, hid⟩
  | none =>
    simp only [PluginCatalogSnapshot.knownPluginIds, List.mem_toFinset, List.mem_map] at h
    obtain ⟨descriptor, hd, rfl⟩ := h
    exact absurd (List.find?_eq_none.mp hfind descriptor hd) (by simp)

theorem PluginCatalogSnapshot.unique {catalog : PluginCatalogSnapshot} {d d' : PluginDescriptor}
    (hd : d ∈ catalog.descriptors) (hd' : d' ∈ catalog.descriptors)
    (h : d.pluginId = d'.pluginId) : d = d' :=
  List.inj_on_of_nodup_map catalog.nodup hd hd' h

-- ---------------------------------------------------------------------------
-- Selection for a profile
-- ---------------------------------------------------------------------------

structure PluginSelectionResult where
  selectedDevice : List String
  selectedPc : List String
  included : List (String × String)
  excluded : List (String × String)
  fingerprint : String

def profileError (cls message : String) : Exn :=
  { mro := [cls, "PluginProfileError", "ValueError", "Exception"], message }

def policyError (message : String) : Exn := profileError "PluginProfilePolicyError" message

abbrev sorted (ids : Finset String) : List String := ids.sort

def joinSorted (ids : Finset String) : String := ", ".intercalate (sorted ids)

/-- The tokens of an iterable of texts, each stripped. -/
def normalizeTokens (message : String) : List Value → Except Exn (List String)
  | [] => .ok []
  | .str s :: rest =>
    if blank s then .error (policyError message)
    else do
      let tokens ← normalizeTokens message rest
      return strip s :: tokens
  | _ :: _ => .error (policyError message)

def normalizePluginIds (pluginIds : List Value) (label : String) : Except Exn (Finset String) := do
  let tokens ← normalizeTokens (label ++ " entries must be non-empty strings") pluginIds
  return tokens.toFinset

/-- What the loop over the catalog says of a descriptor: whether it is included, and why. -/
def selectionReason (profile : String) (allow deny : Finset String)
    (descriptor : PluginDescriptor) :
    Bool × String :=
  if descriptor.pluginId ∈ deny then (false, "deny_override")
  else if descriptor.pluginId ∈ allow then (true, "allow_override")
  else if descriptor.supportedProfiles.isEmpty ∨ profile ∈ descriptor.supportedProfiles then
    (true, "profile_match")
  else (false, "profile_mismatch")

section
variable [Interpreter]

def normalizeProfile : Value → Except Exn String
  | .str s =>
    if blank s then .error (policyError "profile must be a non-empty string")
    else .ok (Interpreter.lower (strip s))
  | _ => .error (policyError "profile must be a non-empty string")

def normalizeKnownProfiles (knownProfiles : Option (List Value)) (catalog : PluginCatalogSnapshot) :
    Except Exn (Finset String) :=
  match knownProfiles with
  | none =>
    let fromCatalog := (catalog.descriptors.flatMap PluginDescriptor.supportedProfiles).toFinset
    .ok (if fromCatalog = ∅ then {"default"} else fromCatalog)
  | some profiles => do
    let tokens ← normalizeTokens "known_profiles entries must be non-empty strings" profiles
    if tokens.isEmpty then .error (policyError "known_profiles cannot be empty")
    else return (tokens.map Interpreter.lower).toFinset

def selectionFingerprint (profile : String) (device pc : List String) : String :=
  Interpreter.textDigest (profile ++ "|device:" ++ ",".intercalate device ++
    "|pc:" ++ ",".intercalate pc)

def selectPluginsForProfile (catalog : PluginCatalogSnapshot) (profile : Value)
    (knownProfiles : Option (List Value)) (allowPluginIds denyPluginIds : List Value) :
    Except Exn PluginSelectionResult := do
  let normalizedProfile ← normalizeProfile profile
  let known ← normalizeKnownProfiles knownProfiles catalog
  if normalizedProfile ∉ known then
    .error (profileError "PluginProfileUnknownError" ("unknown plugin profile " ++
      Interpreter.reprOf normalizedProfile ++ "; known profiles: " ++ joinSorted known))
  else do
    let allow ← normalizePluginIds allowPluginIds "allow_plugin_ids"
    let deny ← normalizePluginIds denyPluginIds "deny_plugin_ids"
    if allow ∩ deny ≠ ∅ then
      .error (profileError "PluginProfileOverrideConflictError"
        ("plugin ids cannot be both allowed and denied: " ++ joinSorted (allow ∩ deny)))
    else if (allow ∪ deny) \ catalog.knownPluginIds ≠ ∅ then
      .error (profileError "PluginProfileCatalogMismatchError"
        ("override references unknown plugin ids: " ++
          joinSorted ((allow ∪ deny) \ catalog.knownPluginIds)))
    else
      let reason := selectionReason normalizedProfile allow deny
      let selected (family : PluginFamily) : List String :=
        ((catalog.descriptors.filter fun d => d.family = family ∧ (reason d).1).map
          PluginDescriptor.pluginId).mergeSort
      let diagnosed (included : Bool) : List (String × String) :=
        ((catalog.descriptors.filter fun d => (reason d).1 = included).map fun d =>
          (d.pluginId, (reason d).2)).mergeSort fun a b => a.1 ≤ b.1
      return { selectedDevice := selected .device, selectedPc := selected .pc,
               included := diagnosed true, excluded := diagnosed false,
               fingerprint := selectionFingerprint normalizedProfile (selected .device)
                (selected .pc) }

/-- The ids `activate_profile` works with. -/
def PluginSelectionResult.selectedIds (selection : PluginSelectionResult) : Finset String :=
  selection.selectedDevice.toFinset ∪ selection.selectedPc.toFinset

theorem selected_registered {catalog : PluginCatalogSnapshot} {profile : Value}
    {known : Option (List Value)} {allow deny : List Value} {selection : PluginSelectionResult}
    (h : selectPluginsForProfile catalog profile known allow deny = .ok selection) :
    selection.selectedIds ⊆ catalog.knownPluginIds := by
  obtain ⟨_, -, h⟩ := except_bind_ok.mp h
  obtain ⟨_, -, h⟩ := except_bind_ok.mp h
  split at h
  · cases h
  · obtain ⟨_, -, h⟩ := except_bind_ok.mp h
    obtain ⟨_, -, h⟩ := except_bind_ok.mp h
    split at h
    · cases h
    · split at h
      · cases h
      · cases except_pure_ok.mp h
        intro pluginId hid
        simp only [PluginSelectionResult.selectedIds, Finset.mem_union, List.mem_toFinset,
          List.mem_mergeSort, List.mem_map, List.mem_filter] at hid
        simp only [PluginCatalogSnapshot.knownPluginIds, List.mem_toFinset, List.mem_map]
        rcases hid with ⟨d, ⟨hd, -⟩, rfl⟩ | ⟨d, ⟨hd, -⟩, rfl⟩
        · exact ⟨d, hd, rfl⟩
        · exact ⟨d, hd, rfl⟩

end

end DpostV2.Plugins
