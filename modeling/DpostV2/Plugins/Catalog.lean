import DpostV2.Lib.Lower
import DpostV2.Plugins.Discovery
import Mathlib.Data.List.Sort

/-!
# The plugin catalog

`build_catalog` and `refresh_catalog`, and what `select_plugins_for_profile` makes of a catalog:
the ids it includes and excludes are the catalog's, each once and for a reason, and the order
the descriptors came in is lost in the sort.
-/

namespace DpostV2.PluginCatalog

open Plugins hiding PluginDescriptor PluginCatalogSnapshot
open Plugins.Discovery (PluginDescriptor)

/-- The key of the sort: the id, then the family. -/
def sortsBefore (d d' : PluginDescriptor) : Prop :=
  d.pluginId < d'.pluginId ∨ (d.pluginId = d'.pluginId ∧ d.family.text ≤ d'.family.text)

instance : DecidableRel sortsBefore := fun _ _ => inferInstanceAs (Decidable (_ ∨ _))

instance : Std.Total sortsBefore where
  total d d' := by
    rcases lt_trichotomy d.pluginId d'.pluginId with h | h | h
    · exact .inl (.inl h)
    · exact (le_total d.family.text d'.family.text).imp (fun hle => .inr ⟨h, hle⟩)
        fun hle => .inr ⟨h.symm, hle⟩
    · exact .inr (.inl h)

instance : IsTrans PluginDescriptor sortsBefore where
  trans d₁ d₂ d₃ := by
    rintro (h | ⟨h, hle⟩) (h' | ⟨h', hle'⟩)
    · exact .inl (h.trans h')
    · exact .inl (h' ▸ h)
    · exact .inl (h ▸ h')
    · exact .inr ⟨h.trans h', hle.trans hle'⟩

structure CatalogDiff where
  addedPluginIds : List String
  removedPluginIds : List String

structure PluginCatalogSnapshot where
  descriptors : List PluginDescriptor
  byId : List (String × PluginDescriptor)
  byFamily : List (PluginFamily × List PluginDescriptor)
  byCapability : List (String × List PluginDescriptor)
  byProfile : List (String × List PluginDescriptor)
  version : String
  sorted : descriptors.Pairwise fun d d' => d.pluginId < d'.pluginId

def catalogError (cls message : String) : Exn :=
  { mro := [cls, "PluginCatalogError", "RuntimeError", "Exception"], message }

/-- The loop that fills `by_id`. -/
def indexById (byId : List (String × PluginDescriptor)) :
    List PluginDescriptor → Except Exn (List (String × PluginDescriptor))
  | [] => .ok byId
  | d :: rest =>
    if d.pluginId ∈ byId.map Prod.fst then
      .error (catalogError "PluginCatalogDuplicateError"
        ("duplicate plugin_id in catalog snapshot: " ++ d.pluginId))
    else indexById (byId ++ [(d.pluginId, d)]) rest

def ordered (descriptors : List PluginDescriptor) : List PluginDescriptor :=
  descriptors.insertionSort sortsBefore

def supports (profile : String) (d : PluginDescriptor) : Bool :=
  d.supportedProfiles.isEmpty || profile ∈ d.supportedProfiles

def discoveredProfiles (descriptors : List PluginDescriptor) : List String :=
  sorted (descriptors.flatMap (·.supportedProfiles)).toFinset

def flagText (b : Bool) : String := if b then "True" else "False"

/-- What `_catalog_version` hashes of a descriptor. -/
def versionText (d : PluginDescriptor) : String :=
  d.pluginId ++ "|" ++ d.family.text ++ "|" ++ d.version ++ "|" ++ d.contractVersion ++ "|" ++
    String.intercalate "," d.supportedProfiles ++ "|" ++
      flagText d.capabilities.canProcess ++ "|" ++
    flagText d.capabilities.supportsPreprocess ++ "|" ++ flagText d.capabilities.supportsBatch ++
    "|" ++ flagText d.capabilities.supportsSync

def catalogText (descriptors : List PluginDescriptor) : String :=
  String.join (descriptors.map versionText)

-- ---------------------------------------------------------------------------
-- The index
-- ---------------------------------------------------------------------------

theorem indexById_ok {byId index : List (String × PluginDescriptor)} {ds : List PluginDescriptor}
    (hnodup : (byId.map Prod.fst).Nodup) :
    indexById byId ds = .ok index ↔
      (byId.map Prod.fst ++ ds.map (·.pluginId)).Nodup ∧
        index = byId ++ ds.map fun d => (d.pluginId, d) := by
  induction ds generalizing byId with
  | nil =>
    simp only [indexById, List.map_nil, List.append_nil, Except.ok.injEq]
    exact ⟨fun h => ⟨hnodup, h.symm⟩, fun h => h.2.symm⟩
  | cons d rest ih =>
    unfold indexById
    split_ifs with hmem
    · refine iff_of_false nofun fun h => ?_
      have hdisjoint := List.disjoint_of_nodup_append h.1
      exact hdisjoint hmem (List.mem_cons_self ..)
    · have hnext : ((byId ++ [(d.pluginId, d)]).map Prod.fst).Nodup := by
        rw [List.map_append, List.nodup_append]
        refine ⟨hnodup, List.nodup_singleton _, ?_⟩
        rintro a ha b hb rfl
        have hsame : a = d.pluginId := by simpa using hb
        exact hmem (hsame ▸ ha)
      rw [ih hnext]
      simp [List.append_assoc]

theorem ordered_perm (descriptors : List PluginDescriptor) :
    (ordered descriptors).Perm descriptors :=
  List.perm_insertionSort sortsBefore descriptors

theorem indexed_nodup {ds : List PluginDescriptor} {index : List (String × PluginDescriptor)}
    (h : indexById [] ds = .ok index) : (ds.map (·.pluginId)).Nodup :=
  by simpa using ((indexById_ok (by simp)).mp h).1

/-- With ids of their own the sorted descriptors go up strictly. -/
theorem ordered_sorted {ds : List PluginDescriptor}
    (h : ((ordered ds).map (·.pluginId)).Nodup) :
    (ordered ds).Pairwise fun d d' => d.pluginId < d'.pluginId := by
  have hsorted : (ordered ds).Pairwise sortsBefore := List.pairwise_insertionSort sortsBefore ds
  refine (hsorted.and (List.pairwise_map.mp h)).imp ?_
  rintro d d' ⟨hlt | ⟨heq, -⟩, hne⟩
  · exact hlt
  · exact absurd heq hne

section
variable [Interpreter]

/-- The version is the digest of all the texts, one after the other. -/
def catalogVersion (descriptors : List PluginDescriptor) : String :=
  Interpreter.textDigest (catalogText descriptors)

/-- The snapshot of the sorted descriptors. -/
def snapshotOf (ordered : List PluginDescriptor) (byId : List (String × PluginDescriptor))
    (sorted : ordered.Pairwise fun d d' => d.pluginId < d'.pluginId) : PluginCatalogSnapshot where
  descriptors := ordered
  byId
  byFamily := [.device, .pc].map fun family => (family, ordered.filter (·.family = family))
  byCapability := [
    ("can_process", ordered.filter (·.capabilities.canProcess)),
    ("supports_preprocess", ordered.filter (·.capabilities.supportsPreprocess)),
    ("supports_batch", ordered.filter (·.capabilities.supportsBatch)),
    ("supports_sync", ordered.filter (·.capabilities.supportsSync))]
  byProfile := (discoveredProfiles ordered).map fun profile =>
    (profile, ordered.filter (supports profile))
  version := catalogVersion ordered
  sorted

def buildCatalog (descriptors : List PluginDescriptor) : Except Exn PluginCatalogSnapshot :=
  match hindex : indexById [] (ordered descriptors) with
  | .error e => .error e
  | .ok byId =>
    .ok (snapshotOf (ordered descriptors) byId (ordered_sorted (indexed_nodup hindex)))

def refreshCatalog (current : PluginCatalogSnapshot) (newDescriptors : List PluginDescriptor)
    (expectedVersion : Option String) : Except Exn (PluginCatalogSnapshot × CatalogDiff) :=
  if expectedVersion.any (· ≠ current.version) then
    .error (catalogError "PluginCatalogVersionError"
      ("stale catalog version token " ++ Interpreter.reprOf (expectedVersion.getD "") ++
        "; current=" ++ Interpreter.reprOf current.version))
  else do
    let refreshed ← buildCatalog newDescriptors
    let currentIds := (current.descriptors.map (·.pluginId)).toFinset
    let refreshedIds := (refreshed.descriptors.map (·.pluginId)).toFinset
    return (refreshed, { addedPluginIds := sorted (refreshedIds \ currentIds)
                         removedPluginIds := sorted (currentIds \ refreshedIds) })

-- ---------------------------------------------------------------------------
-- What is built
-- ---------------------------------------------------------------------------

theorem buildCatalog_indexed {ds : List PluginDescriptor}
    {byId : List (String × PluginDescriptor)} (h : indexById [] (ordered ds) = .ok byId) :
    buildCatalog ds =
      .ok (snapshotOf (ordered ds) byId (ordered_sorted (indexed_nodup h))) := by
  unfold buildCatalog
  split
  next e he => exact nomatch he.symm.trans h
  next byId' hindex =>
    obtain rfl := Except.ok.inj (hindex.symm.trans h)
    rfl

theorem indexed_of_build {ds : List PluginDescriptor} {c : PluginCatalogSnapshot}
    (h : buildCatalog ds = .ok c) : ∃ byId, ∃ hindex : indexById [] (ordered ds) = .ok byId,
      c = snapshotOf (ordered ds) byId (ordered_sorted (indexed_nodup hindex)) := by
  unfold buildCatalog at h
  split at h
  · exact nomatch h
  next byId hindex => exact ⟨byId, hindex, (Except.ok.inj h).symm⟩

/-- Descriptors make a catalog where their ids are their own. -/
theorem buildCatalog_isOk {ds : List PluginDescriptor} :
    (∃ c, buildCatalog ds = .ok c) ↔ (ds.map (·.pluginId)).Nodup := by
  have hids : ((ordered ds).map (·.pluginId)).Nodup ↔ (ds.map (·.pluginId)).Nodup :=
    ((ordered_perm ds).map _).nodup_iff
  constructor
  · rintro ⟨c, h⟩
    obtain ⟨byId, hindex, -⟩ := indexed_of_build h
    exact hids.mp (indexed_nodup hindex)
  · intro h
    have hindex : indexById [] (ordered ds) =
        .ok ([] ++ (ordered ds).map fun d => (d.pluginId, d)) :=
      (indexById_ok (by simp)).mpr ⟨by simpa using hids.mpr h, rfl⟩
    exact ⟨_, buildCatalog_indexed hindex⟩

omit [Interpreter] in
/-- The sort forgets the order of descriptors with ids of their own. -/
theorem ordered_eq_of_perm {ds ds' : List PluginDescriptor} (h : ds.Perm ds')
    (hnodup : (ds.map (·.pluginId)).Nodup) : ordered ds = ordered ds' := by
  have hsorted : ∀ l : List PluginDescriptor, (l.map (·.pluginId)).Nodup →
      (ordered l).Pairwise fun d d' => d.pluginId < d'.pluginId :=
    fun l hl => ordered_sorted (((ordered_perm l).map _).nodup_iff.mpr hl)
  refine List.Perm.eq_of_pairwise (fun d d' _ _ hlt hlt' => absurd (hlt.trans hlt') (lt_irrefl _))
    (hsorted ds hnodup) (hsorted ds' ((h.map _).nodup_iff.mp hnodup)) ?_
  exact (ordered_perm ds).trans (h.trans (ordered_perm ds').symm)

theorem buildCatalog_perm {ds ds' : List PluginDescriptor} {c : PluginCatalogSnapshot}
    (hperm : ds.Perm ds') (h : buildCatalog ds = .ok c) : buildCatalog ds' = .ok c := by
  have heq := ordered_eq_of_perm hperm (buildCatalog_isOk.mp ⟨c, h⟩)
  obtain ⟨byId, hindex, rfl⟩ := indexed_of_build h
  have hindex' : indexById [] (ordered ds') = .ok byId := heq ▸ hindex
  rw [buildCatalog_indexed hindex']
  simp only [heq]

-- ---------------------------------------------------------------------------
-- Descriptors
-- ---------------------------------------------------------------------------

/-- What the constructor of a descriptor lets through. -/
def Built (d : PluginDescriptor) : Prop :=
  ∃ metadata capabilities moduleName exports,
    Discovery.pluginDescriptor metadata capabilities moduleName exports = .ok d

theorem built_iff {d : PluginDescriptor} (h : Built d) :
    ∃ metadata : PluginMetadata, d.supportedProfiles =
      (metadata.supportedProfiles.filter (!blank ·)).map fun p => Interpreter.lower (strip p) := by
  obtain ⟨metadata, capabilities, moduleName, exports, h⟩ := h
  unfold Discovery.pluginDescriptor at h
  split_ifs at h
  cases h
  exact ⟨metadata, rfl⟩

theorem Built.profile {d : PluginDescriptor} (h : Built d) {p : String}
    (hp : p ∈ d.supportedProfiles) : ∃ s, blank s = false ∧ p = Interpreter.lower (strip s) := by
  obtain ⟨metadata, hprofiles⟩ := built_iff h
  rw [hprofiles, List.mem_map] at hp
  obtain ⟨s, hs, rfl⟩ := hp
  exact ⟨s, by simpa using (List.mem_filter.mp hs).2, rfl⟩

section
variable [LawfulLower] {d : PluginDescriptor}

/-- A profile of a descriptor is normalized already. -/
theorem Built.normalizeProfile (h : Built d) {p : String} (hp : p ∈ d.supportedProfiles) :
    normalizeProfile (.str p) = .ok p := by
  obtain ⟨s, hs, rfl⟩ := h.profile hp
  have hstrip : strip (Interpreter.lower (strip s)) = Interpreter.lower (strip s) := by
    rw [LawfulLower.strip_lower, strip_strip]
  have hblank : blank (Interpreter.lower (strip s)) = false := by
    have hne : strip s ≠ "" := by simpa [blank] using hs
    simpa [blank, hstrip, LawfulLower.lower_eq_empty] using hne
  simp only [Plugins.normalizeProfile, hblank, Bool.false_eq_true, if_false, hstrip,
    LawfulLower.lower_lower]

end

end

end DpostV2.PluginCatalog
