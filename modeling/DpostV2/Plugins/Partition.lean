import DpostV2.Plugins.CatalogVersion

/-!
# The selection of a catalog

`select_plugins_for_profile` over a built catalog: what it includes and excludes is the catalog
taken apart, by the reason each descriptor has.
-/

namespace DpostV2.PluginCatalog

open Plugins hiding PluginDescriptor PluginCatalogSnapshot
open Plugins.Discovery (PluginDescriptor)

-- ---------------------------------------------------------------------------
-- What the selection reads
-- ---------------------------------------------------------------------------

/-- `callable(module_exports.get(name))`. -/
def exportsHook (d : PluginDescriptor) (name : String) : Bool :=
  match d.moduleExports name with
  | some (.hook _) => true
  | _ => false

def selectable (d : PluginDescriptor) : Plugins.PluginDescriptor where
  pluginId := d.pluginId
  family := d.family
  supportedProfiles := d.supportedProfiles
  onActivate := exportsHook d "on_activate"
  onShutdown := exportsHook d "on_shutdown"

/-- The snapshot as the selection and the host read it. -/
def PluginCatalogSnapshot.selectable (c : PluginCatalogSnapshot) :
    Plugins.PluginCatalogSnapshot where
  descriptors := c.descriptors.map PluginCatalog.selectable
  nodup := by
    rw [List.map_map]
    exact List.pairwise_map.mpr (c.sorted.imp fun hlt => hlt.ne)

-- ---------------------------------------------------------------------------
-- What the selection returns
-- ---------------------------------------------------------------------------

/-- The selection of a profile with normalized overrides. -/
structure Chosen (catalog : Plugins.PluginCatalogSnapshot) (profile : String)
    (allow deny : Finset String) (selection : PluginSelectionResult) : Prop where
  disjoint : Disjoint allow deny
  allowed : allow ⊆ catalog.knownPluginIds
  denied : deny ⊆ catalog.knownPluginIds
  device : selection.selectedDevice = ((catalog.descriptors.filter fun d =>
    d.family = .device ∧ (selectionReason profile allow deny d).1).map (·.pluginId)).mergeSort
  pc : selection.selectedPc = ((catalog.descriptors.filter fun d =>
    d.family = .pc ∧ (selectionReason profile allow deny d).1).map (·.pluginId)).mergeSort
  included : (selection.included.map Prod.fst).Perm ((catalog.descriptors.filter fun d =>
    (selectionReason profile allow deny d).1).map (·.pluginId))
  excluded : (selection.excluded.map Prod.fst).Perm ((catalog.descriptors.filter fun d =>
    !(selectionReason profile allow deny d).1).map (·.pluginId))

section
variable [Interpreter]

theorem chosen_of_select {catalog : Plugins.PluginCatalogSnapshot} {profile : Value}
    {known : Option (List Value)} {allow deny : List Value} {selection : PluginSelectionResult}
    (h : selectPluginsForProfile catalog profile known allow deny = .ok selection) :
    ∃ p allowed denied, normalizeProfile profile = .ok p ∧
      normalizePluginIds allow "allow_plugin_ids" = .ok allowed ∧
      normalizePluginIds deny "deny_plugin_ids" = .ok denied ∧
      Chosen catalog p allowed denied selection := by
  obtain ⟨p, hprofile, h⟩ := except_bind_ok.mp h
  obtain ⟨_, -, h⟩ := except_bind_ok.mp h
  split at h
  · cases h
  · obtain ⟨allowed, hallow, h⟩ := except_bind_ok.mp h
    obtain ⟨denied, hdeny, h⟩ := except_bind_ok.mp h
    split at h
    · cases h
    next hdisjoint =>
    split at h
    · cases h
    next hknown =>
    cases except_pure_ok.mp h
    rw [not_not] at hdisjoint hknown
    have hsub := Finset.sdiff_eq_empty_iff_subset.mp hknown
    refine ⟨p, allowed, denied, hprofile, hallow, hdeny, ?_⟩
    exact {
      disjoint := Finset.disjoint_iff_inter_eq_empty.mpr hdisjoint
      allowed := Finset.union_subset_left hsub
      denied := Finset.union_subset_right hsub
      device := rfl
      pc := rfl
      included := by
        refine ((List.mergeSort_perm _ _).map _).trans ?_
        simp [List.map_map, Function.comp_def]
      excluded := by
        refine ((List.mergeSort_perm _ _).map _).trans ?_
        simp [List.map_map, Function.comp_def] }

end

-- ---------------------------------------------------------------------------
-- The catalog taken apart
-- ---------------------------------------------------------------------------

theorem selectionReason_included {profile : String} {allow deny : Finset String}
    {d : Plugins.PluginDescriptor} :
    (selectionReason profile allow deny d).1 = true ↔ d.pluginId ∉ deny ∧
      (d.pluginId ∈ allow ∨ d.supportedProfiles = [] ∨ profile ∈ d.supportedProfiles) := by
  unfold selectionReason
  split_ifs with hdeny hallow hmatch
  · simp [hdeny]
  · simp [hdeny, hallow]
  · rw [List.isEmpty_iff] at hmatch
    simp [hdeny, hmatch]
  · rw [List.isEmpty_iff] at hmatch
    simp [hdeny, hallow, hmatch]

section
variable {catalog : Plugins.PluginCatalogSnapshot} {profile : String} {allow deny : Finset String}
  {selection : PluginSelectionResult} (h : Chosen catalog profile allow deny selection)
include h

theorem Chosen.partition : (selection.included.map Prod.fst ++ selection.excluded.map Prod.fst).Perm
    (catalog.descriptors.map (·.pluginId)) := by
  refine (h.included.append h.excluded).trans ?_
  rw [← List.map_append]
  exact (List.filter_append_perm _ catalog.descriptors).map _

theorem Chosen.mem_included {pluginId : String} : pluginId ∈ selection.included.map Prod.fst ↔
    ∃ d ∈ catalog.descriptors, d.pluginId = pluginId ∧
      (selectionReason profile allow deny d).1 = true := by
  rw [h.included.mem_iff, List.mem_map]
  simp only [List.mem_filter]
  exact ⟨fun ⟨d, ⟨hd, hr⟩, hid⟩ => ⟨d, hd, hid, hr⟩, fun ⟨d, hd, hid, hr⟩ => ⟨d, ⟨hd, hr⟩, hid⟩⟩

theorem Chosen.mem_excluded {pluginId : String} : pluginId ∈ selection.excluded.map Prod.fst ↔
    ∃ d ∈ catalog.descriptors, d.pluginId = pluginId ∧
      (selectionReason profile allow deny d).1 = false := by
  rw [h.excluded.mem_iff, List.mem_map]
  simp only [List.mem_filter, Bool.not_eq_true']
  exact ⟨fun ⟨d, ⟨hd, hr⟩, hid⟩ => ⟨d, hd, hid, hr⟩, fun ⟨d, hd, hid, hr⟩ => ⟨d, ⟨hd, hr⟩, hid⟩⟩

theorem Chosen.mem_device {pluginId : String} : pluginId ∈ selection.selectedDevice ↔
    ∃ d ∈ catalog.descriptors, d.pluginId = pluginId ∧ d.family = .device ∧
      (selectionReason profile allow deny d).1 = true := by
  rw [h.device, List.mem_mergeSort, List.mem_map]
  simp only [List.mem_filter, decide_eq_true_eq]
  exact ⟨fun ⟨d, ⟨hd, hf, hr⟩, hid⟩ => ⟨d, hd, hid, hf, hr⟩,
    fun ⟨d, hd, hid, hf, hr⟩ => ⟨d, ⟨hd, hf, hr⟩, hid⟩⟩

theorem Chosen.mem_pc {pluginId : String} : pluginId ∈ selection.selectedPc ↔
    ∃ d ∈ catalog.descriptors, d.pluginId = pluginId ∧ d.family = .pc ∧
      (selectionReason profile allow deny d).1 = true := by
  rw [h.pc, List.mem_mergeSort, List.mem_map]
  simp only [List.mem_filter, decide_eq_true_eq]
  exact ⟨fun ⟨d, ⟨hd, hf, hr⟩, hid⟩ => ⟨d, hd, hid, hf, hr⟩,
    fun ⟨d, hd, hid, hf, hr⟩ => ⟨d, ⟨hd, hf, hr⟩, hid⟩⟩

end

/-- Ids of a part of a catalog, sorted, go up strictly. -/
theorem sorted_strictly (catalog : Plugins.PluginCatalogSnapshot)
    (q : Plugins.PluginDescriptor → Bool) :
    ((catalog.descriptors.filter q).map (·.pluginId)).mergeSort.Pairwise (· < ·) := by
  have hnodup : ((catalog.descriptors.filter q).map (·.pluginId)).Nodup :=
    catalog.nodup.sublist (List.filter_sublist.map _)
  have hsorted := List.pairwise_mergeSort' (· ≤ ·) ((catalog.descriptors.filter q).map (·.pluginId))
  exact (hsorted.and ((List.mergeSort_perm _ _).nodup_iff.mpr hnodup)).imp
    fun hle => lt_of_le_of_ne hle.1 hle.2

/-- The ids of the catalog once each, on one side and for a reason. -/
structure Partitions (c : PluginCatalogSnapshot) (profile : String) (allow deny : Finset String)
    (selection : PluginSelectionResult) : Prop where
  nodup : (c.descriptors.map (·.pluginId)).Nodup
  partition : (selection.included.map Prod.fst ++ selection.excluded.map Prod.fst).Perm
    (c.descriptors.map (·.pluginId))
  deviceSorted : selection.selectedDevice.Pairwise (· < ·)
  pcSorted : selection.selectedPc.Pairwise (· < ·)
  disjoint : selection.selectedDevice.Disjoint selection.selectedPc
  device : ∀ pluginId ∈ selection.selectedDevice,
    ∃ d ∈ c.descriptors, d.pluginId = pluginId ∧ d.family = .device
  pc : ∀ pluginId ∈ selection.selectedPc,
    ∃ d ∈ c.descriptors, d.pluginId = pluginId ∧ d.family = .pc
  together : ∀ pluginId, pluginId ∈ selection.selectedDevice ∨ pluginId ∈ selection.selectedPc ↔
    pluginId ∈ selection.included.map Prod.fst
  allowed : ∀ pluginId ∈ allow, pluginId ∈ selection.included.map Prod.fst
  denied : ∀ pluginId ∈ deny, pluginId ∈ selection.excluded.map Prod.fst
  others : ∀ d ∈ c.descriptors, d.pluginId ∉ allow → d.pluginId ∉ deny →
    (d.pluginId ∈ selection.included.map Prod.fst ↔
      d.supportedProfiles = [] ∨ profile ∈ d.supportedProfiles)

theorem mem_selectable {c : PluginCatalogSnapshot} {d : Plugins.PluginDescriptor} :
    d ∈ c.selectable.descriptors ↔ ∃ d' ∈ c.descriptors, selectable d' = d := List.mem_map

theorem mem_known {c : PluginCatalogSnapshot} {pluginId : String}
    (h : pluginId ∈ c.selectable.knownPluginIds) :
    ∃ d ∈ c.selectable.descriptors, d.pluginId = pluginId := by
  simpa [Plugins.PluginCatalogSnapshot.knownPluginIds] using h

theorem Chosen.partitions {c : PluginCatalogSnapshot} {profile : String}
    {allow deny : Finset String}
    {selection : PluginSelectionResult} (h : Chosen c.selectable profile allow deny selection) :
    Partitions c profile allow deny selection where
  nodup := by
    have hnodup := c.selectable.nodup
    rwa [PluginCatalogSnapshot.selectable, List.map_map] at hnodup
  partition := by
    have hpartition := h.partition
    rwa [PluginCatalogSnapshot.selectable, List.map_map] at hpartition
  deviceSorted := h.device ▸ sorted_strictly _ _
  pcSorted := h.pc ▸ sorted_strictly _ _
  disjoint := by
    intro pluginId hdevice hpc
    obtain ⟨d, hd, hid, hfamily, -⟩ := h.mem_device.mp hdevice
    obtain ⟨d', hd', hid', hfamily', -⟩ := h.mem_pc.mp hpc
    obtain rfl := c.selectable.unique hd hd' (hid.trans hid'.symm)
    exact nomatch hfamily.symm.trans hfamily'
  device pluginId hdevice := by
    obtain ⟨d, hd, hid, hfamily, -⟩ := h.mem_device.mp hdevice
    obtain ⟨built, hbuilt, rfl⟩ := mem_selectable.mp hd
    exact ⟨built, hbuilt, hid, hfamily⟩
  pc pluginId hpc := by
    obtain ⟨d, hd, hid, hfamily, -⟩ := h.mem_pc.mp hpc
    obtain ⟨built, hbuilt, rfl⟩ := mem_selectable.mp hd
    exact ⟨built, hbuilt, hid, hfamily⟩
  together pluginId := by
    rw [h.mem_device, h.mem_pc, h.mem_included]
    constructor
    · rintro (⟨d, hd, hid, -, hreason⟩ | ⟨d, hd, hid, -, hreason⟩) <;> exact ⟨d, hd, hid, hreason⟩
    · rintro ⟨d, hd, hid, hreason⟩
      cases hfamily : d.family with
      | device => exact .inl ⟨d, hd, hid, hfamily, hreason⟩
      | pc => exact .inr ⟨d, hd, hid, hfamily, hreason⟩
  allowed pluginId hallow := by
    obtain ⟨d, hd, hid⟩ := mem_known (h.allowed hallow)
    refine h.mem_included.mpr ⟨d, hd, hid, selectionReason_included.mpr ⟨fun hdeny => ?_, ?_⟩⟩
    · exact Finset.disjoint_left.mp h.disjoint hallow (hid ▸ hdeny)
    · exact .inl (hid ▸ hallow)
  denied pluginId hdeny := by
    obtain ⟨d, hd, hid⟩ := mem_known (h.denied hdeny)
    refine h.mem_excluded.mpr ⟨d, hd, hid, ?_⟩
    rw [← Bool.not_eq_true, selectionReason_included]
    exact fun hincluded => hincluded.1 (hid ▸ hdeny)
  others d hd hallow hdeny := by
    rw [h.mem_included]
    constructor
    · rintro ⟨d', hd', hid, hreason⟩
      obtain rfl := c.selectable.unique hd' (mem_selectable.mpr ⟨d, hd, rfl⟩) hid
      exact (selectionReason_included.mp hreason).2.resolve_left hallow
    · intro hmatch
      exact ⟨_, mem_selectable.mpr ⟨d, hd, rfl⟩, rfl,
        selectionReason_included.mpr ⟨hdeny, .inr hmatch⟩⟩

-- ---------------------------------------------------------------------------
-- The group of a profile
-- ---------------------------------------------------------------------------

theorem lookup_map_self {α : Type} {keys : List String} {f : String → α} {key : String} {a : α}
    (h : (keys.map fun k => (k, f k)).lookup key = some a) : key ∈ keys ∧ a = f key := by
  induction keys with
  | nil => exact nomatch h
  | cons k keys ih =>
    by_cases hsame : key = k
    · subst hsame
      rw [List.map_cons, List.lookup_cons_self] at h
      exact ⟨List.mem_cons_self .., (Option.some.inj h).symm⟩
    · rw [List.map_cons, List.lookup_cons, beq_eq_false_iff_ne.mpr hsame] at h
      exact ⟨List.mem_cons_of_mem _ (ih h).1, (ih h).2⟩

theorem supports_iff {profile : String} {d : PluginDescriptor} :
    supports profile d = true ↔ d.supportedProfiles = [] ∨ profile ∈ d.supportedProfiles := by
  simp [supports, List.isEmpty_iff]

section
variable [Interpreter]

theorem byProfile_lookup {ds : List PluginDescriptor} {c : PluginCatalogSnapshot}
    (hc : buildCatalog ds = .ok c) {key : String} {group : List PluginDescriptor}
    (h : c.byProfile.lookup key = some group) :
    (∃ d ∈ ds, key ∈ d.supportedProfiles) ∧ group = c.descriptors.filter (supports key) := by
  obtain ⟨byId, hindex, rfl⟩ := indexed_of_build hc
  obtain ⟨hkey, hgroup⟩ := lookup_map_self h
  refine ⟨?_, hgroup⟩
  simp only [discoveredProfiles, Finset.mem_sort, List.mem_toFinset, List.mem_flatMap] at hkey
  obtain ⟨d, hd, hkey⟩ := hkey
  exact ⟨d, (ordered_perm ds).mem_iff.mp hd, hkey⟩

omit [Interpreter] in
/-- Without overrides the included ids are those whose descriptors support the profile. -/
theorem Partitions.unoverridden {c : PluginCatalogSnapshot} {profile : String}
    {selection : PluginSelectionResult} (h : Partitions c profile ∅ ∅ selection)
    {pluginId : String} : pluginId ∈ selection.included.map Prod.fst ↔
      pluginId ∈ (c.descriptors.filter (supports profile)).map (·.pluginId) := by
  have hothers : ∀ d ∈ c.descriptors, (d.pluginId ∈ selection.included.map Prod.fst ↔
      supports profile d = true) := fun d hd =>
    (h.others d hd (Finset.notMem_empty _) (Finset.notMem_empty _)).trans supports_iff.symm
  constructor
  · intro hincluded
    obtain ⟨d, hd, rfl⟩ := List.mem_map.mp
      (h.partition.mem_iff.mp (List.mem_append_left _ hincluded))
    exact List.mem_map.mpr ⟨d, List.mem_filter.mpr ⟨hd, (hothers d hd).mp hincluded⟩, rfl⟩
  · intro hgroup
    obtain ⟨d, hd, rfl⟩ := List.mem_map.mp hgroup
    exact (hothers d (List.mem_of_mem_filter hd)).mpr (List.mem_filter.mp hd).2

/-- A selection takes the catalog apart by reason, whatever the order it was built in; without
overrides it includes the group of the profile. -/
theorem selection_partitions [LawfulLower] {ds : List PluginDescriptor} (hbuilt : ∀ d ∈ ds, Built d)
    {c : PluginCatalogSnapshot} (hc : buildCatalog ds = .ok c) (profile : Value)
    (known : Option (List Value)) (allow deny : List Value) {selection : PluginSelectionResult}
    (h : selectPluginsForProfile c.selectable profile known allow deny = .ok selection) :
    (∃ p allowed denied, normalizeProfile profile = .ok p ∧
      normalizePluginIds allow "allow_plugin_ids" = .ok allowed ∧
      normalizePluginIds deny "deny_plugin_ids" = .ok denied ∧
      Partitions c p allowed denied selection) ∧
    (∀ ds', ds.Perm ds' → ∃ c', buildCatalog ds' = .ok c' ∧
      selectPluginsForProfile c'.selectable profile known allow deny = .ok selection) ∧
    (∀ key group, profile = .str key → allow = [] → deny = [] →
      c.byProfile.lookup key = some group → ∀ pluginId,
        pluginId ∈ selection.included.map Prod.fst ↔ pluginId ∈ group.map (·.pluginId)) := by
  obtain ⟨p, allowed, denied, hprofile, hallow, hdeny, hchosen⟩ := chosen_of_select h
  refine ⟨⟨p, allowed, denied, hprofile, hallow, hdeny, hchosen.partitions⟩,
    fun ds' hperm => ⟨c, buildCatalog_perm hperm hc, h⟩, ?_⟩
  rintro key group rfl rfl rfl hgroup pluginId
  obtain ⟨⟨d, hd, hkey⟩, rfl⟩ := byProfile_lookup hc hgroup
  obtain rfl : key = p :=
    Except.ok.inj (((hbuilt d hd).normalizeProfile hkey).symm.trans hprofile)
  obtain rfl : ∅ = allowed := Except.ok.inj hallow
  obtain rfl : ∅ = denied := Except.ok.inj hdeny
  exact hchosen.partitions.unoverridden

end

section
attribute [local instance] Interpreter.ascii

theorem lab_versioned : blank "1.0.0" = false := by decide +kernel

theorem lab_contracted : blank "2.0" = false := by decide +kernel

def labMetadata (pluginId : String) (family : PluginFamily) (profiles : List String)
    (named : blank pluginId = false)
    (profiled : ∀ p ∈ profiles, blank p = false ∧ strip p = p) : PluginMetadata where
  pluginId
  family
  version := "1.0.0"
  contractVersion := "2.0"
  supportedProfiles := profiles
  named
  versioned := lab_versioned
  contracted := lab_contracted
  profiled

theorem blb_named : blank "tischrem_blb" = false := by decide +kernel

theorem kinexus_named : blank "rhe_kinexus" = false := by decide +kernel

theorem horiba_named : blank "psa_horiba" = false := by decide +kernel

theorem kinexus_profiled : ∀ p ∈ ["Pilot"], blank p = false ∧ strip p = p := by decide +kernel

theorem horiba_profiled : ∀ p ∈ ["Lab"], blank p = false ∧ strip p = p := by decide +kernel

/-- A device of the laboratory, one of the pilot plant, and a computer of any profile. -/
def labPlugins : List PluginDescriptor :=
  [plugin (labMetadata "tischrem_blb" .pc [] blb_named unprofiled),
    plugin (labMetadata "rhe_kinexus" .device ["Pilot"] kinexus_named kinexus_profiled),
    plugin (labMetadata "psa_horiba" .device ["Lab"] horiba_named horiba_profiled)]

theorem labPlugins_built : ∀ d ∈ labPlugins, Built d := by
  simp only [labPlugins, List.forall_mem_cons, List.not_mem_nil, false_implies, implies_true,
    and_true]
  exact ⟨plugin_built _, plugin_built _, plugin_built _⟩

theorem labPlugins_index : indexById [] (ordered labPlugins) =
    .ok ([] ++ (ordered labPlugins).map fun d => (d.pluginId, d)) :=
  (indexById_ok (by simp)).mpr ⟨by decide +kernel, rfl⟩

def labCatalog : PluginCatalogSnapshot :=
  snapshotOf (ordered labPlugins) ((ordered labPlugins).map fun d => (d.pluginId, d))
    (ordered_sorted (indexed_nodup labPlugins_index))

theorem labCatalog_built : buildCatalog labPlugins = .ok labCatalog :=
  buildCatalog_indexed labPlugins_index

theorem lab_selected (allow deny : List Value)
    (hok : (selectPluginsForProfile labCatalog.selectable (.str "lab") none allow deny).isOk =
      true) : ∃ selection,
    selectPluginsForProfile labCatalog.selectable (.str "lab") none allow deny = .ok selection := by
  cases h : selectPluginsForProfile labCatalog.selectable (.str "lab") none allow deny with
  | ok selection => exact ⟨selection, rfl⟩
  | error e =>
    rw [h] at hok
    exact nomatch hok

theorem lab_group : ∃ group, labCatalog.byProfile.lookup "lab" = some group ∧
    group.map (·.pluginId) = ["psa_horiba", "tischrem_blb"] := by
  have hprofile : "lab" ∈ discoveredProfiles (ordered labPlugins) := by
    simp only [discoveredProfiles, Finset.mem_sort, List.mem_toFinset]
    decide +kernel
  cases hlookup : labCatalog.byProfile.lookup "lab" with
  | none =>
    have hmissing := List.lookup_eq_none_iff.mp hlookup _ (List.mem_map_of_mem hprofile)
    simp at hmissing
  | some group =>
    refine ⟨group, rfl, ?_⟩
    rw [(byProfile_lookup labCatalog_built hlookup).2]
    decide +kernel

/-- The device of the pilot plant is let in, and the computer left out; and without overrides
the selection is the group of the profile. -/
theorem lab_partitions :
    (∃ selection, selectPluginsForProfile labCatalog.selectable (.str "lab") none
        [.str "rhe_kinexus"] [.str "tischrem_blb"] = .ok selection ∧
      ∃ p allowed denied, normalizeProfile (.str "lab") = .ok p ∧
        normalizePluginIds [.str "rhe_kinexus"] "allow_plugin_ids" = .ok allowed ∧
        normalizePluginIds [.str "tischrem_blb"] "deny_plugin_ids" = .ok denied ∧
        Partitions labCatalog p allowed denied selection) ∧
    ∃ selection, selectPluginsForProfile labCatalog.selectable (.str "lab") none [] [] =
        .ok selection ∧
      ∀ pluginId, pluginId ∈ selection.included.map Prod.fst ↔
        pluginId ∈ ["psa_horiba", "tischrem_blb"] := by
  have : LawfulLower := lawful_ascii
  obtain ⟨selection, hselection⟩ := lab_selected [.str "rhe_kinexus"] [.str "tischrem_blb"]
    (by decide +kernel)
  obtain ⟨plain, hplain⟩ := lab_selected [] [] (by decide +kernel)
  obtain ⟨group, hlookup, hids⟩ := lab_group
  refine ⟨⟨selection, hselection, ?_⟩, plain, hplain, fun pluginId => ?_⟩
  · exact (selection_partitions labPlugins_built labCatalog_built (.str "lab") none
      [.str "rhe_kinexus"] [.str "tischrem_blb"] hselection).1
  · rw [← hids]
    exact (selection_partitions labPlugins_built labCatalog_built (.str "lab") none [] []
      hplain).2.2 "lab" group rfl rfl rfl hlookup pluginId

end

end DpostV2.PluginCatalog
