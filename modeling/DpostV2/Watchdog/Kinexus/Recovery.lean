import DpostV2.Watchdog.Kinexus.Staging

/-!
# A forgotten batch is found again

After a restart the batch of a staging directory is reconstructed from its files. Where the files
of a pair share a stem that is in no other pair this gives back the batch that was staged, with
its name, whatever the order and the times of the files are (`batch_recovered`).
-/

namespace DpostV2.Watchdog.Kinexus

section
variable [Interpreter]

/-- `_reconstruct_batch_from_stage`, without the time at which the pairs are made. -/
def DeviceConfig.reconstructBatch (config : DeviceConfig) (stat : PurePath → Except Exn Seconds)
    (stageDir : StageDir) : Except Exn (String × List (PurePath × PurePath)) :=
  reconstructPairs stat config.isExport config.isNative marker "export" "native" stageDir

omit [Interpreter] in
theorem stagePrefix_marker {stem : String} (index : String)
    (h : ¬ marker.toList <:+: stem.toList) :
    stagePrefix marker (stem ++ marker ++ index) = stem := by
  have hunbroken : Split.Unbroken [marker.toList] stem.toList (marker.toList ++ index.toList) :=
    Split.unbroken_of_head (show '.' ∉ "__staged__".toList by decide) h
  have hsplit := Split.split_unbroken (by decide) hunbroken
  rw [stagePrefix, String.toList_append, String.toList_append, List.append_assoc, hsplit]
  simp

section
variable {config : DeviceConfig} {stageDir path : PurePath}

omit [Interpreter] in
theorem suffix_slash (h : path.name ≠ "") : (stageDir.slash path.name).suffix = path.suffix := by
  rw [PurePath.suffix, PurePath.suffix, slash_name (PurePath.name_segment h)]

omit [Interpreter] in
theorem stem_slash (h : path.name ≠ "") : (stageDir.slash path.name).stem = path.stem := by
  rw [PurePath.stem, PurePath.stem, slash_name (PurePath.name_segment h)]

theorem isExport_slash (h : path.name ≠ "") :
    config.isExport (stageDir.slash path.name) = config.isExport path := by
  rw [DeviceConfig.isExport, DeviceConfig.isExport, suffix_slash h]

theorem isNative_slash (h : path.name ≠ "") :
    config.isNative (stageDir.slash path.name) = config.isNative path := by
  rw [DeviceConfig.isNative, DeviceConfig.isNative, suffix_slash h]

end

omit [Interpreter] in
theorem stem_not_slash (path : PurePath) : '/' ∉ path.stem.toList := by
  by_cases hname : path.name = ""
  · rw [PurePath.stem, hname]
    decide
  · exact fun h => (PurePath.name_segment hname).2.2 (splitSuffix_fst_subset _ h)

omit [Interpreter] in
theorem stageName_segment (path : PurePath) {index : String} (h : '/' ∉ index.toList) :
    IsSegment (path.stem ++ marker ++ index) := by
  have hlength : 2 ≤ (path.stem ++ marker ++ index).length := by
    simp only [String.length_append]
    have hmarker : marker.length = 11 := by decide
    omega
  refine ⟨?_, ?_, ?_⟩
  · intro heq
    rw [heq] at hlength
    exact absurd hlength (by decide)
  · intro heq
    rw [heq] at hlength
    exact absurd hlength (by decide)
  · simp only [String.toList_append, List.mem_append, not_or]
    exact ⟨⟨stem_not_slash path, by decide⟩, h⟩

namespace Staged

variable {config : DeviceConfig} {path : PurePath} {pairs : List Pair} {batch : FlushBatch}
  (h : Staged config path pairs batch)

include h

theorem isExport_staged {pair : Pair} (hpair : pair ∈ batch.pairs) :
    config.isExport pair.exportPath = true := by
  obtain ⟨index, -, rfl⟩ := h.relocated
  obtain ⟨origin, horigin, rfl⟩ := List.mem_map.mp hpair
  obtain ⟨hexport, hname⟩ := h.isExport origin horigin
  exact (isExport_slash hname).trans hexport

theorem isNative_staged {pair : Pair} (hpair : pair ∈ batch.pairs) :
    config.isExport pair.rawPath = false ∧ config.isNative pair.rawPath = true := by
  obtain ⟨index, -, rfl⟩ := h.relocated
  obtain ⟨origin, horigin, rfl⟩ := List.mem_map.mp hpair
  obtain ⟨⟨hexport, hnative⟩, hname⟩ := h.isNative origin horigin
  exact ⟨(isExport_slash hname).trans hexport, (isNative_slash hname).trans hnative⟩

/-- Of the files of a batch the filters find its exports and its natives. -/
theorem filter_isExport : batch.paths.filter config.isExport = batch.pairs.map (·.exportPath) := by
  have hexports : ∀ path ∈ batch.pairs.map (·.exportPath), config.isExport path = true := by
    simpa using fun pair hpair => h.isExport_staged hpair
  have hraws : ∀ path ∈ batch.pairs.map (·.rawPath), ¬ config.isExport path = true := by
    simpa using fun pair hpair => (h.isNative_staged hpair).1
  rw [FlushBatch.paths, List.filter_append, List.filter_eq_self.mpr hexports,
    List.filter_eq_nil_iff.mpr hraws, List.append_nil]

theorem filter_isNative (hdisjoint : ∀ path, config.isExport path = true →
    config.isNative path = false) :
    batch.paths.filter config.isNative = batch.pairs.map (·.rawPath) := by
  have hexports : ∀ path ∈ batch.pairs.map (·.exportPath), ¬ config.isNative path = true := by
    simpa using fun pair hpair => hdisjoint _ (h.isExport_staged hpair)
  have hraws : ∀ path ∈ batch.pairs.map (·.rawPath), config.isNative path = true := by
    simpa using fun pair hpair => (h.isNative_staged hpair).2
  rw [FlushBatch.paths, List.filter_append, List.filter_eq_nil_iff.mpr hexports,
    List.filter_eq_self.mpr hraws, List.nil_append]

/-- The stems of the pairs are those they had before. -/
theorem stems : batch.pairs.map (fun pair => (pair.exportPath.stem, pair.rawPath.stem)) =
    pairs.map fun pair => (pair.exportPath.stem, pair.rawPath.stem) := by
  obtain ⟨index, -, rfl⟩ := h.relocated
  simp only [FolderState.stagedBatch, List.map_map]
  refine List.map_congr_left fun pair hpair => ?_
  simp only [Function.comp_apply, FolderState.stagedPair, stem_slash (h.isExport pair hpair).2,
    stem_slash (h.isNative pair hpair).2]

/-- A directory that holds the files of a batch is the one it was staged in. -/
theorem name_of_entries {stageDir : StageDir} (hentries : stageDir.entries.Perm batch.paths) :
    ∃ index : String, stageDir.path.name = path.stem ++ marker ++ index := by
  obtain ⟨index, hindex, hbatch⟩ := h.relocated
  obtain ⟨pair, hpair⟩ := List.exists_mem_of_ne_nil _ h.nonempty
  have hname : pair.exportPath.name ≠ "" := (h.isExport pair hpair).2
  have hmem : (stagePlace path index).slash pair.exportPath.name ∈ batch.paths := by
    rw [hbatch, stagedBatch_paths]
    exact List.mem_map_of_mem (List.mem_append_left _ (List.mem_map_of_mem hpair))
  have hplace : stagePlace path index = stageDir.path := by
    rw [← stageDir.inside _ (hentries.mem_iff.mpr hmem), slash_parent (PurePath.name_segment hname)]
  exact ⟨index, by rw [← hplace, stagePlace, slash_name (stageName_segment path hindex)]⟩

end Staged

/-- From its staging directory a batch that was staged in a run is reconstructed, if its pairs have
each a stem of their own. -/
theorem batch_recovered (config : DeviceConfig)
    (hdisjoint : ∀ path, config.isExport path = true → config.isNative path = false)
    (parentOf : String → PurePath) (events : List Event)
    (hplaced : ∀ a, .arrived a ∈ events → a.Placed parentOf) {key : String} {path : PurePath}
    {pairs : List Pair} {batch : FlushBatch}
    (hflushed : .flushed path pairs batch ∈ (Processor.after config events).logOf key)
    (hstems : ∀ pair ∈ pairs, pair.exportPath.stem = pair.rawPath.stem)
    (hdistinct : (pairs.map (·.exportPath.stem)).Nodup)
    (hmarker : ¬ marker.toList <:+: path.stem.toList) {stat : PurePath → Except Exn Seconds}
    {stageDir : StageDir} (hentries : stageDir.entries.Perm batch.paths)
    (hstat : StatsAll stat stageDir.entries) :
    ∃ pairs', pairs'.Perm (batch.pairs.map fun pair => (pair.exportPath, pair.rawPath)) ∧
      config.reconstructBatch stat stageDir = .ok (batch.stem, pairs') := by
  have hstaged : Staged config path pairs batch :=
    ((Apart.invariant config parentOf).holds events hplaced key).staged path pairs batch hflushed
  have hsame := hstaged.stems
  have hfirst : batch.pairs.map (fun pair => pair.exportPath.stem) =
      pairs.map fun pair => pair.exportPath.stem := by
    simpa [Function.comp_def] using congrArg (List.map Prod.fst) hsame
  obtain ⟨index, hname⟩ := hstaged.name_of_entries hentries
  have hstem : batch.stem = path.stem := by
    obtain ⟨_, -, hrelocated⟩ := hstaged.relocated
    rw [hrelocated, FolderState.stagedBatch]
  rw [hstem, ← stagePrefix_marker index hmarker, ← hname]
  refine reconstruct_recovers config.isExport config.isNative marker "export" "native"
    stageDir ?_ hstat ?_ ?_ ?_ ?_
  · obtain ⟨_, -, hrelocated⟩ := hstaged.relocated
    rw [hrelocated]
    simpa [FolderState.stagedBatch] using hstaged.nonempty
  · simpa [hstaged.filter_isExport, Function.comp_def] using hentries.filter config.isExport
  · simpa [hstaged.filter_isNative hdisjoint, Function.comp_def] using
      hentries.filter config.isNative
  · intro files hfiles
    obtain ⟨pair, hpair, rfl⟩ := List.mem_map.mp hfiles
    have hmem : (pair.exportPath.stem, pair.rawPath.stem) ∈
        pairs.map fun pair => (pair.exportPath.stem, pair.rawPath.stem) :=
      hsame ▸ List.mem_map.mpr ⟨pair, hpair, rfl⟩
    obtain ⟨origin, horigin, heq⟩ := List.mem_map.mp hmem
    obtain ⟨hexport, hnative⟩ := Prod.mk.inj heq
    rw [← hexport, ← hnative]
    exact hstems origin horigin
  · simpa [Function.comp_def, hfirst] using hdistinct

end

section
attribute [local instance] Interpreter.ascii

theorem sampleConfig_disjoint (path : PurePath) (h : sampleConfig.isExport path = true) :
    sampleConfig.isNative path = false := by
  simp only [DeviceConfig.isExport, DeviceConfig.isNative, sampleConfig, List.map_cons,
    List.map_nil, List.mem_singleton, decide_eq_true_eq, decide_eq_false_iff_not] at h ⊢
  rw [h]
  decide

/-- The files of the batch in another order. -/
def sampleStage : StageDir where
  path := PurePath.parse "/in/mus-ipat-a.__staged__2"
  entries := sampleBatch.paths.reverse
  distinct := by decide +kernel
  inside := by decide +kernel

/-- The natives are older than the exports. -/
def sampleStat (path : PurePath) : Except Exn Seconds :=
  if sampleConfig.isNative path then .ok 10 else .ok 20

theorem batch_recovered_sample : ∃ pairs',
    pairs'.Perm (sampleBatch.pairs.map fun pair => (pair.exportPath, pair.rawPath)) ∧
      sampleConfig.reconstructBatch sampleStat sampleStage = .ok ("mus-ipat-a", pairs') :=
  batch_recovered sampleConfig sampleConfig_disjoint (fun _ => PurePath.parse "/in") sampleEvents
    sampleEvents_placed sampleBatch_flushed (by decide +kernel) (by decide +kernel)
    (by decide +kernel) (List.reverse_perm _) fun path _ => by
      unfold sampleStat
      split <;> exact ⟨_, rfl⟩

end

end DpostV2.Watchdog.Kinexus
