import DpostV2.Watchdog.Kinexus.Pairing

/-!
# Staged files do not collide

The pairs of a batch are moved into one directory under the names they had. No two files of a
batch are ever moved to the same place (`staged_apart`): a path is tracked once, an export is no
native, and all come from the folder that is flushed.
-/

namespace DpostV2.Watchdog.Kinexus

open scoped List

/-- The folder of an arrival is where its path lies. -/
def Arrival.Placed (parentOf : String → PurePath) (a : Arrival) : Prop :=
  a.path.parent = parentOf a.folderKey ∧ a.path.name ≠ ""

instance (parentOf : String → PurePath) (a : Arrival) : Decidable (a.Placed parentOf) :=
  inferInstanceAs (Decidable (_ ∧ _))

/-- A file of the folder. -/
def InFolder (parent path : PurePath) : Prop := path.parent = parent ∧ path.name ≠ ""

theorem path_eq {p q : PurePath} {parent : PurePath} (hp : InFolder parent p)
    (hq : InFolder parent q) (h : p.name = q.name) : p = q := by
  have hparents : p.parent = q.parent := hp.1.trans hq.1.symm
  have hroot : p.parent.root = q.parent.root := by rw [hparents]
  have hparts : p.parent.parts = q.parent.parts := by rw [hparents]
  simp only [PurePath.parent] at hroot hparts
  refine PurePath.ext hroot ?_
  rw [PurePath.name_mem hp.2, PurePath.name_mem hq.2, hparts, h]

/-- Files of one folder stay apart when they are moved to another under their names. -/
theorem slash_nodup {paths : List PurePath} {parent : PurePath} (stageDir : PurePath)
    (h : paths.Nodup) (hin : ∀ path ∈ paths, InFolder parent path) :
    (paths.map fun path => stageDir.slash path.name).Nodup := by
  refine List.Nodup.map_on (fun p hp q hq heq => ?_) h
  have hname : p.name = q.name := slash_injective (PurePath.name_segment (hin p hp).2)
    (PurePath.name_segment (hin q hq).2) heq
  exact path_eq (hin p hp) (hin q hq) hname

def FlushBatch.paths (batch : FlushBatch) : List PurePath :=
  batch.pairs.map (·.exportPath) ++ batch.pairs.map (·.rawPath)

theorem stagedBatch_paths (pairs : List Pair) (path stageDir : PurePath) :
    (FolderState.stagedBatch pairs path stageDir).paths =
      (pairs.map (·.exportPath) ++ pairs.map (·.rawPath)).map fun path =>
        stageDir.slash path.name := by
  simp [FolderState.stagedBatch, FlushBatch.paths, FolderState.stagedPair, Function.comp_def]

section
variable [Interpreter]

/-- Where the batch that a native file ends is staged. -/
def stagePlace (path : PurePath) (index : String) : PurePath :=
  path.parent.slash (path.stem ++ marker ++ index)

/-- A batch is the pairs at new places, which all differ. -/
structure Staged (config : DeviceConfig) (path : PurePath) (pairs : List Pair)
    (batch : FlushBatch) :
    Prop where
  apart : batch.paths.Nodup
  nonempty : pairs ≠ []
  relocated : ∃ index : String, '/' ∉ index.toList ∧
    batch = FolderState.stagedBatch pairs path (stagePlace path index)
  isExport : ∀ pair ∈ pairs, config.isExport pair.exportPath = true ∧ pair.exportPath.name ≠ ""
  isNative : ∀ pair ∈ pairs, (config.isExport pair.rawPath = false ∧
    config.isNative pair.rawPath = true) ∧ pair.rawPath.name ≠ ""

/-- What a folder holds is apart, and so is what it has staged. -/
structure Apart (config : DeviceConfig) (parent : PurePath) (s : FolderState) (log : List Note) :
    Prop where
  exports : s.exports.Nodup
  natives : s.natives.Nodup
  isExport : ∀ path ∈ s.exports, config.isExport path = true ∧ InFolder parent path
  isNative : ∀ path ∈ s.natives, (config.isExport path = false ∧ config.isNative path = true) ∧
    InFolder parent path
  staged : ∀ path pairs batch, .flushed path pairs batch ∈ log → Staged config path pairs batch

namespace Apart

variable {config : DeviceConfig} {parent : PurePath} {s : FolderState} {log : List Note}
  {path : PurePath} {now : Seconds}

attribute [local simp] FolderState.exports FolderState.natives

theorem empty : Apart config parent {} [] := ⟨by simp, by simp, by simp, by simp, by simp⟩

omit [Interpreter] in
theorem exportTracked_iff : s.exportTracked path = true ↔ path ∈ s.exports := by
  simp only [FolderState.exportTracked, FolderState.exports, Bool.or_eq_true, List.mem_append,
    List.mem_map, List.any_eq_true, decide_eq_true_eq]
  cases s.sentinel <;> simp [or_comm, eq_comm]

omit [Interpreter] in
theorem rawTracked_iff : s.rawTracked path = true ↔ path ∈ s.natives := by
  simp [FolderState.rawTracked]

theorem takeExport (h : Apart config parent s log) (hexport : config.isExport path = true)
    (hin : InFolder parent path) (hnew : s.exportTracked path = false) :
    Apart config parent (s.takeExport path now).1 (log ++ (s.takeExport path now).2) := by
  have hfresh : path ∉ s.exports := by
    rw [← exportTracked_iff, hnew]
    simp
  cases hpending : s.pendingRaw with
  | cons pending rest =>
    rw [takeExport_pending hpending]
    refine ⟨?_, by simpa [hpending] using h.natives, ?_, by simpa [hpending] using h.isNative,
      by simpa using h.staged⟩
    · have hcons : (path :: s.exports).Nodup := List.nodup_cons.mpr ⟨hfresh, h.exports⟩
      simpa using List.nodup_middle.mpr hcons
    · intro other hother
      have hcases : other = path ∨ other ∈ s.exports := by
        simp only [FolderState.exports, List.map_append, List.map_cons, List.map_nil,
          List.mem_append, List.mem_singleton] at hother ⊢
        tauto
      rcases hcases with rfl | hmem
      · exact ⟨hexport, hin⟩
      · exact h.isExport other hmem
  | nil =>
    rw [takeExport_sentinel hpending]
    have hbucket : s.bucket.map (·.exportPath) <+: s.exports := List.prefix_append _ _
    refine ⟨?_, by simpa [hpending] using h.natives, ?_, by simpa [hpending] using h.isNative, ?_⟩
    · have hnodup : (s.bucket.map (·.exportPath)).Nodup := h.exports.sublist hbucket.sublist
      simpa using List.nodup_append.mpr ⟨hnodup, List.nodup_singleton path, by
        rintro other hother _ hpath rfl
        rw [List.mem_singleton] at hpath
        exact hfresh (hpath ▸ hbucket.subset hother)⟩
    · intro other hother
      have hcases : other = path ∨ other ∈ s.bucket.map (·.exportPath) := by
        simpa [or_comm] using hother
      rcases hcases with rfl | hmem
      · exact ⟨hexport, hin⟩
      · exact h.isExport other (hbucket.subset hmem)
    · cases s.sentinel <;> simpa using h.staged

theorem rememberNative (h : Apart config parent s log)
    (hnative : config.isExport path = false ∧ config.isNative path = true)
    (hin : InFolder parent path) (hnew : s.rawTracked path = false) :
    Apart config parent { s with pendingRaw := s.pendingRaw ++ [⟨path, now⟩] }
      (log ++ [.rememberedNative path]) := by
  have hfresh : path ∉ s.natives := by
    rw [← rawTracked_iff, hnew]
    simp
  refine ⟨h.exports, ?_, h.isExport, ?_, by simpa using h.staged⟩
  · have hnodup := h.natives.concat hfresh
    simpa using hnodup
  · intro other hother
    have hcases : other ∈ s.natives ∨ other = path := by simpa [or_assoc] using hother
    rcases hcases with hmem | rfl
    · exact h.isNative other hmem
    · exact ⟨hnative, hin⟩

theorem flush (h : Apart config parent s log)
    (hnative : config.isExport path = false ∧ config.isNative path = true)
    (hin : InFolder parent path) (hnew : s.rawTracked path = false) {sentinel : Sentinel}
    (hsentinel : s.sentinel = some sentinel) {stageDir : PurePath}
    (hstage : ∃ index : String, '/' ∉ index.toList ∧ stageDir = stagePlace path index) :
    Apart config parent {} (log ++ [.flushed path (s.batchPairs sentinel path now)
      (FolderState.stagedBatch (s.batchPairs sentinel path now) path stageDir)]) := by
  have hexports : (s.batchPairs sentinel path now).map (·.exportPath) = s.exports := by
    simp [FolderState.batchPairs, hsentinel]
  have hraws : (s.batchPairs sentinel path now).map (·.rawPath) =
      s.bucket.map (·.rawPath) ++ [path] := by
    simp [FolderState.batchPairs]
  have hbucket : s.bucket.map (·.rawPath) <+: s.natives := List.prefix_append _ _
  have hfresh : path ∉ s.bucket.map (·.rawPath) := by
    intro hmem
    rw [rawTracked_iff.mpr (hbucket.subset hmem)] at hnew
    cases hnew
  have hraw : ∀ other ∈ s.bucket.map (·.rawPath) ++ [path],
      (config.isExport other = false ∧ config.isNative other = true) ∧ InFolder parent other := by
    intro other hother
    rcases List.mem_append.mp hother with hmem | hmem
    · exact h.isNative other (hbucket.subset hmem)
    · rw [List.mem_singleton.mp hmem]
      exact ⟨hnative, hin⟩
  have hpaths : (s.exports ++ (s.bucket.map (·.rawPath) ++ [path])).Nodup := by
    have hraws : (s.bucket.map (·.rawPath) ++ [path]).Nodup := by
      simpa using (h.natives.sublist hbucket.sublist).concat hfresh
    refine List.nodup_append.mpr ⟨h.exports, hraws, ?_⟩
    rintro other hexport _ hother rfl
    have hclass := (h.isExport other hexport).1
    rw [(hraw other hother).1.1] at hclass
    cases hclass
  have hbatch :
      (FolderState.stagedBatch (s.batchPairs sentinel path now) path stageDir).paths.Nodup := by
    rw [stagedBatch_paths, hexports, hraws]
    have hin : ∀ other ∈ s.exports ++ (s.bucket.map (·.rawPath) ++ [path]),
        InFolder parent other := by
      intro other hother
      rcases List.mem_append.mp hother with hmem | hmem
      · exact (h.isExport other hmem).2
      · exact (hraw other hmem).2
    exact slash_nodup stageDir hpaths hin
  refine ⟨by simp, by simp, by simp, by simp, fun path' pairs batch hnote => ?_⟩
  rcases List.mem_append.mp hnote with hmem | hmem
  · exact h.staged path' pairs batch hmem
  · cases List.mem_singleton.mp hmem
    obtain ⟨index, hindex, rfl⟩ := hstage
    refine ⟨hbatch, by simp [FolderState.batchPairs], ⟨index, hindex, rfl⟩, fun pair hpair => ?_,
      fun pair hpair => ?_⟩
    · have hmem : pair.exportPath ∈ s.exports := hexports ▸ List.mem_map_of_mem hpair
      exact ⟨(h.isExport _ hmem).1, (h.isExport _ hmem).2.2⟩
    · have hmem : pair.rawPath ∈ s.bucket.map (·.rawPath) ++ [path] :=
        hraws ▸ List.mem_map_of_mem hpair
      exact ⟨(hraw _ hmem).1, (hraw _ hmem).2.2⟩

theorem purge (h : Apart config parent s log) (ttl now : Seconds) :
    Apart config parent (s.purge ttl now).1 (log ++ (s.purge ttl now).2) := by
  have hexports : (s.purge ttl now).1.exports <+ s.exports := by
    simp only [FolderState.exports, FolderState.purge, Option.toList_filter]
    exact (List.filter_sublist.map _).append (List.filter_sublist.map _)
  have hnatives : (s.purge ttl now).1.natives <+ s.natives := by
    simp only [FolderState.natives, FolderState.purge]
    exact (List.filter_sublist.map _).append (List.filter_sublist.map _)
  refine ⟨h.exports.sublist hexports, h.natives.sublist hnatives,
    fun path hmem => h.isExport path (hexports.subset hmem),
    fun path hmem => h.isNative path (hnatives.subset hmem), fun path pairs batch hnote => ?_⟩
  rcases List.mem_append.mp hnote with hmem | hmem
  · exact h.staged path pairs batch hmem
  · simp [FolderState.purge] at hmem

theorem invariant (config : DeviceConfig) (parentOf : String → PurePath) :
    FolderInvariant config (Arrival.Placed parentOf) fun key => Apart config (parentOf key) where
  empty _ := empty
  takeExport _ _ _ h hok hexport hnew := h.takeExport hexport hok hnew
  rememberNative _ _ _ h hok hexport hnative hnew _ :=
    h.rememberNative ⟨hexport, hnative⟩ hok hnew
  flush _ _ _ _ _ h hok hexport hnative hnew hsentinel hstage :=
    h.flush ⟨hexport, hnative⟩ hok hnew hsentinel (createUniqueStageDir_ok hstage)
  purge _ _ _ ttl now h := h.purge ttl now

end Apart

/-- The files of a batch are moved to places that all differ. -/
theorem staged_apart (config : DeviceConfig) (parentOf : String → PurePath) (events : List Event)
    (hplaced : ∀ a, .arrived a ∈ events → a.Placed parentOf) {key : String} {path : PurePath}
    {pairs : List Pair} {batch : FlushBatch}
    (hflushed : .flushed path pairs batch ∈ (Processor.after config events).logOf key) :
    batch.paths.Nodup :=
  (((Apart.invariant config parentOf).holds events hplaced key).staged _ _ _ hflushed).apart

end

section
attribute [local instance] Interpreter.ascii

def sampleConfig : DeviceConfig := ⟨[".rdf"], [".csv"], 600⟩

/-- The folder has a staging directory of this name already. -/
def sampleDisk : StageDisk where
  present path := .ok (decide (path = PurePath.parse "/in/mus-ipat-a.__staged__1"))
  mkdir _ := .ok ()

def sampleArrival (name : String) (created : Seconds) : Arrival where
  path := PurePath.parse ("/in/" ++ name)
  present := true
  folderKey := "/in"
  created
  disk := sampleDisk
  now := created
  abandoned := []

/-- A native that waits for its export, and an export that the native after it ends the batch of. -/
def sampleEvents : List Event :=
  [.arrived (sampleArrival "mus-ipat-b.rdf" 1), .arrived (sampleArrival "mus-ipat-b.csv" 2),
    .arrived (sampleArrival "mus-ipat-a.csv" 3), .arrived (sampleArrival "mus-ipat-a.rdf" 4)]

def samplePairs : List Pair :=
  [⟨PurePath.parse "/in/mus-ipat-b.csv", PurePath.parse "/in/mus-ipat-b.rdf", 2⟩,
    ⟨PurePath.parse "/in/mus-ipat-a.csv", PurePath.parse "/in/mus-ipat-a.rdf", 4⟩]

def sampleNative : PurePath := PurePath.parse "/in/mus-ipat-a.rdf"

def sampleBatch : FlushBatch :=
  FolderState.stagedBatch samplePairs sampleNative (PurePath.parse "/in/mus-ipat-a.__staged__2")

theorem sampleEvents_placed :
    ∀ a, .arrived a ∈ sampleEvents → a.Placed fun _ => PurePath.parse "/in" := by
  simp only [sampleEvents, List.mem_cons, Event.arrived.injEq, List.not_mem_nil, or_false,
    forall_eq_or_imp, forall_eq]
  exact ⟨by decide, by decide, by decide, by decide⟩

theorem sampleBatch_flushed : .flushed sampleNative samplePairs sampleBatch ∈
    (Processor.after sampleConfig sampleEvents).logOf "/in" := by
  decide +kernel

theorem staged_apart_two : sampleBatch.paths.Nodup :=
  staged_apart sampleConfig (fun _ => PurePath.parse "/in") sampleEvents sampleEvents_placed
    sampleBatch_flushed

end

end DpostV2.Watchdog.Kinexus
