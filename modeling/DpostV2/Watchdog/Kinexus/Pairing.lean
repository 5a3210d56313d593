import DpostV2.Lib.Splits
import DpostV2.Watchdog.Kinexus.Invariants

/-!
# Exports and natives are paired in order

Whatever comes and in whatever order, with flushes that fail, purges and restarts of the
processing of a batch in between: of the exports and of the natives that a folder has taken some
are dropped, and the pairs that are staged or in the bucket join those that are kept, the first
with the first and so on; what has no partner yet still waits (`paired_in_order`).
-/

namespace DpostV2.Watchdog.Kinexus

def Note.takenExports : Note → List PurePath
  | .paired exportPath _ => [exportPath]
  | .rememberedExport path => [path]
  | _ => []

def Note.takenNatives : Note → List PurePath
  | .rememberedNative path => [path]
  | .flushed path _ _ => [path]
  | _ => []

def Note.lostExports : Note → List PurePath
  | .droppedExport path => [path]
  | _ => []

def Note.lostNatives : Note → List PurePath
  | .droppedNative path => [path]
  | _ => []

/-- The pairs that were staged, as they were before. -/
def Note.stagedPairs : Note → List Pair
  | .flushed _ pairs _ => pairs
  | _ => []

namespace FolderState

def exports (s : FolderState) : List PurePath :=
  s.bucket.map (·.exportPath) ++ s.sentinel.toList.map (·.exportPath)

def natives (s : FolderState) : List PurePath :=
  s.bucket.map (·.rawPath) ++ s.pendingRaw.map (·.path)

end FolderState

/-- Where the files of a folder are. -/
structure Accounted (s : FolderState) (log : List Note) : Prop where
  oneSided : s.sentinel = none ∨ s.pendingRaw = []
  exports : Splits (log.flatMap Note.takenExports)
    ((log.flatMap Note.stagedPairs).map (·.exportPath) ++ s.exports)
    (log.flatMap Note.lostExports)
  natives : Splits (log.flatMap Note.takenNatives)
    ((log.flatMap Note.stagedPairs).map (·.rawPath) ++ s.natives) (log.flatMap Note.lostNatives)

attribute [local simp] Note.takenExports Note.takenNatives Note.lostExports Note.lostNatives
  Note.stagedPairs FolderState.exports FolderState.natives

-- ---------------------------------------------------------------------------
-- Steps of a folder
-- ---------------------------------------------------------------------------

section
variable {s : FolderState} {path : PurePath} {now : Seconds}

theorem takeExport_pending {pending : PendingRaw} {rest : List PendingRaw}
    (h : s.pendingRaw = pending :: rest) : s.takeExport path now =
      ({ s with pendingRaw := rest, bucket := s.bucket ++ [⟨path, pending.path, now⟩] },
        [.paired path pending.path]) := by
  simp [FolderState.takeExport, h]

theorem takeExport_sentinel (h : s.pendingRaw = []) : s.takeExport path now =
      ({ s with sentinel := some ⟨path, path.stem, now⟩ },
        s.sentinel.toList.map (fun sentinel => .droppedExport sentinel.exportPath) ++
          [.rememberedExport path]) := by
  simp [FolderState.takeExport, h]

end

theorem flatMap_empty {α β : Type} (xs : List α) : (xs.flatMap fun _ => ([] : List β)) = [] :=
  List.flatMap_eq_nil_iff.mpr fun _ _ => rfl

namespace Accounted

variable {s : FolderState} {log : List Note}

theorem empty : Accounted {} [] := ⟨.inl rfl, .nil, .nil⟩

theorem takeExport (h : Accounted s log) (path : PurePath) (now : Seconds) :
    Accounted (s.takeExport path now).1 (log ++ (s.takeExport path now).2) := by
  cases hpending : s.pendingRaw with
  | cons pending rest =>
    have hsentinel : s.sentinel = none := by simpa [hpending] using h.oneSided
    rw [takeExport_pending hpending]
    refine ⟨.inl hsentinel, ?_, ?_⟩
    · simpa [hsentinel] using h.exports.keep path
    · simpa [hpending] using h.natives
  | nil =>
    -- the sentinel that was there is dropped
    have hless : Splits ((log.flatMap Note.stagedPairs).map (·.exportPath) ++ s.exports)
        ((log.flatMap Note.stagedPairs).map (·.exportPath) ++ s.bucket.map (·.exportPath))
        (s.sentinel.toList.map (·.exportPath)) := by
      simpa using (Splits.refl ((log.flatMap Note.stagedPairs).map (·.exportPath) ++
        s.bucket.map (·.exportPath))).append (.all (s.sentinel.toList.map (·.exportPath)))
    rw [takeExport_sentinel hpending]
    refine ⟨.inr hpending, ?_, ?_⟩
    · cases hsentinel : s.sentinel <;> simpa [hsentinel] using (h.exports.drop hless).keep path
    · cases hsentinel : s.sentinel <;> simpa [hpending] using h.natives

theorem rememberNative (h : Accounted s log) (hsentinel : s.sentinel = none) (path : PurePath)
    (now : Seconds) :
    Accounted { s with pendingRaw := s.pendingRaw ++ [⟨path, now⟩] }
      (log ++ [.rememberedNative path]) := by
  refine ⟨.inl hsentinel, ?_, ?_⟩
  · simpa using h.exports
  · simpa using h.natives.keep path

theorem flush (h : Accounted s log) {sentinel : Sentinel} (hsentinel : s.sentinel = some sentinel)
    (path : PurePath) (now : Seconds) (batch : FlushBatch) :
    Accounted {} (log ++ [.flushed path (s.batchPairs sentinel path now) batch]) := by
  have hpending : s.pendingRaw = [] := by simpa [hsentinel] using h.oneSided
  refine ⟨.inl rfl, ?_, ?_⟩
  · simpa [FolderState.batchPairs, hsentinel] using h.exports
  · simpa [FolderState.batchPairs, hpending] using h.natives.keep path

theorem purge (h : Accounted s log) (ttl now : Seconds) :
    Accounted (s.purge ttl now).1 (log ++ (s.purge ttl now).2) := by
  have hbucket : Splits s.bucket (s.bucket.filter fun pair => !decide (now - pair.created > ttl))
      (s.bucket.filter fun pair => decide (now - pair.created > ttl)) := .filter _ _
  have hpending : Splits s.pendingRaw
      (s.pendingRaw.filter fun pending => !decide (now - pending.created > ttl))
      (s.pendingRaw.filter fun pending => decide (now - pending.created > ttl)) := .filter _ _
  have hsentinel : Splits s.sentinel.toList
      (s.sentinel.filter fun sentinel => !decide (now - sentinel.created > ttl)).toList
      (s.sentinel.filter fun sentinel => decide (now - sentinel.created > ttl)).toList := by
    simpa only [Option.toList_filter] using Splits.filter _ _
  refine ⟨?_, ?_, ?_⟩
  · rcases h.oneSided with hnone | hnil
    · simp [FolderState.purge, hnone]
    · simp [FolderState.purge, hnil]
  · have hless := (Splits.refl ((log.flatMap Note.stagedPairs).map (·.exportPath))).append
      ((hbucket.map (·.exportPath)).append (hsentinel.map (·.exportPath)))
    simpa [FolderState.purge, List.flatMap_map, List.flatMap_assoc, flatMap_empty,
      ← List.map_eq_flatMap] using h.exports.drop hless
  · have hless := (Splits.refl ((log.flatMap Note.stagedPairs).map (·.rawPath))).append
      ((hbucket.map (·.rawPath)).append (hpending.map (·.path)))
    have hkept := h.natives.drop (hless.perm (List.perm_append_comm.append_left []))
    simpa [FolderState.purge, List.flatMap_map, List.flatMap_assoc, flatMap_empty,
      ← List.map_eq_flatMap] using hkept

/-- In every run, of every folder. -/
theorem invariant [Interpreter] (config : DeviceConfig) :
    FolderInvariant config (fun _ => True) fun _ => Accounted where
  empty _ := empty
  takeExport _ _ a h _ _ _ := h.takeExport a.path a.created
  rememberNative _ _ a h _ _ _ _ hsentinel := h.rememberNative hsentinel a.path a.created
  flush _ _ a _ _ h _ _ _ _ hsentinel _ := h.flush hsentinel a.path a.created _
  purge _ _ _ ttl now h := h.purge ttl now

end Accounted

/-- What is left over on one side only joins nothing. -/
theorem zip_leftover {α β γ : Type} (f : γ → α) (g : γ → β) (zs : List γ) {xs : List α}
    {ys : List β} (h : xs = [] ∨ ys = []) :
    (zs.map f ++ xs).zip (zs.map g ++ ys) = zs.map fun z => (f z, g z) := by
  induction zs with
  | nil => rcases h with rfl | rfl <;> simp
  | cons z zs ih => simpa using ih

/-- Of the exports and natives that a folder has taken some are dropped; the pairs join those that
are kept in the order in which they came, and files on one side only still wait. -/
theorem paired_in_order [Interpreter] (config : DeviceConfig) (events : List Event) (key : String) :
    let p := Processor.after config events
    let log := p.logOf key
    let pairs := log.flatMap Note.stagedPairs ++ (p.folder key).bucket
    ∃ exports natives,
      Splits (log.flatMap Note.takenExports) exports (log.flatMap Note.lostExports) ∧
      Splits (log.flatMap Note.takenNatives) natives (log.flatMap Note.lostNatives) ∧
      pairs.map (fun pair => (pair.exportPath, pair.rawPath)) = exports.zip natives ∧
      exports.drop pairs.length = (p.folder key).sentinel.toList.map (·.exportPath) ∧
      natives.drop pairs.length = (p.folder key).pendingRaw.map (·.path) ∧
      ((p.folder key).sentinel = none ∨ (p.folder key).pendingRaw = []) := by
  intro p log pairs
  have haccounted : Accounted (p.folder key) log :=
    (Accounted.invariant config).holds events (fun _ _ => trivial) key
  obtain ⟨honeSided, hexports, hnatives⟩ := haccounted
  have hexports' : (log.flatMap Note.stagedPairs).map (·.exportPath) ++ (p.folder key).exports =
      pairs.map (·.exportPath) ++ (p.folder key).sentinel.toList.map (·.exportPath) := by
    simp [pairs]
  have hnatives' : (log.flatMap Note.stagedPairs).map (·.rawPath) ++ (p.folder key).natives =
      pairs.map (·.rawPath) ++ (p.folder key).pendingRaw.map (·.path) := by
    simp [pairs]
  refine ⟨_, _, hexports' ▸ hexports, hnatives' ▸ hnatives, ?_, ?_, ?_, honeSided⟩
  · refine (zip_leftover _ _ pairs ?_).symm
    exact honeSided.imp (fun hnone => by simp [hnone]) fun hnil => by simp [hnil]
  · simp
  · simp

end DpostV2.Watchdog.Kinexus
