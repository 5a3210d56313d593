import DpostV2.Watchdog.Kinexus.Processor

/-!
# What holds of every folder

A processor keeps its folders apart, so that what the steps of one folder keep holds of every
folder after every run (`FolderInvariant.holds`).
-/

namespace DpostV2.Watchdog.Kinexus

theorem eq_of_isIdle {s : FolderState} (h : s.isIdle = true) : s = {} := by
  obtain ⟨pendingRaw, bucket, sentinel⟩ := s
  simpa [FolderState.isIdle, and_assoc] using h

namespace Processor

theorem folder_put (p : Processor) (key other : String) (result : FolderState × List Note) :
    (p.put key result).folder other = if other = key then result.1 else p.folder other := by
  by_cases heq : other = key <;> simp [folder, put, Assoc.get?_set, heq]

theorem logOf_put (p : Processor) (key other : String) (result : FolderState × List Note) :
    (p.put key result).logOf other =
      if other = key then p.logOf other ++ result.2 else p.logOf other := by
  by_cases heq : other = key
  · simp [logOf, put, heq, List.filter_map, Function.comp_def]
  · simp [logOf, put, heq, Ne.symm heq, List.filter_map, Function.comp_def]

theorem folder_setdefault (p : Processor) (key other : String) :
    (p.setdefault key).folder other = p.folder other := by
  unfold setdefault
  cases hget : p.state.get? key with
  | some s => rfl
  | none =>
    by_cases heq : other = key <;> simp [folder, Assoc.get?_set, heq, hget]

theorem logOf_setdefault (p : Processor) (key other : String) :
    (p.setdefault key).logOf other = p.logOf other := by
  unfold setdefault
  cases p.state.get? key <;> rfl

theorem folder_cleanupState (p : Processor) (key other : String) :
    (p.cleanupState key).folder other = p.folder other := by
  unfold cleanupState
  cases hget : p.state.get? key with
  | none => rfl
  | some s =>
    by_cases hidle : s.isIdle = true
    · by_cases heq : other = key
      · obtain rfl := eq_of_isIdle hidle
        simp [folder, Assoc.get?_erase, heq, hget, FolderState.isIdle]
      · simp [folder, Assoc.get?_erase, heq, hidle]
    · simp [hidle]

theorem logOf_cleanupState (p : Processor) (key other : String) :
    (p.cleanupState key).logOf other = p.logOf other := by
  unfold cleanupState
  split <;> rfl

end Processor

/-- What the steps of a folder keep of its state and its log, when each arrival is as it should. -/
structure FolderInvariant [Interpreter] (config : DeviceConfig) (ok : Arrival → Prop)
    (I : String → FolderState → List Note → Prop) : Prop where
  empty : ∀ key, I key {} []
  takeExport : ∀ s log (a : Arrival), I a.folderKey s log → ok a → config.isExport a.path = true →
    s.exportTracked a.path = false →
    I a.folderKey (s.takeExport a.path a.created).1 (log ++ (s.takeExport a.path a.created).2)
  rememberNative : ∀ s log (a : Arrival), I a.folderKey s log → ok a →
    config.isExport a.path = false → config.isNative a.path = true → s.rawTracked a.path = false →
    s.sentinel = none →
    I a.folderKey { s with pendingRaw := s.pendingRaw ++ [⟨a.path, a.created⟩] }
      (log ++ [.rememberedNative a.path])
  flush : ∀ s log (a : Arrival) sentinel stageDir, I a.folderKey s log → ok a →
    config.isExport a.path = false → config.isNative a.path = true → s.rawTracked a.path = false →
    s.sentinel = some sentinel → a.stageDir = .ok stageDir →
    I a.folderKey {} (log ++ [.flushed a.path (s.batchPairs sentinel a.path a.created)
      (FolderState.stagedBatch (s.batchPairs sentinel a.path a.created) a.path stageDir)])
  purge : ∀ key s log ttl now, I key s log → I key (s.purge ttl now).1 (log ++ (s.purge ttl now).2)

namespace FolderInvariant

variable [Interpreter] {config : DeviceConfig} {ok : Arrival → Prop}
  {I : String → FolderState → List Note → Prop} {p : Processor} {a : Arrival}

/-- Of every folder of a processor. -/
def Holds (I : String → FolderState → List Note → Prop) (p : Processor) : Prop :=
  ∀ key, I key (p.folder key) (p.logOf key)

omit [Interpreter] in
theorem Holds.of_eq {q : Processor} (h : Holds I p) (hfolder : ∀ key, q.folder key = p.folder key)
    (hlog : ∀ key, q.logOf key = p.logOf key) : Holds I q := by
  intro key
  rw [hfolder, hlog]
  exact h key

omit [Interpreter] in
theorem Holds.put (h : Holds I p) {key : String} {s : FolderState} {notes : List Note}
    (hs : I key s (p.logOf key ++ notes)) : Holds I (p.put key (s, notes)) := by
  intro other
  rw [Processor.folder_put, Processor.logOf_put]
  by_cases heq : other = key
  · subst heq
    simpa using hs
  · simpa [heq] using h other

omit [Interpreter] in
theorem Holds.setdefault (h : Holds I p) (key : String) : Holds I (p.setdefault key) :=
  h.of_eq (Processor.folder_setdefault p key) (Processor.logOf_setdefault p key)

omit [Interpreter] in
theorem Holds.cleanupState (h : Holds I p) (key : String) : Holds I (p.cleanupState key) :=
  h.of_eq (Processor.folder_cleanupState p key) (Processor.logOf_cleanupState p key)

variable (hI : FolderInvariant config ok I)

include hI

theorem handleExport (h : Holds I p) (hok : ok a) (hexport : config.isExport a.path = true) :
    Holds I (p.handleExport a) := by
  unfold Processor.handleExport
  split
  · exact h
  · split
    · exact h
    · rename_i htracked
      exact h.put (hI.takeExport _ _ a (h a.folderKey) hok hexport (by simpa using htracked))

theorem handleNative (h : Holds I p) (hok : ok a) (hexport : config.isExport a.path = false)
    (hnative : config.isNative a.path = true) : Holds I (p.handleNative a).2 := by
  unfold Processor.handleNative
  split
  · exact h
  · rename_i htracked
    rw [Bool.not_eq_true] at htracked
    cases hsentinel : (p.folder a.folderKey).sentinel with
    | none =>
      exact h.put
        (hI.rememberNative _ _ a (h a.folderKey) hok hexport hnative htracked hsentinel)
    | some sentinel =>
      cases hstage : a.stageDir with
      | error e => exact h
      | ok stageDir =>
        have hput := h.put (hI.flush _ _ a sentinel stageDir (h a.folderKey) hok hexport hnative
          htracked hsentinel hstage)
        refine Holds.cleanupState (p := Processor.mk _ _ _ _) ?_ a.folderKey
        exact hput.of_eq (fun _ => rfl) fun _ => rfl

theorem purgeFolder (h : Holds I p) (ttl now : Seconds) (key : String) :
    Holds I (p.purgeFolder ttl now key) := by
  unfold Processor.purgeFolder
  cases hget : p.state.get? key with
  | none => exact h
  | some s =>
    have hs : p.folder key = s := by simp [Processor.folder, hget]
    exact (h.put (hs ▸ hI.purge key _ _ ttl now (h key))).cleanupState key

theorem purgeStale (h : Holds I p) (ttl now : Seconds) (abandoned : List PurePath) :
    Holds I (p.purgeStale ttl now abandoned) := by
  have hfolders : ∀ keys : List String, ∀ p : Processor, Holds I p →
      Holds I (keys.foldl (fun p key => p.purgeFolder ttl now key) p) := by
    intro keys
    induction keys with
    | nil => exact fun _ h => h
    | cons key keys ih => exact fun p h => ih _ (hI.purgeFolder h ttl now key)
  exact (hfolders p.state.keys p h).of_eq (fun _ => rfl) fun _ => rfl

theorem preprocess (h : Holds I p) (hok : ok a) : Holds I (p.preprocess config a).2 := by
  unfold Processor.preprocess
  have hset := h.setdefault a.folderKey
  cases p.rawToStage.get? a.path with
  | some stageDir => exact h
  | none =>
    dsimp only
    split
    · exact h
    · split
      · rename_i hexport
        exact hI.purgeStale (hI.handleExport hset hok hexport) _ _ _
      · rename_i hexport
        rw [Bool.not_eq_true] at hexport
        split
        · rename_i hnative
          have hnative := hI.handleNative hset hok hexport hnative
          rcases hrun : (p.setdefault a.folderKey).handleNative a with ⟨_ | result, q⟩
          · rw [hrun] at hnative
            exact hnative
          · rw [hrun] at hnative
            exact hI.purgeStale hnative _ _ _
        · exact hI.purgeStale hset _ _ _

theorem run (h : Holds I p) {e : Event} (hok : ∀ a, e = .arrived a → ok a) :
    Holds I (e.run config p) := by
  cases e with
  | arrived a => exact hI.preprocess h (hok a rfl)
  | processed src isDir completed =>
    unfold Event.run
    dsimp only
    split <;> exact h.of_eq (fun _ => rfl) fun _ => rfl

theorem holds (events : List Event) (hok : ∀ a, .arrived a ∈ events → ok a) (key : String) :
    I key ((Processor.after config events).folder key)
      ((Processor.after config events).logOf key) := by
  suffices h : ∀ p : Processor, Holds I p → Holds I (events.foldl (Event.run config) p) from
    h {} hI.empty key
  intro p h
  induction events generalizing p with
  | nil => exact h
  | cons e events ih =>
    refine ih (fun a ha => hok a (List.mem_cons_of_mem _ ha)) _ (hI.run h fun a ha => ?_)
    exact hok a (ha ▸ List.mem_cons_self)

end FolderInvariant

end DpostV2.Watchdog.Kinexus
