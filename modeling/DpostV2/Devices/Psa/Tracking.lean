import DpostV2.Devices.Psa.Steps
import Mathlib.Data.List.Flatten
import Mathlib.Data.List.Perm.Subperm

/-!
# What waits in a folder

`tracked_files_kept`: a prepared file that stays in its place, and is not too old, stays in
the state of its folder, as long as no CSV comes while the folder has a sentinel and no
pair that waits loses one of its files.
-/

namespace DpostV2.Devices.Psa

/-- The files a folder waits with, and since when. -/
def FolderState.waiting (folder : FolderState) : List (PurePath × Seconds) :=
  folder.pendingNgb.map (fun pending => (pending.path, pending.createdAt)) ++
    folder.bucket.flatMap (fun pair =>
      [(pair.csvPath, pair.createdAt), (pair.ngbPath, pair.createdAt)]) ++
    (folder.sentinel.map fun sentinel => (sentinel.csvPath, sentinel.createdAt)).toList

def FolderState.tracked (folder : FolderState) : List PurePath := folder.waiting.map Prod.fst

section
variable [Interpreter] {setup : Setup} {s s' : PsaWorld} {path : PurePath} {now : Seconds}
  {sourcePath : String} {key : FsPath}

-- ---------------------------------------------------------------------------
-- Calls and what is tracked
-- ---------------------------------------------------------------------------

theorem purged_waiting {folder : FolderState} {fs : Fs} :
    (folder.purged setup now fs).waiting.Sublist folder.waiting := by
  refine .append (.append ?_ ?_) ?_
  · exact List.filter_sublist.map _
  · exact List.filter_sublist.flatMap _
  · cases hs : folder.sentinel with
    | none => simp [FolderState.purged, hs]
    | some sentinel =>
      simp only [FolderState.purged, hs, Option.filter_some]
      split <;> simp

theorem purged_tracked {folder : FolderState} {fs : Fs} :
    (folder.purged setup now fs).tracked.Sublist folder.tracked :=
  purged_waiting.map _

/-- A file that is taken up is added to what its folder tracks, at most. -/
theorem Filed.tracked_subperm (h : Filed setup now s sourcePath path s') :
    (s'.state.folders (setup.machine.at path.parent)).tracked.Subperm
      (path :: (folderOf setup now s path).tracked) := by
  refine List.subperm_ext_iff.mpr fun file _ => ?_
  cases h with
  | bucketed pending rest waiting state _ =>
    simp only [state, ProcessorState.setFolder, Function.update_self, FolderState.tracked,
      FolderState.waiting, waiting]
    simp [List.count_cons, List.flatMap_append]
    omega
  | sentinel namePrefix _ alone state _ =>
    simp only [state, ProcessorState.setFolder, Function.update_self, FolderState.tracked,
      FolderState.waiting, alone]
    simp [List.count_cons]
  | pending alone state _ =>
    simp only [state, ProcessorState.setFolder, Function.update_self, FolderState.tracked,
      FolderState.waiting, alone]
    simp [List.count_cons]
    omega
  | staged sentinel stageDir s₁ s₂ pairs _ waiting candidate created relocated state _ _ =>
    simp [state, FolderState.tracked, FolderState.waiting]

-- ---------------------------------------------------------------------------
-- Runs
-- ---------------------------------------------------------------------------

/-- What holds of every event of a run, at the state it comes to. -/
def Along (setup : Setup) (P : PsaWorld → Event → Prop) (s : PsaWorld)
    (events : List Event) : Prop :=
  ∀ before event after, events = before ++ event :: after → P (playAll setup s before) event

theorem Along.nil {setup : Setup} {P : PsaWorld → Event → Prop} {s : PsaWorld} :
    Along setup P s [] := fun before event after heq => by simp at heq

theorem Along.cons {setup : Setup} {P : PsaWorld → Event → Prop} {s : PsaWorld} {event : Event}
    {events : List Event} (h : P s event) (hrest : Along setup P (play setup s event) events) :
    Along setup P s (event :: events) := by
  rintro (_ | ⟨first, before⟩) event' after heq
  · obtain ⟨rfl, -⟩ := List.cons.inj heq
    exact h
  · obtain ⟨rfl, htail⟩ := List.cons.inj heq
    exact hrest before event' after htail

/-- The folders with a sentinel wait for no CSV, what they track are entries of their own, and
only what has been delivered leads to a stage directory. -/
structure Orderly (setup : Setup) (past : List PurePath) (state : ProcessorState) : Prop where
  alone : ∀ key, (state.folders key).sentinel ≠ none → (state.folders key).pendingNgb = []
  entries : ∀ key, ∀ path ∈ (state.folders key).tracked,
    path.NamesEntry ∧ setup.machine.at path.parent = key
  mapped : ∀ sourcePath stageDir, state.ngbToStage sourcePath = some stageDir →
    PurePath.parse sourcePath ∈ past

omit [Interpreter] in
theorem Orderly.mono {past past' : List PurePath} {state : ProcessorState}
    (h : Orderly setup past state) (hpast : past ⊆ past') : Orderly setup past' state :=
  ⟨h.alone, h.entries, fun sourcePath stageDir hs => hpast (h.mapped sourcePath stageDir hs)⟩

theorem Orderly.purged {past : List PurePath} (h : Orderly setup past s.state) :
    Orderly setup past (purgedState setup now s) := by
  refine ⟨?_, ?_, ?_⟩
  · intro key hsentinel
    have hpending := h.alone key fun hnone => hsentinel (by simp [purgedState,
      ProcessorState.purged, FolderState.purged, hnone])
    simp [purgedState, ProcessorState.purged, FolderState.purged, hpending]
  · exact fun key path hpath => h.entries key path (purged_tracked.subset hpath)
  · intro sourcePath stageDir hs
    exact h.mapped sourcePath stageDir (Option.filter_eq_some_iff.mp hs).1

theorem Orderly.filed {past : List PurePath} (h : Orderly setup past (purgedState setup now s))
    (hfiled : Filed setup now s sourcePath path s') (hentry : path.NamesEntry)
    (hmem : path ∈ past) :
    Orderly setup past s'.state := by
  refine ⟨?_, ?_, ?_⟩
  · intro key hsentinel
    by_cases hkey : key = setup.machine.at path.parent
    · subst hkey
      cases hfiled with
      | bucketed pending rest waiting state _ =>
        have hpending := h.alone _
          (by simpa [state, ProcessorState.setFolder, folderOf] using hsentinel)
        exact absurd (waiting.symm.trans hpending) (by simp)
      | sentinel namePrefix _ alone state _ => simpa [state, ProcessorState.setFolder] using alone
      | pending alone state _ =>
        simp [state, ProcessorState.setFolder, alone] at hsentinel
      | staged sentinel stageDir s₁ s₂ pairs _ _ _ _ _ state _ _ =>
        simp [state]
    · rw [hfiled.others hkey] at hsentinel ⊢
      exact h.alone key hsentinel
  · intro key file hfile
    by_cases hkey : key = setup.machine.at path.parent
    · subst hkey
      rcases List.mem_cons.mp (hfiled.tracked_subperm.subset hfile) with rfl | hold
      · exact ⟨hentry, rfl⟩
      · exact h.entries _ file hold
    · rw [hfiled.others hkey] at hfile
      exact h.entries key file hfile
  · intro text stageDir hs
    cases hfiled with
    | bucketed _ _ _ state _ =>
      rw [state] at hs
      exact h.mapped text stageDir hs
    | sentinel _ _ _ state _ =>
      rw [state] at hs
      exact h.mapped text stageDir hs
    | pending _ state _ =>
      rw [state] at hs
      exact h.mapped text stageDir hs
    | staged _ _ _ _ _ _ _ _ _ _ state _ _ =>
      rw [state] at hs
      by_cases htext : text = path.str
      · rw [htext, PurePath.parse_str]
        exact hmem
      · exact h.mapped text stageDir ((Function.update_of_ne htext ..).symm.trans hs)

-- ---------------------------------------------------------------------------
-- A file in its place
-- ---------------------------------------------------------------------------

/-- The folder waits with the file, as of a time or later. -/
def FolderState.Tracks (folder : FolderState) (path : PurePath) (t : Seconds) : Prop :=
  ∃ since, t ≤ since ∧ (path, since) ∈ folder.waiting

def isFileAt (setup : Setup) (s : PsaWorld) (path : PurePath) : Prop :=
  s.world.fs.isFile (setup.machine.at path) = true

instance (s : PsaWorld) (path : PurePath) : Decidable (isFileAt setup s path) :=
  inferInstanceAs (Decidable (_ = true))

omit [Interpreter] in
theorem mem_waiting {folder : FolderState} {since : Seconds} :
    (path, since) ∈ folder.waiting ↔
      (∃ pending ∈ folder.pendingNgb, pending.path = path ∧ pending.createdAt = since) ∨
      (∃ pair ∈ folder.bucket, (pair.csvPath = path ∨ pair.ngbPath = path) ∧
        pair.createdAt = since) ∨
      ∃ sentinel, folder.sentinel = some sentinel ∧ sentinel.csvPath = path ∧
        sentinel.createdAt = since := by
  simp [FolderState.waiting]
  grind

omit [Interpreter] in
theorem FolderState.Tracks.tracked {folder : FolderState} {t : Seconds} (h : folder.Tracks path t) :
    path ∈ folder.tracked := by
  obtain ⟨since, -, h⟩ := h
  exact List.mem_map_of_mem h

omit [Interpreter] in
theorem isFileAt.present (h : isFileAt setup s path) : isPresent setup s.world.fs path = true := by
  obtain ⟨content, hcontent⟩ := Fs.isFile_iff.mp h
  simp [isPresent, Fs.present, hcontent]

/-- No pair that is not too old has lost one of its files only. -/
def PairsWhole (setup : Setup) (now : Seconds) (s : PsaWorld) : Prop :=
  ∀ key, ∀ pair ∈ (s.state.folders key).bucket, fresh setup now pair.createdAt = true →
    (isPresent setup s.world.fs pair.csvPath = true ↔
      isPresent setup s.world.fs pair.ngbPath = true)

theorem Tracks.purged {t : Seconds} (h : (s.state.folders key).Tracks path t)
    (hfresh : fresh setup now t = true) (hfile : isFileAt setup s path)
    (hpairs : PairsWhole setup now s) : ((purgedState setup now s).folders key).Tracks path t := by
  obtain ⟨since, ht, hmem⟩ := h
  refine ⟨since, ht, ?_⟩
  have hyoung : fresh setup now since = true := by
    simp only [fresh, decide_eq_true_eq] at hfresh ⊢
    linarith
  have hpresent := hfile.present
  rcases mem_waiting.mp hmem with ⟨pending, hpending, rfl, rfl⟩ | ⟨pair, hpair, hpath, rfl⟩ |
    ⟨sentinel, hsentinel, rfl, rfl⟩
  · exact mem_waiting.mpr
      (.inl ⟨pending, List.mem_filter.mpr ⟨hpending, by simp [hyoung, hpresent]⟩, rfl, rfl⟩)
  · have hwhole := hpairs key pair hpair hyoung
    have hboth : isPresent setup s.world.fs pair.csvPath = true ∧
        isPresent setup s.world.fs pair.ngbPath = true := by
      rcases hpath with rfl | rfl
      · exact ⟨hpresent, hwhole.mp hpresent⟩
      · exact ⟨hwhole.mpr hpresent, hpresent⟩
    exact mem_waiting.mpr (.inr (.inl ⟨pair, List.mem_filter.mpr ⟨hpair, by simp [hyoung, hboth]⟩,
      hpath, rfl⟩))
  · refine mem_waiting.mpr (.inr (.inr ⟨sentinel, ?_, rfl, rfl⟩))
    simp [purgedState, ProcessorState.purged, FolderState.purged, hsentinel, hyoung, hpresent]

/-- A batch that has been staged is in its places no more. -/
theorem staged_gone {sentinel : Sentinel} {stageDir file : PurePath} {s₁ s₂ : PsaWorld}
    {pairs : List Pair} {folder : FolderState}
    (hsentinel : folder.sentinel = some sentinel)
    (hentries : ∀ file ∈ folder.tracked, file.NamesEntry) (hpath : path.NamesEntry)
    (hcreated : StageCreated setup { s with state := purgedState setup now s } stageDir s₁)
    (hrun : (relocatePairs setup stageDir (folder.bucket ++
      [⟨sentinel.csvPath, path, now⟩])).run s₁ = (.ok pairs, s₂))
    (hfile : isFileAt setup s file)
    (hmem : file = path ∨ ∃ since, (file, since) ∈ folder.waiting ∧ folder.pendingNgb = []) :
    ¬isFileAt setup s₂ file := by
  obtain ⟨content, hcontent⟩ := Fs.isFile_iff.mp hfile
  have hvacant : s.world.fs.node (setup.machine.at stageDir) = none := hcreated.vacant
  have hoff : ¬setup.machine.at stageDir <+: setup.machine.at file := by
    refine Fs.not_prefix_of_present (by rw [hvacant]; nofun) hcontent ?_
    intro heq
    rw [← heq, hvacant] at hcontent
    cases hcontent
  have htracked : ∀ pair ∈ folder.bucket, pair.csvPath ∈ folder.tracked ∧
      pair.ngbPath ∈ folder.tracked := fun pair hpair =>
    ⟨List.mem_map_of_mem (mem_waiting.mpr (.inr (.inl ⟨pair, hpair, .inl rfl, rfl⟩))),
      List.mem_map_of_mem (mem_waiting.mpr (.inr (.inl ⟨pair, hpair, .inr rfl, rfl⟩)))⟩
  have hgone := (relocatePairs_gone setup s₁ stageDir
    (folder.bucket ++ [⟨sentinel.csvPath, path, now⟩]) (by
      intro pair hpair
      rcases List.mem_append.mp hpair with hpair | hpair
      · exact ⟨hentries _ (htracked pair hpair).1, hentries _ (htracked pair hpair).2⟩
      · cases List.mem_singleton.mp hpair
        exact ⟨hentries _ (List.mem_map_of_mem
          (mem_waiting.mpr (.inr (.inr ⟨sentinel, hsentinel, rfl, rfl⟩)))), hpath⟩)).ok hrun
  rw [isFileAt, Bool.not_eq_true]
  refine hgone _ hoff (.inr ?_)
  have hlast : (⟨sentinel.csvPath, path, now⟩ : Pair) ∈
      folder.bucket ++ [⟨sentinel.csvPath, path, now⟩] := by simp
  rcases hmem with rfl | ⟨since, hwaiting, halone⟩
  · exact ⟨_, hlast, .inr rfl⟩
  · rcases mem_waiting.mp hwaiting with ⟨pending, hpending, -⟩ | ⟨pair, hpair, hfile, -⟩ |
      ⟨sentinel', hsentinel', hfile, -⟩
    · simp [halone] at hpending
    · refine ⟨pair, List.mem_append_left _ hpair, ?_⟩
      rcases hfile with rfl | rfl
      · exact .inl rfl
      · exact .inr rfl
    · cases hsentinel.symm.trans hsentinel'
      exact ⟨_, hlast, .inl (by rw [hfile])⟩

/-- No CSV comes while a sentinel waits. -/
def Unreplaced (setup : Setup) (now : Seconds) (s : PsaWorld) (sourcePath : String) : Prop :=
  IsCsv sourcePath →
    (folderOf setup now s (PurePath.parse sourcePath)).sentinel = none

theorem Tracks.filed {past : List PurePath} {file : PurePath} {t : Seconds}
    (h : ((purgedState setup now s).folders key).Tracks file t)
    (horderly : Orderly setup past (purgedState setup now s))
    (hfiled : Filed setup now s sourcePath path s') (hpath : path.NamesEntry)
    (hsource : PurePath.parse sourcePath = path) (hcalm : Unreplaced setup now s sourcePath)
    (ht : t ≤ now) (hfile : isFileAt setup s file) (hstill : isFileAt setup s' file) :
    (s'.state.folders key).Tracks file t := by
  by_cases hkey : key = setup.machine.at path.parent
  · subst hkey
    change (folderOf setup now s path).Tracks file t at h
    obtain ⟨since, hsince, hmem⟩ := h
    cases hfiled with
    | bucketed pending rest waiting state _ =>
      simp only [state, ProcessorState.setFolder, Function.update_self]
      rcases mem_waiting.mp hmem with ⟨pending', hpending, hfile', htime⟩ | ⟨pair, hpair, hfile'⟩ |
        hsentinel
      · rw [waiting] at hpending
        rcases List.mem_cons.mp hpending with rfl | hpending
        · exact ⟨now, ht, mem_waiting.mpr
            (.inr (.inl ⟨⟨path, pending'.path, now⟩, by simp, .inr hfile', rfl⟩))⟩
        · exact ⟨since, hsince, mem_waiting.mpr (.inl ⟨pending', hpending, hfile', htime⟩)⟩
      · exact ⟨since, hsince, mem_waiting.mpr (.inr (.inl ⟨pair, by simp [hpair], hfile'⟩))⟩
      · exact ⟨since, hsince, mem_waiting.mpr (.inr (.inr hsentinel))⟩
    | sentinel namePrefix csv alone state _ =>
      have hnone : (folderOf setup now s path).sentinel = none := by
        rw [← hsource]
        exact hcalm csv
      simp only [state, ProcessorState.setFolder, Function.update_self]
      rcases mem_waiting.mp hmem with hpending | hpair | ⟨sentinel, hsentinel, -⟩
      · exact ⟨since, hsince, mem_waiting.mpr (.inl hpending)⟩
      · exact ⟨since, hsince, mem_waiting.mpr (.inr (.inl hpair))⟩
      · cases hnone.symm.trans hsentinel
    | pending alone state _ =>
      simp only [state, ProcessorState.setFolder, Function.update_self]
      rcases mem_waiting.mp hmem with ⟨pending, hpending, hfile'⟩ | hrest
      · exact ⟨since, hsince, mem_waiting.mpr (.inl ⟨pending, by simp [hpending], hfile'⟩)⟩
      · exact ⟨since, hsince, mem_waiting.mpr (.inr hrest)⟩
    | staged sentinel stageDir s₁ s₂ pairs _ waiting _ created relocated state world _ =>
      refine absurd ?_ (staged_gone waiting
        (fun file' hfile' => (horderly.entries _ file' hfile').1)
        hpath created relocated hfile (.inr ⟨since, hmem, horderly.alone _ ?_⟩))
      · rw [isFileAt, ← world]
        exact hstill
      · intro hnone
        exact nomatch waiting.symm.trans hnone
  · rw [hfiled.others hkey]
    exact h

/-- What is taken up and stays is tracked. -/
theorem Filed.tracks {past : List PurePath}
    (horderly : Orderly setup past (purgedState setup now s))
    (hfiled : Filed setup now s sourcePath path s') (hpath : path.NamesEntry)
    (hfile : isFileAt setup s path) (hstill : isFileAt setup s' path) :
    (s'.state.folders (setup.machine.at path.parent)).Tracks path now := by
  cases hfiled with
  | bucketed pending rest waiting state _ =>
    simp only [state, ProcessorState.setFolder, Function.update_self]
    exact ⟨now, le_rfl,
      mem_waiting.mpr (.inr (.inl ⟨⟨path, pending.path, now⟩, by simp, .inl rfl, rfl⟩))⟩
  | sentinel namePrefix csv alone state _ =>
    simp only [state, ProcessorState.setFolder, Function.update_self]
    exact ⟨now, le_rfl, mem_waiting.mpr (.inr (.inr ⟨_, rfl, rfl, rfl⟩))⟩
  | pending alone state _ =>
    simp only [state, ProcessorState.setFolder, Function.update_self]
    exact ⟨now, le_rfl, mem_waiting.mpr (.inl ⟨⟨path, now⟩, by simp, rfl, rfl⟩)⟩
  | staged sentinel stageDir s₁ s₂ pairs _ waiting _ created relocated state world _ =>
    refine absurd ?_ (staged_gone waiting (fun file' hfile' => (horderly.entries _ file' hfile').1)
      hpath created relocated hfile (.inl rfl))
    rw [isFileAt, ← world]
    exact hstill

-- ---------------------------------------------------------------------------
-- Runs
-- ---------------------------------------------------------------------------

def Event.time : Event → Option Seconds
  | .prepare now _ | .process now _ => some now
  | .disk _ => none

/-- Other files each time, and a clock that does not go back. -/
structure Deliveries (setup : Setup) (events : List Event) : Prop where
  entries : ∀ path ∈ events.filterMap Event.delivered, path.NamesEntry
  distinct : ((events.filterMap Event.delivered).map setup.machine.at).Nodup
  clock : (events.filterMap Event.time).Pairwise (· ≤ ·)

/-- A call to which no waiting sentinel falls victim, and no file of a pair without the other. -/
def Calm (setup : Setup) (s : PsaWorld) : Event → Prop
  | .prepare now rawInput => PairsWhole setup now s ∧
      ∀ sourcePath ∈ deliveredText rawInput, Unreplaced setup now s sourcePath
  | _ => True

/-- A file that was taken up and stays where it was, never too old, is tracked. -/
def LosesNothing (setup : Setup) (start : PsaWorld) (events : List Event) : Prop :=
  ∀ before now rawInput after path payload s', events = before ++ .prepare now rawInput :: after →
    deliveredPath rawInput = some path →
    (prepare setup now rawInput).run (playAll setup start before) = (.ok payload, s') →
    isFileAt setup (playAll setup start before) path →
    (∀ early late, after = early ++ late →
      isFileAt setup (playAll setup start (before ++ .prepare now rawInput :: early)) path) →
    (∀ t ∈ after.filterMap Event.time, fresh setup t now = true) →
    path ∈ ((playAll setup start events).state.folders (setup.machine.at path.parent)).tracked

variable (setup) in
theorem orderly_run (start : PsaWorld) {events : List Event} (hstart : Orderly setup [] start.state)
    (hentries : ∀ path ∈ events.filterMap Event.delivered, path.NamesEntry) :
    Orderly setup (events.filterMap Event.delivered) (playAll setup start events).state := by
  induction events using List.reverseRecOn with
  | nil => exact hstart
  | append_singleton events event ih =>
    rw [delivered_snoc] at hentries ⊢
    rw [playAll_snoc]
    have h := (ih fun path hpath => hentries path (List.mem_append_left _ hpath)).mono
      (List.subset_append_left (events.filterMap Event.delivered) event.delivered.toList)
    cases play_played setup (playAll setup start events) event with
    | kept _ folders _ mapped =>
      refine ⟨?_, ?_, fun text stageDir hs => h.mapped text stageDir (mapped text stageDir hs)⟩
      · rw [folders]
        exact h.alone
      · rw [folders]
        exact h.entries
    | purged now rawInput state =>
      rw [state]
      exact h.purged
    | filed now rawInput sourcePath delivered filed =>
      have hmem : PurePath.parse sourcePath ∈ (Event.prepare now rawInput).delivered.toList := by
        simp [Event.delivered, deliveredPath, delivered]
      exact h.purged.filed filed (hentries _ (List.mem_append_right _ hmem))
        (List.mem_append_right _ hmem)

omit [Interpreter] in
theorem started_orderly (disk : Disk) : Orderly setup [] (started disk).state :=
  ⟨fun _ _ => rfl, nofun, nofun⟩

/-- A file is delivered for the first time, so that no stage directory stands for it. -/
theorem prepare_first {past : List PurePath} {rawInput : Value} {payload : Dict}
    (horderly : Orderly setup past s.state) (hpath : deliveredPath rawInput = some path)
    (hnew : path ∉ past) (hrun : (prepare setup now rawInput).run s = (.ok payload, s')) :
    ∃ sourcePath, deliveredText rawInput = some sourcePath ∧ PurePath.parse sourcePath = path ∧
      Filed setup now s sourcePath path s' := by
  rcases prepare_cases setup s now rawInput with
    ⟨-, e, hraised⟩ | ⟨sourcePath, hdelivered, hcases⟩
  · cases hraised.symm.trans hrun
  · have hparse : PurePath.parse sourcePath = path := by
      simpa [deliveredPath, hdelivered] using hpath
    refine ⟨sourcePath, hdelivered, hparse, ?_⟩
    rcases hcases with ⟨stageDir, hmapped, -⟩ | ⟨-, hfile⟩
    · exact absurd (hparse ▸ horderly.mapped sourcePath stageDir hmapped) hnew
    · exact (prepareFile_spec _ _ _ hparse).ok (hfile.symm.trans hrun)

theorem tracked_files_kept (setup : Setup) (disk : Disk) (events : List Event)
    (hdeliveries : Deliveries setup events)
    (hcalm : Along setup (Calm setup) (started disk) events) :
    LosesNothing setup (started disk) events := by
  intro before now rawInput after path payload s' hevents hpath hrun hfile hstays hyoung
  subst hevents
  have hentries : ∀ early late, after = early ++ late →
      ∀ file ∈ (before ++ .prepare now rawInput :: early).filterMap Event.delivered,
        file.NamesEntry := by
    rintro early late rfl file hmem
    refine hdeliveries.entries file ?_
    rw [← List.cons_append, ← List.append_assoc, List.filterMap_append]
    exact List.mem_append_left _ hmem
  have hdelivered : (Event.prepare now rawInput).delivered = some path := hpath
  -- The files delivered so far are other ones.
  have hnew : path ∉ before.filterMap Event.delivered := by
    intro hmem
    have hdistinct := hdeliveries.distinct
    rw [List.filterMap_append, List.filterMap_cons_some hdelivered, List.map_append] at hdistinct
    exact List.disjoint_of_nodup_append hdistinct (List.mem_map_of_mem hmem) (by simp)
  suffices h : ∀ early late, after = early ++ late →
      ((playAll setup (started disk) (before ++ .prepare now rawInput :: early)).state.folders
        (setup.machine.at path.parent)).Tracks path now from (h after [] (by simp)).tracked
  intro early
  induction early using List.reverseRecOn with
  | nil =>
    intro late hlate
    have horderly := orderly_run setup (started disk) (started_orderly disk)
      fun file hmem => hentries [] late hlate file (by
        rw [List.filterMap_append]
        exact List.mem_append_left _ hmem)
    obtain ⟨sourcePath, -, hparse, hfiled⟩ := prepare_first horderly hpath hnew hrun
    have hplay : playAll setup (started disk) (before ++ [.prepare now rawInput]) = s' := by
      rw [playAll_snoc]
      exact congrArg Prod.snd hrun
    have hstill := hstays [] late hlate
    rw [hplay] at hstill ⊢
    exact hfiled.tracks horderly.purged
      (hentries [] late hlate path (by simp [hdelivered])) hfile hstill
  | append_singleton early event ih =>
    intro late hlate
    have hlate' : after = early ++ event :: late := by simpa using hlate
    have htracks := ih (event :: late) hlate'
    have hhere := hstays early (event :: late) hlate'
    have hthere := hstays (early ++ [event]) late hlate
    rw [← List.cons_append, ← List.append_assoc, playAll_snoc] at hthere ⊢
    have hgood : Calm setup
      (playAll setup (started disk) (before ++ .prepare now rawInput :: early)) event :=
      hcalm _ event late (by simp [hlate'])
    cases play_played setup
      (playAll setup (started disk) (before ++ .prepare now rawInput :: early)) event with
    | kept _ folders _ _ =>
      rw [folders]
      exact htracks
    | purged now' rawInput' state =>
      rw [state]
      exact Tracks.purged htracks (hyoung now' (by simp [hlate', Event.time])) hhere hgood.1
    | filed now' rawInput' sourcePath delivered filed =>
      have horderly := orderly_run setup (started disk) (started_orderly disk)
        (hentries early (_ :: late) hlate')
      have hmem : PurePath.parse sourcePath ∈
          (Event.prepare now' rawInput').delivered.toList := by
        simp [Event.delivered, deliveredPath, delivered]
      have hclock : now ≤ now' := by
        have hclock := hdeliveries.clock
        have htime : (Event.prepare now rawInput).time = some now := rfl
        have htime' : (Event.prepare now' rawInput').time = some now' := rfl
        rw [hlate', List.filterMap_append, List.filterMap_cons_some htime, List.filterMap_append,
          List.filterMap_cons_some htime'] at hclock
        exact List.rel_of_pairwise_cons (List.pairwise_append.mp hclock).2.1 (by simp)
      refine Tracks.filed
        (Tracks.purged htracks (hyoung now' (by simp [hlate', Event.time])) hhere hgood.1)
        horderly.purged filed ?_ rfl (hgood.2 sourcePath delivered) hclock hhere hthere
      exact hentries (early ++ [_]) late hlate _ (by
        rw [← List.cons_append, ← List.append_assoc, delivered_snoc]
        exact List.mem_append_right _ hmem)

end

section
attribute [local instance] Interpreter.ascii

/-- Decodes every file to nothing, so that every CSV is without a `Probenname`. -/
def plainSetup : Setup where
  machine := { cwd := [], crossDevice := fun _ _ => false, archive := fun _ content => content,
               raised := fun _ => valueError "" }
  decode := fun _ _ => some ""
  decodeIgnoring := fun _ => ""
  extra := Dict.empty

def deliver (path : String) : Value := .dict [("source_path", .str path)]

def pairDisk : Disk := { fs := Fs.ofFiles [["w", "a.ngb"], ["w", "a.csv"]] }

def ngbThenCsv : List Event := [.prepare 0 (deliver "/w/a.ngb"), .prepare 1 (deliver "/w/a.csv")]

theorem ngbThenCsv_deliveries : Deliveries plainSetup ngbThenCsv := by
  have hdelivered : ngbThenCsv.filterMap Event.delivered =
      [PurePath.parse "/w/a.ngb", PurePath.parse "/w/a.csv"] := by decide +kernel
  refine ⟨?_, ?_, by simp [ngbThenCsv, Event.time]⟩
  · rw [hdelivered]
    decide +kernel
  · rw [hdelivered]
    decide +kernel

theorem ngbThenCsv_kept : LosesNothing plainSetup (started pairDisk) ngbThenCsv := by
  refine tracked_files_kept plainSetup pairDisk ngbThenCsv ngbThenCsv_deliveries ?_
  have hwaiting : ∀ key, ((playAll plainSetup (started pairDisk)
      [.prepare 0 (deliver "/w/a.ngb")]).state.folders key).bucket = [] := by
    intro key
    by_cases hkey : key = ["w"]
    · subst hkey
      rfl
    · have hstate : (playAll plainSetup (started pairDisk)
          [.prepare 0 (deliver "/w/a.ngb")]).state.folders key = Function.update
            (fun _ => ({} : FolderState)) ["w"]
              { pendingNgb := [⟨PurePath.parse "/w/a.ngb", 0⟩] } key :=
        rfl
      rw [hstate, Function.update_of_ne hkey]
  rintro (_ | ⟨first, _ | ⟨second, before⟩⟩) event after hevents
  · obtain ⟨rfl, -⟩ := List.cons.inj hevents
    exact ⟨fun key pair hpair => absurd hpair (by simp [playAll, started]),
      fun _ _ _ => Option.isNone_iff_eq_none.mp rfl⟩
  · obtain ⟨rfl, hrest⟩ := List.cons.inj hevents
    obtain ⟨rfl, -⟩ := List.cons.inj hrest
    refine ⟨fun key pair hpair => absurd hpair (by rw [hwaiting]; simp),
      fun sourcePath hpath _ => ?_⟩
    have htext : deliveredText (deliver "/w/a.csv") = some "/w/a.csv" := by decide +kernel
    cases Option.some.inj (hpath.symm.trans htext)
    exact Option.isNone_iff_eq_none.mp (by decide +kernel)
  · simp [ngbThenCsv] at hevents

def csvDisk : Disk := { fs := Fs.ofFiles [["w", "a.csv"], ["w", "b.csv"]] }

def csvTwice : List Event := [.prepare 0 (deliver "/w/a.csv"), .prepare 1 (deliver "/w/b.csv")]

theorem csvTwice_deliveries : Deliveries plainSetup csvTwice := by
  have hdelivered : csvTwice.filterMap Event.delivered =
      [PurePath.parse "/w/a.csv", PurePath.parse "/w/b.csv"] := by decide +kernel
  refine ⟨?_, ?_, by simp [csvTwice, Event.time]⟩
  · rw [hdelivered]
    decide +kernel
  · rw [hdelivered]
    decide +kernel

/-- The second CSV takes the place of the sentinel, and nothing knows of the first any more. -/
theorem csvTwice_loses : Deliveries plainSetup csvTwice ∧
    ¬ LosesNothing plainSetup (started csvDisk) csvTwice := by
  refine ⟨csvTwice_deliveries, fun h => ?_⟩
  have hrun : ∃ payload, ((prepare plainSetup 0 (deliver "/w/a.csv")).run (started csvDisk)).1 =
      .ok payload := ⟨_, rfl⟩
  obtain ⟨payload, hok⟩ := hrun
  have htracked := h [] 0 (deliver "/w/a.csv") [.prepare 1 (deliver "/w/b.csv")]
    (PurePath.parse "/w/a.csv") payload _ rfl (by decide +kernel) (Prod.ext hok rfl)
      (by decide +kernel) ?_ ?_
  · exact absurd htracked (by decide +kernel)
  · rintro (_ | ⟨event, early⟩) late hlate
    · decide +kernel
    · obtain ⟨rfl, hnil⟩ := List.cons.inj hlate
      obtain ⟨rfl, rfl⟩ := List.append_eq_nil_iff.mp hnil.symm
      decide +kernel
  · decide +kernel

end

end DpostV2.Devices.Psa
