import DpostV2.Devices.Psa.Tracking

/-!
# Tracked once

`tracked_once`: as long as no file is delivered again while its folder waits with it, no
folder has a file twice, and a batch that meets with no fault is moved file by file and to
its end. The processor does not look whether it tracks a file.
-/

namespace DpostV2.Devices.Psa

def Pair.files (pair : Pair) : List PurePath := [pair.csvPath, pair.ngbPath]

def batchFiles (pairs : List Pair) : List PurePath := pairs.flatMap Pair.files

section
variable {setup : Setup} {s s' : PsaWorld} {path stageDir : PurePath} {key : FsPath}

-- ---------------------------------------------------------------------------
-- A batch on its way
-- ---------------------------------------------------------------------------

/-- Files of one folder that can be moved into a directory without meeting each other. -/
structure Movable (setup : Setup) (stageDir : PurePath) (key : FsPath) (files : List PurePath)
    (s : PsaWorld) : Prop where
  faults : s.world.faults = []
  dir : s.world.fs.node (setup.machine.at stageDir) = some .dir
  distinct : (files.map setup.machine.at).Nodup
  entries : ∀ file ∈ files, file.NamesEntry ∧ setup.machine.at file.parent = key
  present : ∀ file ∈ files, isFileAt setup s file
  free : ∀ file ∈ files, s.world.fs.node (setup.machine.at stageDir ++ [file.name]) = none

theorem Movable.move {files : List PurePath} (h : Movable setup stageDir key (path :: files) s) :
    Triple (onDisk setup.machine (.move path (stageDir.slash path.name))) s
      (fun _ s' => Movable setup stageDir key files s' ∧ moved s'.log = moved s.log ++ [path])
      fun _ _ => False := by
  obtain ⟨hentry, hparent⟩ := h.entries path (.head _)
  obtain ⟨content, hcontent⟩ := Fs.isFile_iff.mp (h.present path (.head _))
  have htarget : setup.machine.at (stageDir.slash path.name) = setup.machine.at stageDir ++
    [path.name] :=
    at_slash (PurePath.name_segment hentry.1) hentry.2
  have hfree := h.free path (.head _)
  obtain ⟨fs', hmove, hnode⟩ := Fs.shutilMove_file setup.machine.crossDevice
    (setup.machine.at stageDir ++ [path.name]) hcontent
      (by rw [List.dropLast_concat]; exact h.dir) hfree
  have happly : (DiskCall.move path (stageDir.slash path.name)).apply setup.machine s.world.fs =
      .ok ((), fs') := by
    simp only [DiskCall.apply, htarget, hmove]
    rfl
  refine .onDisk (fun _ fs hok => ?_) fun _ hrefused => ?_
  · cases happly.symm.trans hok
    have hdistinct := List.nodup_cons.mp h.distinct
    have hother : ∀ file ∈ files, setup.machine.at file ≠ setup.machine.at path :=
      fun file hfile heq => hdistinct.1 (heq ▸ List.mem_map_of_mem hfile)
    refine ⟨⟨by simp [h.faults], ?_, hdistinct.2, fun file hfile => h.entries file (.tail _ hfile),
      ?_, ?_⟩, by rw [moved_append]; rfl⟩
    · dsimp only
      rw [hnode, if_neg (by simp), if_neg ?_, h.dir]
      intro heq
      rw [← heq, h.dir] at hcontent
      cases hcontent
    · intro file hfile
      obtain ⟨content', hcontent'⟩ := Fs.isFile_iff.mp (h.present file (.tail _ hfile))
      refine Fs.isFile_iff.mpr ⟨content', ?_⟩
      dsimp only
      rw [hnode, if_neg ?_, if_neg (hother file hfile), hcontent']
      intro heq
      rw [heq, hfree] at hcontent'
      cases hcontent'
    · intro file hfile
      obtain ⟨hentry', hparent'⟩ := h.entries file (.tail _ hfile)
      have hname : file.name ≠ path.name := by
        intro heq
        refine hother file hfile ?_
        rw [at_parent hentry', at_parent hentry, hparent, hparent', heq]
      dsimp only
      rw [hnode, if_neg (by simpa using hname)]
      split
      · rfl
      · exact h.free file (.tail _ hfile)
  · obtain ⟨os, herror⟩ := hrefused h.faults
    cases happly.symm.trans herror

theorem Movable.relocatePairs {pairs : List Pair}
    (h : Movable setup stageDir key (batchFiles pairs) s) :
    Triple (relocatePairs setup stageDir pairs) s
      (fun _ s' => moved s'.log = moved s.log ++ batchFiles pairs) fun _ _ => False := by
  induction pairs generalizing s with
  | nil => exact .pure (by simp [batchFiles])
  | cons pair rest ih =>
    have h₀ : Movable setup stageDir key (pair.csvPath :: pair.ngbPath :: batchFiles rest) s := h
    refine .bind (Q := fun _ s' => Movable setup stageDir key (batchFiles rest) s' ∧
      moved s'.log = moved s.log ++ pair.files) ?_ ?_
    · refine .bind h₀.move fun _ s₁ h₁ => .bind h₁.1.move fun _ s₂ h₂ => .pure ⟨h₂.1, ?_⟩
      rw [h₂.2, h₁.2, List.append_assoc]
      rfl
    · rintro _ s₁ ⟨h₁, hmoved⟩
      refine .bind (ih h₁) fun _ s₂ h₂ => .pure ?_
      rw [h₂, hmoved, List.append_assoc]
      rfl

-- ---------------------------------------------------------------------------
-- A call
-- ---------------------------------------------------------------------------

variable [Interpreter] {now : Seconds} {past : List PurePath} {folder : FolderState}
  {sentinel : Sentinel} {rawInput : Value}

omit [Interpreter] in
/-- Where no NGB waits, a batch is what the folder waits with and the NGB that completes it. -/
theorem batchFiles_tracked (hled : folder.sentinel = some sentinel)
    (halone : folder.pendingNgb = []) :
    batchFiles (folder.bucket ++ [⟨sentinel.csvPath, path, now⟩]) = folder.tracked ++ [path] := by
  simp [batchFiles, Pair.files, FolderState.tracked, FolderState.waiting, hled, halone,
    List.flatMap_append, List.map_flatMap]
  rfl

/-- The files that a call meets in the folder of its own are where they belong, once each. -/
structure Undisturbed (setup : Setup) (now : Seconds) (s : PsaWorld) (path : PurePath) : Prop where
  entry : path.NamesEntry
  once : ((folderOf setup now s path).tracked.map setup.machine.at).Nodup
  first : setup.machine.at path ∉ (folderOf setup now s path).tracked.map setup.machine.at
  faults : s.world.faults = []
  files : ∀ file ∈ path :: (folderOf setup now s path).tracked, isFileAt setup s file

theorem Undisturbed.movable {s₁ : PsaWorld} (h : Undisturbed setup now s path)
    (horderly : Orderly setup past (purgedState setup now s))
    (hled : (folderOf setup now s path).sentinel = some sentinel)
    (hcreated : StageCreated setup { s with state := purgedState setup now s } stageDir s₁) :
    Movable setup stageDir (setup.machine.at path.parent)
      (batchFiles ((folderOf setup now s path).bucket ++ [⟨sentinel.csvPath, path, now⟩])) s₁ := by
  have halone : (folderOf setup now s path).pendingNgb = [] :=
    horderly.alone _ fun hnone => nomatch hled.symm.trans hnone
  rw [batchFiles_tracked hled halone]
  have hmem : ∀ file, file ∈ (folderOf setup now s path).tracked ++ [path] ↔
      file ∈ path :: (folderOf setup now s path).tracked := by simp [or_comm]
  refine ⟨hcreated.faults h.faults, hcreated.made, ?_, ?_, ?_, ?_⟩
  · rw [List.map_append]
    refine List.nodup_append.mpr ⟨h.once, by simp, ?_⟩
    rintro a ha b hb rfl
    exact h.first (List.mem_singleton.mp hb ▸ ha)
  · intro file hfile
    rcases List.mem_cons.mp ((hmem file).mp hfile) with rfl | hfile
    · exact ⟨h.entry, rfl⟩
    · exact horderly.entries _ file hfile
  · intro file hfile
    obtain ⟨content, hcontent⟩ := Fs.isFile_iff.mp (h.files file ((hmem file).mp hfile))
    exact Fs.isFile_iff.mpr ⟨content, hcreated.extended.kept _ _ hcontent⟩
  · intro file _
    by_contra hsome
    obtain ⟨n, hn⟩ := Option.ne_none_iff_exists'.mp hsome
    have hvacant : s.world.fs.node (setup.machine.at stageDir) = none := hcreated.vacant
    have hbefore : s.world.fs.node (setup.machine.at stageDir ++ [file.name]) = none := by
      by_contra hbefore
      have hdir := s.world.fs.dir_of_below (Option.isSome_iff_ne_none.mpr hbefore) (by simp)
      rw [hvacant] at hdir
      cases hdir
    have hshort := (hcreated.extended.added _ n hbefore hn).2.length_le
    simp at hshort

/-- A call moves a whole batch, each file once, and answers; or it moves nothing. -/
def Relocates (setup : Setup) (now : Seconds) (s : PsaWorld) (path : PurePath)
    (outcome : Except Exn Dict × PsaWorld) : Prop :=
  (moved outcome.2.log = moved s.log ∧ ∀ text batch,
    outcome.2.state.stagedBatches text = some batch → s.state.stagedBatches text = some batch) ∨
  ∃ payload sentinel, outcome.1 = .ok payload ∧
    (folderOf setup now s path).sentinel = some sentinel ∧
    ∃ files, files = batchFiles
      ((folderOf setup now s path).bucket ++ [⟨sentinel.csvPath, path, now⟩]) ∧
      moved outcome.2.log = moved s.log ++ files ∧ (files.map setup.machine.at).Nodup

theorem Undisturbed.prepareFile {sourcePath : String} (h : Undisturbed setup now s path)
    (horderly : Orderly setup past (purgedState setup now s))
    (hpath : PurePath.parse sourcePath = path) :
    Relocates setup now s path ((prepareFile setup sourcePath now).run s) := by
  have hpurged : ∀ text batch, (purgedState setup now s).stagedBatches text = some batch →
      s.state.stagedBatches text = some batch := fun _ _ h => (Option.filter_eq_some_iff.mp h).1
  rcases (prepareFile_spec setup s now hpath).run with
    ⟨payload, hok, hfiled⟩ | ⟨e, herror, hrefused⟩
  · cases hfiled with
    | bucketed _ _ _ state unmoved =>
      exact .inl ⟨unmoved.moved, fun text batch hb => hpurged text batch (by rwa [state] at hb)⟩
    | sentinel _ _ _ state unmoved =>
      exact .inl ⟨unmoved.moved, fun text batch hb => hpurged text batch (by rwa [state] at hb)⟩
    | pending _ state unmoved =>
      exact .inl ⟨unmoved.moved, fun text batch hb => hpurged text batch (by rwa [state] at hb)⟩
    | staged sentinel stageDir s₁ s₂ pairs _ led _ created relocated _ _ log =>
      have hmovable := h.movable horderly led created
      have hmoved := hmovable.relocatePairs.ok relocated
      refine .inr ⟨payload, sentinel, hok, led, _, rfl, ?_, hmovable.distinct⟩
      rw [log, hmoved, created.log, moved_append]
      simp [moved]
  · cases hrefused with
    | early state unmoved => exact .inl ⟨unmoved.moved, fun text batch hb => by rwa [state] at hb⟩
    | purged state unmoved =>
      exact .inl ⟨unmoved.moved, fun text batch hb => hpurged text batch (by rwa [state] at hb)⟩
    | interrupted sentinel stageDir s₁ e _ led _ created relocated =>
      exact ((h.movable horderly led created).relocatePairs.error relocated).elim

theorem Undisturbed.prepare (h : Undisturbed setup now s path)
    (horderly : Orderly setup past (purgedState setup now s))
    (hpath : deliveredPath rawInput = some path) :
    Relocates setup now s path ((prepare setup now rawInput).run s) := by
  rcases prepare_cases setup s now rawInput with
    ⟨hnone, -⟩ | ⟨sourcePath, hdelivered, ⟨stageDir, -, hrun⟩ | ⟨-, hrun⟩⟩
  · simp [deliveredPath, hnone] at hpath
  · rw [hrun]
    exact .inl ⟨rfl, fun _ _ hb => hb⟩
  · rw [hrun]
    exact h.prepareFile horderly (by simpa [deliveredPath, hdelivered] using hpath)

-- ---------------------------------------------------------------------------
-- Runs
-- ---------------------------------------------------------------------------

/-- No file is delivered while its folder waits with it. -/
def FirstDelivery (setup : Setup) (s : PsaWorld) : Event → Prop
  | .prepare now rawInput => ∀ path ∈ deliveredPath rawInput,
      setup.machine.at path ∉ (folderOf setup now s path).tracked.map setup.machine.at
  | _ => True

structure TracksOnce (setup : Setup) (start : PsaWorld) (events : List Event) : Prop where
  once : ∀ key, (((playAll setup start events).state.folders key).tracked.map
    setup.machine.at).Nodup
  relocates : ∀ before now rawInput after path, events = before ++ .prepare now rawInput :: after →
    deliveredPath rawInput = some path → (playAll setup start before).world.faults = [] →
    (∀ file ∈ path :: (folderOf setup now (playAll setup start before) path).tracked,
      isFileAt setup (playAll setup start before) file) →
    Relocates setup now (playAll setup start before) path
      ((prepare setup now rawInput).run (playAll setup start before))
  csvs : ∀ key, ∀ pair ∈ ((playAll setup start events).state.folders key).bucket,
    ∀ pair' ∈ ((playAll setup start events).state.folders key).bucket,
      setup.machine.at pair.csvPath = setup.machine.at pair'.csvPath → pair = pair'
  ngbs : ∀ key, ∀ pair ∈ ((playAll setup start events).state.folders key).bucket,
    ∀ pair' ∈ ((playAll setup start events).state.folders key).bucket,
      setup.machine.at pair.ngbPath = setup.machine.at pair'.ngbPath → pair = pair'

omit [Interpreter] in
theorem sublist_batchFiles {file : Pair → PurePath} (hfile : ∀ pair, file pair ∈ pair.files)
    {pairs : List Pair} : (pairs.map file).Sublist (batchFiles pairs) := by
  induction pairs with
  | nil => exact .refl _
  | cons pair rest ih => exact (List.singleton_sublist.mpr (hfile pair)).append ih

omit [Interpreter] in
/-- Of files that are tracked once, no two pairs share one. -/
theorem pair_eq_of_once (h : (folder.tracked.map setup.machine.at).Nodup) {file : Pair → PurePath}
    (hfile : ∀ pair, file pair ∈ pair.files) {pair pair' : Pair} (hpair : pair ∈ folder.bucket)
    (hpair' : pair' ∈ folder.bucket)
    (heq : setup.machine.at (file pair) = setup.machine.at (file pair')) : pair = pair' := by
  have htracked : (batchFiles folder.bucket).Sublist folder.tracked := by
    rw [FolderState.tracked, FolderState.waiting, List.map_append, List.map_append,
      List.map_flatMap]
    exact .trans (List.sublist_append_right _ _) (List.sublist_append_left _ _)
  have hsublist := (sublist_batchFiles hfile).trans htracked
  have hnodup : (folder.bucket.map (setup.machine.at ∘ file)).Nodup := by
    rw [← List.map_map]
    exact h.sublist (hsublist.map _)
  exact List.inj_on_of_nodup_map hnodup hpair hpair' heq

variable (setup) in
theorem tracked_nodup (start : PsaWorld) (events : List Event)
    (hstart : ∀ key, ((start.state.folders key).tracked.map setup.machine.at).Nodup)
    (hfirst : Along setup (FirstDelivery setup) start events) (key : FsPath) :
    (((playAll setup start events).state.folders key).tracked.map setup.machine.at).Nodup := by
  induction events using List.reverseRecOn generalizing key with
  | nil => exact hstart key
  | append_singleton events event ih =>
    have hbefore := ih fun before event' after heq =>
      hfirst before event' (after ++ [event]) (by simp [heq])
    have hevent := hfirst events event [] rfl
    rw [playAll_snoc]
    cases play_played setup (playAll setup start events) event with
    | kept _ folders _ _ =>
      rw [folders]
      exact hbefore key
    | purged now rawInput state =>
      rw [state]
      exact (hbefore key).sublist (purged_tracked.map _)
    | filed now rawInput sourcePath delivered filed =>
      have hpurged : ∀ key,
        (((purgedState setup now (playAll setup start events)).folders key).tracked.map
          setup.machine.at).Nodup := fun key => (hbefore key).sublist (purged_tracked.map _)
      by_cases hkey : key = setup.machine.at (PurePath.parse sourcePath).parent
      · subst hkey
        have hnew := hevent (PurePath.parse sourcePath) (by simp [deliveredPath, delivered])
        have hall := (List.nodup_cons.mpr ⟨hnew, hpurged _⟩)
        obtain ⟨kept, hperm, hsublist⟩ := filed.tracked_subperm
        exact (hperm.map setup.machine.at).nodup_iff.mp (hall.sublist (hsublist.map _))
      · rw [filed.others hkey]
        exact hpurged key

theorem tracked_once (setup : Setup) (disk : Disk) (events : List Event)
    (hentries : ∀ path ∈ events.filterMap Event.delivered, path.NamesEntry)
    (hfirst : Along setup (FirstDelivery setup) (started disk) events) :
    TracksOnce setup (started disk) events := by
  have hnodup := fun events hfirst => tracked_nodup setup (started disk) events
    (fun _ => .nil) hfirst
  refine ⟨hnodup events hfirst, ?_, fun key pair hpair pair' hpair' heq => ?_,
    fun key pair hpair pair' hpair' heq => ?_⟩
  · rintro before now rawInput after path rfl hpath hfaults hfiles
    have hdelivered : (Event.prepare now rawInput).delivered = some path := hpath
    have horderly := orderly_run setup (started disk) (started_orderly disk)
      fun file hmem => hentries file (by
        rw [List.filterMap_append]
        exact List.mem_append_left _ hmem)
    have honce := hnodup before (fun before' event after' heq =>
      hfirst before' event (after' ++ .prepare now rawInput :: after) (by simp [heq]))
      (setup.machine.at path.parent)
    refine Undisturbed.prepare ⟨hentries path ?_, ?_, ?_, hfaults, hfiles⟩ horderly.purged hpath
    · rw [List.filterMap_append, List.filterMap_cons_some hdelivered]
      simp
    · exact honce.sublist (purged_tracked.map _)
    · exact hfirst before _ after rfl path hpath
  · exact pair_eq_of_once (hnodup events hfirst key) (fun pair => .head _) hpair hpair' heq
  · exact pair_eq_of_once (hnodup events hfirst key)
      (fun pair => .tail _ (.head _)) hpair hpair' heq

end

section
attribute [local instance] Interpreter.ascii

def twoPairsDisk : Disk :=
  { fs := Fs.ofFiles [["w", "a.ngb"], ["w", "a.csv"], ["w", "b.csv"], ["w", "b.ngb"]] }

/-- The first CSV joins the NGB that waits, the second one is the sentinel of the batch that the
second NGB completes. -/
def twoPairs : List Event :=
  [.prepare 0 (deliver "/w/a.ngb"), .prepare 1 (deliver "/w/a.csv"),
    .prepare 2 (deliver "/w/b.csv"), .prepare 3 (deliver "/w/b.ngb")]

theorem firstDelivery_of {s : PsaWorld} {now : Seconds} {rawInput : Value} (path : PurePath)
    (h : deliveredPath rawInput = some path) (hnew : plainSetup.machine.at path ∉
      (folderOf plainSetup now s path).tracked.map plainSetup.machine.at) :
    FirstDelivery plainSetup s (.prepare now rawInput) := by
  intro path' hpath'
  cases Option.some.inj (hpath'.symm.trans h)
  exact hnew

theorem twoPairs_tracked_once : TracksOnce plainSetup (started twoPairsDisk) twoPairs := by
  have hdelivered : twoPairs.filterMap Event.delivered = [PurePath.parse "/w/a.ngb",
      PurePath.parse "/w/a.csv", PurePath.parse "/w/b.csv", PurePath.parse "/w/b.ngb"] := by
    decide +kernel
  refine tracked_once plainSetup twoPairsDisk twoPairs ?_ ?_
  · rw [hdelivered]
    decide +kernel
  · refine .cons (firstDelivery_of (PurePath.parse "/w/a.ngb") ?_ ?_) <|
      .cons (firstDelivery_of (PurePath.parse "/w/a.csv") ?_ ?_) <|
      .cons (firstDelivery_of (PurePath.parse "/w/b.csv") ?_ ?_) <|
      .cons (firstDelivery_of (PurePath.parse "/w/b.ngb") ?_ ?_) .nil
    all_goals decide +kernel

/-- The NGB is announced again, as a change of its time makes the runtime do. -/
def ngbTwice : List Event := [.prepare 0 (deliver "/w/a.ngb"), .prepare 1 (deliver "/w/a.ngb")]

/-- It waits twice, and so would be paired with two CSVs. -/
theorem ngbTwice_tracked_twice : ¬ TracksOnce plainSetup (started pairDisk) ngbTwice :=
  fun h => absurd (h.once ["w"]) (by decide +kernel)

end

end DpostV2.Devices.Psa
