import DpostV2.Devices.Psa.Processor

/-!
# What one call does

`prepareFile_spec`: a file that is taken up waits in its folder, has joined an NGB that
waited, or has completed the batch of the sentinel (`Filed`); a call that raises leaves the
folders as they were or purged, whatever it has moved by then (`Refused`). `process` never
touches the folders.
-/

namespace DpostV2.Devices.Psa

/-- The sources of the moves that went through. -/
def moved (log : List (Step DiskCall DiskCall.Res)) : List PurePath :=
  log.filterMap fun
    | ⟨.move source _, .ok _⟩ => some source
    | _ => none

theorem moved_append {log log' : List (Step DiskCall DiskCall.Res)} :
    moved (log ++ log') = moved log ++ moved log' := List.filterMap_append

/-- Only calls that look have been made, or calls that failed. -/
structure Unmoved (s s' : PsaWorld) : Prop where
  fs : s'.world.fs = s.world.fs
  moved : moved s'.log = moved s.log
  faults : s.world.faults = [] → s'.world.faults = []

theorem Unmoved.refl (s : PsaWorld) : Unmoved s s := ⟨rfl, rfl, id⟩

section
variable {setup : Setup} {s : PsaWorld} {path : PurePath} {now : Seconds}

theorem Unmoved.fail {c : DiskCall} {e : Exn} {s₀ : PsaWorld} (h : Unmoved s₀ s) :
    Unmoved s₀ ⟨s.state, ⟨s.world.fs, s.world.faults.tail⟩, s.log ++ [⟨c, .error e⟩]⟩ := by
  refine ⟨h.fs, ?_, fun hf => by simp [h.faults hf]⟩
  rw [moved_append, h.moved]
  cases c <;> exact List.append_nil _

theorem readTextPrefix_unmoved :
    Keeps (fun s' => s'.state = s.state ∧ Unmoved s s') (readTextPrefix setup path) := by
  refine .bind ?_ fun rawBytes => ?_
  · rintro s' ⟨hstate, h⟩
    refine .onDisk (fun content fs happly => ?_) fun e _ => ⟨hstate, h.fail⟩
    cases apply_readBytes happly
    refine ⟨hstate, h.fs, ?_, fun hf => by simp [h.faults hf]⟩
    rw [moved_append, h.moved]
    exact List.append_nil _
  · dsimp only
    split
    · exact .pure _
    · exact .pure _

variable [Interpreter]

theorem parseCsvPrefix_unmoved :
    Keeps (fun s' => s'.state = s.state ∧ Unmoved s s') (parseCsvPrefix setup path) :=
  .bind readTextPrefix_unmoved fun _ => .pure _

-- ---------------------------------------------------------------------------
-- The stage directory
-- ---------------------------------------------------------------------------

/-- The directory was not there, and is. -/
structure StageCreated (setup : Setup) (s : PsaWorld) (stageDir : PurePath) (s' : PsaWorld) :
    Prop where
  state : s'.state = s.state
  vacant : s.world.fs.node (setup.machine.at stageDir) = none
  made : s'.world.fs.node (setup.machine.at stageDir) = some .dir
  extended : Fs.Extended s.world.fs s'.world.fs (setup.machine.at stageDir)
  log : s'.log = s.log ++ [⟨.mkdir stageDir, .ok ()⟩]
  faults : s.world.faults = [] → s'.world.faults = []

omit [Interpreter] in
theorem apply_mkdir {machine : Machine} {fs fs' : Fs} {a}
    (h : (DiskCall.mkdir path).apply machine fs = .ok (a, fs')) :
    Fs.Extended fs fs' (machine.at path) ∧ fs'.node (machine.at path) = some .dir := by
  obtain ⟨fs₁, h₁, h⟩ := except_bind_ok.mp h
  obtain ⟨fs₂, h₂, h⟩ := except_bind_ok.mp h
  cases h
  obtain ⟨hextended, hmade⟩ := Fs.mkdir_extended h₂ List.prefix_rfl
  exact ⟨((Fs.mkdirs_extended h₁).1.mono (List.dropLast_prefix _)).trans hextended, hmade⟩

omit [Interpreter] in
theorem createUniqueStageDir_spec (baseDir : PurePath) (namePrefix : String) :
    Triple (createUniqueStageDir setup baseDir namePrefix) s
      (fun stageDir s' => StageCreated setup s stageDir s' ∧
        ∃ i, stageDir = stageCandidate baseDir namePrefix i)
      fun _ s' => s'.state = s.state ∧ Unmoved s s' := by
  unfold createUniqueStageDir
  refine .look ?_
  split
  · rename_i i hfree
    have hvacant : s.world.fs.node
        (setup.machine.at (stageCandidate baseDir namePrefix (i + 1))) = none := by
      simpa [isPresent, Fs.present] using List.find?_some hfree
    refine .bind (Q := fun _ s' => StageCreated setup s
      (stageCandidate baseDir namePrefix (i + 1)) s')
      (.onDisk ?_ fun e _ => ⟨rfl, (Unmoved.refl s).fail⟩) fun _ s' h => .pure ⟨h, _, rfl⟩
    intro _ fs happly
    obtain ⟨hextended, hmade⟩ := apply_mkdir happly
    exact ⟨rfl, hvacant, hmade, hextended, rfl, fun hf => by simp [hf]⟩
  · exact .raise ⟨rfl, .refl s⟩

section
variable {source stageDir : PurePath} {name : String}

omit [Interpreter] in
/-- A move into a directory takes its source away, and brings no file to anywhere else. -/
theorem move_gone (hname : IsSegment name) (hup : name ≠ "..") :
    Triple (onDisk setup.machine (.move source (stageDir.slash name))) s
      (fun _ s' => ∀ q, ¬setup.machine.at stageDir <+: q →
        s.world.fs.isFile q = false ∨ q = setup.machine.at source → s'.world.fs.isFile q = false)
      fun _ _ => True := by
  refine .onDisk (fun _ fs happly q hq hgone => ?_) fun _ _ => trivial
  obtain ⟨real, hmove⟩ := apply_move happly
  rw [at_slash hname hup] at hmove
  obtain ⟨hreal, hmoved⟩ := Fs.shutilMove_ok hmove
  have hbelow : setup.machine.at stageDir <+: real := by
    rcases hreal with rfl | ⟨hreal, -⟩
    · exact List.prefix_append ..
    · exact (List.prefix_append ..).trans hreal
  have hne : ¬real <+: q := fun h => hq (hbelow.trans h)
  rcases hmoved with ⟨hself, rfl⟩ | ⟨fs₁, hextended, hmoved⟩
  · rcases hgone with hgone | rfl
    · exact hgone
    · exact absurd (hself ▸ hbelow) hq
  · rcases hgone with hgone | rfl
    · exact hmoved.vacant hne (hextended.vacant hgone)
    · simp [Fs.isFile, hmoved.left _ List.prefix_rfl hne]

omit [Interpreter] in
theorem relocatePairToStage_gone {pair : Pair} (hcsv : pair.csvPath.NamesEntry)
    (hngb : pair.ngbPath.NamesEntry) :
    Triple (relocatePairToStage setup stageDir pair) s
      (fun _ s' => ∀ q, ¬setup.machine.at stageDir <+: q → s.world.fs.isFile q = false ∨
        (q = setup.machine.at pair.csvPath ∨ q = setup.machine.at pair.ngbPath) →
        s'.world.fs.isFile q = false)
      fun _ _ => True := by
  unfold relocatePairToStage
  refine .bind (move_gone (PurePath.name_segment hcsv.1) hcsv.2) fun _ s₁ h₁ => ?_
  refine .bind (move_gone (PurePath.name_segment hngb.1) hngb.2) fun _ s₂ h₂ => .pure ?_
  intro q hq hgone
  refine h₂ q hq ?_
  rcases hgone with hgone | rfl | rfl
  · exact .inl (h₁ q hq (.inl hgone))
  · exact .inl (h₁ _ hq (.inr rfl))
  · exact .inr rfl

omit [Interpreter] in
variable (setup s stageDir) in
theorem relocatePairs_gone (pairs : List Pair)
    (hentries : ∀ pair ∈ pairs, pair.csvPath.NamesEntry ∧ pair.ngbPath.NamesEntry) :
    Triple (relocatePairs setup stageDir pairs) s
      (fun _ s' => ∀ q, ¬setup.machine.at stageDir <+: q → s.world.fs.isFile q = false ∨
        (∃ pair ∈ pairs, q = setup.machine.at pair.csvPath ∨ q = setup.machine.at pair.ngbPath) →
        s'.world.fs.isFile q = false)
      fun _ _ => True := by
  induction pairs generalizing s with
  | nil => exact .pure fun q _ hgone => hgone.resolve_right (by simp)
  | cons pair rest ih =>
    obtain ⟨hcsv, hngb⟩ := hentries pair (.head _)
    refine .bind (relocatePairToStage_gone hcsv hngb) fun _ s₁ h₁ => ?_
    refine .bind (ih _ fun pair hpair => hentries pair (.tail _ hpair)) fun _ s₂ h₂ => .pure ?_
    intro q hq hgone
    refine h₂ q hq ?_
    rcases hgone with hgone | ⟨pair', hpair', hgone⟩
    · exact .inl (h₁ q hq (.inl hgone))
    · rcases List.mem_cons.mp hpair' with rfl | hpair'
      · exact .inl (h₁ q hq (.inr hgone))
      · exact .inr ⟨pair', hpair', hgone⟩

end

-- ---------------------------------------------------------------------------
-- One file
-- ---------------------------------------------------------------------------

/-- The state after the purge, and in it the folder of a path. -/
def purgedState (setup : Setup) (now : Seconds) (s : PsaWorld) : ProcessorState :=
  s.state.purged setup now s.world.fs

def folderOf (setup : Setup) (now : Seconds) (s : PsaWorld) (path : PurePath) : FolderState :=
  (purgedState setup now s).folders (setup.machine.at path.parent)

def IsCsv (sourcePath : String) : Prop := normalizeExtension sourcePath ∈ [".csv", ".tsv"]

/-- What has become of a file that `prepare` has taken up. -/
inductive Filed (setup : Setup) (now : Seconds) (s : PsaWorld) (sourcePath : String)
    (path : PurePath) (s' : PsaWorld) : Prop
  | bucketed (pending : PendingNgb) (rest : List PendingNgb)
      (waiting : (folderOf setup now s path).pendingNgb = pending :: rest)
      (state : s'.state = (purgedState setup now s).setFolder (setup.machine.at path.parent)
        { folderOf setup now s path with
          pendingNgb := rest
          bucket := (folderOf setup now s path).bucket ++ [⟨path, pending.path, now⟩] })
      (unmoved : Unmoved s s')
  | sentinel (namePrefix : String) (csv : IsCsv sourcePath)
      (alone : (folderOf setup now s path).pendingNgb = [])
      (state : s'.state = (purgedState setup now s).setFolder (setup.machine.at path.parent)
        { folderOf setup now s path with sentinel := some ⟨path, namePrefix, now⟩ })
      (unmoved : Unmoved s s')
  | pending (alone : (folderOf setup now s path).sentinel = none)
      (state : s'.state = (purgedState setup now s).setFolder (setup.machine.at path.parent)
        { folderOf setup now s path with
          pendingNgb := (folderOf setup now s path).pendingNgb ++ [⟨path, now⟩] })
      (unmoved : Unmoved s s')
  | staged (sentinel : Sentinel) (stageDir : PurePath) (s₁ s₂ : PsaWorld) (pairs : List Pair)
      (ngb : normalizeExtension sourcePath = ".ngb")
      (waiting : (folderOf setup now s path).sentinel = some sentinel)
      (candidate : ∃ i, stageDir = stageCandidate path.parent sentinel.stagePrefix i)
      (created : StageCreated setup { s with state := purgedState setup now s } stageDir s₁)
      (relocated : (relocatePairs setup stageDir ((folderOf setup now s path).bucket ++
        [⟨sentinel.csvPath, path, now⟩])).run s₁ = (.ok pairs, s₂))
      (state : s'.state =
        { folders := Function.update (purgedState setup now s).folders
            (setup.machine.at path.parent) {}
          stagedBatches := Function.update (purgedState setup now s).stagedBatches stageDir.str
            (some { stageDir, namePrefix := sentinel.stagePrefix, pairs, createdAt := now })
          ngbToStage := Function.update (purgedState setup now s).ngbToStage path.str
            (some stageDir.str) })
      (world : s'.world = s₂.world) (log : s'.log = s₂.log)

theorem Filed.others {sourcePath : String} {s' : PsaWorld} {key : FsPath}
    (h : Filed setup now s sourcePath path s') (hkey : key ≠ setup.machine.at path.parent) :
    s'.state.folders key = (purgedState setup now s).folders key := by
  cases h with
  | bucketed _ _ _ state _ =>
    rw [state]
    exact Function.update_of_ne hkey ..
  | sentinel _ _ _ state _ =>
    rw [state]
    exact Function.update_of_ne hkey ..
  | pending _ state _ =>
    rw [state]
    exact Function.update_of_ne hkey ..
  | staged _ _ _ _ _ _ _ _ _ _ state _ _ =>
    rw [state]
    exact Function.update_of_ne hkey ..

omit [Interpreter] in
theorem relocatePairs_state {stageDir : PurePath} {pairs : List Pair} {state : ProcessorState} :
    Keeps (fun s => s.state = state) (relocatePairs setup stageDir pairs) := by
  induction pairs with
  | nil => exact .pure _
  | cons pair rest ih =>
    have hcall : ∀ c, Keeps (fun s : PsaWorld => s.state = state) (onDisk setup.machine c) :=
      fun c => .onDisk fun _ _ _ h => h
    exact .bind (.bind (hcall _) fun _ => .bind (hcall _) fun _ => .pure _) fun _ =>
      .bind ih fun _ => .pure _

/-- What a call that raises has done. -/
inductive Refused (setup : Setup) (now : Seconds) (s : PsaWorld) (sourcePath : String)
    (path : PurePath) (s' : PsaWorld) : Prop
  | early (state : s'.state = s.state) (unmoved : Unmoved s s')
  | purged (state : s'.state = purgedState setup now s) (unmoved : Unmoved s s')
  | interrupted (sentinel : Sentinel) (stageDir : PurePath) (s₁ : PsaWorld) (e : Exn)
      (ngb : normalizeExtension sourcePath = ".ngb")
      (waiting : (folderOf setup now s path).sentinel = some sentinel)
      (candidate : ∃ i, stageDir = stageCandidate path.parent sentinel.stagePrefix i)
      (created : StageCreated setup { s with state := purgedState setup now s } stageDir s₁)
      (relocated : (relocatePairs setup stageDir ((folderOf setup now s path).bucket ++
        [⟨sentinel.csvPath, path, now⟩])).run s₁ = (.error e, s'))

theorem Refused.state {sourcePath : String} {s' : PsaWorld}
    (h : Refused setup now s sourcePath path s') :
    s'.state = s.state ∨ s'.state = purgedState setup now s := by
  cases h with
  | early state _ => exact .inl state
  | purged state _ => exact .inr state
  | interrupted sentinel stageDir s₁ e _ _ _ created relocated =>
    exact .inr ((relocatePairs_state s₁ created.state).error relocated)

theorem prepareCsv_spec {sourcePath : String} (hcsv : IsCsv sourcePath) :
    Triple (prepareCsv setup path (setup.machine.at path.parent) now)
      { s with state := purgedState setup now s }
      (fun _ => Filed setup now s sourcePath path) fun _ =>
        Refused setup now s sourcePath path := by
  unfold prepareCsv
  refine Keeps.andThen parseCsvPrefix_unmoved ⟨rfl, .refl _⟩ ?_ ?_
  · rintro e s' ⟨hstate, h⟩
    exact .purged hstate ⟨h.fs, h.moved, h.faults⟩
  · rintro namePrefix s' ⟨hstate, h⟩
    have hunmoved : Unmoved s s' := ⟨h.fs, h.moved, h.faults⟩
    have hfolder : s'.state.folders (setup.machine.at path.parent) = folderOf setup now s path := by
      rw [hstate]
      rfl
    refine .readThen ?_
    dsimp only
    split
    · rename_i pending rest hpending
      refine .writeThen (.pure ?_)
      refine .bucketed pending rest (hfolder ▸ hpending) ?_
        ⟨hunmoved.fs, hunmoved.moved, hunmoved.faults⟩
      rw [hfolder, hstate]
    · rename_i hpending
      refine .writeThen (.pure ?_)
      refine .sentinel namePrefix hcsv (hfolder ▸ hpending) ?_
        ⟨hunmoved.fs, hunmoved.moved, hunmoved.faults⟩
      rw [hfolder, hstate]

theorem prepareNgb_spec {sourcePath : String} (hngb : normalizeExtension sourcePath = ".ngb") :
    Triple (prepareNgb setup path (setup.machine.at path.parent) now)
      { s with state := purgedState setup now s }
      (fun _ => Filed setup now s sourcePath path) fun _ =>
        Refused setup now s sourcePath path := by
  unfold prepareNgb
  refine .readThen ?_
  dsimp only
  split
  · rename_i hsentinel
    exact .writeThen (.pure (.pending hsentinel rfl ⟨rfl, rfl, id⟩))
  · rename_i sentinel hsentinel
    refine .bind (createUniqueStageDir_spec path.parent sentinel.stagePrefix |>.mono
      (fun _ _ h => h) ?_) ?_
    · rintro e s' ⟨hstate, h⟩
      exact .purged hstate ⟨h.fs, h.moved, h.faults⟩
    · rintro stageDir s₁ ⟨hcreated, hcandidate⟩
      refine .bind (Triple.result.mono (fun _ _ h => h) ?_) ?_
      · intro e s' hrun
        exact .interrupted sentinel stageDir s₁ e hngb hsentinel hcandidate hcreated hrun
      · intro pairs s₂ hrun
        have hstate : s₂.state = purgedState setup now s :=
          (relocatePairs_state s₁ hcreated.state).ok hrun
        exact .writeThen (.pure (.staged sentinel stageDir s₁ s₂ pairs hngb hsentinel hcandidate
          hcreated hrun (by rw [hstate]) rfl rfl))

variable (setup s now) in
theorem prepareFile_spec {sourcePath : String} (hpath : PurePath.parse sourcePath = path) :
    Triple (prepareFile setup sourcePath now) s (fun _ => Filed setup now s sourcePath path)
      fun _ => Refused setup now s sourcePath path := by
  subst hpath
  unfold prepareFile
  dsimp only
  split
  · exact .raise (.early rfl (.refl s))
  · refine .look ?_
    split
    · exact .raise (.early rfl (.refl s))
    · refine .bind (Q := fun _ s' => s' = { s with state := purgedState setup now s })
        (.look (.write rfl)) ?_
      rintro _ _ rfl
      split
      · rename_i hcsv
        exact prepareCsv_spec hcsv
      · split
        · rename_i hngb
          exact prepareNgb_spec hngb
        · exact .raise (.purged rfl ⟨rfl, rfl, id⟩)

-- ---------------------------------------------------------------------------
-- One call
-- ---------------------------------------------------------------------------

/-- The source path of an input that has one. -/
def deliveredText (rawInput : Value) : Option String :=
  rawInput.asDict?.bind fun rawInput => (requireSourcePath rawInput).toOption

def deliveredPath (rawInput : Value) : Option PurePath :=
  (deliveredText rawInput).map PurePath.parse

def Event.delivered : Event → Option PurePath
  | .prepare _ rawInput => deliveredPath rawInput
  | _ => none

variable (setup s now) in
/-- `prepare` raises at once, answers with the stage directory of an NGB that has been
staged, or takes up the file. -/
theorem prepare_cases (rawInput : Value) :
    (deliveredText rawInput = none ∧ ∃ e, (prepare setup now rawInput).run s = (.error e, s)) ∨
    ∃ sourcePath, deliveredText rawInput = some sourcePath ∧
      ((∃ stageDir, s.state.ngbToStage sourcePath = some stageDir ∧
        (prepare setup now rawInput).run s =
          (.ok (stagedPayload setup (PurePath.parse stageDir)), s)) ∨
      (s.state.ngbToStage sourcePath = none ∧
        (prepare setup now rawInput).run s = (prepareFile setup sourcePath now).run s)) := by
  unfold prepare deliveredText
  cases hdict : rawInput.asDict? with
  | none => exact .inl ⟨rfl, _, rfl⟩
  | some payload =>
    rw [Option.bind_some]
    dsimp only
    cases hpath : requireSourcePath payload with
    | error e => exact .inl ⟨rfl, e, rfl⟩
    | ok sourcePath =>
      refine .inr ⟨sourcePath, rfl, ?_⟩
      rw [Eff.lift_ok_bind, Eff.run_bind, Traced.run_read]
      dsimp only
      cases hmapped : s.state.ngbToStage sourcePath with
      | some stageDir => exact .inl ⟨stageDir, rfl, rfl⟩
      | none => exact .inr ⟨rfl, rfl⟩

variable (setup now) in
/-- `process` changes nothing of the state but that it takes a batch out, and the names that
lead to its directory. -/
theorem process_keeps (preparedInput : Dict) {I : ProcessorState → Prop}
    (hpopped : ∀ state key, I state →
      I { state with stagedBatches := Function.update state.stagedBatches key none })
    (hunmapped : ∀ state stageDir, I state →
      I { state with ngbToStage := fun key => (state.ngbToStage key).filter (· ≠ stageDir) }) :
    Keeps (fun s => I s.state) (process setup now preparedInput) := by
  have hcall : ∀ c, Keeps (fun s : PsaWorld => I s.state) (onDisk setup.machine c) :=
    fun c => .onDisk fun _ _ _ h => h
  have hlist : ∀ stageDir suitable, Keeps (fun s : PsaWorld => I s.state)
      (listFiles setup stageDir suitable) := fun _ _ =>
    .bind (hcall _) fun _ => .bind .inspect fun _ => .pure _
  have hreconstruct : ∀ stageDir, Keeps (fun s : PsaWorld => I s.state)
      (reconstructBatchFromStage setup stageDir now) := by
    refine fun stageDir => .bind .inspect fun isDir => ?_
    split
    · exact .raise _
    · exact .bind (hlist _ _) fun _ => .bind (hlist _ _) fun _ => .bind (.lift _) fun _ => .pure _
  have hpop : ∀ stageDir, Keeps (fun s : PsaWorld => I s.state)
      (popBatch setup stageDir now) := by
    refine fun stageDir => .bind .read fun state =>
      .bind (fun _ h => .write (hpopped _ _ h)) fun _ => ?_
    split
    · exact .pure _
    · exact hreconstruct _
  have hpair : ∀ outputDir namePrefix pair, Keeps (fun s : PsaWorld => I s.state)
      (finalizePair setup outputDir namePrefix pair) := by
    refine fun outputDir namePrefix pair => .bind .inspect fun fs => ?_
    split
    · exact .raise _
    · refine .bind (.bind (hcall _) fun _ => .bind .inspect fun _ => .bind (.lift _)
        fun _ => .pure _)
        fun _ => .bind (hcall _) fun _ => .bind ?_ fun _ => .pure _
      exact .bind (hcall _) fun _ => .bind (hcall _) fun _ => hcall _
  have hpairs : ∀ outputDir namePrefix pairs, Keeps (fun s : PsaWorld => I s.state)
      (finalizePairs setup outputDir namePrefix pairs) := by
    intro outputDir namePrefix pairs
    induction pairs with
    | nil => exact .pure _
    | cons pair rest ih => exact .bind (hpair _ _ _) fun _ => .bind ih fun _ => .pure _
  unfold process
  split
  · exact .raise _
  · split
    · refine .bind (.lift _) fun sourcePath => .bind (hpop _) fun batch => ?_
      split
      · exact .raise _
      · refine .bind (hcall _) fun _ => .bind (hpairs _ _ _) fun created => .bind ?_ fun _ =>
          .bind (fun _ h => .write (hunmapped _ _ h)) fun _ => ?_
        · refine .bind .inspect fun present => ?_
          split
          · exact .pure _
          · refine .bind (hcall _) fun names => ?_
            split
            · exact .pure _
            · exact hcall _
        · split
          · exact .lift _
          · exact .raise _
    · exact .bind (.lift _) fun _ => .lift _

-- ---------------------------------------------------------------------------
-- One event
-- ---------------------------------------------------------------------------

/-- What an event does to the state: it takes nothing but batches, purges, or takes up a file. -/
inductive Played (setup : Setup) (s s' : PsaWorld) : Event → Prop
  | kept (event : Event) (folders : s'.state.folders = s.state.folders)
      (batches : ∀ key batch, s'.state.stagedBatches key = some batch →
        s.state.stagedBatches key = some batch)
      (mapped : ∀ key stageDir, s'.state.ngbToStage key = some stageDir →
        s.state.ngbToStage key = some stageDir) : Played setup s s' event
  | purged (now : Seconds) (rawInput : Value) (state : s'.state = purgedState setup now s) :
      Played setup s s' (.prepare now rawInput)
  | filed (now : Seconds) (rawInput : Value) (sourcePath : String)
      (delivered : deliveredText rawInput = some sourcePath)
      (filed : Filed setup now s sourcePath (PurePath.parse sourcePath) s') :
      Played setup s s' (.prepare now rawInput)

theorem process_played {preparedInput : Dict} :
    Played setup s ((process setup now preparedInput).run s).2 (.process now preparedInput) := by
  have hpopped : ∀ (state : ProcessorState) key,
      (∀ key batch, state.stagedBatches key = some batch → s.state.stagedBatches key = some batch) →
      ∀ key' batch, Function.update state.stagedBatches key none key' = some batch →
        s.state.stagedBatches key' = some batch := by
    intro state key hbatches key' batch h
    by_cases hkey : key' = key
    · rw [hkey, Function.update_self] at h
      cases h
    · rw [Function.update_of_ne hkey] at h
      exact hbatches key' batch h
  have hkeeps := process_keeps setup now preparedInput
    (I := fun state => state.folders = s.state.folders ∧
      (∀ key batch, state.stagedBatches key = some batch → s.state.stagedBatches key = some batch) ∧
      ∀ key stageDir, state.ngbToStage key = some stageDir → s.state.ngbToStage key = some stageDir)
    (fun state key h => ⟨h.1, hpopped state key h.2.1, h.2.2⟩)
    (fun state stageDir h => ⟨h.1, h.2.1, fun key target hkey =>
      h.2.2 key target (Option.filter_eq_some_iff.mp hkey).1⟩)
    s ⟨rfl, fun _ _ h => h, fun _ _ h => h⟩
  rcases hkeeps.run with ⟨_, -, h⟩ | ⟨_, -, h⟩
  · exact .kept _ h.1 h.2.1 h.2.2
  · exact .kept _ h.1 h.2.1 h.2.2

variable (setup s) in
theorem play_played (event : Event) : Played setup s (play setup s event) event := by
  cases event with
  | prepare now rawInput =>
    simp only [play]
    rcases prepare_cases setup s now rawInput with
      ⟨-, e, hrun⟩ | ⟨sourcePath, hdelivered, ⟨stageDir, -, hrun⟩ | ⟨-, hrun⟩⟩
    · rw [hrun]
      exact .kept _ rfl (fun _ _ h => h) fun _ _ h => h
    · rw [hrun]
      exact .kept _ rfl (fun _ _ h => h) fun _ _ h => h
    · rw [hrun]
      rcases (prepareFile_spec setup s now (rfl : PurePath.parse sourcePath = _)).run with
        ⟨_, -, hfiled⟩ | ⟨_, -, hrefused⟩
      · exact .filed now rawInput sourcePath hdelivered hfiled
      · rcases hrefused.state with hstate | hstate
        · exact .kept _ (by rw [hstate]) (fun _ _ h => by rwa [hstate] at h)
            fun _ _ h => by rwa [hstate] at h
        · exact .purged now rawInput hstate
  | process now preparedInput =>
    simp only [play]
    exact process_played
  | disk disk => exact .kept _ rfl (fun _ _ h => h) fun _ _ h => h

theorem playAll_snoc (events : List Event) (event : Event) :
    playAll setup s (events ++ [event]) = play setup (playAll setup s events) event := by
  simp [playAll]

omit [Interpreter] in
theorem delivered_snoc (events : List Event) (event : Event) :
    (events ++ [event]).filterMap Event.delivered =
      events.filterMap Event.delivered ++ event.delivered.toList := by
  rw [List.filterMap_append]
  cases h : event.delivered <;> simp [h]

end

end DpostV2.Devices.Psa
