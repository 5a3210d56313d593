import DpostV2.Devices.Psa.Order
import DpostV2.Devices.Psa.Tracking
import DpostV2.Lib.Changes

/-!
# Where the files go

The prefix of a batch is free text and becomes part of paths. `confined`: in every run in
which a batch is staged under a prefix that names an entry of its folder (`Inside`), its stage
directory is a child of the folder of the NGB, and so is every file that `process` writes.
-/

namespace DpostV2.Devices.Psa

/-- The text up to the last `/`. -/
def directoryText (namePrefix : String) : String :=
  String.ofList (namePrefix.toList.reverse.dropWhile (· ≠ '/')).reverse

/-- A name that begins so is joined to a directory as one of its entries. -/
def Inside (namePrefix : String) : Prop :=
  PurePath.parse (directoryText namePrefix) = ⟨.relative, [], nofun⟩

instance : DecidablePred Inside := fun _ => inferInstanceAs (Decidable (_ = _))

def ChildOf (dir p : PurePath) : Prop := ∃ name, IsSegment name ∧ name ≠ ".." ∧ p = dir.slash name

/-- What staging may do in a folder: anything below the stage directory, which takes entries
away from the folder. -/
def StagingChange (folder stage q : FsPath) (n : Option Node) : Prop :=
  stage <+: q ∨ (∃ name, folder ++ [name] <+: q ∧ n = none) ∨ n = some .dir ∧ q <+: folder

/-- At most one directory has been made, as a child of the folder. -/
def StagedWithin (folder : FsPath) (fs fs' : Fs) : Prop :=
  ∃ name, fs.node (folder ++ [name]) = none ∧
    Fs.Changes (StagingChange folder (folder ++ [name])) fs fs'

/-- What finalizing may do: take away what is below the stage directory, and write files of the
folder. -/
def FinalizingChange (folder stage q : FsPath) (n : Option Node) : Prop :=
  stage <+: q ∧ n = none ∨ (∃ name content, q = folder ++ [name] ∧ n = some (.file content)) ∨
    n = some .dir ∧ q <+: folder

def FinalizedWithin (folder : FsPath) (fs fs' : Fs) : Prop :=
  ∃ name, Fs.Changes (FinalizingChange folder (folder ++ [name])) fs fs'

section
variable [Interpreter]

/-- An earlier `prepare` of the path returned the payload. -/
def Answered (setup : Setup) (start : PsaWorld) (events : List Event) (path : PurePath)
    (payload : Dict) : Prop :=
  ∃ before now rawInput after s', events = before ++ .prepare now rawInput :: after ∧
    deliveredPath rawInput = some path ∧
    (prepare setup now rawInput).run (playAll setup start before) = (.ok payload, s')

structure ConfinedRun (setup : Setup) (start : PsaWorld) (events : List Event) : Prop where
  staged : ∀ before now rawInput after, events = before ++ .prepare now rawInput :: after →
    (play setup (playAll setup start before) (.prepare now rawInput)).world.fs =
      (playAll setup start before).world.fs ∨
    ∃ path, deliveredPath rawInput = some path ∧
      StagedWithin (setup.machine.at path.parent) (playAll setup start before).world.fs
        (play setup (playAll setup start before) (.prepare now rawInput)).world.fs
  finalized : ∀ before now payload after path, events = before ++ .process now payload :: after →
    Answered setup start before path payload →
    FinalizedWithin (setup.machine.at path.parent) (playAll setup start before).world.fs
      (play setup (playAll setup start before) (.process now payload)).world.fs

-- ---------------------------------------------------------------------------
-- When it is so
-- ---------------------------------------------------------------------------

/-- The prefix `process` names its files by. -/
def batchPrefix (s : PsaWorld) (stageDir : PurePath) : String :=
  ((s.state.stagedBatches stageDir.str).map StagedBatch.namePrefix).getD (prefixOfStage stageDir)

/-- No directory is where a file is expected, or is to be written. -/
structure Clear (setup : Setup) (s : PsaWorld) (stageDir : PurePath) : Prop where
  sources : ∀ batch, s.state.stagedBatches stageDir.str = some batch → ∀ pair ∈ batch.pairs,
    s.world.fs.isDir (setup.machine.at pair.csvPath) = false
  targets : ∀ n, s.world.fs.isDir (setup.machine.at
    (csvDest stageDir.parent (batchPrefix s stageDir ++ "-" ++ twoDigits n))) = false

/-- A batch is staged under a prefix that stays inside, and finalized from and to directories
whose texts no `strip` changes. -/
def Plain (setup : Setup) (s : PsaWorld) : Event → Prop
  | .prepare now rawInput => ∀ sourcePath, deliveredText rawInput = some sourcePath →
      normalizeExtension sourcePath = ".ngb" → s.state.ngbToStage sourcePath = none →
      ∀ sentinel, (folderOf setup now s (PurePath.parse sourcePath)).sentinel = some sentinel →
        Inside sentinel.stagePrefix
  | .process _ payload => ∀ stageDir, payload = stagedPayload setup stageDir →
      strip stageDir.str = stageDir.str ∧ strip stageDir.parent.str = stageDir.parent.str ∧
        Clear setup s stageDir
  | .disk _ => True

end

-- ---------------------------------------------------------------------------
-- Names with a prefix
-- ---------------------------------------------------------------------------

section
variable {namePrefix suffix name : String} {p dir : PurePath} {machine : Machine}

theorem not_slash_twoDigits (n : Nat) : '/' ∉ (twoDigits n).toList := by
  unfold twoDigits
  split
  · rw [String.toList_append, List.mem_append]
    rintro (h | h)
    · exact absurd h (by decide)
    · exact not_slash_digits n h
  · exact not_slash_digits n

/-- Up to its last `/` a text is nothing, or ends in it. -/
theorem directoryText_split (s : String) : ∃ init last, s.toList = init ++ last ∧ '/' ∉ last ∧
    (directoryText s).toList = init ∧ (init = [] ∨ ∃ rest, init = rest ++ ['/']) := by
  have hwhole := List.takeWhile_append_dropWhile (p := (· ≠ '/')) (l := s.toList.reverse)
  refine ⟨(s.toList.reverse.dropWhile (· ≠ '/')).reverse,
    (s.toList.reverse.takeWhile (· ≠ '/')).reverse, ?_, ?_, String.toList_ofList, ?_⟩
  · rw [← List.reverse_append, hwhole, List.reverse_reverse]
  · intro h
    simpa using List.mem_takeWhile_imp (List.mem_reverse.mp h)
  · cases hrest : s.toList.reverse.dropWhile (· ≠ '/') with
    | nil => exact .inl rfl
    | cons c rest =>
      have hc : c = '/' := by
        have hhead := List.head?_dropWhile_not (· ≠ '/') s.toList.reverse
        rw [hrest] at hhead
        simpa using hhead
      subst hc
      exact .inr ⟨rest.reverse, by simp⟩

theorem parse_root (value : String) : (PurePath.parse value).root = rootOf value.toList := rfl

theorem parse_parts (value : String) :
    (PurePath.parse value).parts = splitSegments value.toList := rfl

theorem splitSegments_append (rest cs : List Char) :
    splitSegments (rest ++ '/' :: cs) = splitSegments (rest ++ ['/']) ++ splitSegments cs := by
  have hnil : ¬IsSegment (String.ofList []) := fun h => h.1 rfl
  simp [splitSegments, List.splitOn_append_cons_self, hnil]

theorem rootOf_cons (c : Char) (cs : List Char) : rootOf (c :: cs) = .relative ↔ c ≠ '/' := by
  constructor
  · rintro h rfl
    unfold rootOf at h
    split at h <;> simp_all
  · intro hc
    unfold rootOf
    split <;> simp_all

/-- Three characters are no `.` and no `..`. -/
theorem parse_inside (h : Inside namePrefix) (hslash : '/' ∉ suffix.toList)
    (hlong : 2 < suffix.length) : ∃ name, IsSegment name ∧ name ≠ ".." ∧
      PurePath.parse (namePrefix ++ suffix) = PurePath.parse name := by
  obtain ⟨init, last, hsplit, hlast, hinit, hends⟩ := directoryText_split namePrefix
  have hname : ∀ short : String, short.length ≤ 2 →
    String.ofList (last ++ suffix.toList) ≠ short := by
    rintro short hshort rfl
    rw [← String.length_toList, String.toList_ofList, List.length_append] at hshort
    rw [← String.length_toList] at hlong
    omega
  have hsegment : IsSegment (String.ofList (last ++ suffix.toList)) := by
    refine ⟨hname _ (by decide), hname _ (by decide), ?_⟩
    rw [String.toList_ofList, List.mem_append]
    exact not_or.mpr ⟨hlast, hslash⟩
  refine ⟨_, hsegment, hname _ (by decide), ?_⟩
  have htext : (namePrefix ++ suffix).toList = init ++ (last ++ suffix.toList) := by
    rw [String.toList_append, hsplit, List.append_assoc]
  have hrelative := congrArg PurePath.root h
  rw [parse_root, hinit] at hrelative
  have hempty := congrArg PurePath.parts h
  rw [parse_parts, hinit] at hempty
  rcases hends with rfl | ⟨rest, rfl⟩
  · rw [List.nil_append] at htext
    rw [← String.ofList_toList (s := namePrefix ++ suffix), htext]
  · have hparse := parse_segment hsegment
    ext1
    · rw [hparse, parse_root]
      obtain ⟨c, cs, hcs⟩ := List.exists_cons_of_ne_nil (show rest ++ ['/'] ≠ [] by simp)
      rw [hcs] at hrelative htext
      rw [htext]
      exact (rootOf_cons _ _).mpr ((rootOf_cons _ _).mp hrelative)
    · rw [parse_parts, parse_parts, htext, List.append_assoc, List.singleton_append,
        splitSegments_append, hempty, List.nil_append, String.toList_ofList]

theorem inside_of_not_slash (h : '/' ∉ namePrefix.toList) : Inside namePrefix := by
  have hempty : namePrefix.toList.reverse.dropWhile (· ≠ '/') = [] := by
    rw [List.dropWhile_eq_nil_iff]
    intro c hc
    have hne : c ≠ '/' := fun heq => h (heq ▸ List.mem_reverse.mp hc)
    simpa using hne
  rw [Inside, directoryText, hempty]
  rfl

theorem not_slash_name (p : PurePath) : '/' ∉ p.name.toList := by
  by_cases hname : p.name = ""
  · rw [hname]
    exact fun h => nomatch h
  · exact (PurePath.name_segment hname).2.2

theorem beforeMarker_sublist (marker cs : List Char) : (beforeMarker marker cs).Sublist cs := by
  induction cs with
  | nil => exact .refl _
  | cons c cs ih =>
    unfold beforeMarker
    split
    · exact List.nil_sublist _
    · exact ih.cons_cons c

/-- The prefix read from the name of a directory has no `/` in it. -/
theorem prefixOfStage_inside (stageDir : PurePath) : Inside (prefixOfStage stageDir) := by
  refine inside_of_not_slash ?_
  unfold prefixOfStage
  dsimp only
  split
  · decide
  · rw [String.toList_ofList]
    exact fun h => not_slash_name stageDir ((beforeMarker_sublist _ _).mem h)

theorem ChildOf.parent (h : ChildOf dir p) : p.parent = dir := by
  obtain ⟨name, hname, -, rfl⟩ := h
  exact slash_parent hname

variable (machine) in
theorem ChildOf.at (h : ChildOf dir p) : ∃ name, machine.at p = machine.at dir ++ [name] := by
  obtain ⟨name, hname, hup, rfl⟩ := h
  exact ⟨name, at_slash hname hup⟩

theorem childOf_inside (h : Inside namePrefix) (hslash : '/' ∉ suffix.toList)
    (hlong : 2 < suffix.length) : ChildOf dir (dir.slash (namePrefix ++ suffix)) := by
  obtain ⟨name, hname, hup, hparse⟩ := parse_inside h hslash hlong
  exact ⟨name, hname, hup, by rw [PurePath.slash, hparse, ← PurePath.slash]⟩

theorem stageCandidate_child (h : Inside namePrefix) (i : Nat) :
    ChildOf dir (stageCandidate dir namePrefix i) := by
  have hslash : '/' ∉ (stageMarker ++ twoDigits i).toList := by
    rw [String.toList_append, List.mem_append]
    exact not_or.mpr ⟨by decide, not_slash_twoDigits i⟩
  have hlong : 2 < (stageMarker ++ twoDigits i).length := by
    rw [String.length_append]
    exact Nat.lt_add_right _ (by decide)
  have hinside : Inside (if namePrefix = "" then "psa" else namePrefix) := by
    split
    · decide
    · exact h
  rw [stageCandidate, String.append_assoc]
  exact childOf_inside hinside hslash hlong

theorem output_child (h : Inside namePrefix) (n : Nat) {extension : String}
    (hslash : '/' ∉ extension.toList) (hlong : 2 < extension.length) :
    ChildOf dir (dir.slash (namePrefix ++ "-" ++ twoDigits n ++ extension)) := by
  rw [String.append_assoc, String.append_assoc]
  refine childOf_inside h ?_ ?_
  · rw [String.toList_append, String.toList_append, List.mem_append, List.mem_append]
    exact not_or.mpr ⟨by decide, not_or.mpr ⟨not_slash_twoDigits n, hslash⟩⟩
  · rw [String.length_append, String.length_append]
    omega

end

-- ---------------------------------------------------------------------------
-- Staging
-- ---------------------------------------------------------------------------

section
variable {setup : Setup} {s : PsaWorld} {stageDir : PurePath} {folder : FsPath}
  {pairs : List Pair} {name : String}

/-- What is below the stage directory, or on the way to it. -/
theorem stagingChange_below {q : FsPath} {n : Option Node} (hn : n = some .dir)
    (hq : q <+: folder ++ [name]) : StagingChange folder (folder ++ [name]) q n := by
  rcases List.prefix_concat_iff.mp hq with rfl | hq
  · exact .inl List.prefix_rfl
  · exact .inr (.inr ⟨hn, hq⟩)

theorem move_staging {source : PurePath} {file : String} {before : Fs}
    (hstage : setup.machine.at stageDir = folder ++ [name]) (hfile : IsSegment file)
    (hup : file ≠ "..") (hsource : ∃ entry, setup.machine.at source = folder ++ [entry]) :
    Keeps (fun s : PsaWorld => Fs.Changes
      (StagingChange folder (folder ++ [name])) before s.world.fs)
      (onDisk setup.machine (.move source (stageDir.slash file))) := by
  refine onDisk_changes fun fs fs' a happly => ?_
  obtain ⟨entry, hentry⟩ := hsource
  have htarget : folder ++ [name] <+: setup.machine.at (stageDir.slash file) := by
    rw [at_slash hfile hup, hstage]
    exact List.prefix_append ..
  refine (apply_move_changes happly htarget).mono ?_
  rintro q n (hq | ⟨hq, hn⟩ | ⟨hn, hq⟩)
  · exact .inl hq
  · exact .inr (.inl ⟨entry, hentry ▸ hq, hn⟩)
  · exact stagingChange_below hn hq

/-- The files of a folder's pairs. -/
def InFolder (setup : Setup) (folder : FsPath) (pair : Pair) : Prop :=
  (pair.csvPath.NamesEntry ∧ setup.machine.at pair.csvPath.parent = folder) ∧
    pair.ngbPath.NamesEntry ∧ setup.machine.at pair.ngbPath.parent = folder

theorem relocatePairs_staging {before : Fs}
    (hstage : setup.machine.at stageDir = folder ++ [name])
    (hpairs : ∀ pair ∈ pairs, InFolder setup folder pair) :
    Keeps (fun s => Fs.Changes (StagingChange folder (folder ++ [name])) before s.world.fs)
      (relocatePairs setup stageDir pairs) := by
  induction pairs with
  | nil => exact .pure _
  | cons pair rest ih =>
    obtain ⟨⟨hcsv, hcsvAt⟩, hngb, hngbAt⟩ := hpairs pair (.head _)
    have hmove : ∀ {p : PurePath}, p.NamesEntry → setup.machine.at p.parent = folder →
        Keeps (fun s => Fs.Changes (StagingChange folder (folder ++ [name])) before s.world.fs)
          (onDisk setup.machine (.move p (stageDir.slash p.name))) := fun hp hat =>
      move_staging hstage (PurePath.name_segment hp.1) hp.2 ⟨_, hat ▸ at_parent hp⟩
    refine .bind ?_ fun _ =>
      .bind (ih fun pair' hpair' => hpairs pair' (.tail _ hpair')) fun _ => .pure _
    exact .bind (hmove hcsv hcsvAt) fun _ => .bind (hmove hngb hngbAt) fun _ => .pure _

/-- A stage directory that has been made, and filled as far as the run has come. -/
theorem staging_within {dir : PurePath} {s₁ s₂ : PsaWorld}
    (hchild : ChildOf dir stageDir)
    (hcreated : StageCreated setup s stageDir s₁)
    (hpairs : ∀ pair ∈ pairs, InFolder setup (setup.machine.at dir) pair)
    (hrun : ((relocatePairs setup stageDir pairs).run s₁).2 = s₂) :
    StagedWithin (setup.machine.at dir) s.world.fs s₂.world.fs := by
  obtain ⟨name, hstage⟩ := hchild.at setup.machine
  refine ⟨name, hstage ▸ hcreated.vacant, ?_⟩
  have hmade : Fs.Changes (StagingChange (setup.machine.at dir) (setup.machine.at dir ++ [name]))
      s.world.fs s₁.world.fs :=
    hcreated.extended.changes.mono fun q n hq => stagingChange_below hq.1 (hstage ▸ hq.2)
  have hfilled := relocatePairs_staging hstage hpairs s₁ hmade
  subst hrun
  rcases hfilled.run with ⟨_, -, h⟩ | ⟨_, -, h⟩
  · exact h
  · exact h

end

-- ---------------------------------------------------------------------------
-- Where the batches are
-- ---------------------------------------------------------------------------

/-- Each batch stands under its directory, with its files there, and each NGB that has been
staged leads to a directory of its folder. -/
structure Housed (state : ProcessorState) : Prop where
  batches : ∀ text batch, state.stagedBatches text = some batch → text = batch.stageDir.str ∧
    Inside batch.namePrefix ∧
    ∀ pair ∈ batch.pairs, ChildOf batch.stageDir pair.csvPath ∧ ChildOf batch.stageDir pair.ngbPath
  mapped : ∀ text stage, state.ngbToStage text = some stage →
    ChildOf (PurePath.parse text).parent (PurePath.parse stage)

section
variable [Interpreter] {setup : Setup} {s s' : PsaWorld} {path : PurePath} {now : Seconds}
  {sourcePath : String} {past : List PurePath}

omit [Interpreter] in
theorem Housed.kept {state state' : ProcessorState} (h : Housed state)
    (batches : ∀ key batch, state'.stagedBatches key = some batch →
      state.stagedBatches key = some batch)
    (mapped : ∀ key stage, state'.ngbToStage key = some stage →
      state.ngbToStage key = some stage) : Housed state' :=
  ⟨fun text batch hb => h.batches text batch (batches text batch hb),
    fun text stage hs => h.mapped text stage (mapped text stage hs)⟩

theorem Housed.purged (h : Housed s.state) : Housed (purgedState setup now s) :=
  h.kept (fun _ _ hb => (Option.filter_eq_some_iff.mp hb).1)
    fun _ _ hs => (Option.filter_eq_some_iff.mp hs).1

/-- The pairs of a folder that is completed are its own files. -/
theorem Orderly.inFolder (h : Orderly setup past (purgedState setup now s)) {sentinel : Sentinel}
    (hsentinel : (folderOf setup now s path).sentinel = some sentinel) (hpath : path.NamesEntry) :
    ∀ pair ∈ (folderOf setup now s path).bucket ++ [⟨sentinel.csvPath, path, now⟩],
      InFolder setup (setup.machine.at path.parent) pair := by
  have htracked : ∀ file, (∃ since, (file, since) ∈ (folderOf setup now s path).waiting) →
      file.NamesEntry ∧ setup.machine.at file.parent = setup.machine.at path.parent := by
    rintro file ⟨since, hfile⟩
    exact h.entries _ file (List.mem_map_of_mem (f := Prod.fst) hfile)
  intro pair hpair
  rcases List.mem_append.mp hpair with hpair | hpair
  · exact ⟨htracked _ ⟨_, mem_waiting.mpr (.inr (.inl ⟨pair, hpair, .inl rfl, rfl⟩))⟩,
      htracked _ ⟨_, mem_waiting.mpr (.inr (.inl ⟨pair, hpair, .inr rfl, rfl⟩))⟩⟩
  · cases List.mem_singleton.mp hpair
    exact ⟨htracked _ ⟨_, mem_waiting.mpr (.inr (.inr ⟨sentinel, hsentinel, rfl, rfl⟩))⟩,
      hpath, rfl⟩

omit [Interpreter] in
theorem relocated_child {folder : FsPath} {stageDir : PurePath} {pair : Pair}
    (h : InFolder setup folder pair) : ChildOf stageDir (relocated stageDir pair).csvPath ∧
      ChildOf stageDir (relocated stageDir pair).ngbPath :=
  ⟨⟨_, PurePath.name_segment h.1.1.1, h.1.1.2, rfl⟩, _, PurePath.name_segment h.2.1.1, h.2.1.2, rfl⟩

section
variable (horderly : Orderly setup past s.state) (hpath : path.NamesEntry)
  (hinside : normalizeExtension sourcePath = ".ngb" →
    ∀ sentinel, (folderOf setup now s path).sentinel = some sentinel → Inside sentinel.stagePrefix)
include horderly hpath hinside

theorem Filed.housed (hhoused : Housed s.state) (h : Filed setup now s sourcePath path s') :
    Housed s'.state := by
  have hpurged : Housed (purgedState setup now s) := hhoused.purged
  cases h with
  | bucketed _ _ _ state _ => exact state ▸ hpurged.kept (fun _ _ hb => hb) fun _ _ hs => hs
  | sentinel _ _ _ state _ => exact state ▸ hpurged.kept (fun _ _ hb => hb) fun _ _ hs => hs
  | pending _ state _ => exact state ▸ hpurged.kept (fun _ _ hb => hb) fun _ _ hs => hs
  | staged sentinel stageDir s₁ s₂ pairs ngb waiting candidate _ relocated state _ _ =>
    have hinner : Inside sentinel.stagePrefix := hinside ngb sentinel waiting
    obtain ⟨i, hcandidate⟩ := candidate
    refine ⟨fun text batch hbatch => ?_, fun text stage hstage => ?_⟩
    · rw [state] at hbatch
      by_cases htext : text = stageDir.str
      · rw [htext] at hbatch
        cases Option.some.inj (hbatch.symm.trans (Function.update_self ..))
        refine ⟨htext, hinner, fun pair hpair => ?_⟩
        rw [relocatePairs_eq.ok relocated] at hpair
        obtain ⟨pair, hmem, rfl⟩ := List.mem_map.mp hpair
        exact relocated_child (horderly.purged.inFolder waiting hpath pair hmem)
      · exact hpurged.batches text batch ((Function.update_of_ne htext ..).symm.trans hbatch)
    · rw [state] at hstage
      by_cases htext : text = path.str
      · rw [htext] at hstage ⊢
        have hstageDir : stage = stageDir.str :=
          Option.some.inj (hstage.symm.trans (Function.update_self ..))
        rw [hstageDir, PurePath.parse_str, PurePath.parse_str, hcandidate]
        exact stageCandidate_child hinner i
      · exact hpurged.mapped text stage ((Function.update_of_ne htext ..).symm.trans hstage)

theorem Filed.within (h : Filed setup now s sourcePath path s') : s'.world.fs = s.world.fs ∨
    StagedWithin (setup.machine.at path.parent) s.world.fs s'.world.fs := by
  cases h with
  | bucketed _ _ _ _ unmoved => exact .inl unmoved.fs
  | sentinel _ _ _ _ unmoved => exact .inl unmoved.fs
  | pending _ _ unmoved => exact .inl unmoved.fs
  | staged sentinel stageDir s₁ s₂ pairs ngb waiting candidate created relocated _ world _ =>
    obtain ⟨i, rfl⟩ := candidate
    rw [world]
    have hwithin := staging_within (stageCandidate_child (hinside ngb sentinel waiting) i) created
      (horderly.purged.inFolder waiting hpath) (congrArg Prod.snd relocated)
    exact .inr hwithin

theorem Refused.within (h : Refused setup now s sourcePath path s') : s'.world.fs = s.world.fs ∨
    StagedWithin (setup.machine.at path.parent) s.world.fs s'.world.fs := by
  cases h with
  | early _ unmoved => exact .inl unmoved.fs
  | purged _ unmoved => exact .inl unmoved.fs
  | interrupted sentinel stageDir s₁ e ngb waiting candidate created relocated =>
    obtain ⟨i, rfl⟩ := candidate
    have hwithin := staging_within (stageCandidate_child (hinside ngb sentinel waiting) i) created
      (horderly.purged.inFolder waiting hpath) (congrArg Prod.snd relocated)
    exact .inr hwithin

end

theorem Refused.housed (hhoused : Housed s.state)
    (h : Refused setup now s sourcePath path s') : Housed s'.state := by
  rcases h.state with hstate | hstate
  · exact hstate ▸ hhoused
  · exact hstate ▸ hhoused.purged

-- ---------------------------------------------------------------------------
-- Finalizing
-- ---------------------------------------------------------------------------

/-- A batch that can be finalized: its files are in the stage directory, no CSV is a directory,
and its CSVs are not written to one. -/
structure Ready (setup : Setup) (fs : Fs) (stageDir : PurePath) (batch : StagedBatch) : Prop where
  inside : Inside batch.namePrefix
  pairs : ∀ pair ∈ batch.pairs, ChildOf stageDir pair.csvPath ∧ ChildOf stageDir pair.ngbPath ∧
    fs.node (setup.machine.at pair.csvPath) ≠ some .dir
  targets : ∀ n, fs.node (setup.machine.at
    (csvDest stageDir.parent (batch.namePrefix ++ "-" ++ twoDigits n))) ≠ some .dir

/-- What finalizing has changed so far. -/
def Finalizing (setup : Setup) (stageDir : PurePath) (fs : Fs) (s : PsaWorld) : Prop :=
  Fs.Changes (FinalizingChange (setup.machine.at stageDir.parent) (setup.machine.at stageDir)) fs
    s.world.fs

theorem nextSequenceBasename_spec (directory : PurePath) (namePrefix : String) :
    Triple (nextSequenceBasename setup directory namePrefix) s
      (fun basename s' => s'.world.fs = s.world.fs ∧
        ∃ n, basename = namePrefix ++ "-" ++ twoDigits n)
      fun _ s' => s'.world.fs = s.world.fs := by
  refine .bind (Q := fun _ s' => s'.world.fs = s.world.fs)
    (.onDisk (fun _ _ happly => (apply_iterdir happly).1) fun _ _ => rfl) fun names s₁ h₁ => ?_
  exact .look (.bind (Q := fun _ s' => s'.world.fs = s.world.fs)
    (.lift (fun _ _ => h₁) fun _ _ => h₁) fun highest _ h₂ => .pure ⟨h₂, _, rfl⟩)

section
variable {stageDir : PurePath} {namePrefix : String} {fs : Fs} {pair : Pair} {name : String}
  (hstage : setup.machine.at stageDir = setup.machine.at stageDir.parent ++ [name])
include hstage

omit [Interpreter] in
/-- A file of the stage directory is as it was, or gone. -/
theorem Finalizing.source {p : PurePath} (h : Finalizing setup stageDir fs s)
    (hchild : ChildOf stageDir p) : s.world.fs.node (setup.machine.at p) =
      fs.node (setup.machine.at p) ∨ s.world.fs.node (setup.machine.at p) = none := by
  obtain ⟨file, hfile⟩ := hchild.at setup.machine
  rcases h (setup.machine.at p) with hkept | ⟨-, hnone⟩ | ⟨entry, -, hentry, -⟩ | ⟨-, habove⟩
  · exact .inl hkept
  · exact .inr hnone
  · rw [hfile, hstage] at hentry
    simpa using congrArg List.length hentry
  · have hle := habove.length_le
    rw [hfile, hstage] at hle
    simp at hle

omit [Interpreter] hstage in
/-- No directory comes to be in the folder. -/
theorem Finalizing.target {q : FsPath} (h : Finalizing setup stageDir fs s)
    (hq : ∃ entry, q = setup.machine.at stageDir.parent ++ [entry]) (hdir : fs.node q ≠ some .dir) :
    s.world.fs.node q ≠ some .dir := by
  obtain ⟨entry, rfl⟩ := hq
  rcases h (setup.machine.at stageDir.parent ++ [entry]) with
    hkept | ⟨-, hnone⟩ | ⟨_, content, -, hfile⟩ | ⟨-, habove⟩
  · rwa [hkept]
  · rw [hnone]
    nofun
  · rw [hfile]
    nofun
  · have hle := habove.length_le
    simp at hle

omit [Interpreter] hstage in
theorem Finalizing.same (h : Finalizing setup stageDir fs s) (hfs : s'.world.fs = s.world.fs) :
    Finalizing setup stageDir fs s' := by
  unfold Finalizing
  rwa [hfs]

omit [Interpreter] hstage in
theorem zipNgb_finalizing {destination : PurePath} {archiveName : String} {p : PurePath}
    (hsource : ChildOf stageDir p) (htarget : ChildOf stageDir.parent destination) :
    Keeps (Finalizing setup stageDir fs) (zipNgb setup p destination archiveName) := by
  obtain ⟨entry, hentry⟩ := htarget.at setup.machine
  obtain ⟨file, hfile⟩ := hsource.at setup.machine
  have hwritten : ∀ q n, (q = setup.machine.at destination ∧ ∃ content, n = some (.file content)) →
      FinalizingChange (setup.machine.at stageDir.parent) (setup.machine.at stageDir) q n := by
    rintro _ _ ⟨rfl, content, rfl⟩
    exact .inr (.inl ⟨entry, content, hentry, rfl⟩)
  unfold zipNgb
  refine .bind (onDisk_changes fun _ _ _ happly => (apply_openZip_changes happly).mono hwritten)
    fun _ => ?_
  refine .bind (onDisk_changes fun _ _ _ happly => (apply_writeZip_changes happly).mono hwritten)
    fun _ => ?_
  refine onDisk_changes fun _ _ _ happly => (apply_unlink_changes happly).mono ?_
  rintro _ _ ⟨rfl, rfl⟩
  rw [hfile]
  exact .inl ⟨List.prefix_append .., rfl⟩

theorem finalizePair_finalizing (hinside : Inside namePrefix) (hcsv : ChildOf stageDir pair.csvPath)
    (hngb : ChildOf stageDir pair.ngbPath)
    (hsource : fs.node (setup.machine.at pair.csvPath) ≠ some .dir)
    (htargets : ∀ n, fs.node (setup.machine.at
      (csvDest stageDir.parent (namePrefix ++ "-" ++ twoDigits n))) ≠ some .dir) :
    Keeps (Finalizing setup stageDir fs) (finalizePair setup stageDir.parent namePrefix pair) := by
  intro s₁ h₁
  unfold finalizePair
  refine .look ?_
  split
  · exact .raise h₁
  · refine .bind ((nextSequenceBasename_spec _ _).mono (fun _ _ h => h)
      fun _ _ hfs => h₁.same hfs) ?_
    rintro _ s₂ ⟨hfs, n, rfl⟩
    have h₂ := h₁.same hfs
    have hcsvDest : ChildOf stageDir.parent
        (csvDest stageDir.parent (namePrefix ++ "-" ++ twoDigits n)) :=
      output_child hinside n (by decide) (by decide)
    obtain ⟨entry, hentry⟩ := hcsvDest.at setup.machine
    refine .bind (Q := fun _ => Finalizing setup stageDir fs) (.onDisk ?_ fun _ _ => h₂) ?_
    · intro _ fs' happly
      have hfile : s₂.world.fs.node (setup.machine.at pair.csvPath) ≠ some .dir := by
        rcases h₂.source hstage hcsv with hkept | hgone
        · rwa [hkept]
        · rw [hgone]
          nofun
      have hfree := h₂.target ⟨entry, hentry⟩ (htargets n)
      refine h₂.trans ((apply_move_file_changes happly hfile hfree).mono ?_)
      rintro q node (⟨rfl, content, hnode⟩ | ⟨hq, hnode⟩ | ⟨hnode, hq⟩)
      · exact .inr (.inl ⟨entry, content, hentry, hnode⟩)
      · obtain ⟨file, hat⟩ := hcsv.at setup.machine
        rw [hat] at hq
        exact .inl ⟨(List.prefix_append ..).trans hq, hnode⟩
      · rw [hentry, List.dropLast_concat] at hq
        exact .inr (.inr ⟨hnode, hq⟩)
    · intro _ s₃ h₃
      have hzipDest : ChildOf stageDir.parent
          (zipDest stageDir.parent (namePrefix ++ "-" ++ twoDigits n)) :=
        output_child hinside n (by decide) (by decide)
      exact (zipNgb_finalizing hngb hzipDest s₃ h₃).bind fun _ _ h => .pure h

theorem finalizePairs_finalizing {batch : StagedBatch} {pairs : List Pair}
    (hready : Ready setup fs stageDir batch) (hpairs : pairs ⊆ batch.pairs) :
    Keeps (Finalizing setup stageDir fs)
      (finalizePairs setup stageDir.parent batch.namePrefix pairs) := by
  induction pairs with
  | nil => exact .pure _
  | cons pair rest ih =>
    obtain ⟨hmem, hrest⟩ := List.cons_subset.mp hpairs
    obtain ⟨hcsv, hngb, hsource⟩ := hready.pairs pair hmem
    exact .bind (finalizePair_finalizing hstage hready.inside hcsv hngb hsource hready.targets)
      fun _ =>
      .bind (ih hrest) fun _ => .pure _

omit [Interpreter] hstage in
theorem cleanupStageDir_finalizing :
    Keeps (Finalizing setup stageDir fs) (cleanupStageDir setup stageDir) := by
  have hremoved : Keeps (Finalizing setup stageDir fs)
    (onDisk setup.machine (.rmdir stageDir)) := by
    refine onDisk_changes fun _ _ _ happly => (apply_rmdir_changes happly).mono ?_
    rintro _ _ ⟨rfl, rfl⟩
    exact .inl ⟨List.prefix_rfl, rfl⟩
  have hlisted : Keeps (Finalizing setup stageDir fs) (onDisk setup.machine (.iterdir stageDir)) :=
    onDisk_changes fun _ _ _ happly => (apply_iterdir happly).1 ▸ .refl _ _
  refine .bind .inspect fun present => ?_
  split
  · exact .pure _
  · refine .bind hlisted fun names => ?_
    split
    · exact .pure _
    · exact hremoved

end

-- ---------------------------------------------------------------------------
-- The batch of a stage directory
-- ---------------------------------------------------------------------------

section
variable {stageDir : PurePath}

omit [Interpreter] in
/-- Above a directory there is no file. -/
theorem up_not_file {fs : Fs} {p : PurePath} (hdir : fs.isDir (setup.machine.at p) = true) :
    fs.isFile (setup.machine.at (p.slash "..")) = false := by
  have hnode : fs.node (setup.machine.at p) = some .dir := by simpa [Fs.isDir] using hdir
  have hat : setup.machine.at (p.slash "..") = (setup.machine.at p).dropLast := by
    have hup : PurePath.parse ".." = ⟨.relative, [".."], by decide⟩ := by decide
    have hroot : (p.slash "..").root = p.root := by
      simp [PurePath.slash, PurePath.join, hup]
    rw [Machine.at, PurePath.locate, slash_parts (by decide), hroot, FsPath.walk_append]
    rfl
  have hparent : fs.node (setup.machine.at p).dropLast = some .dir := by
    rcases List.eq_nil_or_concat (setup.machine.at p) with hnil | ⟨init, last, hconcat⟩
    · rw [hnil]
      exact fs.root
    · rw [hconcat, List.concat_eq_append] at hnode
      rw [hconcat, List.concat_eq_append, List.dropLast_concat]
      exact fs.parent _ _ (by rw [hnode]; rfl)
  rw [hat, Fs.isFile, hparent]

/-- A file that a stage directory lists. -/
def StagedFile (setup : Setup) (fs : Fs) (stageDir : PurePath) (name : String) : Prop :=
  ChildOf stageDir (stageDir.slash name) ∧
    fs.node (setup.machine.at (stageDir.slash name)) ≠ some .dir

omit [Interpreter] in
theorem listFiles_spec {suitable : String → Bool} {fs : Fs} (hfs : s.world.fs = fs)
    (hdir : fs.isDir (setup.machine.at stageDir) = true) :
    Triple (listFiles setup stageDir suitable) s
      (fun names s' => s'.world.fs = fs ∧ ∀ name ∈ names, StagedFile setup fs stageDir name)
      fun _ s' => s'.world.fs = fs := by
  refine .bind (Q := fun names s' => s'.world.fs = fs ∧ ∀ name ∈ names, IsSegment name)
    (.onDisk (fun names fs' happly => ?_) fun _ _ => hfs) fun names s₁ h₁ =>
      .look (.pure ⟨h₁.1, ?_⟩)
  · obtain ⟨rfl, rfl⟩ := apply_iterdir happly
    exact ⟨hfs, fun name hname => by simpa using (List.mem_filter.mp hname).2⟩
  · intro name hname
    obtain ⟨hmem, hfile⟩ := List.mem_filter.mp (List.mem_mergeSort.mp hname)
    rw [id, h₁.1, Bool.and_eq_true] at hfile
    obtain ⟨content, hcontent⟩ := Fs.isFile_iff.mp hfile.1
    refine ⟨⟨name, h₁.2 name hmem, ?_, rfl⟩, by rw [hcontent]; nofun⟩
    rintro rfl
    rw [up_not_file hdir] at hfile
    exact absurd hfile.1 (by decide)

omit [Interpreter] in
theorem groupByStem_mem {names : List String} {stem name : String}
    (h : name ∈ groupByStem names stem) : name ∈ names := (List.mem_filter.mp h).1

omit [Interpreter] in
theorem remaining_mem {names others : List String} {name : String}
    (h : name ∈ remaining names others) : name ∈ names := by
  obtain ⟨stem, -, hname⟩ := List.mem_flatMap.mp (List.mem_mergeSort.mp h)
  exact groupByStem_mem (List.mem_of_mem_drop hname)

omit [Interpreter] in
theorem pairNames_mem {csvNames ngbNames : List String} {paired : List (String × String)}
    (h : pairNames csvNames ngbNames = .ok paired) {csv ngb : String} (hmem : (csv, ngb) ∈ paired) :
    csv ∈ csvNames ∧ ngb ∈ ngbNames := by
  unfold pairNames at h
  split at h
  · cases h
  · split at h
    · cases h
    · cases h
      rcases List.mem_append.mp hmem with hmem | hmem
      · obtain ⟨stem, -, hzip⟩ := List.mem_flatMap.mp hmem
        obtain ⟨hcsv, hngb⟩ := List.of_mem_zip hzip
        exact ⟨groupByStem_mem hcsv, groupByStem_mem hngb⟩
      · obtain ⟨hcsv, hngb⟩ := List.of_mem_zip hmem
        exact ⟨remaining_mem hcsv, remaining_mem hngb⟩

theorem reconstruct_spec {fs : Fs} (hfs : s.world.fs = fs)
    (htargets : ∀ n, fs.node (setup.machine.at
      (csvDest stageDir.parent (prefixOfStage stageDir ++ "-" ++ twoDigits n))) ≠ some .dir) :
    Triple (reconstructBatchFromStage setup stageDir now) s
      (fun batch s' => s'.world.fs = fs ∧ Ready setup fs stageDir batch)
      fun _ s' => s'.world.fs = fs := by
  unfold reconstructBatchFromStage
  refine .look ?_
  split
  · exact .raise hfs
  · rename_i hdir
    rw [hfs, Bool.not_eq_true, Bool.not_eq_false'] at hdir
    refine .bind (listFiles_spec hfs hdir) fun csvNames s₁ h₁ => ?_
    refine .bind (listFiles_spec h₁.1 hdir) fun ngbNames s₂ h₂ => ?_
    refine .bind (Q := fun paired s' => s'.world.fs = fs ∧ pairNames csvNames ngbNames = .ok paired)
      (.lift (fun _ hpaired => ⟨h₂.1, hpaired⟩) fun _ _ => h₂.1) ?_
    rintro paired s₃ ⟨h₃, hpaired⟩
    refine .pure ⟨h₃, prefixOfStage_inside stageDir, fun pair hpair => ?_, htargets⟩
    obtain ⟨⟨csv, ngb⟩, hmem, rfl⟩ := List.mem_map.mp hpair
    obtain ⟨hcsv, hngb⟩ := pairNames_mem hpaired hmem
    exact ⟨(h₁.2 csv hcsv).1, (h₂.2 ngb hngb).1, (h₁.2 csv hcsv).2⟩

theorem popBatch_spec (hhoused : Housed s.state) (hclear : Clear setup s stageDir) :
    Triple (popBatch setup stageDir now) s
      (fun batch s' => s'.world.fs = s.world.fs ∧ Ready setup s.world.fs stageDir batch)
      fun _ s' => s'.world.fs = s.world.fs := by
  have htargets := hclear.targets
  unfold popBatch
  refine .readThen (.writeThen ?_)
  cases hbatch : s.state.stagedBatches stageDir.str with
  | none =>
    refine reconstruct_spec rfl fun n => ?_
    simpa [batchPrefix, hbatch, Fs.isDir] using htargets n
  | some batch =>
    obtain ⟨htext, hinside, hpairs⟩ := hhoused.batches _ _ hbatch
    obtain rfl := PurePath.str_injective htext
    refine .pure ⟨rfl, hinside, fun pair hpair => ?_, fun n => ?_⟩
    · exact ⟨(hpairs pair hpair).1, (hpairs pair hpair).2,
        by simpa [Fs.isDir] using hclear.sources batch hbatch pair hpair⟩
    · simpa [batchPrefix, hbatch, Fs.isDir] using htargets n

-- ---------------------------------------------------------------------------
-- Payloads
-- ---------------------------------------------------------------------------

theorem preparedKind_staged : preparedKind (stagedPayload setup stageDir) = stagedKind := by
  change strip stagedKind = stagedKind
  decide +kernel

omit [Interpreter] in
theorem requireSourcePath_staged {text : String}
    (h : requireSourcePath (stagedPayload setup stageDir) = .ok text) :
      text = strip stageDir.str := by
  have hgiven : (stagedPayload setup stageDir).getNone "source_path" = .str stageDir.str := rfl
  unfold requireSourcePath at h
  rw [hgiven] at h
  dsimp only at h
  split at h
  · cases h
  · exact (Except.ok.inj h).symm

theorem outputDirIn_staged (h : strip stageDir.parent.str = stageDir.parent.str) :
    outputDirIn (stagedPayload setup stageDir) stageDir = stageDir.parent := by
  have hgiven : outputDirIn (stagedPayload setup stageDir) stageDir = PurePath.parse
      (if strip stageDir.parent.str = "" then stageDir.parent.str
        else strip stageDir.parent.str) := rfl
  rw [hgiven, h, ite_self, PurePath.parse_str]

theorem preparedKind_waiting {kind namePrefix : String} (hkind : strip kind = kind) :
    preparedKind (waitingPayload setup path kind namePrefix) = kind := by
  have hgiven : preparedKind (waitingPayload setup path kind namePrefix) = strip kind := by
    unfold waitingPayload
    split <;> rfl
  rw [hgiven, hkind]

/-- What `prepare` returns: that a file waits, or the directory the NGB has been staged in. -/
def Answers (setup : Setup) (path : PurePath) (payload : Dict) (state : ProcessorState) : Prop :=
  preparedKind payload ∈ waitingKinds ∨
    ∃ stageDir, payload = stagedPayload setup stageDir ∧
      state.ngbToStage path.str = some stageDir.str

theorem prepareCsv_answers {key : FsPath} :
    Triple (prepareCsv setup path key now) s
      (fun payload s' => Answers setup path payload s'.state) fun _ _ => True := by
  unfold prepareCsv
  refine .bind (Q := fun _ _ => True)
    (Triple.result.mono (fun _ _ _ => trivial) fun _ _ _ => trivial)
    fun namePrefix s₁ _ => .readThen ?_
  dsimp only
  split
  · refine .writeThen (.pure (.inl ?_))
    rw [preparedKind_waiting (by decide +kernel)]
    decide
  · refine .writeThen (.pure (.inl ?_))
    rw [preparedKind_waiting (by decide +kernel)]
    decide

theorem prepareNgb_answers {key : FsPath} :
    Triple (prepareNgb setup path key now) s
      (fun payload s' => Answers setup path payload s'.state) fun _ _ => True := by
  unfold prepareNgb
  refine .readThen ?_
  dsimp only
  split
  · refine .writeThen (.pure (.inl ?_))
    rw [preparedKind_waiting (by decide +kernel)]
    decide
  · have hany : ∀ {α} {m : PsaM α} {s : PsaWorld}, Triple m s (fun _ _ => True) fun _ _ => True :=
      Triple.result.mono (fun _ _ _ => trivial) fun _ _ _ => trivial
    refine .bind hany fun stageDir s₁ _ => .bind hany fun pairs s₂ _ => .writeThen (.pure (.inr ?_))
    exact ⟨stageDir, rfl, Function.update_self ..⟩

theorem prepareFile_answers :
    Triple (prepareFile setup sourcePath now) s
      (fun payload s' => Answers setup (PurePath.parse sourcePath) payload s'.state)
      fun _ _ => True := by
  unfold prepareFile
  dsimp only
  split
  · exact .raise trivial
  · refine .look ?_
    split
    · exact .raise trivial
    · refine .bind (Q := fun _ _ => True) (.look (.write trivial)) fun _ s₁ _ => ?_
      split
      · exact prepareCsv_answers
      · split
        · exact prepareNgb_answers
        · exact .raise trivial

-- ---------------------------------------------------------------------------
-- One call
-- ---------------------------------------------------------------------------

theorem process_within (hhoused : Housed s.state)
    (hstage : ∃ name, setup.machine.at stageDir = setup.machine.at stageDir.parent ++ [name])
    (hplain : Plain setup s (.process now (stagedPayload setup stageDir))) :
    Finalizing setup stageDir s.world.fs
      (play setup s (.process now (stagedPayload setup stageDir))) := by
  obtain ⟨hstrip, hparent, hclear⟩ := hplain stageDir rfl
  obtain ⟨name, hname⟩ := hstage
  have hstart : Finalizing setup stageDir s.world.fs s := .refl _ _
  suffices h : Triple (process setup now (stagedPayload setup stageDir)) s
      (fun _ => Finalizing setup stageDir s.world.fs)
      fun _ => Finalizing setup stageDir s.world.fs by
    rcases h.run with ⟨_, -, h⟩ | ⟨_, -, h⟩
    · exact h
    · exact h
  unfold process
  rw [preparedKind_staged, if_neg (by decide), if_pos rfl]
  unfold processStagedBatch
  refine .bind (Q := fun text s' => text = stageDir.str ∧ s = s')
    (.lift (fun text htext => ?_) fun _ _ => hstart) ?_
  · exact ⟨(requireSourcePath_staged htext).trans hstrip, rfl⟩
  rintro _ _ ⟨rfl, rfl⟩
  rw [PurePath.parse_str]
  dsimp only
  rw [outputDirIn_staged hparent]
  refine .bind ((popBatch_spec hhoused hclear).mono (fun _ _ h => h)
    fun _ _ hfs => hstart.same hfs) ?_
  rintro batch s₁ ⟨hfs, hready⟩
  have h₁ := hstart.same hfs
  split
  · exact .raise h₁
  · have hmade : Keeps (Finalizing setup stageDir s.world.fs)
        (onDisk setup.machine (.mkdirs stageDir.parent)) :=
      onDisk_changes fun _ _ _ happly => (apply_mkdirs_changes happly).mono fun _ _ hq =>
        .inr (.inr hq)
    refine .bind (hmade s₁ h₁) fun _ s₂ h₂ => ?_
    refine .bind (finalizePairs_finalizing hname hready (List.Subset.refl _) s₂ h₂)
      fun created s₃ h₃ => ?_
    refine .bind (cleanupStageDir_finalizing s₃ h₃) fun _ s₄ h₄ => .writeThen ?_
    split
    · exact .lift (fun _ _ => h₄) fun _ _ => h₄
    · exact .raise h₄

/-- What one `prepare` does to the state and to the disk, and what it answers. -/
structure Prepares (setup : Setup) (s s' : PsaWorld) (rawInput : Value) : Prop where
  housed : Housed s'.state
  within : s'.world.fs = s.world.fs ∨ ∃ path, deliveredPath rawInput = some path ∧
    StagedWithin (setup.machine.at path.parent) s.world.fs s'.world.fs

theorem prepare_within {rawInput : Value} (hhoused : Housed s.state)
    (horderly : Orderly setup past s.state)
    (hentry : ∀ path, deliveredPath rawInput = some path → path.NamesEntry)
    (hplain : Plain setup s (.prepare now rawInput)) :
    Prepares setup s (play setup s (.prepare now rawInput)) rawInput := by
  simp only [play]
  rcases prepare_cases setup s now rawInput with
    ⟨-, e, hrun⟩ | ⟨sourcePath, hdelivered, ⟨stageDir, -, hrun⟩ | ⟨hunmapped, hrun⟩⟩
  · rw [hrun]
    exact ⟨hhoused, .inl rfl⟩
  · rw [hrun]
    exact ⟨hhoused, .inl rfl⟩
  · rw [hrun]
    have hpath : deliveredPath rawInput = some (PurePath.parse sourcePath) := by
      rw [deliveredPath, hdelivered]
      rfl
    have hnames := hentry _ hpath
    have hinside := fun hngb => hplain sourcePath hdelivered hngb hunmapped
    rcases (prepareFile_spec setup s now (rfl : PurePath.parse sourcePath = _)).run with
      ⟨_, -, hfiled⟩ | ⟨_, -, hrefused⟩
    · exact ⟨hfiled.housed horderly hnames hinside hhoused,
        (hfiled.within horderly hnames hinside).imp_right fun h => ⟨_, hpath, h⟩⟩
    · exact ⟨hrefused.housed hhoused,
        (hrefused.within horderly hnames hinside).imp_right fun h => ⟨_, hpath, h⟩⟩

/-- An answer that names a stage directory names one of the folder of its file. -/
theorem prepare_answers {rawInput : Value} {payload : Dict} (hhoused : Housed s.state)
    (hhoused' : Housed s'.state) (hpath : deliveredPath rawInput = some path)
    (hrun : (prepare setup now rawInput).run s = (.ok payload, s')) :
    preparedKind payload ∈ waitingKinds ∨
      ∃ stageDir, payload = stagedPayload setup stageDir ∧ ChildOf path.parent stageDir := by
  rcases prepare_cases setup s now rawInput with
    ⟨-, e, hraised⟩ | ⟨sourcePath, hdelivered, ⟨stage, hmapped, hanswered⟩ | ⟨-, hfile⟩⟩
  · cases hraised.symm.trans hrun
  · have hparse : PurePath.parse sourcePath = path := by
      simpa [deliveredPath, hdelivered] using hpath
    cases hanswered.symm.trans hrun
    exact .inr ⟨_, rfl, hparse ▸ hhoused.mapped sourcePath stage hmapped⟩
  · have hparse : PurePath.parse sourcePath = path := by
      simpa [deliveredPath, hdelivered] using hpath
    rcases prepareFile_answers.ok (hfile.symm.trans hrun) with
      hwaiting | ⟨stageDir, hpayload, hmapped⟩
    · exact .inl hwaiting
    · have hchild := hhoused'.mapped _ _ hmapped
      rw [PurePath.parse_str, PurePath.parse_str, hparse] at hchild
      exact .inr ⟨stageDir, hpayload, hchild⟩

-- ---------------------------------------------------------------------------
-- Runs
-- ---------------------------------------------------------------------------

theorem process_waiting {payload : Dict} (h : preparedKind payload ∈ waitingKinds) :
    play setup s (.process now payload) = s := by
  simp only [play, process, if_pos h]
  rfl

theorem housed_run (setup : Setup) (disk : Disk) {events : List Event}
    (hentries : ∀ path ∈ events.filterMap Event.delivered, path.NamesEntry)
    (hplain : Along setup (Plain setup) (started disk) events) :
    Housed (playAll setup (started disk) events).state := by
  induction events using List.reverseRecOn with
  | nil => exact ⟨nofun, nofun⟩
  | append_singleton events event ih =>
    rw [delivered_snoc] at hentries
    have hbefore : ∀ path ∈ events.filterMap Event.delivered, path.NamesEntry :=
      fun path hpath => hentries path (List.mem_append_left _ hpath)
    have hhoused := ih hbefore fun before event' after hsplit =>
      hplain before event' (after ++ [event]) (by rw [hsplit, List.append_assoc, List.cons_append])
    have hstep := hplain events event [] rfl
    rw [playAll_snoc]
    cases event with
    | prepare now rawInput =>
      refine (prepare_within hhoused (orderly_run setup _ (started_orderly disk) hbefore)
        (fun path hpath => hentries path (List.mem_append_right _ ?_)) hstep).housed
      simp [Event.delivered, hpath]
    | process now payload =>
      have hplayed := play_played setup (playAll setup (started disk) events) (.process now payload)
      generalize play setup (playAll setup (started disk) events) (.process now payload) =
        s' at hplayed ⊢
      cases hplayed with
      | kept _ _ batches mapped => exact hhoused.kept batches mapped
    | disk disk => exact hhoused

theorem confined (setup : Setup) (disk : Disk) (events : List Event)
    (hentries : ∀ path ∈ events.filterMap Event.delivered, path.NamesEntry)
    (hplain : Along setup (Plain setup) (started disk) events) :
    ConfinedRun setup (started disk) events := by
  have hearlier : ∀ before event after, events = before ++ event :: after →
      (∀ path ∈ before.filterMap Event.delivered, path.NamesEntry) ∧
        Along setup (Plain setup) (started disk) before := by
    rintro before event after rfl
    refine ⟨fun path hpath => hentries path ?_, fun early event' late hsplit => ?_⟩
    · rw [List.filterMap_append]
      exact List.mem_append_left _ hpath
    · exact hplain early event' (late ++ event :: after)
        (by rw [hsplit, List.append_assoc, List.cons_append])
  have hhoused : ∀ before event after, events = before ++ event :: after →
      Housed (playAll setup (started disk) before).state := fun before event after hevents =>
    housed_run setup disk (hearlier before event after hevents).1
      (hearlier before event after hevents).2
  have hprepares : ∀ before now rawInput after, events = before ++ .prepare now rawInput :: after →
      Prepares setup (playAll setup (started disk) before)
        (play setup (playAll setup (started disk) before) (.prepare now rawInput)) rawInput := by
    intro before now rawInput after hevents
    refine prepare_within (hhoused _ _ _ hevents)
      (orderly_run setup _ (started_orderly disk) (hearlier _ _ _ hevents).1) (fun path hpath => ?_)
      (hplain before _ after hevents)
    refine hentries path ?_
    rw [hevents, List.filterMap_append]
    exact List.mem_append_right _ (by simp [Event.delivered, hpath])
  refine ⟨fun before now rawInput after hevents => (hprepares _ _ _ _ hevents).within, ?_⟩
  rintro before now payload after path hevents
    ⟨early, now', rawInput, late, s', hbefore, hpath, hrun⟩
  have hevents' : events = early ++
    .prepare now' rawInput :: (late ++ .process now payload :: after) := by
    rw [hevents, hbefore, List.append_assoc, List.cons_append]
  have hplay : play setup (playAll setup (started disk) early) (.prepare now' rawInput) = s' :=
    congrArg Prod.snd hrun
  have hhoused' : Housed s'.state := hplay ▸ (hprepares _ _ _ _ hevents').housed
  rcases prepare_answers (hhoused _ _ _ hevents') hhoused' hpath hrun with
    hwaiting | ⟨stageDir, rfl, hchild⟩
  · rw [process_waiting hwaiting]
    exact ⟨"", .refl _ _⟩
  · obtain ⟨name, hname⟩ := hchild.at setup.machine
    rw [← hchild.parent] at hname ⊢
    have hfinal := process_within (hhoused _ _ _ hevents) ⟨name, hname⟩
      (hplain before _ after hevents)
    unfold Finalizing at hfinal
    rw [hname] at hfinal
    exact ⟨name, hfinal⟩

end

end

section
attribute [local instance] Interpreter.ascii

def csvThenNgb : List Event := [.prepare 0 (deliver "/w/a.csv"), .prepare 1 (deliver "/w/a.ngb")]

theorem csvThenNgb_plain : Along plainSetup (Plain plainSetup) (started pairDisk) csvThenNgb := by
  rintro (_ | ⟨first, _ | ⟨second, before⟩⟩) event after hevents
  · obtain ⟨rfl, -⟩ := List.cons.inj hevents
    intro sourcePath hpath hngb
    have htext : deliveredText (deliver "/w/a.csv") = some "/w/a.csv" := by decide +kernel
    cases Option.some.inj (hpath.symm.trans htext)
    exact absurd hngb (by decide +kernel)
  · obtain ⟨rfl, hrest⟩ := List.cons.inj hevents
    obtain ⟨rfl, -⟩ := List.cons.inj hrest
    intro sourcePath hpath _ _ sentinel hsentinel
    have htext : deliveredText (deliver "/w/a.ngb") = some "/w/a.ngb" := by decide +kernel
    cases Option.some.inj (hpath.symm.trans htext)
    have hstem : (folderOf plainSetup 1 (playAll plainSetup (started pairDisk)
        [.prepare 0 (deliver "/w/a.csv")]) (PurePath.parse "/w/a.ngb")).sentinel.map
          Sentinel.stagePrefix = some "a" := by decide +kernel
    rw [hsentinel] at hstem
    rw [Option.some.inj hstem]
    decide
  · simp [csvThenNgb] at hevents

theorem csvThenNgb_confined : ConfinedRun plainSetup (started pairDisk) csvThenNgb := by
  have hdelivered : csvThenNgb.filterMap Event.delivered =
      [PurePath.parse "/w/a.csv", PurePath.parse "/w/a.ngb"] := by decide +kernel
  refine confined plainSetup pairDisk csvThenNgb ?_ csvThenNgb_plain
  rw [hdelivered]
  decide +kernel

/-- Every CSV names the probe `../x`. -/
def escapingSetup : Setup := { plainSetup with decode := fun _ _ => some "Probenname;../x" }

def nestedDisk : Disk := { fs := Fs.ofFiles [["w", "a", "s.csv"], ["w", "a", "s.ngb"]] }

def escapingRun : List Event :=
  [.prepare 0 (deliver "/w/a/s.csv"), .prepare 1 (deliver "/w/a/s.ngb")]

/-- The stage directory of `/w/a/s.ngb` is a child of `/w`. -/
theorem prefix_escapes : ¬ ConfinedRun escapingSetup (started nestedDisk) escapingRun := by
  intro h
  have hbefore : (playAll escapingSetup (started nestedDisk)
      [.prepare 0 (deliver "/w/a/s.csv")]).world.fs.node ["w", "x.__staged__01"] = none := by
    decide +kernel
  have hafter : (play escapingSetup (playAll escapingSetup (started nestedDisk)
      [.prepare 0 (deliver "/w/a/s.csv")]) (.prepare 1 (deliver "/w/a/s.ngb"))).world.fs.node
        ["w", "x.__staged__01"] = some .dir := by
    decide +kernel
  rcases h.staged [.prepare 0 (deliver "/w/a/s.csv")] 1 (deliver "/w/a/s.ngb") [] rfl with
    hsame | ⟨path, hpath, name, -, hchanges⟩
  · rw [hsame, hbefore] at hafter
    cases hafter
  · have hdelivered : deliveredPath (deliver "/w/a/s.ngb") =
      some (PurePath.parse "/w/a/s.ngb") := by
      decide +kernel
    cases Option.some.inj (hpath.symm.trans hdelivered)
    have hfolder : escapingSetup.machine.at (PurePath.parse "/w/a/s.ngb").parent = ["w", "a"] := by
      decide +kernel
    rw [hfolder] at hchanges
    rcases hchanges ["w", "x.__staged__01"] with hkept | hbelow | ⟨entry, hbelow, -⟩ | ⟨-, habove⟩
    · rw [hafter, hbefore] at hkept
      cases hkept
    · exact absurd hbelow.length_le (by simp)
    · exact absurd hbelow.length_le (by simp)
    · exact absurd habove (by decide)

end

end DpostV2.Devices.Psa
