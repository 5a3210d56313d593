import DpostV2.Devices.Psa.Steps
import Mathlib.Data.List.Induction

/-!
# The order of pairs

A folder is a queue of NGBs, a list of pairs and the slot of the sentinel. `pairs_in_order`:
in every run the pairs take from the head of the queue and are kept in the order of
delivery, a sentinel is alone, and a batch is the pairs with that of the sentinel last.
-/

namespace DpostV2.Devices.Psa

structure FolderState.InOrder (past : List PurePath) (folder : FolderState) : Prop where
  alone : folder.sentinel ≠ none → folder.pendingNgb = []
  csvs : (folder.bucket.map Pair.csvPath ++
    (folder.sentinel.map Sentinel.csvPath).toList).Sublist past
  ngbs : (folder.bucket.map Pair.ngbPath ++ folder.pendingNgb.map PendingNgb.path).Sublist past

/-- What the folder of a file becomes when it is taken up. -/
inductive FolderState.Takes (now : Seconds) (path : PurePath) (folder folder' : FolderState) : Prop
  | paired (pending : PendingNgb) (rest : List PendingNgb)
      (oldest : folder.pendingNgb = pending :: rest)
      (next : folder' = { folder with
        pendingNgb := rest
        bucket := folder.bucket ++ [⟨path, pending.path, now⟩] })
  | sentinel (namePrefix : String) (alone : folder.pendingNgb = [])
      (next : folder' = { folder with sentinel := some ⟨path, namePrefix, now⟩ })
  | pending (unled : folder.sentinel = none)
      (next : folder' = { folder with pendingNgb := folder.pendingNgb ++ [⟨path, now⟩] })
  | flushed (sentinel : Sentinel) (led : folder.sentinel = some sentinel) (next : folder' = {})

/-- A batch is what its folder had when its last NGB came: the pairs, then that of the sentinel. -/
def Completes (now : Seconds) (path : PurePath) (folder : FolderState)
    (batch : StagedBatch) : Prop :=
  ∃ sentinel, folder.sentinel = some sentinel ∧ batch.pairs =
    (folder.bucket ++ [(⟨sentinel.csvPath, path, now⟩ : Pair)]).map (relocated batch.stageDir)

section
variable [Interpreter] {setup : Setup} {s s' : PsaWorld} {path : PurePath} {now : Seconds}
  {sourcePath : String} {key : FsPath} {past : List PurePath} {folder folder' : FolderState}

/-- What an event makes of a folder. -/
inductive FolderNext (setup : Setup) (s s' : PsaWorld) (key : FsPath) : Event → Prop
  | kept (event : Event) (next : s'.state.folders key = s.state.folders key) :
      FolderNext setup s s' key event
  | purged (now : Seconds) (rawInput : Value)
      (next : s'.state.folders key = (s.state.folders key).purged setup now s.world.fs) :
      FolderNext setup s s' key (.prepare now rawInput)
  | takes (now : Seconds) (rawInput : Value) (path : PurePath)
      (delivered : deliveredPath rawInput = some path) (folder : setup.machine.at path.parent = key)
      (takes : ((s.state.folders key).purged setup now s.world.fs).Takes now path
        (s'.state.folders key)) : FolderNext setup s s' key (.prepare now rawInput)

def BatchOf (setup : Setup) (start : PsaWorld) (events : List Event) (batch : StagedBatch) : Prop :=
  ∃ before now rawInput after path, events = before ++ .prepare now rawInput :: after ∧
    deliveredPath rawInput = some path ∧
    Completes now path (folderOf setup now (playAll setup start before) path) batch

structure PairingOrder (setup : Setup) (start : PsaWorld) (events : List Event) : Prop where
  inOrder : ∀ key, ((playAll setup start events).state.folders key).InOrder
    (events.filterMap Event.delivered)
  batches : ∀ key batch, (playAll setup start events).state.stagedBatches key = some batch →
    BatchOf setup start events batch
  next : ∀ event key, FolderNext setup (playAll setup start events)
    (playAll setup start (events ++ [event])) key event

-- ---------------------------------------------------------------------------
-- One folder
-- ---------------------------------------------------------------------------

omit [Interpreter] in
theorem FolderState.InOrder.mono (h : folder.InOrder past) (more : List PurePath) :
    folder.InOrder (past ++ more) :=
  ⟨h.alone, h.csvs.trans (List.sublist_append_left ..), h.ngbs.trans (List.sublist_append_left ..)⟩

theorem FolderState.InOrder.purged (h : folder.InOrder past) {fs : Fs} :
    (folder.purged setup now fs).InOrder past := by
  refine ⟨fun hled => ?_, .trans (.append (List.filter_sublist.map _) ?_) h.csvs,
    .trans (.append (List.filter_sublist.map _) (List.filter_sublist.map _)) h.ngbs⟩
  · have hpending := h.alone fun hnone => hled (by simp [FolderState.purged, hnone])
    simp [FolderState.purged, hpending]
  · cases hs : folder.sentinel with
    | none => simp [FolderState.purged, hs]
    | some sentinel =>
      simp only [FolderState.purged, hs, Option.filter_some]
      split <;> simp

omit [Interpreter] in
theorem FolderState.Takes.inOrder (h : folder.Takes now path folder')
    (horder : folder.InOrder past) :
    folder'.InOrder (past ++ [path]) := by
  have hbucket : (folder.bucket.map Pair.csvPath).Sublist past :=
    .trans (List.sublist_append_left ..) horder.csvs
  cases h with
  | paired pending rest oldest next =>
    subst next
    have hunled : folder.sentinel = none := by
      by_contra hled
      exact nomatch oldest.symm.trans (horder.alone hled)
    refine ⟨fun hled => absurd hunled hled, ?_, ?_⟩
    · simpa [hunled] using hbucket.append (.refl [path])
    · have hngbs := (horder.mono [path]).ngbs
      rw [oldest] at hngbs
      simpa using hngbs
  | sentinel namePrefix alone next =>
    subst next
    refine ⟨fun _ => alone, ?_, (horder.mono [path]).ngbs⟩
    simpa using hbucket.append (.refl [path])
  | pending unled next =>
    subst next
    refine ⟨fun hled => absurd unled hled, (horder.mono [path]).csvs, ?_⟩
    simpa using horder.ngbs.append (.refl [path])
  | flushed sentinel led next =>
    subst next
    exact ⟨fun hled => absurd rfl hled, List.nil_sublist _, List.nil_sublist _⟩

theorem Filed.takes (h : Filed setup now s sourcePath path s') :
    (folderOf setup now s path).Takes now
    path (s'.state.folders (setup.machine.at path.parent)) := by
  cases h with
  | bucketed pending rest waiting state _ =>
    refine .paired pending rest waiting ?_
    rw [state]
    exact Function.update_self ..
  | sentinel namePrefix _ alone state _ =>
    refine .sentinel namePrefix alone ?_
    rw [state]
    exact Function.update_self ..
  | pending unled state _ =>
    refine .pending unled ?_
    rw [state]
    exact Function.update_self ..
  | staged sentinel _ _ _ _ _ led _ _ _ state _ _ =>
    refine .flushed sentinel led ?_
    rw [state]
    exact Function.update_self ..

theorem Played.folderNext {event : Event} (h : Played setup s s' event) (key : FsPath) :
    FolderNext setup s s' key event := by
  cases h with
  | kept _ folders _ _ => exact .kept _ (by rw [folders])
  | purged now rawInput state => exact .purged now rawInput (by rw [state]; rfl)
  | filed now rawInput sourcePath delivered filed =>
    by_cases hkey : key = setup.machine.at (PurePath.parse sourcePath).parent
    · subst hkey
      exact .takes now rawInput _ (by rw [deliveredPath, delivered]; rfl) rfl filed.takes
    · exact .purged now rawInput (by rw [filed.others hkey]; rfl)

theorem FolderNext.inOrder {event : Event} (h : FolderNext setup s s' key event)
    (horder : (s.state.folders key).InOrder past) :
    (s'.state.folders key).InOrder (past ++ event.delivered.toList) := by
  cases h with
  | kept _ next => exact next ▸ horder.mono _
  | purged now rawInput next => exact next ▸ horder.purged.mono _
  | takes now rawInput path delivered _ takes =>
    have hpath : (Event.prepare now rawInput).delivered = some path := delivered
    rw [hpath]
    exact takes.inOrder horder.purged

-- ---------------------------------------------------------------------------
-- Batches
-- ---------------------------------------------------------------------------

omit [Interpreter] in
theorem relocatePairs_eq {stageDir : PurePath} {pairs : List Pair} :
    Triple (relocatePairs setup stageDir pairs) s
      (fun staged _ => staged = pairs.map (relocated stageDir)) fun _ _ => True := by
  induction pairs generalizing s with
  | nil => exact .pure rfl
  | cons pair rest ih =>
    have hpair : Triple (relocatePairToStage setup stageDir pair) s
        (fun staged _ => staged = relocated stageDir pair) fun _ _ => True :=
      .bind (Q := fun _ _ => True) (.onDisk (fun _ _ _ => trivial) fun _ _ => trivial) fun _ _ _ =>
        .bind (Q := fun _ _ => True) (.onDisk (fun _ _ _ => trivial) fun _ _ => trivial)
          fun _ _ _ =>
          .pure rfl
    refine .bind hpair ?_
    rintro _ s₁ rfl
    refine .bind ih ?_
    rintro _ s₂ rfl
    exact .pure rfl

/-- A batch that is there after a file is taken up was there, or is completed by it. -/
theorem Filed.batches (h : Filed setup now s sourcePath path s') {text : String}
    {batch : StagedBatch} (hbatch : s'.state.stagedBatches text = some batch) :
    s.state.stagedBatches text = some batch ∨
      Completes now path (folderOf setup now s path) batch := by
  have hpurged : (purgedState setup now s).stagedBatches text = some batch →
      s.state.stagedBatches text = some batch := fun h => (Option.filter_eq_some_iff.mp h).1
  cases h with
  | bucketed _ _ _ state _ =>
    rw [state] at hbatch
    exact .inl (hpurged hbatch)
  | sentinel _ _ _ state _ =>
    rw [state] at hbatch
    exact .inl (hpurged hbatch)
  | pending _ state _ =>
    rw [state] at hbatch
    exact .inl (hpurged hbatch)
  | staged sentinel stageDir s₁ s₂ pairs _ led _ _ relocated state _ _ =>
    rw [state] at hbatch
    by_cases htext : text = stageDir.str
    · rw [htext] at hbatch
      cases Option.some.inj (hbatch.symm.trans (Function.update_self ..))
      exact .inr ⟨sentinel, led, relocatePairs_eq.ok relocated⟩
    · exact .inl (hpurged ((Function.update_of_ne htext ..).symm.trans hbatch))

-- ---------------------------------------------------------------------------
-- Runs
-- ---------------------------------------------------------------------------

theorem batchOf_mono {events : List Event} {event : Event} {batch : StagedBatch}
    (h : BatchOf setup s events batch) : BatchOf setup s (events ++ [event]) batch := by
  obtain ⟨before, now, rawInput, after, path, rfl, hpath, hcompletes⟩ := h
  exact ⟨before, now, rawInput, after ++ [event], path, by simp, hpath, hcompletes⟩

theorem pairs_in_order (setup : Setup) (disk : Disk) (events : List Event) :
    PairingOrder setup (started disk) events := by
  have hnext : ∀ events event key, FolderNext setup (playAll setup (started disk) events)
      (playAll setup (started disk) (events ++ [event])) key event := by
    intro events event key
    rw [playAll_snoc]
    exact (play_played _ _ event).folderNext key
  suffices h : (∀ key, ((playAll setup (started disk) events).state.folders key).InOrder
      (events.filterMap Event.delivered)) ∧
      ∀ key batch, (playAll setup (started disk) events).state.stagedBatches key = some batch →
        BatchOf setup (started disk) events batch from ⟨h.1, h.2, hnext events⟩
  induction events using List.reverseRecOn with
  | nil => exact ⟨fun key => ⟨fun _ => rfl, .refl _, .refl _⟩, nofun⟩
  | append_singleton events event ih =>
    obtain ⟨horder, hbatches⟩ := ih
    refine ⟨fun key => ?_, fun text batch hbatch => ?_⟩
    · rw [delivered_snoc]
      exact (hnext events event key).inOrder (horder key)
    · rw [playAll_snoc] at hbatch
      cases play_played setup (playAll setup (started disk) events) event with
      | kept _ _ batches _ => exact batchOf_mono (hbatches text batch (batches text batch hbatch))
      | purged now rawInput state =>
        rw [state] at hbatch
        exact batchOf_mono (hbatches text batch (Option.filter_eq_some_iff.mp hbatch).1)
      | filed now rawInput sourcePath delivered filed =>
        rcases filed.batches hbatch with hold | hnew
        · exact batchOf_mono (hbatches text batch hold)
        · exact ⟨events, now, rawInput, [], _, rfl, by rw [deliveredPath, delivered]; rfl, hnew⟩

end

end DpostV2.Devices.Psa
