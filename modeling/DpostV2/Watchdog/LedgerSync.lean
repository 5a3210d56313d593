import DpostV2.Watchdog.LedgerRuns

/-!
# A synchronisation that returns

`sync_records_to_database` returns exactly where nothing fails, and then it has left nothing to
do: every file of an eligible record that waited is uploaded, or gone and dropped, none needs
force any more, and all other records are as they were (`sync_complete`).
-/

namespace DpostV2.Watchdog

open LocalRecord

/-- The records that `sync_records_to_database` does not skip. -/
def LocalRecord.Eligible (record : LocalRecord) : Prop :=
  record.institute = "ipat" ∧ record.allFilesUploaded = false

instance (record : LocalRecord) : Decidable record.Eligible := inferInstanceAs (Decidable (_ ∧ _))

/-- The database refuses nothing that the record asks of it. -/
def Remote.Accepts (remote : Remote) (id : String) (record : LocalRecord) : Prop :=
  remote.prepare id = .ok () ∧ ∀ filePath, record.filesUploaded.get? filePath = some false →
    ∀ e, remote.uploadFile id filePath ≠ .failed e

/-- The files that waited are uploaded or dropped. -/
structure Synchronised (remote : Remote) (id : String) (before after : LocalRecord) : Prop where
  files : ∀ filePath, after.filesUploaded.get? filePath =
    if before.filesUploaded.get? filePath = some false then
      (if remote.uploadFile id filePath = .uploaded then some true else none)
    else before.filesUploaded.get? filePath
  force : after.filesRequireForce = ∅
  named : after = { before with
    filesUploaded := after.filesUploaded, filesRequireForce := ∅, isInDb := true }

section
variable [Interpreter]

/-- No record but this one differs. -/
def Ledger.KeepsOthers (id : String) (l l' : Ledger) : Prop :=
  ∀ other, other ≠ id → l'.record? other = l.record? other

omit [Interpreter] in
theorem Ledger.KeepsOthers.trans {id : String} {l l' l'' : Ledger} (h : l.KeepsOthers id l')
    (h' : l'.KeepsOthers id l'') : l.KeepsOthers id l'' :=
  fun other hne => (h' other hne).trans (h other hne)

theorem change_run (id : String) (a : RecordAct) (l : Ledger) : ∃ l',
    (change id a).run l = (.ok (), l') ∧ l'.record? id = (l.record? id).map a.apply ∧
      l.KeepsOthers id l' := by
  refine ⟨_, rfl, ?_, ?_⟩
  · show (Records.change _ _ _).get? id = _
    simp [get?_change, Ledger.record?]
  · intro other hne
    show (Records.change _ _ _).get? other = _
    simp [get?_change, Ledger.record?, hne]

theorem saveRecords_run (l : Ledger) : ∃ l', saveRecords.run l = (.ok (), l') ∧
    ∀ id, l'.record? id = l.record? id := by
  obtain ⟨store, history, faults⟩ := l
  cases faults with
  | nil => exact ⟨_, rfl, fun _ => rfl⟩
  | cons outcome faults => cases outcome <;> exact ⟨_, rfl, fun _ => rfl⟩

-- ---------------------------------------------------------------------------
-- Files settled one after another
-- ---------------------------------------------------------------------------

/-- These files have been settled in this way, and no others. -/
structure Settles (answer : Option Bool) (filePaths : List String) (before after : LocalRecord) :
    Prop where
  files : ∀ filePath, after.filesUploaded.get? filePath =
    if filePath ∈ filePaths then answer else before.filesUploaded.get? filePath
  force : ∀ filePath, filePath ∈ after.filesRequireForce ↔
    filePath ∈ before.filesRequireForce ∧ filePath ∉ filePaths
  named : after = { before with
    filesUploaded := after.filesUploaded, filesRequireForce := after.filesRequireForce }

omit [Interpreter] in
theorem Settles.refl (answer : Option Bool) (record : LocalRecord) :
    Settles answer [] record record := ⟨by simp, by simp, rfl⟩

omit [Interpreter] in
theorem Settles.trans {answer : Option Bool} {paths paths' : List String}
    {before middle after : LocalRecord} (h : Settles answer paths before middle)
    (h' : Settles answer paths' middle after) :
    Settles answer (paths ++ paths') before after := by
  refine ⟨fun filePath => ?_, fun filePath => ?_, ?_⟩
  · rw [h'.files, h.files]
    by_cases hmem : filePath ∈ paths' <;> simp [hmem]
  · rw [h'.force, h.force, List.mem_append, not_or, and_assoc]
  · rw [h'.named, h.named]

omit [Interpreter] in
theorem settles_fileUploaded {record : LocalRecord} {filePath : String} {force : Bool}
    (hforce : force = true ↔ filePath ∈ record.filesRequireForce) :
    Settles (some true) [filePath] record (record.fileUploaded filePath force) := by
  refine ⟨fun other => by simp [fileUploaded, Assoc.get?_set], fun other => ?_, rfl⟩
  cases force with
  | true => simp [fileUploaded, and_comm]
  | false =>
    have hnot : filePath ∉ record.filesRequireForce := fun hmem => by simpa using hforce.mpr hmem
    simp only [fileUploaded, Bool.false_eq_true, if_false, List.mem_singleton, iff_self_and]
    rintro hmem rfl
    exact hnot hmem

omit [Interpreter] in
theorem settles_forgetFile (record : LocalRecord) (filePath : String) :
    Settles none [filePath] record (record.forgetFile filePath) :=
  ⟨fun other => by simp [forgetFile, Assoc.get?_erase],
    fun other => by simp [forgetFile, and_comm], rfl⟩

theorem drop_run (id : String) (paths : List String) {l : Ledger} {record : LocalRecord}
    (hrecord : l.record? id = some record) : ∃ l' record',
      (paths.forM fun filePath => change id (.dropped filePath)).run l = (.ok (), l') ∧
        l.KeepsOthers id l' ∧ l'.record? id = some record' ∧ Settles none paths record record' := by
  induction paths generalizing l record with
  | nil => exact ⟨l, record, rfl, fun _ _ => rfl, hrecord, .refl _ _⟩
  | cons filePath paths ih =>
    obtain ⟨l₁, hrun, hfound, hothers⟩ := change_run id (.dropped filePath) l
    rw [hrecord, Option.map_some] at hfound
    obtain ⟨l', record', hrest, hothers', hrecord', hsettles⟩ := ih hfound
    refine ⟨l', record', ?_, hothers.trans hothers', hrecord', ?_⟩
    · show (change id (.dropped filePath) >>= fun _ =>
        paths.forM fun filePath => change id (.dropped filePath)).run l = _
      rw [Eff.run_bind, hrun]
      exact hrest
    · exact (settles_forgetFile record filePath).trans hsettles

variable (remote : Remote)

/-- The files that wait and of which the upload ends in this way. -/
def Remote.ending (id : String) (outcome : UploadOutcome) (files : List (String × Bool)) :
    List String :=
  (files.filter fun file => file.2 = false ∧ remote.uploadFile id file.1 = outcome).map Prod.fst

omit [Interpreter] in
theorem Remote.mem_ending {id filePath : String} {outcome : UploadOutcome}
    {files : List (String × Bool)} : filePath ∈ remote.ending id outcome files ↔
      (filePath, false) ∈ files ∧ remote.uploadFile id filePath = outcome := by
  simp [Remote.ending, and_left_comm]

/-- No upload of a file that waits fails. -/
def Remote.Takes (id : String) (files : List (String × Bool)) : Prop :=
  ∀ filePath, (filePath, false) ∈ files → ∀ e, remote.uploadFile id filePath ≠ .failed e

omit [Interpreter] in
theorem Remote.ending_true (id filePath : String) (outcome : UploadOutcome)
    (files : List (String × Bool)) :
    remote.ending id outcome ((filePath, true) :: files) = remote.ending id outcome files := by
  simp [Remote.ending]

omit [Interpreter] in
theorem Remote.ending_false (id filePath : String) (outcome : UploadOutcome)
    (files : List (String × Bool)) : remote.ending id outcome ((filePath, false) :: files) =
      if remote.uploadFile id filePath = outcome then filePath :: remote.ending id outcome files
      else remote.ending id outcome files := by
  by_cases h : remote.uploadFile id filePath = outcome <;> simp [Remote.ending, h]

omit [Interpreter] in
theorem Remote.takes_true {id filePath : String} {files : List (String × Bool)} :
    remote.Takes id ((filePath, true) :: files) ↔ remote.Takes id files := by
  simp [Remote.Takes]

omit [Interpreter] in
theorem Remote.takes_false {id filePath : String} {files : List (String × Bool)} :
    remote.Takes id ((filePath, false) :: files) ↔
      (∀ e, remote.uploadFile id filePath ≠ .failed e) ∧ remote.Takes id files := by
  simp [Remote.Takes]

section
variable {id filePath : String} {files : List (String × Bool)}

theorem uploadFiles_uploaded (h : remote.uploadFile id filePath = .uploaded) :
    uploadFiles remote id ((filePath, false) :: files) = (do
      let l ← Eff.get
      change id (.uploaded filePath (l.requiresForce id filePath))
      uploadFiles remote id files) := by
  simp [uploadFiles, h]

theorem uploadFiles_fileNotFound (h : remote.uploadFile id filePath = .fileNotFound) :
    uploadFiles remote id ((filePath, false) :: files) = (do
      let _ ← (Eff.get : LedgerM Ledger)
      let missingFiles ← uploadFiles remote id files
      return filePath :: missingFiles) := by
  simp [uploadFiles, h]

theorem uploadFiles_failed {e : Exn} (h : remote.uploadFile id filePath = .failed e) :
    uploadFiles remote id ((filePath, false) :: files) = (do
      let _ ← (Eff.get : LedgerM Ledger)
      Eff.raise e) := by
  simp [uploadFiles, h]

end

/-- The loop returns if and only if no upload of a file that waits fails, and then it has settled
those that were uploaded and left out those that are missing. -/
theorem uploadFiles_run {id : String} {files : List (String × Bool)} {l : Ledger}
    {record : LocalRecord} (hwaits : l.Waits id files) (hrecord : l.record? id = some record) :
    (remote.Takes id files ∧ ∃ l' record', (uploadFiles remote id files).run l =
        (.ok (remote.ending id .fileNotFound files), l') ∧ l.KeepsOthers id l' ∧
        l'.record? id = some record' ∧
        Settles (some true) (remote.ending id .uploaded files) record record') ∨
      (¬ remote.Takes id files ∧ ∃ e l', (uploadFiles remote id files).run l = (.error e, l')) := by
  induction files generalizing l record with
  | nil =>
    exact .inl ⟨by simp [Remote.Takes], l, record, rfl, fun _ _ => rfl, hrecord, .refl _ _⟩
  | cons file files ih =>
    obtain ⟨filePath, uploaded⟩ := file
    cases uploaded with
    | true =>
      simp only [Remote.takes_true, Remote.ending_true]
      exact ih hwaits.tail hrecord
    | false =>
      simp only [Remote.takes_false, Remote.ending_false]
      cases houtcome : remote.uploadFile id filePath with
      | uploaded =>
        obtain ⟨l₁, hchange, hfound, hothers⟩ :=
          change_run id (.uploaded filePath (l.requiresForce id filePath)) l
        rw [hrecord, Option.map_some] at hfound
        have hforce : l.requiresForce id filePath = true ↔ filePath ∈ record.filesRequireForce := by
          simp [Ledger.requiresForce, hrecord]
        rcases ih (hwaits.uploaded hchange) hfound with
          ⟨htakes, l', record', hrest, hothers', hrecord', hsettles⟩ | ⟨hfails, e, l', hrest⟩
        · refine .inl ⟨⟨by simp, htakes⟩, l', record', ?_, hothers.trans hothers', hrecord', ?_⟩
          · simp [uploadFiles_uploaded remote houtcome, hchange, hrest]
          · simpa using (settles_fileUploaded hforce).trans hsettles
        · exact .inr ⟨fun h => hfails h.2, e, l',
            by simp [uploadFiles_uploaded remote houtcome, hchange, hrest]⟩
      | fileNotFound =>
        rcases ih hwaits.tail hrecord with
          ⟨htakes, l', record', hrest, hothers', hrecord', hsettles⟩ | ⟨hfails, e, l', hrest⟩
        · refine .inl ⟨⟨by simp, htakes⟩, l', record', ?_, hothers', hrecord',
            by simpa using hsettles⟩
          simp [uploadFiles_fileNotFound remote houtcome, hrest]
        · exact .inr ⟨fun h => hfails h.2, e, l',
            by simp [uploadFiles_fileNotFound remote houtcome, hrest]⟩
      | failed e =>
        exact .inr ⟨fun h => h.1 e rfl, e, l, by simp [uploadFiles_failed remote houtcome]⟩

-- ---------------------------------------------------------------------------
-- One record
-- ---------------------------------------------------------------------------

omit [Interpreter] in
/-- What is done to a record of which the database takes every file. -/
theorem synchronised_of_settles {id : String} {record uploaded dropped : LocalRecord}
    (hwaits : record.ForceWaits) (htakes : remote.Takes id record.filesUploaded.entries)
    (huploaded : Settles (some true) (remote.ending id .uploaded record.filesUploaded.entries)
      record uploaded)
    (hdropped : Settles none (remote.ending id .fileNotFound record.filesUploaded.entries)
      uploaded dropped) :
    Synchronised remote id record { dropped with isInDb := true } := by
  have hending (filePath : String) (outcome : UploadOutcome) :
      filePath ∈ remote.ending id outcome record.filesUploaded.entries ↔
        record.filesUploaded.get? filePath = some false ∧
          remote.uploadFile id filePath = outcome := by
    rw [remote.mem_ending, Assoc.get?_eq_some]
  have hends (filePath : String) (hfile : record.filesUploaded.get? filePath = some false) :
      remote.uploadFile id filePath = .uploaded ∨
        remote.uploadFile id filePath = .fileNotFound := by
    cases houtcome : remote.uploadFile id filePath with
    | uploaded => exact .inl rfl
    | fileNotFound => exact .inr rfl
    | failed e => exact absurd houtcome (htakes _ (Assoc.get?_eq_some.mp hfile) e)
  have hforce : dropped.filesRequireForce = ∅ := by
    refine Finset.eq_empty_of_forall_notMem fun filePath hmem => ?_
    obtain ⟨hmem, hpresent⟩ := (hdropped.force filePath).mp hmem
    obtain ⟨hmem, hlasting⟩ := (huploaded.force filePath).mp hmem
    have hfile := hwaits filePath hmem
    rcases hends filePath hfile with houtcome | houtcome
    · exact hlasting ((hending _ _).mpr ⟨hfile, houtcome⟩)
    · exact hpresent ((hending _ _).mpr ⟨hfile, houtcome⟩)
  refine ⟨fun filePath => ?_, hforce, ?_⟩
  · simp only [hdropped.files, huploaded.files, hending]
    by_cases hfile : record.filesUploaded.get? filePath = some false
    · rcases hends filePath hfile with houtcome | houtcome <;> simp [hfile, houtcome]
    · simp [hfile]
  · rw [← hforce, hdropped.named, huploaded.named]

theorem syncRecordToDatabase_run {id : String} {l : Ledger} {record : LocalRecord}
    (hrecord : l.record? id = some record) (hwaits : record.ForceWaits) :
    (remote.Accepts id record ∧ ∃ remaining l' record',
        (syncRecordToDatabase remote id).run l = (.ok remaining, l') ∧ l.KeepsOthers id l' ∧
        l'.record? id = some record' ∧ Synchronised remote id record record') ∨
      (¬ remote.Accepts id record ∧
        ∃ e l', (syncRecordToDatabase remote id).run l = (.error e, l')) := by
  have hfiles : l.filesOf id = record.filesUploaded.entries := by simp [Ledger.filesOf, hrecord]
  have haccepts : remote.Accepts id record ↔
      remote.prepare id = .ok () ∧ remote.Takes id record.filesUploaded.entries := by
    simp only [Remote.Accepts, Remote.Takes, Assoc.get?_eq_some]
  rw [haccepts]
  cases hprepare : remote.prepare id with
  | error e => exact .inr ⟨by simp, e, l, by simp [syncRecordToDatabase, hprepare]⟩
  | ok u =>
    have hwaiting := l.waits_filesOf id
    rw [hfiles] at hwaiting
    rcases uploadFiles_run remote hwaiting hrecord with
      ⟨htakes, l₁, record₁, hupload, hothers₁, hrecord₁, hsettles₁⟩ | ⟨hfails, e, l', hupload⟩
    · obtain ⟨l₂, record₂, hdrop, hothers₂, hrecord₂, hsettles₂⟩ :=
        drop_run id (remote.ending id .fileNotFound record.filesUploaded.entries) hrecord₁
      obtain ⟨l₃, hsynced, hrecord₃, hothers₃⟩ := change_run id .synced l₂
      rw [hrecord₂, Option.map_some] at hrecord₃
      rw [List.forM_eq_forM] at hdrop
      refine .inl ⟨⟨rfl, htakes⟩, (l₂.filesOf id).any fun file => !file.2, l₃, _, ?_,
        (hothers₁.trans hothers₂).trans hothers₃, hrecord₃,
        synchronised_of_settles remote hwaits htakes hsettles₁ hsettles₂⟩
      simp [syncRecordToDatabase, uploadRecordFiles, hprepare, hfiles, hupload, hdrop, hsynced]
    · refine .inr ⟨fun h => hfails h.2, e, l', ?_⟩
      simp [syncRecordToDatabase, uploadRecordFiles, hprepare, hfiles, hupload]

-- ---------------------------------------------------------------------------
-- All records
-- ---------------------------------------------------------------------------

/-- Under this identifier an eligible record is synchronised and any other is as it was. -/
def Ledger.SyncedAt (l l' : Ledger) (id : String) : Prop :=
  ∀ record, l.record? id = some record →
    if record.Eligible then
      ∃ record', l'.record? id = some record' ∧ Synchronised remote id record record'
    else l'.record? id = some record

def Ledger.AcceptedAt (l : Ledger) (id : String) : Prop :=
  ∀ record, l.record? id = some record → record.Eligible → remote.Accepts id record

theorem syncEligible_run {id : String} {l : Ledger}
    (hwaits : ∀ record, l.record? id = some record → record.ForceWaits) :
    (l.AcceptedAt remote id ∧ ∃ l', (syncEligible remote id).run l = (.ok (), l') ∧
        l.KeepsOthers id l' ∧ l.SyncedAt remote l' id) ∨
      (¬ l.AcceptedAt remote id ∧ ∃ e l', (syncEligible remote id).run l = (.error e, l')) := by
  unfold Ledger.AcceptedAt Ledger.SyncedAt
  cases hrecord : l.record? id with
  | none => exact .inl ⟨by simp, l, by simp [syncEligible, hrecord], fun _ _ => rfl, by simp⟩
  | some record =>
    simp only [Option.some.injEq, forall_eq']
    by_cases heligible : record.Eligible
    · obtain ⟨hinstitute, hpending⟩ := heligible
      have hrun : (syncEligible remote id).run l = (syncRecord remote id).run l := by
        simp [syncEligible, hrecord, hinstitute, hpending]
      have heligible : record.Eligible := ⟨hinstitute, hpending⟩
      simp only [heligible, if_true, forall_const, hrun]
      rcases syncRecordToDatabase_run remote hrecord (hwaits record hrecord) with
        ⟨haccepts, remaining, l₁, record', hsync, hothers, hrecord', hsynced⟩ |
        ⟨hrefuses, e, l', hsync⟩
      · obtain ⟨l', hsave, hsame⟩ := saveRecords_run l₁
        refine .inl ⟨haccepts, l', by simp [syncRecord, hsync, hsave], ?_, record', ?_, hsynced⟩
        · exact fun other hne => (hsame other).trans (hothers other hne)
        · rw [hsame, hrecord']
      · exact .inr ⟨hrefuses, e, l', by simp [syncRecord, hsync]⟩
    · have hrun : (syncEligible remote id).run l = (.ok (), l) := by
        simp only [LocalRecord.Eligible, not_and_or, Bool.not_eq_false] at heligible
        rcases heligible with hinstitute | huploaded
        · simp [syncEligible, hrecord, hinstitute]
        · by_cases hinstitute : record.institute = "ipat" <;>
            simp [syncEligible, hrecord, hinstitute, huploaded]
      simp only [heligible, false_implies, if_false, true_and]
      exact .inl ⟨l, hrun, fun _ _ => rfl, hrecord⟩

omit [Interpreter] in
theorem Ledger.acceptedAt_congr {l l' : Ledger} {id : String} (h : l'.record? id = l.record? id) :
    l'.AcceptedAt remote id ↔ l.AcceptedAt remote id := by
  rw [Ledger.AcceptedAt, Ledger.AcceptedAt, h]

omit [Interpreter] in
theorem Ledger.syncedAt_congr {l₁ l₁' l l' : Ledger} {id : String}
    (h : l₁.record? id = l.record? id) (h' : l₁'.record? id = l'.record? id) :
    l₁.SyncedAt remote l₁' id ↔ l.SyncedAt remote l' id := by
  rw [Ledger.SyncedAt, Ledger.SyncedAt, h, h']

/-- Over identifiers that differ the loop returns if and only if every eligible record is
accepted. -/
theorem syncEach_run {ids : List String} {l : Ledger} (hdistinct : ids.Nodup)
    (hwaits : ∀ id ∈ ids, ∀ record, l.record? id = some record → record.ForceWaits) :
    ((∀ id ∈ ids, l.AcceptedAt remote id) ∧ ∃ l', (ids.forM (syncEligible remote)).run l =
        (.ok (), l') ∧ (∀ id ∉ ids, l'.record? id = l.record? id) ∧
        ∀ id ∈ ids, l.SyncedAt remote l' id) ∨
      ((∃ id ∈ ids, ¬ l.AcceptedAt remote id) ∧
        ∃ e l', (ids.forM (syncEligible remote)).run l = (.error e, l')) := by
  induction ids generalizing l with
  | nil => exact .inl ⟨by simp, l, rfl, fun _ _ => rfl, by simp⟩
  | cons id ids ih =>
    obtain ⟨hnew, hdistinct⟩ := List.nodup_cons.mp hdistinct
    have hcons : ((id :: ids).forM (syncEligible remote)).run l =
        (syncEligible remote id >>= fun _ => ids.forM (syncEligible remote)).run l := rfl
    rw [hcons, Eff.run_bind]
    rcases syncEligible_run remote (hwaits id List.mem_cons_self) with
      ⟨haccepted, l₁, hrun, hothers, hsynced⟩ | ⟨hrefused, e, l', hrun⟩
    · have hsame : ∀ other ∈ ids, l₁.record? other = l.record? other :=
        fun other hmem => hothers other fun heq => hnew (heq ▸ hmem)
      have hwaits₁ : ∀ other ∈ ids, ∀ record, l₁.record? other = some record →
          record.ForceWaits := by
        intro other hmem record hrecord
        rw [hsame other hmem] at hrecord
        exact hwaits other (List.mem_cons_of_mem _ hmem) record hrecord
      rw [hrun]
      rcases ih hdistinct hwaits₁ with
        ⟨haccepts, l', hrest, hkept, hall⟩ | ⟨⟨other, hmem, hrefused⟩, e, l', hrest⟩
      · refine .inl ⟨List.forall_mem_cons.mpr ⟨haccepted, fun other hmem => ?_⟩, l', hrest, ?_,
          List.forall_mem_cons.mpr ⟨?_, fun other hmem => ?_⟩⟩
        · exact (Ledger.acceptedAt_congr remote (hsame other hmem)).mp (haccepts other hmem)
        · intro other hnot
          obtain ⟨hne, hnot⟩ := not_or.mp (List.mem_cons.not.mp hnot)
          rw [hkept other hnot, hothers other hne]
        · exact (Ledger.syncedAt_congr remote rfl (hkept id hnew)).mpr hsynced
        · exact (Ledger.syncedAt_congr remote (hsame other hmem) rfl).mp (hall other hmem)
      · refine .inr ⟨⟨other, List.mem_cons_of_mem _ hmem, ?_⟩, e, l', hrest⟩
        rwa [← Ledger.acceptedAt_congr remote (hsame other hmem)]
    · exact .inr ⟨⟨id, List.mem_cons_self, hrefused⟩, e, l', by rw [hrun]⟩

omit [Interpreter] in
theorem allFilesUploaded_of_all {l : Ledger} {id : String} {record : LocalRecord}
    (hall : allRecordsUploaded l = true) (hrecord : l.record? id = some record) :
    record.allFilesUploaded = true :=
  List.all_eq_true.mp hall record
    (List.mem_map.mpr ⟨(id, record), Assoc.get?_eq_some.mp hrecord, rfl⟩)

theorem syncPending_run {l : Ledger} (hsound : l.store.memory.Sound) :
    ((∀ id, l.AcceptedAt remote id) ∧ ∃ l', (syncPending remote).run l = (.ok (), l') ∧
        (∀ id, l.record? id = none → l'.record? id = none) ∧ ∀ id, l.SyncedAt remote l' id) ∨
      ((∃ id, ¬ l.AcceptedAt remote id) ∧ ∃ e l', (syncPending remote).run l = (.error e, l')) := by
  by_cases hall : allRecordsUploaded l = true
  · have hnone : ∀ id record, l.record? id = some record → ¬ record.Eligible :=
      fun id record hrecord heligible =>
        Bool.false_ne_true (heligible.2.symm.trans (allFilesUploaded_of_all hall hrecord))
    refine .inl ⟨fun id record hrecord heligible => absurd heligible (hnone id record hrecord), l,
      by simp [syncPending, hall], fun _ h => h, fun id record hrecord => ?_⟩
    rw [if_neg (hnone id record hrecord)]
    exact hrecord
  · have hrun : (syncPending remote).run l =
        (l.store.memory.keys.forM (syncEligible remote)).run l := by
      simp [syncPending, hall, syncRecordsToDatabase]
    have habsent : ∀ id ∉ l.store.memory.keys, l.record? id = none :=
      fun id hnot => Assoc.get?_eq_none.mpr hnot
    rw [hrun]
    rcases syncEach_run remote l.store.memory.distinct
        (fun id _ record hrecord => (hsound id record hrecord).2) with
      ⟨haccepts, l', hloop, hkept, hall⟩ | ⟨⟨id, -, hrefused⟩, hloop⟩
    · refine .inl ⟨fun id => ?_, l', hloop, fun id hnone => ?_, fun id => ?_⟩
      · by_cases hmem : id ∈ l.store.memory.keys
        · exact haccepts id hmem
        · intro record hrecord
          cases (habsent id hmem).symm.trans hrecord
      · rw [hkept id (Assoc.get?_eq_none.mp hnone), hnone]
      · by_cases hmem : id ∈ l.store.memory.keys
        · exact hall id hmem
        · intro record hrecord
          cases (habsent id hmem).symm.trans hrecord
    · exact .inr ⟨⟨id, hrefused⟩, hloop⟩

/-- From any ledger of the program a synchronisation returns if and only if the database accepts
every eligible record; then each of these is synchronised, and all others are as they were. -/
theorem sync_complete (faults : List SaveOutcome) (steps : List LedgerStep) :
    let l := (Ledger.new faults).steps steps
    let after := (syncPending remote).run l
    (after.1 = .ok () ↔ ∀ id, l.AcceptedAt remote id) ∧
      (after.1 = .ok () → ∀ id, l.SyncedAt remote after.2 id ∧
        (l.record? id = none → after.2.record? id = none)) := by
  dsimp only
  rcases syncPending_run remote (Ledger.steps_sound faults steps).1 with
    ⟨haccepts, l', hrun, habsent, hsynced⟩ | ⟨⟨id, hrefused⟩, e, l', hrun⟩
  · rw [hrun]
    exact ⟨⟨fun _ => haccepts, fun _ => rfl⟩, fun _ id => ⟨hsynced id, habsent id⟩⟩
  · rw [hrun]
    exact ⟨⟨by simp, fun haccepts => absurd (haccepts id) hrefused⟩, by simp⟩

end

end DpostV2.Watchdog
