import DpostV2.Lib.Durable
import DpostV2.Lib.Effect
import DpostV2.Watchdog.LocalRecord

/-!
# The ledger of records

`RecordManager`, the upload of `KadiSyncManager` and the part of `FileProcessManager` that tracks
the files of a record. A ledger is what the program holds in memory, what a restart would read
from `record_persistence.json`, and the history of what was done to both. Every function of the
program only does what its history says, one step at a time (`Keeps`), so that what holds of
every history holds of every run.
-/

namespace DpostV2.Watchdog

abbrev Records := Assoc String LocalRecord

def Records.change (records : Records) (id : String) (f : LocalRecord → LocalRecord) : Records :=
  records.mapValues fun key record => if key = id then f record else record

inductive RecordAct where
  | defaults (description : String) (tags : List String)
  | typed (datatype : String)
  | added (filePath : String)
  | unsynced (filePath : String)
  | recordUnsynced
  | uploaded (filePath : String) (force : Bool)
  | dropped (filePath : String)
  | synced
  deriving DecidableEq

def RecordAct.apply (record : LocalRecord) : RecordAct → LocalRecord
  | .defaults description tags => record.applyDeviceDefaults description tags
  | .typed datatype => { record with datatype }
  | .added filePath => record.registerFile filePath
  | .unsynced filePath => record.markFileAsUnsynced filePath
  | .recordUnsynced => record.markRecordUnsynced
  | .uploaded filePath force => record.fileUploaded filePath force
  | .dropped filePath => record.forgetFile filePath
  | .synced => { record with isInDb := true }

open LocalRecord in
/-- Only an upload of a file lets the record call it uploaded. -/
theorem RecordAct.not_claimed {record : LocalRecord} {filePath : String} (a : RecordAct)
    (h : ¬ record.ClaimsUploaded filePath) (hnot : ∀ force, a ≠ .uploaded filePath force) :
    ¬ (a.apply record).ClaimsUploaded filePath := by
  unfold ClaimsUploaded at h ⊢
  cases a with
  | defaults description tags => exact h
  | typed datatype => exact h
  | added other =>
    simp only [apply, get?_registerFile]
    split <;> simp [h]
  | unsynced other =>
    simp only [apply, get?_markFileAsUnsynced]
    split <;> simp [h]
  | recordUnsynced => simp [apply, get?_markRecordUnsynced]
  | uploaded other force =>
    have hne : filePath ≠ other := fun heq => hnot force (by rw [heq])
    simpa [apply, fileUploaded, Assoc.get?_set_of_ne hne] using h
  | dropped other =>
    simp only [apply, forgetFile, Assoc.get?_erase]
    split <;> simp [h]
  | synced => exact h

open LocalRecord in
/-- Only a file that is gone is forgotten. -/
theorem RecordAct.guarded {record : LocalRecord} {filePath : String} (a : RecordAct)
    (h : record.Guards filePath) (hnot : a ≠ .dropped filePath) :
    (a.apply record).Guards filePath := by
  unfold Guards ClaimsUploaded at h ⊢
  cases a with
  | defaults description tags => exact h
  | typed datatype => exact h
  | added other =>
    by_cases heq : filePath = other
    · subst heq
      refine .inr ⟨by simp [apply, get?_registerFile], ?_⟩
      rcases h with h | ⟨h, hforce⟩
      · simp [apply, registerFile, h]
      · simpa [apply, registerFile, h] using hforce
    · simpa only [apply, get?_registerFile, heq, if_false, mem_registerFile record heq] using h
  | unsynced other =>
    by_cases heq : filePath = other
    · subst heq
      have htracked : (record.filesUploaded.get? filePath).isSome := by
        rcases h with h | ⟨h, -⟩ <;> simp [h]
      refine .inr ⟨?_, by simp [apply, markFileAsUnsynced, htracked]⟩
      obtain ⟨uploaded, huploaded⟩ := Option.isSome_iff_exists.mp htracked
      simp [apply, get?_markFileAsUnsynced, huploaded]
    · simpa only [apply, get?_markFileAsUnsynced, heq, if_false, mem_markFileAsUnsynced record heq]
        using h
  | recordUnsynced =>
    have htracked : (record.filesUploaded.get? filePath).isSome := by
      rcases h with h | ⟨h, -⟩ <;> simp [h]
    refine .inr ⟨?_, ?_⟩
    · obtain ⟨uploaded, huploaded⟩ := Option.isSome_iff_exists.mp htracked
      simp [apply, get?_markRecordUnsynced, huploaded]
    · refine Finset.mem_union_right _ ?_
      rw [List.mem_toFinset]
      exact Assoc.mem_keys.mpr htracked
  | uploaded other force =>
    by_cases heq : filePath = other
    · subst heq
      exact .inl (by simp [apply, fileUploaded])
    · rcases h with h | ⟨h, hforce⟩
      · exact .inl (by simpa [apply, fileUploaded, Assoc.get?_set_of_ne heq] using h)
      · refine .inr ⟨by simpa [apply, fileUploaded, Assoc.get?_set_of_ne heq] using h, ?_⟩
        cases force with
        | true => exact Finset.mem_erase.mpr ⟨heq, hforce⟩
        | false => exact hforce
  | dropped other =>
    have hne : filePath ≠ other := fun heq => hnot (by rw [heq])
    simpa [apply, forgetFile, Assoc.get?_erase, hne] using h
  | synced => exact h

inductive LedgerAct where
  | created (record : LocalRecord)
  | changed (id : String) (a : RecordAct)
  deriving DecidableEq

def LedgerAct.apply (records : Records) : LedgerAct → Records
  | .created record => records.set record.identifier record
  | .changed id a => records.change id fun record => a.apply record

section
variable [Interpreter]

/-- What `load_persisted_records` reads of what `save_persisted_records` wrote. -/
def Records.reloaded (records : Records) : Records :=
  records.mapValues fun _ record => LocalRecord.fromDict record.toDict

def ledgerLaws : StoreLaws Records LedgerAct where
  apply := LedgerAct.apply
  persist := Records.reloaded
  blank := .empty

/-- How an attempt to write the ledger ends: `save_persisted_records` logs what it catches. -/
inductive SaveOutcome where
  | written
  | untouched
  /-- The file cannot be read any more. -/
  | torn

structure Ledger where
  store : Store Records
  history : List (StoreEvent LedgerAct)
  faults : List SaveOutcome

abbrev LedgerM := Eff Exn Ledger

def Ledger.record? (l : Ledger) (id : String) : Option LocalRecord := l.store.memory.get? id

def Ledger.filesOf (l : Ledger) (id : String) : List (String × Bool) :=
  match l.record? id with
  | some record => record.filesUploaded.entries
  | none => []

def Ledger.requiresForce (l : Ledger) (id filePath : String) : Bool :=
  match l.record? id with
  | some record => decide (filePath ∈ record.filesRequireForce)
  | none => false

-- ---------------------------------------------------------------------------
-- The record manager
-- ---------------------------------------------------------------------------

def emit (e : StoreEvent LedgerAct) : LedgerM Unit :=
  Eff.modify fun l => { l with store := l.store.next ledgerLaws e, history := l.history ++ [e] }

def change (id : String) (a : RecordAct) : LedgerM Unit := emit (.act (.changed id a))

def nextFault : LedgerM SaveOutcome := fun l =>
  (.ok (l.faults.headD .written), { l with faults := l.faults.tail })

def saveRecords : LedgerM Unit := do
  match ← nextFault with
  | .written => emit .saved
  | .untouched => pure ()
  | .torn => emit .torn

/-- `load_persisted_records`, which takes a file that cannot be read for an empty one. -/
def loadRecords (readable : Bool) : LedgerM Unit :=
  emit (if readable then .restarted else .unread)

def generateRecordId (filenamePrefix devKadiRecordId : String) : String :=
  Interpreter.lower (devKadiRecordId ++ "-" ++ filenamePrefix)

def newRecord (filenamePrefix devKadiRecordId date : String) : LocalRecord :=
  LocalRecord.postInit
    { identifier := generateRecordId filenamePrefix devKadiRecordId
      sampleName := (splitId filenamePrefix).getLastD ""
      date }

def createRecord (filenamePrefix devKadiRecordId date : String) : LedgerM String := do
  let record := newRecord filenamePrefix devKadiRecordId date
  emit (.act (.created record))
  return record.identifier

/-- `RecordManager.add_item_to_record`, from the files found at the path. -/
def addItemToRecord (found : List String) (id : String) : LedgerM Nat := do
  let before ← Eff.get
  found.forM fun filePath => change id (.added filePath)
  let after ← Eff.get
  saveRecords
  return (after.filesOf id).length - (before.filesOf id).length

def allRecordsUploaded (l : Ledger) : Bool :=
  l.store.memory.values.all LocalRecord.allFilesUploaded

-- ---------------------------------------------------------------------------
-- Synchronisation
-- ---------------------------------------------------------------------------

inductive UploadOutcome where
  | uploaded
  | fileNotFound
  | failed (e : Exn)
  deriving DecidableEq

/-- The database, as one synchronisation finds it: what comes of preparing the resources of a
record, and of uploading each of its files. -/
structure Remote where
  prepare : (id : String) → Except Exn Unit
  uploadFile : (id filePath : String) → UploadOutcome

variable (remote : Remote)

/-- The loop of `_upload_record_files`; what it returns are the missing files. -/
def uploadFiles (id : String) : List (String × Bool) → LedgerM (List String)
  | [] => return []
  | (_, true) :: rest => uploadFiles id rest
  | (filePath, false) :: rest => do
    let l ← Eff.get
    match remote.uploadFile id filePath with
    | .uploaded => do
      change id (.uploaded filePath (l.requiresForce id filePath))
      uploadFiles id rest
    | .fileNotFound => do
      let missingFiles ← uploadFiles id rest
      return filePath :: missingFiles
    | .failed e => Eff.raise e

def uploadRecordFiles (id : String) : LedgerM Bool := do
  let l ← Eff.get
  let missingFiles ← uploadFiles remote id (l.filesOf id)
  missingFiles.forM fun filePath => change id (.dropped filePath)
  let l ← Eff.get
  return (l.filesOf id).any fun file => !file.2

def syncRecordToDatabase (id : String) : LedgerM Bool := do
  Eff.lift (remote.prepare id)
  let filesRemaining ← uploadRecordFiles remote id
  change id .synced
  return filesRemaining

def syncRecord (id : String) : LedgerM Unit := do
  let _ ← syncRecordToDatabase remote id
  saveRecords

/-- `sync_records_to_database` of the record manager, for one record. -/
def syncEligible (id : String) : LedgerM Unit := do
  let l ← Eff.get
  match l.record? id with
  | none => return ()
  | some record =>
    if record.institute ≠ "ipat" then return ()
    else if record.allFilesUploaded then return ()
    else syncRecord remote id

def syncRecordsToDatabase : LedgerM Unit := do
  let l ← Eff.get
  l.store.memory.keys.forM (syncEligible remote)

def syncPending : LedgerM Unit := do
  let l ← Eff.get
  if allRecordsUploaded l then return () else syncRecordsToDatabase remote

-- ---------------------------------------------------------------------------
-- The processing of an item
-- ---------------------------------------------------------------------------

/-- A force path that exists: the files that `add_item` finds there, and those that are then
marked as unsynced. -/
structure ForcePath where
  found : List String
  marked : List String

structure Ingestion where
  record : Option String
  filenamePrefix : String
  devKadiRecordId : String
  date : String
  defaultRecordDescription : String
  recordTags : List String
  /-- The datatype that `device_specific_processing` gives, or what is raised until then. -/
  processing : Except Exn String
  finalFiles : List String
  forcePaths : List ForcePath
  immediateSync : Bool

def getOrCreateRecord (item : Ingestion) : LedgerM String :=
  match item.record with
  | some id => return id
  | none => createRecord item.filenamePrefix item.devKadiRecordId item.date

def forceRecord (id : String) (path : ForcePath) : LedgerM Unit := do
  let _ ← addItemToRecord path.found id
  path.marked.forM fun filePath => change id (.unsynced filePath)

/-- The part of `FileProcessManager.add_item_to_record` that concerns the records. -/
def ingest (item : Ingestion) : LedgerM Unit := do
  let id ← getOrCreateRecord item
  change id (.defaults item.defaultRecordDescription item.recordTags)
  let datatype ← Eff.lift item.processing
  change id (.typed datatype)
  let _ ← addItemToRecord item.finalFiles id
  item.forcePaths.forM (forceRecord id)
  if item.immediateSync then do
    let _ ← Eff.attempt (syncPending remote)
    return ()
  else return ()

/-- What the program does to its ledger, one call after another. -/
inductive LedgerStep where
  | ingest (item : Ingestion) (remote : Remote)
  | sync (remote : Remote)
  | save
  | unsync (id filePath : String)
  | unsyncRecord (id : String)
  | reload (readable : Bool)
  /-- A new process, which first synchronises what is pending. -/
  | start (readable : Bool) (remote : Remote)

def LedgerStep.run : LedgerStep → LedgerM Unit
  | .ingest item remote => Watchdog.ingest remote item
  | .sync remote => syncPending remote
  | .save => saveRecords
  | .unsync id filePath => change id (.unsynced filePath)
  | .unsyncRecord id => change id .recordUnsynced
  | .reload readable => loadRecords readable
  | .start readable remote => do
    loadRecords readable
    syncPending remote

def Ledger.steps (l : Ledger) (steps : List LedgerStep) : Ledger :=
  steps.foldl (fun l step => (step.run.run l).2) l

def Ledger.new (faults : List SaveOutcome) : Ledger := ⟨⟨.empty, none⟩, [], faults⟩

end

end DpostV2.Watchdog
