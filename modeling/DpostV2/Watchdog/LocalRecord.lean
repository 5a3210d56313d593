import Mathlib.Data.Finset.Image
import DpostV2.Lib.Assoc
import DpostV2.Lib.Python

/-!
# Local records

`LocalRecord` of the watchdog: which files of a record are uploaded, and which must be uploaded
with force because the database may already hold an earlier version of them. A path stands for
`str(Path(path).resolve())`. Only a file that waits for its upload can need force
(`ForceWaits`), and what is written to the ledger is read back as it was (`fromDict_toDict`).
-/

namespace DpostV2.Watchdog

def idSep : Char := '-'

/-- `text.split("-")`. -/
def splitId (text : String) : List String := (text.toList.splitOn idSep).map String.ofList

structure LocalRecord where
  identifier : String := "null"
  deviceType : String := "null"
  user : String := "null"
  institute : String := "null"
  sampleName : String := "null"
  datatype : String := "null"
  date : String := "null"
  isInDb : Bool := false
  filesUploaded : Assoc String Bool := .empty
  filesRequireForce : Finset String := ∅
  defaultDescription : Option String := none
  defaultTags : List String := []
  deriving DecidableEq

namespace LocalRecord

section
variable [Interpreter]

/-- `__post_init__`. -/
def postInit (record : LocalRecord) : LocalRecord :=
  match splitId record.identifier with
  | device :: user :: institute :: sample :: more =>
    { record with
      deviceType := Interpreter.lower device
      user := Interpreter.lower user
      institute := Interpreter.lower institute
      sampleName := if record.sampleName = "null" then "-".intercalate (sample :: more)
        else record.sampleName }
  | _ => record

end

def registerFile (record : LocalRecord) (normalized : String) : LocalRecord :=
  let previousStatus := record.filesUploaded.get? normalized
  let record := { record with filesUploaded := record.filesUploaded.set normalized false }
  match previousStatus with
  | some true =>
    { record with filesRequireForce := insert normalized record.filesRequireForce }
  | some false => record
  | none => { record with filesRequireForce := record.filesRequireForce.erase normalized }

def allFilesUploaded (record : LocalRecord) : Bool := record.filesUploaded.values.all id

def markRecordUnsynced (record : LocalRecord) : LocalRecord :=
  { record with
    filesUploaded := record.filesUploaded.mapValues fun _ _ => false
    filesRequireForce := record.filesRequireForce ∪ record.filesUploaded.keys.toFinset
    isInDb := false }

def markFileAsUnsynced (record : LocalRecord) (normalized : String) : LocalRecord :=
  if (record.filesUploaded.get? normalized).isSome then
    { record with
      filesUploaded := record.filesUploaded.set normalized false
      filesRequireForce := insert normalized record.filesRequireForce
      isInDb := false }
  else { record with isInDb := false }

/-- `apply_device_defaults`. -/
def applyDeviceDefaults (record : LocalRecord) (defaultRecordDescription : String)
    (recordTags : List String) : LocalRecord :=
  { record with
    defaultDescription :=
      if record.defaultDescription.getD "" = "" then some defaultRecordDescription
      else record.defaultDescription
    defaultTags := if record.defaultTags = [] then recordTags else record.defaultTags }

/-- What an upload that returned leaves behind. -/
def fileUploaded (record : LocalRecord) (filePath : String) (requiresForce : Bool) : LocalRecord :=
  { record with
    filesUploaded := record.filesUploaded.set filePath true
    filesRequireForce := if requiresForce then record.filesRequireForce.erase filePath
      else record.filesRequireForce }

/-- What a file that is gone leaves behind. -/
def forgetFile (record : LocalRecord) (filePath : String) : LocalRecord :=
  { record with
    filesUploaded := record.filesUploaded.erase filePath
    filesRequireForce := record.filesRequireForce.erase filePath }

-- ---------------------------------------------------------------------------
-- What is written to the ledger
-- ---------------------------------------------------------------------------

/-- A record in JSON, and the defaults of the fields that are not in it. The order in which
`list()` goes through a set is left open. -/
structure Payload where
  identifier : Option String
  deviceType : Option String
  user : Option String
  institute : Option String
  sampleName : Option String
  datatype : Option String
  date : Option String
  isInDb : Option Bool
  filesUploaded : Option (Assoc String Bool)
  filesRequireForce : Option (Multiset String)

def toDict (record : LocalRecord) : Payload where
  identifier := some record.identifier
  deviceType := some record.deviceType
  user := some record.user
  institute := some record.institute
  sampleName := some record.sampleName
  datatype := some record.datatype
  date := some record.date
  isInDb := some record.isInDb
  filesUploaded := some record.filesUploaded
  filesRequireForce := some record.filesRequireForce.val

variable [Interpreter]

def fromDict (data : Payload) : LocalRecord :=
  postInit
    { identifier := data.identifier.getD "null"
      deviceType := data.deviceType.getD "null"
      user := data.user.getD "null"
      institute := data.institute.getD "null"
      sampleName := data.sampleName.getD "null"
      datatype := data.datatype.getD "null"
      date := data.date.getD "null"
      isInDb := data.isInDb.getD false
      filesUploaded := data.filesUploaded.getD .empty
      filesRequireForce := (data.filesRequireForce.getD 0).toFinset }

/-- Without what is not written. -/
def persisted (record : LocalRecord) : LocalRecord :=
  { record with defaultDescription := none, defaultTags := [] }

/-- The identifier says what it says of the record. -/
def Named (record : LocalRecord) : Prop := record.postInit = record

theorem postInit_files (record : LocalRecord) :
    record.postInit.filesUploaded = record.filesUploaded ∧
      record.postInit.filesRequireForce = record.filesRequireForce := by
  unfold postInit
  split <;> exact ⟨rfl, rfl⟩

theorem postInit_named (record : LocalRecord) : record.postInit.Named := by
  unfold Named
  cases hparts : splitId record.identifier with
  | nil => simp [postInit, hparts]
  | cons device rest =>
    rcases rest with _ | ⟨user, _ | ⟨institute, _ | ⟨sample, more⟩⟩⟩
    · simp [postInit, hparts]
    · simp [postInit, hparts]
    · simp [postInit, hparts]
    · by_cases hsample : record.sampleName = "null"
      · simp [postInit, hparts, hsample]
      · simp [postInit, hparts, hsample]

theorem postInit_persisted (record : LocalRecord) :
    record.persisted.postInit = record.postInit.persisted := by
  unfold postInit
  simp only [persisted]
  split <;> rfl

theorem fromDict_toDict {record : LocalRecord} (h : record.Named) :
    fromDict record.toDict = record.persisted := by
  have hdict : fromDict record.toDict = record.persisted.postInit := by
    simp [fromDict, toDict, persisted]
  rw [hdict, postInit_persisted, h]

/-- The files, and whether the record is in the database, are not what names it. -/
theorem Named.withFiles {record : LocalRecord} (h : record.Named) (uploaded : Assoc String Bool)
    (force : Finset String) (inDb : Bool) :
    Named { record with
      filesUploaded := uploaded, filesRequireForce := force, isInDb := inDb } := by
  have hcommutes : postInit { record with
      filesUploaded := uploaded, filesRequireForce := force, isInDb := inDb } =
      { record.postInit with
        filesUploaded := uploaded, filesRequireForce := force, isInDb := inDb } := by
    unfold postInit
    dsimp only
    split <;> rfl
  rw [Named, hcommutes, h]

theorem Named.withDefaults {record : LocalRecord} (h : record.Named) (datatype : String)
    (description : Option String) (tags : List String) :
    Named { record with
      datatype := datatype, defaultDescription := description, defaultTags := tags } := by
  have hcommutes : postInit { record with
      datatype := datatype, defaultDescription := description, defaultTags := tags } =
      { record.postInit with
        datatype := datatype, defaultDescription := description, defaultTags := tags } := by
    unfold postInit
    dsimp only
    split <;> rfl
  rw [Named, hcommutes, h]

theorem Named.registerFile {record : LocalRecord} (h : record.Named) (normalized : String) :
    (record.registerFile normalized).Named := by
  unfold LocalRecord.registerFile
  dsimp only
  split <;> exact h.withFiles _ _ _

theorem Named.markFileAsUnsynced {record : LocalRecord} (h : record.Named) (normalized : String) :
    (record.markFileAsUnsynced normalized).Named := by
  unfold LocalRecord.markFileAsUnsynced
  split <;> exact h.withFiles _ _ _

-- ---------------------------------------------------------------------------
-- Force is for files that wait
-- ---------------------------------------------------------------------------

/-- Only a file that waits for its upload needs force. -/
def ForceWaits (record : LocalRecord) : Prop :=
  ∀ filePath ∈ record.filesRequireForce, record.filesUploaded.get? filePath = some false

namespace ForceWaits

omit [Interpreter]

variable {record : LocalRecord} {normalized : String}

theorem set_false (h : record.ForceWaits) {filePath : String}
    (hforce : filePath = normalized ∨ filePath ∈ record.filesRequireForce) :
    (record.filesUploaded.set normalized false).get? filePath = some false := by
  by_cases heq : filePath = normalized
  · simp [heq]
  · rw [Assoc.get?_set_of_ne heq]
    exact h _ (hforce.resolve_left heq)

theorem registerFile (h : record.ForceWaits) : (record.registerFile normalized).ForceWaits := by
  intro filePath hforce
  unfold LocalRecord.registerFile at hforce ⊢
  cases hprevious : record.filesUploaded.get? normalized with
  | none =>
    simp only [hprevious, Finset.mem_erase] at hforce ⊢
    exact h.set_false (.inr hforce.2)
  | some previous =>
    cases previous with
    | false =>
      simp only [hprevious] at hforce ⊢
      exact h.set_false (.inr hforce)
    | true =>
      simp only [hprevious, Finset.mem_insert] at hforce ⊢
      exact h.set_false hforce

theorem markRecordUnsynced (h : record.ForceWaits) : record.markRecordUnsynced.ForceWaits := by
  intro filePath hforce
  simp only [LocalRecord.markRecordUnsynced, Finset.mem_union, List.mem_toFinset] at hforce ⊢
  have htracked : (record.filesUploaded.get? filePath).isSome := by
    rcases hforce with hforce | hkey
    · simp [h _ hforce]
    · exact Assoc.mem_keys.mp hkey
  obtain ⟨uploaded, huploaded⟩ := Option.isSome_iff_exists.mp htracked
  simp [huploaded]

theorem markFileAsUnsynced (h : record.ForceWaits) :
    (record.markFileAsUnsynced normalized).ForceWaits := by
  intro filePath hforce
  unfold LocalRecord.markFileAsUnsynced at hforce ⊢
  split at hforce
  · rename_i htracked
    simp only [htracked, if_true, Finset.mem_insert] at hforce ⊢
    exact h.set_false hforce
  · rename_i htracked
    simp only [htracked] at hforce ⊢
    exact h _ hforce

/-- An upload without force is one of a file that needs none. -/
theorem fileUploaded (h : record.ForceWaits) {force : Bool}
    (hforced : force = true ↔ normalized ∈ record.filesRequireForce) :
    (record.fileUploaded normalized force).ForceWaits := by
  intro filePath hforce
  have hother : filePath ∈ record.filesRequireForce ∧ filePath ≠ normalized := by
    cases force with
    | true =>
      obtain ⟨hne, hforce⟩ := Finset.mem_erase.mp hforce
      exact ⟨hforce, hne⟩
    | false =>
      refine ⟨hforce, fun heq => ?_⟩
      subst heq
      exact absurd (hforced.mpr hforce) Bool.false_ne_true
  simpa [LocalRecord.fileUploaded, Assoc.get?_set_of_ne hother.2] using h _ hother.1

theorem forgetFile (h : record.ForceWaits) : (record.forgetFile normalized).ForceWaits := by
  intro filePath hforce
  obtain ⟨hne, hforce⟩ := Finset.mem_erase.mp hforce
  simpa [LocalRecord.forgetFile, Assoc.get?_erase, hne] using h _ hforce

end ForceWaits

-- ---------------------------------------------------------------------------
-- What a record says of a file
-- ---------------------------------------------------------------------------

def ClaimsUploaded (record : LocalRecord) (filePath : String) : Prop :=
  record.filesUploaded.get? filePath = some true

/-- The file is called uploaded, or it waits for an upload with force. -/
def Guards (record : LocalRecord) (filePath : String) : Prop :=
  record.ClaimsUploaded filePath ∨
    (record.filesUploaded.get? filePath = some false ∧ filePath ∈ record.filesRequireForce)

theorem fromDict_files (record : LocalRecord) :
    (fromDict record.toDict).filesUploaded = record.filesUploaded ∧
      (fromDict record.toDict).filesRequireForce = record.filesRequireForce := by
  simp [fromDict, toDict, postInit_files]

theorem claimsUploaded_fromDict (record : LocalRecord) (filePath : String) :
    (fromDict record.toDict).ClaimsUploaded filePath ↔ record.ClaimsUploaded filePath := by
  simp [ClaimsUploaded, fromDict_files]

theorem guards_fromDict (record : LocalRecord) (filePath : String) :
    (fromDict record.toDict).Guards filePath ↔ record.Guards filePath := by
  simp [Guards, ClaimsUploaded, fromDict_files]

section
omit [Interpreter]
variable (record : LocalRecord) (normalized filePath : String)

theorem get?_registerFile : (record.registerFile normalized).filesUploaded.get? filePath =
    if filePath = normalized then some false else record.filesUploaded.get? filePath := by
  unfold registerFile
  dsimp only
  split <;> exact Assoc.get?_set

theorem get?_markFileAsUnsynced :
    (record.markFileAsUnsynced normalized).filesUploaded.get? filePath =
      if filePath = normalized then (record.filesUploaded.get? filePath).map fun _ => false
      else record.filesUploaded.get? filePath := by
  unfold markFileAsUnsynced
  split
  · rename_i htracked
    rw [Assoc.get?_set]
    split
    · rename_i heq
      obtain ⟨uploaded, huploaded⟩ := Option.isSome_iff_exists.mp htracked
      simp [heq, huploaded]
    · rfl
  · rename_i htracked
    split
    · rename_i heq
      simp only [Bool.not_eq_true, Option.isSome_eq_false_iff,
        Option.isNone_iff_eq_none] at htracked
      simp [heq, htracked]
    · rfl

variable {filePath normalized} in
theorem mem_registerFile (h : filePath ≠ normalized) :
    filePath ∈ (record.registerFile normalized).filesRequireForce ↔
      filePath ∈ record.filesRequireForce := by
  unfold registerFile
  dsimp only
  split <;> simp [h]

variable {filePath normalized} in
theorem mem_markFileAsUnsynced (h : filePath ≠ normalized) :
    filePath ∈ (record.markFileAsUnsynced normalized).filesRequireForce ↔
      filePath ∈ record.filesRequireForce := by
  unfold markFileAsUnsynced
  split <;> simp [h]

theorem get?_markRecordUnsynced : record.markRecordUnsynced.filesUploaded.get? filePath =
    (record.filesUploaded.get? filePath).map fun _ => false := by
  simp [markRecordUnsynced]

end

end LocalRecord

end DpostV2.Watchdog
