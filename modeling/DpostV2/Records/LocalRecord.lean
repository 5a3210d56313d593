import DpostV2.Lib.DateTime

/-!
# Local records

The record entity of the domain layer and its mutations. A record is built by
`createRecord` and changed by a `Mutation`, each with a timestamp that must not be
older than the last; `Reachable` is what comes of that.
-/

namespace DpostV2.Records

inductive SyncStatus where
  | unsynced
  | synced
  deriving DecidableEq, Repr

def SyncStatus.value : SyncStatus → String
  | .unsynced => "unsynced"
  | .synced => "synced"

inductive RecordProcessingStatus where
  | pending
  | processed
  | rejected
  | failed
  deriving DecidableEq, Repr

def RecordProcessingStatus.value : RecordProcessingStatus → String
  | .pending => "pending"
  | .processed => "processed"
  | .rejected => "rejected"
  | .failed => "failed"

/-- `metadata` is annotated as a mapping of strings to strings; nothing checks its values here. -/
structure LocalRecord where
  recordId : String
  sourceIdentity : String
  canonicalName : String
  syncStatus : SyncStatus
  processingStatus : RecordProcessingStatus
  revision : Int
  createdAt : DateTime
  updatedAt : DateTime
  lastReasonCode : Option String := none
  metadata : Option Dict := none

def localRecordError (cls message : String) : Exn :=
  { mro := [cls, "LocalRecordError", "ValueError", "Exception"], message }

def validateIdentity (recordId sourceIdentity canonicalName : String) : Except Exn Unit :=
  if recordId = "" then
    .error (localRecordError "LocalRecordIdentityError" "record_id must be non-empty.")
  else if sourceIdentity = "" then
    .error (localRecordError "LocalRecordIdentityError" "source_identity must be non-empty.")
  else if canonicalName = "" then
    .error (localRecordError "LocalRecordIdentityError" "canonical_name must be non-empty.")
  else .ok ()

def validateTimestampProgression (previous updated : DateTime) : Except Exn Unit := do
  if ← DateTime.less updated previous then
    throw (localRecordError "LocalRecordTimestampError"
      "Mutation timestamp cannot be older than current updated_at timestamp.")

def createRecord (recordId sourceIdentity canonicalName : String) (createdAt : DateTime)
    (metadata : Option Dict) : Except Exn LocalRecord := do
  validateIdentity recordId sourceIdentity canonicalName
  return {
    recordId, sourceIdentity, canonicalName
    syncStatus := .unsynced
    processingStatus := .pending
    revision := 0
    createdAt
    updatedAt := createdAt
    metadata := some (metadata.getD Dict.empty) }

def applyProcessingResult (record : LocalRecord) (processingStatus : RecordProcessingStatus)
    (reasonCode : Option String) (updatedAt : DateTime) : Except Exn LocalRecord := do
  validateTimestampProgression record.updatedAt updatedAt
  return { record with
    processingStatus
    revision := record.revision + 1
    updatedAt
    lastReasonCode := reasonCode }

def markSynced (record : LocalRecord) (updatedAt : DateTime) : Except Exn LocalRecord := do
  if record.syncStatus = .synced then
    throw (localRecordError "LocalRecordTransitionError" "Record is already synced.")
  else
    validateTimestampProgression record.updatedAt updatedAt
    return { record with syncStatus := .synced, revision := record.revision + 1, updatedAt }

def markUnsynced (record : LocalRecord) (updatedAt : DateTime) : Except Exn LocalRecord := do
  if record.syncStatus = .unsynced then
    throw (localRecordError "LocalRecordTransitionError" "Record is already unsynced.")
  else
    validateTimestampProgression record.updatedAt updatedAt
    return { record with syncStatus := .unsynced, revision := record.revision + 1, updatedAt }

def sameIdentity (left right : LocalRecord) : Bool :=
  left.recordId == right.recordId && left.sourceIdentity == right.sourceIdentity &&
    left.canonicalName == right.canonicalName

-- ---------------------------------------------------------------------------
-- Mutations
-- ---------------------------------------------------------------------------

inductive Mutation where
  | applyProcessingResult (processingStatus : RecordProcessingStatus) (reasonCode : Option String)
  | markSynced
  | markUnsynced
  deriving DecidableEq

def Mutation.run (m : Mutation) (record : LocalRecord) (updatedAt : DateTime) :
    Except Exn LocalRecord :=
  match m with
  | .applyProcessingResult status reasonCode =>
    Records.applyProcessingResult record status reasonCode updatedAt
  | .markSynced => Records.markSynced record updatedAt
  | .markUnsynced => Records.markUnsynced record updatedAt

/-- The reason code a mutation leaves. -/
def Mutation.reasonCode (m : Mutation) (record : LocalRecord) : Option String :=
  match m with
  | .applyProcessingResult _ reasonCode => reasonCode
  | .markSynced | .markUnsynced => record.lastReasonCode

/-- All that a mutation at `t` does: statuses and reason code aside, one revision and the
timestamp. -/
structure Mutated (m : Mutation) (record : LocalRecord) (t : DateTime)
    (record' : LocalRecord) : Prop
    where
  recordId : record'.recordId = record.recordId
  sourceIdentity : record'.sourceIdentity = record.sourceIdentity
  canonicalName : record'.canonicalName = record.canonicalName
  revision : record'.revision = record.revision + 1
  createdAt : record'.createdAt = record.createdAt
  updatedAt : record'.updatedAt = t
  reason : record'.lastReasonCode = m.reasonCode record
  metadata : record'.metadata = record.metadata
  progression : DateTime.less t record.updatedAt = .ok false

theorem progression_ok {previous updated : DateTime}
    (h : validateTimestampProgression previous updated = .ok ()) :
    DateTime.less updated previous = .ok false := by
  obtain ⟨older, hless, h⟩ := except_bind_ok.mp h
  cases older with
  | false => exact hless
  | true => cases h

theorem Mutation.run_ok {m : Mutation} {record record' : LocalRecord} {t : DateTime}
    (h : m.run record t = .ok record') : Mutated m record t record' := by
  cases m with
  | applyProcessingResult status reasonCode =>
    obtain ⟨_, hp, h⟩ := except_bind_ok.mp h
    cases except_pure_ok.mp h
    exact ⟨rfl, rfl, rfl, rfl, rfl, rfl, rfl, rfl, progression_ok hp⟩
  | markSynced =>
    simp only [Mutation.run, Records.markSynced] at h
    split at h
    · cases h
    · obtain ⟨_, hp, h⟩ := except_bind_ok.mp h
      cases except_pure_ok.mp h
      exact ⟨rfl, rfl, rfl, rfl, rfl, rfl, rfl, rfl, progression_ok hp⟩
  | markUnsynced =>
    simp only [Mutation.run, Records.markUnsynced] at h
    split at h
    · cases h
    · obtain ⟨_, hp, h⟩ := except_bind_ok.mp h
      cases except_pure_ok.mp h
      exact ⟨rfl, rfl, rfl, rfl, rfl, rfl, rfl, rfl, progression_ok hp⟩

theorem Mutated.sameIdentity (h : Mutated m record t record') :
    sameIdentity record record' = true := by
  simp [Records.sameIdentity, h.recordId, h.sourceIdentity, h.canonicalName]

-- ---------------------------------------------------------------------------
-- Reachable records
-- ---------------------------------------------------------------------------

inductive Reachable : LocalRecord → Prop
  | created
    (h : createRecord recordId sourceIdentity canonicalName createdAt metadata = .ok record) :
      Reachable record
  | mutated (hr : Reachable record) (h : Mutation.run m record t = .ok record') : Reachable record'

/-- What every mutation keeps, whatever the zones of its timestamps do. -/
theorem Reachable.revision (h : Reachable record) : 0 ≤ record.revision := by
  induction h with
  | created h =>
    obtain ⟨_, -, h⟩ := except_bind_ok.mp h
    cases except_pure_ok.mp h
    exact le_refl _
  | mutated _ h ih =>
    rw [(Mutation.run_ok h).revision]
    omega

/-- What the service asks of the numbers of a record; a record reached by mutations may lack the
order. -/
structure WellFormed (record : LocalRecord) : Prop where
  revision : 0 ≤ record.revision
  ordered : DateTime.less record.updatedAt record.createdAt = .ok false

end DpostV2.Records
