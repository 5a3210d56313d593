import DpostV2.Contracts.Context
import DpostV2.Records.LocalRecord
import DpostV2.Storage.Connection

/-!
# The records service

`RecordsService` over the record store on its connection: what it hands to the store
(`toStorePayload`), what it makes of a snapshot (`fromStoreSnapshot`), and its four
methods, where no statement fails. Texts of a record are tokens here: they are
stripped and must not be empty.
-/

namespace DpostV2.Records

open RecordStore (Snapshot rowToSnapshot)
open SqliteRecordStore (StoreEff)

def serviceError (cls message : String) : Exn :=
  { mro := [cls, "RecordsServiceError", "RuntimeError", "Exception"], message }

def validationError (message : String) : Exn := serviceError "RecordValidationError" message

-- ---------------------------------------------------------------------------
-- Checks
-- ---------------------------------------------------------------------------

def requireMapping (value : Value) (fieldName : String) : Except Exn Dict :=
  match value.asDict? with
  | some d => .ok d
  | none => .error (validationError s!"{fieldName} must be a mapping")

def requireToken (value : Value) (fieldName : String) : Except Exn { s : String // Stripped s } :=
  match value with
  | .str s =>
    if h : blank s = false then .ok ⟨strip s, stripped_strip h⟩
    else .error (validationError s!"{fieldName} must be a non-empty string")
  | _ => .error (validationError s!"{fieldName} must be a non-empty string")

/-- `isinstance(value, int)`, as `True` and `False` are, and not negative. -/
def requireNonNegativeInt (value : Value) (fieldName : String) : Except Exn Int :=
  match value with
  | .int i => if i < 0 then .error (validationError s!"{fieldName} must be >= 0") else .ok i
  | .bool b => .ok (if b then 1 else 0)
  | _ => .error (validationError s!"{fieldName} must be an int")

/-- The tokens of a metadata mapping, entry by entry. -/
def requireTokens : List (String × Value) → Except Exn (List (String × Value))
  | [] => .ok []
  | (key, value) :: entries => do
    let k ← requireToken (.str key) "metadata key"
    let v ← requireToken value s!"metadata[{key}]"
    let rest ← requireTokens entries
    return (k.1, .str v.1) :: rest

/-- Keys that are one once stripped share an entry: the last value stays. -/
def requireMetadata (metadata : Dict) : Except Exn Dict := do
  let entries ← requireTokens metadata.entries
  return Dict.ofEntries entries

def requireReason : Value → Except Exn (Option String)
  | .none => .ok none
  | value => do
    let reason ← requireToken value "last_reason_code"
    return some reason.1

/-- A reason code, or `None`. -/
def reasonValue : Option String → Value
  | none => .none
  | some reason => .str reason

def SyncStatus.ofValue (token : String) : Option SyncStatus :=
  if token = "unsynced" then some .unsynced else if token = "synced" then some .synced else none

def RecordProcessingStatus.ofValue (token : String) : Option RecordProcessingStatus :=
  if token = "pending" then some .pending else if token = "processed" then some .processed
  else if token = "rejected" then some .rejected
    else if token = "failed" then some .failed else none

section
variable [DatedInterpreter]

/-- A string: no datetime object comes back from JSON. -/
def requireDatetime (value : Value) (fieldName : String) : Except Exn DateTime :=
  let refused := validationError s!"{fieldName} must be datetime or ISO-8601 datetime string"
  match value with
  | .str s =>
    if blank s then .error refused
    else match DatedInterpreter.fromisoformat s with
      | some d => .ok d
      | none => .error refused
  | _ => .error refused

def requireEnum (ofValue : String → Option α) (value : Value) (fieldName : String) :
    Except Exn α := do
  let token ← requireToken value fieldName
  let lowered := Interpreter.lower token.1
  match ofValue lowered with
  | some member => return member
  | none =>
    throw (validationError s!"{fieldName} value {Interpreter.reprOf lowered} is not supported")

-- ---------------------------------------------------------------------------
-- Encoding and decoding
-- ---------------------------------------------------------------------------

/-- The payload column of a record. -/
def storePayload (record : LocalRecord) (sourceIdentity canonicalName : String)
    (reason : Option String) (metadata : Dict) : Dict :=
  Dict.ofEntries [
    ("source_identity", .str sourceIdentity),
    ("canonical_name", .str canonicalName),
    ("sync_status", .str record.syncStatus.value),
    ("processing_status", .str record.processingStatus.value),
    ("created_at", .str record.createdAt.isoformat),
    ("updated_at", .str record.updatedAt.isoformat),
    ("last_reason_code", reasonValue reason),
    ("metadata", .dict metadata.entries)]

def toStorePayload (record : LocalRecord) : Except Exn Value := do
  let recordId ← requireToken (.str record.recordId) "record_id"
  let sourceIdentity ← requireToken (.str record.sourceIdentity) "source_identity"
  let canonicalName ← requireToken (.str record.canonicalName) "canonical_name"
  let revision ← requireNonNegativeInt (.int record.revision) "revision"
  if ← DateTime.less record.updatedAt record.createdAt then
    throw (validationError "updated_at must not be older than created_at")
  else
    let reason ← requireReason (reasonValue record.lastReasonCode)
    let metadata ← requireMetadata (record.metadata.getD Dict.empty)
    let payload := storePayload record sourceIdentity.1 canonicalName.1 reason metadata
    return .dict [("record_id", .str recordId.1), ("revision", .int revision),
      ("payload", .dict payload.entries)]

def fromStoreSnapshot (snapshot : Snapshot) : Except Exn LocalRecord := do
  let recordId ← requireToken (.str snapshot.recordId) "record_id"
  let payload := snapshot.payload
  let createdAt ← requireDatetime (payload.getNone "created_at") "created_at"
  let updatedAt ← requireDatetime (.str snapshot.updatedAt) "updated_at"
  let syncStatus ← requireEnum SyncStatus.ofValue (payload.getNone "sync_status") "sync_status"
  let processingStatus ← requireEnum RecordProcessingStatus.ofValue
    (payload.getNone "processing_status") "processing_status"
  let metadata ← requireMapping (payload.getD "metadata" (.dict [])) "metadata"
  let metadata ← requireMetadata metadata
  let lastReasonCode ← requireReason (payload.getNone "last_reason_code")
  let sourceIdentity ← requireToken (payload.getNone "source_identity") "source_identity"
  let canonicalName ← requireToken (payload.getNone "canonical_name") "canonical_name"
  return {
    recordId := recordId.1
    sourceIdentity := sourceIdentity.1
    canonicalName := canonicalName.1
    syncStatus, processingStatus
    revision := snapshot.revision
    createdAt, updatedAt, lastReasonCode
    metadata := some metadata }

-- ---------------------------------------------------------------------------
-- The service
-- ---------------------------------------------------------------------------

def mapStoreException (e : Exn) : Exn :=
  let errorName := Interpreter.lower e.className
  let message := strip e.message
  let lowered := Interpreter.lower message
  if containsText "not found" lowered then serviceError "RecordNotFoundError" message
  else if containsText "conflict" errorName || containsText "conflict" lowered then
    serviceError "RecordConflictError" message
  else if containsText "validation" errorName then validationError message
  else if e.isInstance "TypeError" || e.isInstance "ValueError" then validationError message
  else serviceError "RecordStoreError" (if message = "" then e.className else message)

/-- The handlers of `_store_call`. -/
def storeCallError (e : Exn) : Exn :=
  if e.isInstance "RecordsServiceError" then e else mapStoreException e

def RecordsService.storeCall (m : StoreEff α) : StoreEff α :=
  SqliteRecordStore.handling storeCallError m

def normalizeMutation (mutation : Value) : Except Exn Value :=
  match mutation.asDict? with
  | none => .error (validationError "mutation must be a mapping")
  | some mutation =>
    match mutation.get? "expected_revision" with
    | none => .error (validationError "mutation.expected_revision is required")
    | some expected => do
      let _ ← requireNonNegativeInt expected "mutation.expected_revision"
      let payload ← requireMapping (mutation.getD "payload" (.dict [])) "mutation.payload"
      return .dict ((mutation.set "expected_revision" expected).set "payload"
        (.dict payload.entries)).entries

/-- `now` is the reading of the clock the store takes. -/
def RecordsService.create (record : LocalRecord) (now : UtcTime) : StoreEff LocalRecord := do
  let prepared ← Eff.lift (toStorePayload record)
  let snapshot ← storeCall (SqliteRecordStore.create prepared now.1.isoformat {})
  Eff.lift (fromStoreSnapshot snapshot)

def RecordsService.update (recordId mutation : Value) (now : UtcTime) : StoreEff LocalRecord := do
  let recordId ← Eff.lift (requireToken recordId "record_id")
  let mutation ← Eff.lift (normalizeMutation mutation)
  let snapshot ← storeCall (SqliteRecordStore.update recordId.1 mutation now.1.isoformat {})
  Eff.lift (fromStoreSnapshot snapshot)

def RecordsService.getSnapshot (recordId : Value) : StoreEff Snapshot := do
  let recordId ← Eff.lift (requireToken recordId "record_id")
  storeCall (SqliteRecordStore.getOrRaise recordId.1 none)

def RecordsService.markUnsynced (recordId : Value) (now : UtcTime) : StoreEff LocalRecord := do
  let recordId ← Eff.lift (requireToken recordId "record_id")
  let current ← getSnapshot (.str recordId.1)
  let currentLocal ← Eff.lift (fromStoreSnapshot current)
  if currentLocal.syncStatus = .unsynced then return currentLocal
  else do
    storeCall (SqliteRecordStore.markUnsynced recordId.1 now.1.isoformat {})
    let refreshed ← getSnapshot (.str recordId.1)
    Eff.lift (fromStoreSnapshot refreshed)

def RecordsService.save (record : LocalRecord) (now : UtcTime) : StoreEff LocalRecord := do
  let prepared ← Eff.lift (toStorePayload record)
  let snapshot ← storeCall (SqliteRecordStore.save prepared now.1.isoformat {})
  Eff.lift (fromStoreSnapshot snapshot)

/-- What a reader of the service sees, as `mark_unsynced` does before it writes. -/
def RecordsService.readRecord (recordId : Value) : StoreEff LocalRecord := do
  let snapshot ← getSnapshot recordId
  Eff.lift (fromStoreSnapshot snapshot)

end

end DpostV2.Records
