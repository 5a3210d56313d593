import DpostV2.Records.History
import DpostV2.Records.Service

/-!
# A record through the store

What `RecordsService.create` makes of a record of the domain: it is stored and read back
with its texts stripped and the zone of its creation time fixed to an offset, or it is refused
because a text of its own is blank or its times are out of order.
-/

namespace DpostV2.Records

open RecordStore (Db Normalized Row Snapshot rowToSnapshot)
open SqliteRecordStore (StoreEff atomically_run bindable)

-- ---------------------------------------------------------------------------
-- Tokens
-- ---------------------------------------------------------------------------

theorem requireToken_ok {s : String} (h : blank s = false) (fieldName : String) :
    requireToken (.str s) fieldName = .ok ⟨strip s, stripped_strip h⟩ := by
  simp [requireToken, h]

theorem requireToken_iff {value : Value} {fieldName : String} {t : { s : String // Stripped s }} :
    requireToken value fieldName = .ok t ↔
      ∃ s, value = .str s ∧ blank s = false ∧ t.1 = strip s := by
  constructor
  · intro h
    unfold requireToken at h
    split at h
    · rename_i s
      split at h
      · rename_i hb
        cases h
        exact ⟨s, rfl, hb, rfl⟩
      · cases h
    · cases h
  · rintro ⟨s, rfl, hb, ht⟩
    rw [requireToken_ok hb]
    exact congrArg Except.ok (Subtype.ext ht.symm)

theorem requireToken_strip {s : String} (h : blank s = false) (fieldName : String) :
    requireToken (.str (strip s)) fieldName = .ok ⟨strip s, stripped_strip h⟩ := by
  rw [requireToken_ok (stripped_strip h).not_blank]
  exact congrArg Except.ok (Subtype.ext (strip_strip s))

/-- An entry of a metadata mapping that is not refused. -/
def TokenEntry (e : String × Value) : Prop :=
  blank e.1 = false ∧ ∃ s, e.2 = .str s ∧ blank s = false

/-- What is left of an entry of texts. -/
def strippedEntry (e : String × Value) : String × Value :=
  (strip e.1, match e.2 with
    | .str s => .str (strip s)
    | v => v)

theorem requireTokens_ok {es : List (String × Value)} (h : ∀ e ∈ es, TokenEntry e) :
    requireTokens es = .ok (es.map strippedEntry) := by
  induction es with
  | nil => rfl
  | cons e es ih =>
    obtain ⟨key, value⟩ := e
    obtain ⟨hk, s, hv, hs⟩ := h _ List.mem_cons_self
    simp only at hk hv
    subst hv
    simp [requireTokens, requireToken_ok hk, requireToken_ok hs,
      ih fun e he => h e (List.mem_cons_of_mem _ he), strippedEntry, bind, Except.bind, pure,
      Except.pure]

theorem tokenEntries_of_ok {es ts : List (String × Value)} (h : requireTokens es = .ok ts) :
    ∀ e ∈ es, TokenEntry e := by
  induction es generalizing ts with
  | nil => simp
  | cons e es ih =>
    obtain ⟨key, value⟩ := e
    obtain ⟨k, hk, h⟩ := except_bind_ok.mp h
    obtain ⟨v, hv, h⟩ := except_bind_ok.mp h
    obtain ⟨rest, hrest, -⟩ := except_bind_ok.mp h
    obtain ⟨_, hkey, hkb, -⟩ := requireToken_iff.mp hk
    cases hkey
    obtain ⟨s, hs, hsb, -⟩ := requireToken_iff.mp hv
    intro e he
    rcases List.mem_cons.mp he with rfl | he
    · exact ⟨hkb, s, hs, hsb⟩
    · exact ih hrest e he

/-- An entry that is a key and a text, both stripped and not empty. -/
def CleanEntry (e : String × Value) : Prop := Stripped e.1 ∧ ∃ s, e.2 = .str s ∧ Stripped s

theorem TokenEntry.clean (h : TokenEntry e) : CleanEntry (strippedEntry e) := by
  obtain ⟨hk, s, hv, hs⟩ := h
  obtain ⟨key, value⟩ := e
  simp only at hv
  subst hv
  exact ⟨stripped_strip hk, strip s, rfl, stripped_strip hs⟩

theorem CleanEntry.token (h : CleanEntry e) : TokenEntry e := by
  obtain ⟨hk, s, hv, hs⟩ := h
  exact ⟨hk.not_blank, s, hv, hs.not_blank⟩

theorem CleanEntry.strippedEntry_eq (h : CleanEntry e) : strippedEntry e = e := by
  obtain ⟨hk, s, hv, hs⟩ := h
  obtain ⟨key, value⟩ := e
  simp only at hv
  subst hv
  simp [strippedEntry, hk.2, hs.2]

/-- Metadata read a second time is as it was read the first time. -/
theorem requireMetadata_clean {d : Dict} (h : ∀ e ∈ d.entries, CleanEntry e) :
    requireMetadata d = .ok d := by
  have hself : d.entries.map strippedEntry = d.entries := by
    conv_rhs => rw [← List.map_id d.entries]
    exact List.map_congr_left fun e he => (h e he).strippedEntry_eq
  unfold requireMetadata
  rw [requireTokens_ok fun e he => (h e he).token, hself]
  exact congrArg Except.ok d.ofEntries_entries

-- ---------------------------------------------------------------------------
-- Records
-- ---------------------------------------------------------------------------

/-- No text of the record is blank. -/
structure LocalRecord.NonBlank (r : LocalRecord) : Prop where
  recordId : blank r.recordId = false
  sourceIdentity : blank r.sourceIdentity = false
  canonicalName : blank r.canonicalName = false
  reason : ∀ reason, r.lastReasonCode = some reason → blank reason = false
  metadata : ∀ e ∈ (r.metadata.getD Dict.empty).entries, TokenEntry e

/-- No text of the record is blank or begins or ends with whitespace. -/
structure LocalRecord.Clean (r : LocalRecord) : Prop where
  recordId : Stripped r.recordId
  sourceIdentity : Stripped r.sourceIdentity
  canonicalName : Stripped r.canonicalName
  reason : ∀ reason, r.lastReasonCode = some reason → Stripped reason
  metadata : ∃ d, r.metadata = some d ∧ ∀ e ∈ d.entries, CleanEntry e

def LocalRecord.strippedMetadata (r : LocalRecord) : Dict :=
  Dict.ofEntries ((r.metadata.getD Dict.empty).entries.map strippedEntry)

def LocalRecord.stripped (r : LocalRecord) : LocalRecord :=
  { r with
    recordId := strip r.recordId
    sourceIdentity := strip r.sourceIdentity
    canonicalName := strip r.canonicalName
    lastReasonCode := r.lastReasonCode.map strip
    metadata := some r.strippedMetadata }

theorem LocalRecord.NonBlank.cleanMetadata {r : LocalRecord} (h : r.NonBlank) :
    ∀ e ∈ r.strippedMetadata.entries, CleanEntry e := by
  intro e he
  obtain ⟨e', he', rfl⟩ := List.mem_map.mp (Dict.mem_ofEntries he)
  exact (h.metadata e' he').clean

theorem LocalRecord.NonBlank.clean {r : LocalRecord} (h : r.NonBlank) : r.stripped.Clean where
  recordId := stripped_strip h.recordId
  sourceIdentity := stripped_strip h.sourceIdentity
  canonicalName := stripped_strip h.canonicalName
  reason := by
    intro reason hr
    obtain ⟨reason', hr', rfl⟩ := Option.map_eq_some_iff.mp hr
    exact stripped_strip (h.reason reason' hr')
  metadata := ⟨_, rfl, h.cleanMetadata⟩

theorem LocalRecord.Clean.nonBlank {r : LocalRecord} (h : r.Clean) : r.NonBlank where
  recordId := h.recordId.not_blank
  sourceIdentity := h.sourceIdentity.not_blank
  canonicalName := h.canonicalName.not_blank
  reason reason hr := (h.reason reason hr).not_blank
  metadata := by
    obtain ⟨d, hd, hclean⟩ := h.metadata
    rw [hd]
    exact fun e he => (hclean e he).token

section
variable {r : LocalRecord}

theorem requireReason_reasonValue {reason : Option String}
    (h : ∀ code, reason = some code → blank code = false) :
    requireReason (reasonValue reason) = .ok (reason.map strip) := by
  cases reason with
  | none => rfl
  | some code =>
    simp [reasonValue, requireReason, requireToken_ok (h code rfl), bind, Except.bind, pure,
      Except.pure]

/-- The record as the store gets it. -/
def LocalRecord.normalized (r : LocalRecord) : Normalized where
  recordId := strip r.recordId
  revision := r.revision
  payload := storePayload r (strip r.sourceIdentity) (strip r.canonicalName)
    (r.lastReasonCode.map strip) r.strippedMetadata

theorem requireMetadata_ok {d : Dict} (h : ∀ e ∈ d.entries, TokenEntry e) :
    requireMetadata d = .ok (Dict.ofEntries (d.entries.map strippedEntry)) := by
  unfold requireMetadata
  rw [requireTokens_ok h]
  rfl

theorem requireRevision_ok (hw : WellFormed r) :
    requireNonNegativeInt (.int r.revision) "revision" = .ok r.revision := by
  simp [requireNonNegativeInt, not_lt.mpr hw.revision]

theorem toStorePayload_ok (hn : r.NonBlank) (hw : WellFormed r) :
    toStorePayload r = .ok r.normalized.toValue := by
  unfold toStorePayload
  rw [requireToken_ok hn.recordId, requireToken_ok hn.sourceIdentity,
    requireToken_ok hn.canonicalName,
    requireRevision_ok hw, hw.ordered, requireReason_reasonValue hn.reason,
    requireMetadata_ok hn.metadata]
  rfl

/-- The times of the record are in an order that the service takes. -/
def LocalRecord.Ordered (r : LocalRecord) : Prop :=
  DateTime.less r.updatedAt r.createdAt = .ok false

/-- What is raised over a record: a text is blank, or the times are out of order or cannot be
compared. -/
def Refused (r : LocalRecord) (e : Exn) : Prop :=
  (∃ message, e = validationError message) ∨ DateTime.less r.updatedAt r.createdAt = .error e

theorem cleanEntries_json {es : List (String × Value)} (h : ∀ e ∈ es, CleanEntry e) :
    Value.toJsonEntries es = some es := by
  apply toJsonEntries_self
  intro e he
  obtain ⟨-, s, hs, -⟩ := h e he
  rw [hs]
  rfl

theorem storePayload_get? (r : LocalRecord) (sourceIdentity canonicalName : String)
    (reason : Option String) (metadata : Dict) (key : String) :
    (storePayload r sourceIdentity canonicalName reason metadata).get? key = List.lookup key [
      ("source_identity", .str sourceIdentity),
      ("canonical_name", .str canonicalName),
      ("sync_status", .str r.syncStatus.value),
      ("processing_status", .str r.processingStatus.value),
      ("created_at", .str r.createdAt.isoformat),
      ("updated_at", .str r.updatedAt.isoformat),
      ("last_reason_code", reasonValue reason),
      ("metadata", .dict metadata.entries)] :=
  Dict.get?_ofEntries (by simp) key

/-- The fields of a payload that a record is read from. -/
structure Fields (p : Dict) (r : LocalRecord) (sourceIdentity canonicalName : String)
    (reason : Option String) (metadata : Dict) : Prop where
  sourceIdentity : p.getNone "source_identity" = .str sourceIdentity
  canonicalName : p.getNone "canonical_name" = .str canonicalName
  syncStatus : p.getNone "sync_status" = .str r.syncStatus.value
  processingStatus : p.getNone "processing_status" = .str r.processingStatus.value
  createdAt : p.getNone "created_at" = .str r.createdAt.isoformat
  reason : p.getNone "last_reason_code" = reasonValue reason
  metadata : p.getD "metadata" (.dict []) = .dict metadata.entries

theorem storePayload_fields (r : LocalRecord) (sourceIdentity canonicalName : String)
    (reason : Option String) (metadata : Dict) :
    Fields (storePayload r sourceIdentity canonicalName reason metadata) r sourceIdentity
      canonicalName reason metadata := by
  constructor <;> (simp only [Dict.getNone, Dict.getD, storePayload_get?]; rfl)

theorem LocalRecord.NonBlank.payload_isJson (h : r.NonBlank) : r.normalized.payload.IsJson := by
  intro key v hv
  have hm := Dict.mem_ofEntries (Dict.mem_of_get? hv)
  simp only [List.mem_cons, Prod.mk.injEq, List.not_mem_nil, or_false] at hm
  rcases hm with ⟨-, rfl⟩ | ⟨-, rfl⟩ | ⟨-, rfl⟩ | ⟨-, rfl⟩ | ⟨-, rfl⟩ | ⟨-, rfl⟩ |
    ⟨-, rfl⟩ | ⟨-, rfl⟩
  case inr.inr.inr.inr.inr.inr.inl =>
    cases r.lastReasonCode.map strip <;> rfl
  case inr.inr.inr.inr.inr.inr.inr =>
    simp [Value.toJson, cleanEntries_json h.cleanMetadata]
  all_goals rfl

/-- The record as it is handed out after it was stored. -/
def LocalRecord.storedAt (r : LocalRecord) (now : UtcTime) : LocalRecord :=
  { r.stripped with createdAt := r.createdAt.fixed, updatedAt := now.1 }

theorem LocalRecord.NonBlank.storedAt_clean (hn : r.NonBlank) (now : UtcTime) :
    (r.storedAt now).Clean :=
  ⟨hn.clean.recordId, hn.clean.sourceIdentity, hn.clean.canonicalName, hn.clean.reason,
    hn.clean.metadata⟩

/-- `a == b` of two records; the entries of a dict have no order. -/
structure LocalRecord.Equals (a b : LocalRecord) : Prop where
  recordId : a.recordId = b.recordId
  sourceIdentity : a.sourceIdentity = b.sourceIdentity
  canonicalName : a.canonicalName = b.canonicalName
  syncStatus : a.syncStatus = b.syncStatus
  processingStatus : a.processingStatus = b.processingStatus
  revision : a.revision = b.revision
  createdAt : DateTime.equals a.createdAt b.createdAt = true
  updatedAt : DateTime.equals a.updatedAt b.updatedAt = true
  lastReasonCode : a.lastReasonCode = b.lastReasonCode
  metadata : a.metadata.map (·.get?) = b.metadata.map (·.get?)

end

section
variable [DatedInterpreter] {r : LocalRecord}

theorem requireDatetime_isoformat (d : DateTime) (fieldName : String) :
    requireDatetime (.str d.isoformat) fieldName = .ok d.fixed := by
  have hb : blank d.isoformat = false := by simpa [blank] using d.isoformat_not_blank
  simp [requireDatetime, hb, DatedInterpreter.fromisoformat_isoformat]

theorem requireEnum_value {ofValue : String → Option α} {member : α} {token : String}
    (fieldName : String) (ht : Stripped token) (hl : token.toList.all Char.isLower = true)
    (ho : ofValue token = some member) :
      requireEnum ofValue (.str token) fieldName = .ok member := by
  unfold requireEnum
  rw [requireToken_ok ht.not_blank]
  simp only [bind, Except.bind, ht.2, DatedInterpreter.lower_ascii token hl, ho]
  rfl

theorem requireSyncStatus_value (status : SyncStatus) (fieldName : String) :
    requireEnum SyncStatus.ofValue (.str status.value) fieldName = .ok status := by
  cases status <;> exact requireEnum_value fieldName (by decide +kernel) (by decide) rfl

theorem requireProcessingStatus_value (status : RecordProcessingStatus) (fieldName : String) :
    requireEnum RecordProcessingStatus.ofValue (.str status.value) fieldName = .ok status := by
  cases status <;> exact requireEnum_value fieldName (by decide +kernel) (by decide) rfl

/-- A row as `toStorePayload` and a clock reading make it is read as the stripped record. -/
theorem fromStoreSnapshot_normalized (h : r.NonBlank) (now : UtcTime) :
    fromStoreSnapshot { recordId := strip r.recordId, revision := r.revision
                        payload := r.normalized.payload, updatedAt := now.1.isoformat } =
      .ok (r.storedAt now) := by
  have hreason : requireReason (reasonValue (r.lastReasonCode.map strip)) =
      .ok (r.lastReasonCode.map strip) := by
    have hclean : ∀ code, r.lastReasonCode.map strip = some code → blank code = false :=
      fun code hcode => (h.clean.reason code hcode).not_blank
    rw [requireReason_reasonValue hclean]
    simp [Function.comp_def]
  have hmap : requireMapping (.dict r.strippedMetadata.entries) "metadata" =
      .ok r.strippedMetadata := by
    simp [requireMapping]
  have hp := storePayload_fields r (strip r.sourceIdentity) (strip r.canonicalName)
    (r.lastReasonCode.map strip) r.strippedMetadata
  unfold fromStoreSnapshot LocalRecord.normalized
  simp only [hp.createdAt, hp.syncStatus, hp.processingStatus, hp.metadata, hp.reason,
    hp.sourceIdentity, hp.canonicalName, requireToken_strip h.recordId,
    requireToken_strip h.sourceIdentity, requireToken_strip h.canonicalName,
    requireDatetime_isoformat, utcTime_fixed, requireSyncStatus_value,
      requireProcessingStatus_value, hmap, hreason]
  simp only [bind, Except.bind, requireMetadata_clean h.cleanMetadata]
  rfl

-- ---------------------------------------------------------------------------
-- Through the store
-- ---------------------------------------------------------------------------

theorem storeCall_run (m : StoreEff α) (c : Connection Db) :
    (RecordsService.storeCall m).run c = ((m.run c).1.mapError storeCallError, (m.run c).2) :=
  SqliteRecordStore.handling_run storeCallError m c

/-- What a store call returns goes on to the rest of the method. -/
theorem storeCall_returns {m : StoreEff α} {c c' : Connection Db} {a : α} {f : α → StoreEff β}
    (h : m.run c = (.ok a, c')) : (RecordsService.storeCall m >>= f).run c = (f a).run c' := by
  rw [Eff.run_bind, storeCall_run, h]
  rfl

/-- What it raises does not. -/
theorem storeCall_raises {m : StoreEff α} {c c' : Connection Db} {f : α → StoreEff β} {e : Exn}
    (h : m.run c = (.error e, c')) :
    (RecordsService.storeCall m >>= f).run c = (.error (storeCallError e), c') := by
  rw [Eff.run_bind, storeCall_run, h]
  rfl

/-- The row a record is stored as. -/
def LocalRecord.row (r : LocalRecord) (now : UtcTime) : Row where
  revision := r.revision
  payload := r.normalized.payload
  updatedAt := now.1.isoformat

theorem normalized_fits (hfits : bindable r.revision = true) :
    ∀ n, RecordStore.normalizeRecordInput r.normalized.toValue = .ok n →
      bindable n.revision = true := by
  intro n hn
  rw [RecordStore.normalizeRecordInput_toValue] at hn
  cases hn
  exact hfits

omit [DatedInterpreter] in
theorem requireToken_self (t : { s : String // Stripped s }) (fieldName : String) :
    requireToken (.str t.1) fieldName = .ok t := by
  rw [requireToken_ok t.2.not_blank]
  exact congrArg Except.ok (Subtype.ext t.2.2)

theorem fromStoreSnapshot_row (h : r.NonBlank) (now : UtcTime) :
    fromStoreSnapshot (rowToSnapshot (strip r.recordId) (r.row now)) = .ok (r.storedAt now) :=
  fromStoreSnapshot_normalized h now

theorem create_run (hn : r.NonBlank) (hw : WellFormed r) (hfits : bindable r.revision = true)
    (now : UtcTime) {db : Db} (hdb : db (strip r.recordId) = none) :
    (RecordsService.create r now).run (.of db) = (.ok (r.storedAt now),
      .of (Function.update db (strip r.recordId) (some (r.row now)))) := by
  have hrun : (SqliteRecordStore.create r.normalized.toValue now.1.isoformat {}).run (.of db) =
      (.ok (rowToSnapshot (strip r.recordId) (r.row now)),
        .of (Function.update db (strip r.recordId) (some (r.row now)))) := by
    rw [SqliteRecordStore.create_atomic _ (Connection.of_closed _) (normalized_fits hfits)]
    exact atomically_run (RecordStore.create_run hn.payload_isJson.dumps hdb)
  unfold RecordsService.create
  rw [toStorePayload_ok hn hw, Eff.lift_ok_bind, storeCall_returns hrun,
    fromStoreSnapshot_row hn now]
  rfl

theorem getSnapshot_run (t : { s : String // Stripped s }) {db : Db} {row : Row}
    (hdb : db t.1 = some row) :
    (RecordsService.getSnapshot (.str t.1)).run (.of db) =
      (.ok (rowToSnapshot t.1 row), .of db) := by
  unfold RecordsService.getSnapshot
  rw [requireToken_self, Eff.lift_ok_bind, storeCall_run,
    SqliteRecordStore.getOrRaise_run (Connection.of_closed _)]
  simp [Connection.of, hdb, Except.mapError]

/-- The record a reader sees is the one in the row of the token. -/
theorem readRecord_of_row {recordId : Value} {t : { s : String // Stripped s }} {db : Db}
    {row : Row} (ht : requireToken recordId "record_id" = .ok t) (hdb : db t.1 = some row)
    (hr : fromStoreSnapshot (rowToSnapshot t.1 row) = .ok r) :
    (RecordsService.readRecord recordId).run (.of db) = (.ok r, .of db) := by
  unfold RecordsService.readRecord RecordsService.getSnapshot
  rw [ht, Eff.lift_ok_bind, Eff.run_bind, storeCall_run,
    SqliteRecordStore.getOrRaise_run (Connection.of_closed _)]
  simp [Connection.of, hdb, Except.mapError, hr]

theorem readRecord_run (hn : r.NonBlank) (now : UtcTime) {db : Db} {recordId : String}
    (hid : strip recordId = strip r.recordId) (hdb : db (strip r.recordId) = some (r.row now)) :
    (RecordsService.readRecord (.str recordId)).run (.of db) = (.ok (r.storedAt now), .of db) := by
  have hb : blank recordId = false := by
    have hb := hn.recordId
    unfold blank at hb ⊢
    rw [hid, hb]
  refine readRecord_of_row (requireToken_ok hb _)
    (show db (strip recordId) = some (r.row now) from ?_) ?_
  ·     rw [hid, hdb]
  · change fromStoreSnapshot (rowToSnapshot (strip recordId) _) = _
    rw [hid]
    exact fromStoreSnapshot_row hn now

theorem create_refused {e : Exn} (h : toStorePayload r = .error e) (now : UtcTime)
    (c : Connection Db) : (RecordsService.create r now).run c = (.error e, c) := by
  unfold RecordsService.create
  rw [h]
  rfl

end

section
attribute [local instance] DatedInterpreter.ascii

def firstNoon : UtcTime :=
  ⟨⟨{ year := 2026, month := 3, day := 4, hour := 12, tzinfo := some .utc }, by decide⟩, rfl, rfl⟩

/-- A record whose id begins with a space. -/
def spacedRecord : LocalRecord where
  recordId := " r1"
  sourceIdentity := "source"
  canonicalName := "artifact.csv"
  syncStatus := .unsynced
  processingStatus := .pending
  revision := 0
  createdAt := firstNoon.1
  updatedAt := firstNoon.1
  metadata := some Dict.empty

theorem spacedRecord_nonBlank : spacedRecord.NonBlank where
  recordId := by decide +kernel
  sourceIdentity := by decide +kernel
  canonicalName := by decide +kernel
  reason := nofun
  metadata := nofun

example : (spacedRecord.storedAt firstNoon).sourceIdentity = "source" := by decide +kernel

end

end DpostV2.Records
