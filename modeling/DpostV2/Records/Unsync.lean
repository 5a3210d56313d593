import DpostV2.Records.Update

/-!
# Marking a record unsynced

`RecordsService.mark_unsynced` of a record that can be read, followed down to the row: what is
returned, what is stored, and that a second call finds nothing to do. Revisions end with the
integers of SQLite.
-/

namespace DpostV2.Records

open RecordStore (Row Db rowToSnapshot)
open SqliteRecordStore (NextFits StoreEff atomically_run bindable)

/-- The record after the call. -/
def LocalRecord.unsynced (r : LocalRecord) (now : UtcTime) : LocalRecord :=
  if r.syncStatus = .unsynced then r
  else { r with syncStatus := .unsynced, revision := r.revision + 1, updatedAt := now.1 }

theorem unsynced_syncStatus (r : LocalRecord) (now : UtcTime) :
    (r.unsynced now).syncStatus = .unsynced := by
  unfold LocalRecord.unsynced
  split
  · assumption
  · rfl

theorem same_of_unsynced {r : LocalRecord} (h : r.syncStatus = .unsynced) :
    r = { r with
      syncStatus := .unsynced
      revision := if r.syncStatus = .synced then r.revision + 1 else r.revision
      updatedAt := r.updatedAt } := by
  cases r
  cases h
  rfl

section
variable [DatedInterpreter]

omit [DatedInterpreter] in
theorem getNone_eq (d : Dict) (key : String) : d.getNone key = (d.get? key).getD .none := rfl

/-- What is read of a row whose payload has another sync status, and nothing else new. -/
theorem fromStoreSnapshot_resynced {id : String} {row : Row} {r : LocalRecord} {payload : Dict}
    (now : UtcTime) (status : SyncStatus)
    (hread : fromStoreSnapshot (rowToSnapshot id row) = .ok r)
    (hpayload : ∀ k, payload.get? k =
      if k = "sync_status" then some (.str status.value) else row.payload.get? k) :
    fromStoreSnapshot (rowToSnapshot id
        { revision := row.revision + 1, payload, updatedAt := now.1.isoformat }) =
      .ok { r with syncStatus := status, revision := r.revision + 1, updatedAt := now.1 } := by
  have hget : ∀ k, k ≠ "sync_status" → payload.get? k = row.payload.get? k :=
    fun k hk => (hpayload k).trans (if_neg hk)
  obtain ⟨_, hid, h⟩ := except_bind_ok.mp hread
  obtain ⟨_, hcreated, h⟩ := except_bind_ok.mp h
  obtain ⟨_, -, h⟩ := except_bind_ok.mp h
  obtain ⟨_, -, h⟩ := except_bind_ok.mp h
  obtain ⟨_, hprocessing, h⟩ := except_bind_ok.mp h
  obtain ⟨_, hmap, h⟩ := except_bind_ok.mp h
  obtain ⟨_, hmeta, h⟩ := except_bind_ok.mp h
  obtain ⟨_, hreason, h⟩ := except_bind_ok.mp h
  obtain ⟨_, hsource, h⟩ := except_bind_ok.mp h
  obtain ⟨_, hname, h⟩ := except_bind_ok.mp h
  obtain rfl := except_pure_ok.mp h
  have hstatus : payload.getNone "sync_status" = .str status.value := by
    rw [getNone_eq, hpayload, if_pos rfl, Option.getD_some]
  have hupdated : requireDatetime (.str now.1.isoformat) "updated_at" = .ok now.1 :=
    (requireDatetime_isoformat now.1 _).trans (congrArg Except.ok (utcTime_fixed now))
  refine except_bind_ok.mpr ⟨_, hid, except_bind_ok.mpr ⟨_, ?_, except_bind_ok.mpr ⟨_,
    hupdated, except_bind_ok.mpr ⟨status, ?_, except_bind_ok.mpr ⟨_, ?_,
    except_bind_ok.mpr ⟨_, ?_, except_bind_ok.mpr ⟨_, hmeta, except_bind_ok.mpr ⟨_, ?_,
    except_bind_ok.mpr ⟨_, ?_, except_bind_ok.mpr ⟨_, ?_, rfl⟩⟩⟩⟩⟩⟩⟩⟩⟩⟩
  · simpa only [rowToSnapshot, getNone_eq, hget "created_at" (by decide)] using hcreated
  · simpa only [rowToSnapshot, hstatus] using requireSyncStatus_value status _
  · simpa only [rowToSnapshot, getNone_eq, hget "processing_status" (by decide)] using hprocessing
  · simpa only [rowToSnapshot, Dict.getD, hget "metadata" (by decide)] using hmap
  · simpa only [rowToSnapshot, getNone_eq, hget "last_reason_code" (by decide)] using hreason
  · simpa only [rowToSnapshot, getNone_eq, hget "source_identity" (by decide)] using hsource
  · simpa only [rowToSnapshot, getNone_eq, hget "canonical_name" (by decide)] using hname

-- ---------------------------------------------------------------------------
-- The calls
-- ---------------------------------------------------------------------------

/-- The record a reader sees is the one in the row of the token. -/
theorem readRecord_row {recordId : Value} {db : Db} {r : LocalRecord}
    (h : ((RecordsService.readRecord recordId).run (.of db)).1 = .ok r) :
    ∃ t row, requireToken recordId "record_id" = .ok t ∧ db t.1 = some row ∧
      fromStoreSnapshot (rowToSnapshot t.1 row) = .ok r := by
  unfold RecordsService.readRecord RecordsService.getSnapshot at h
  cases ht : requireToken recordId "record_id" with
  | error e =>
    rw [ht] at h
    cases h
  | ok t =>
    rw [ht, Eff.lift_ok_bind, Eff.run_bind, storeCall_run,
      SqliteRecordStore.getOrRaise_run (Connection.of_closed _)] at h
    cases hdb : db t.1 with
    | none =>
      simp only [Connection.of, hdb, Except.mapError] at h
      cases h
    | some row =>
      simp only [Connection.of, hdb, Except.mapError] at h
      exact ⟨t, row, rfl, hdb, h⟩

section
variable {recordId : Value} {t : { s : String // Stripped s }} {db : Db} {row : Row}
  {r : LocalRecord} (ht : requireToken recordId "record_id" = .ok t) (hdb : db t.1 = some row)
  (hr : fromStoreSnapshot (rowToSnapshot t.1 row) = .ok r) (now : UtcTime)
include ht hdb hr

/-- `mark_unsynced` once it has read the record. -/
theorem markUnsynced_read :
    (RecordsService.markUnsynced recordId now).run (.of db) =
      (if r.syncStatus = .unsynced then return r
        else do
          RecordsService.storeCall (SqliteRecordStore.markUnsynced t.1 now.1.isoformat {})
          let refreshed ← RecordsService.getSnapshot (.str t.1)
          Eff.lift (fromStoreSnapshot refreshed) : StoreEff LocalRecord).run (.of db) := by
  unfold RecordsService.markUnsynced
  rw [ht, Eff.lift_ok_bind, Eff.run_bind, getSnapshot_run t hdb]
  simp only
  rw [hr, Eff.lift_ok_bind]

/-- A record that is unsynced is returned as it is. -/
theorem markUnsynced_unsynced (hstatus : r.syncStatus = .unsynced) :
    (RecordsService.markUnsynced recordId now).run (.of db) = (.ok r, .of db) := by
  rw [markUnsynced_read ht hdb hr now, if_pos hstatus]
  rfl

theorem markUnsynced_synced (hjson : row.payload.IsJson) (hstatus : r.syncStatus ≠ .unsynced)
    (hfits : NextFits row) :
    ∃ payload : Dict, (∀ k, payload.get? k =
        if k = "sync_status" then some (.str "unsynced") else row.payload.get? k) ∧
      fromStoreSnapshot (rowToSnapshot t.1
        { revision := row.revision + 1, payload, updatedAt := now.1.isoformat }) =
          .ok (r.unsynced now) ∧
      (RecordsService.markUnsynced recordId now).run (.of db) =
        (.ok (r.unsynced now), .of (Function.update db t.1
          (some { revision := row.revision + 1, payload, updatedAt := now.1.isoformat }))) := by
  obtain ⟨payload, -, hpayload, hmarked⟩ := RecordStore.markUnsynced_run now.1.isoformat hdb hjson
  have hrun := SqliteRecordStore.markUnsynced_atomic now.1.isoformat
    (Connection.of_closed db) fun old hold => Option.some.inj (hdb.symm.trans hold) ▸ hfits
  rw [atomically_run hmarked] at hrun
  have hafter : fromStoreSnapshot (rowToSnapshot t.1
      { revision := row.revision + 1, payload, updatedAt := now.1.isoformat }) =
        .ok (r.unsynced now) := by
    rw [LocalRecord.unsynced, if_neg hstatus]
    exact fromStoreSnapshot_resynced now .unsynced hr hpayload
  refine ⟨payload, hpayload, hafter, ?_⟩
  rw [markUnsynced_read ht hdb hr now, if_neg hstatus, storeCall_returns hrun, Eff.run_bind,
    getSnapshot_run t (Function.update_self ..)]
  simp only
  rw [hafter]
  rfl

end

/-- One call with a clock reading, and more of them. -/
def RecordsService.markUnsyncedAgain (recordId : Value) (now : UtcTime) :
    List UtcTime → StoreEff LocalRecord
  | [] => RecordsService.markUnsynced recordId now
  | next :: later => do
    let _ ← RecordsService.markUnsynced recordId now
    markUnsyncedAgain recordId next later

/-- Calls that find nothing to do stay that way. -/
theorem markUnsyncedAgain_settled {recordId : Value} {c : Connection Db} {r : LocalRecord}
    (hsettled : ∀ now, (RecordsService.markUnsynced recordId now).run c = (.ok r, c))
    (now : UtcTime) (later : List UtcTime) :
    (RecordsService.markUnsyncedAgain recordId now later).run c = (.ok r, c) := by
  induction later generalizing now with
  | nil => exact hsettled now
  | cons next later ih =>
    unfold RecordsService.markUnsyncedAgain
    rw [Eff.run_bind, hsettled now]
    exact ih next

theorem markUnsyncedAgain_run {recordId : Value} {c c' : Connection Db} {r : LocalRecord}
    {now : UtcTime}
    (hfirst : (RecordsService.markUnsynced recordId now).run c = (.ok r, c'))
    (hsettled : ∀ now, (RecordsService.markUnsynced recordId now).run c' = (.ok r, c'))
    (later : List UtcTime) :
    (RecordsService.markUnsyncedAgain recordId now later).run c = (.ok r, c') := by
  cases later with
  | nil => exact hfirst
  | cons next later =>
    unfold RecordsService.markUnsyncedAgain
    rw [Eff.run_bind, hfirst]
    exact markUnsyncedAgain_settled hsettled next later

/-- What a table of SQLite holds: text that was JSON, and integers of 64 bits. -/
structure Held (db : Db) : Prop where
  json : ∀ id row, db id = some row → row.payload.IsJson
  integer : ∀ id row, db id = some row → bindable row.revision = true

theorem revision_of_read {id : String} {row : Row} {r : LocalRecord}
    (hread : fromStoreSnapshot (rowToSnapshot id row) = .ok r) : r.revision = row.revision := by
  obtain ⟨_, _, h⟩ := except_bind_ok.mp hread
  obtain ⟨_, _, h⟩ := except_bind_ok.mp h
  obtain ⟨_, _, h⟩ := except_bind_ok.mp h
  obtain ⟨_, _, h⟩ := except_bind_ok.mp h
  obtain ⟨_, _, h⟩ := except_bind_ok.mp h
  obtain ⟨_, _, h⟩ := except_bind_ok.mp h
  obtain ⟨_, _, h⟩ := except_bind_ok.mp h
  obtain ⟨_, _, h⟩ := except_bind_ok.mp h
  obtain ⟨_, _, h⟩ := except_bind_ok.mp h
  obtain ⟨_, _, h⟩ := except_bind_ok.mp h
  obtain rfl := except_pure_ok.mp h
  rfl

/-- One call marks a record that can be read, and bumps its revision if it was synced; more calls
do nothing, and no other record and no other key of the payload is touched. A revision is bumped
up to the last one of 64 bits. -/
theorem markUnsynced_effect (db : Db) (hheld : Held db) (recordId : Value) (now : UtcTime)
    (later : List UtcTime) (r : LocalRecord)
    (hread : ((RecordsService.readRecord recordId).run (.of db)).1 = .ok r)
    (hroom : r.syncStatus = .synced → r.revision < 2 ^ 63 - 1) :
    ∃ r' db', (RecordsService.markUnsynced recordId now).run (.of db) = (.ok r', .of db') ∧
      (RecordsService.readRecord recordId).run (.of db') = (.ok r', .of db') ∧
      r' = { r with
        syncStatus := .unsynced
        revision := if r.syncStatus = .synced then r.revision + 1 else r.revision
        updatedAt := r'.updatedAt } ∧
      (RecordsService.markUnsyncedAgain recordId now later).run (.of db) =
        (.ok r', .of db') ∧
      ∃ t row row', requireToken recordId "record_id" = .ok t ∧ db t.1 = some row ∧
        db' t.1 = some row' ∧
        (∀ k, k ≠ "sync_status" → row'.payload.get? k = row.payload.get? k) ∧
        ∀ id, id ≠ t.1 → db' id = db id := by
  obtain ⟨t, row, ht, hdb, hr⟩ := readRecord_row hread
  by_cases hstatus : r.syncStatus = .unsynced
  · have hsettled := fun now => markUnsynced_unsynced ht hdb hr now hstatus
    refine ⟨r, db, hsettled now, readRecord_of_row ht hdb hr, same_of_unsynced hstatus,
      markUnsyncedAgain_settled hsettled now later, t, row, row, ht, hdb, hdb, fun _ _ => rfl,
      fun _ _ => rfl⟩
  · have hsynced : r.syncStatus = .synced := by
      cases h : r.syncStatus with
      | unsynced => exact absurd h hstatus
      | synced => rfl
    have hfits : NextFits row := by
      rw [SqliteRecordStore.nextFits_iff (hheld.integer _ _ hdb), ← revision_of_read hr]
      exact hroom hsynced
    obtain ⟨payload, hpayload, hafter, hfirst⟩ :=
      markUnsynced_synced ht hdb hr now (hheld.json t.1 row hdb) hstatus hfits
    have hstored : Function.update db t.1
        (some { revision := row.revision + 1, payload, updatedAt := now.1.isoformat }) t.1 =
          some { revision := row.revision + 1, payload, updatedAt := now.1.isoformat } :=
      Function.update_self ..
    have hsettled := fun now =>
      markUnsynced_unsynced ht hstored hafter now (unsynced_syncStatus r _)
    refine ⟨_, _, hfirst, readRecord_of_row ht hstored hafter, ?_,
      markUnsyncedAgain_run hfirst hsettled later, t, row, _, ht, hdb, hstored,
      fun k hk => (hpayload k).trans (if_neg hk), fun id hid => Function.update_of_ne hid ..⟩
    simp [LocalRecord.unsynced, hsynced]

end

section
attribute [local instance] DatedInterpreter.ascii

def syncedRecord : LocalRecord := { spacedRecord with syncStatus := .synced }

theorem syncedRecord_nonBlank : syncedRecord.NonBlank where
  recordId := by decide +kernel
  sourceIdentity := by decide +kernel
  canonicalName := by decide +kernel
  reason := nofun
  metadata := nofun

def soleRow (row : Row) : Db :=
  Function.update (fun _ => none) (strip syncedRecord.recordId) (some row)

theorem soleRow_held {row : Row} (hjson : row.payload.IsJson)
    (hinteger : SqliteRecordStore.bindable row.revision = true) : Held (soleRow row) := by
  have hrow : ∀ id row', soleRow row id = some row' → row' = row := by
    intro id row' h
    by_cases hid : id = strip syncedRecord.recordId
    · rw [soleRow, hid, Function.update_self] at h
      exact (Option.some.inj h).symm
    · rw [soleRow, Function.update_of_ne hid] at h
      exact nomatch h
  exact ⟨fun id row' h => hrow id row' h ▸ hjson, fun id row' h => hrow id row' h ▸ hinteger⟩

theorem syncedRow_read :
    ((RecordsService.readRecord (.str " r1")).run
      (.of (soleRow (syncedRecord.row firstNoon)))).1 = .ok (syncedRecord.storedAt firstNoon) := by
  have hrow : soleRow (syncedRecord.row firstNoon) (strip syncedRecord.recordId) =
      some (syncedRecord.row firstNoon) := Function.update_self ..
  exact congrArg Prod.fst (readRecord_run syncedRecord_nonBlank firstNoon
    (show strip " r1" = strip syncedRecord.recordId from rfl) hrow)

theorem syncedRow_marked :
    ∃ r' db', (RecordsService.markUnsynced (.str " r1") firstNoon).run
        (.of (soleRow (syncedRecord.row firstNoon))) = (.ok r', .of db') ∧
      (RecordsService.readRecord (.str " r1")).run (.of db') = (.ok r', .of db') ∧
      r' = { syncedRecord.storedAt firstNoon with
        syncStatus := .unsynced
        revision := if (syncedRecord.storedAt firstNoon).syncStatus = .synced
          then (syncedRecord.storedAt firstNoon).revision + 1
          else (syncedRecord.storedAt firstNoon).revision
        updatedAt := r'.updatedAt } ∧
      (RecordsService.markUnsyncedAgain (.str " r1") firstNoon [firstNoon]).run
        (.of (soleRow (syncedRecord.row firstNoon))) = (.ok r', .of db') ∧
      ∃ t row row', requireToken (.str " r1") "record_id" = .ok t ∧
        soleRow (syncedRecord.row firstNoon) t.1 = some row ∧ db' t.1 = some row' ∧
        (∀ k, k ≠ "sync_status" → row'.payload.get? k = row.payload.get? k) ∧
        ∀ id, id ≠ t.1 → db' id = soleRow (syncedRecord.row firstNoon) id :=
  markUnsynced_effect _ (soleRow_held syncedRecord_nonBlank.payload_isJson (by decide +kernel))
    (.str " r1") firstNoon [firstNoon] _ syncedRow_read fun _ => by decide +kernel

def lastRow : Row := { syncedRecord.row firstNoon with revision := 2 ^ 63 - 1 }

/-- A record at the last revision of 64 bits can be read and not be marked. -/
theorem last_revision_not_marked :
    Held (soleRow lastRow) ∧
      (∃ r, ((RecordsService.readRecord (.str " r1")).run (.of (soleRow lastRow))).1 = .ok r ∧
        r.syncStatus = .synced) ∧
      ∃ e, ((RecordsService.markUnsynced (.str " r1") firstNoon).run
        (.of (soleRow lastRow))).1 = .error e := by
  have hread : (((RecordsService.readRecord (.str " r1")).run
      (.of (soleRow lastRow))).1.toOption.map (·.syncStatus)) = some .synced := by decide +kernel
  have hraised : ((RecordsService.markUnsynced (.str " r1") firstNoon).run
      (.of (soleRow lastRow))).1.isOk = false := by decide +kernel
  refine ⟨soleRow_held syncedRecord_nonBlank.payload_isJson (by decide +kernel), ?_, ?_⟩
  · cases hr : ((RecordsService.readRecord (.str " r1")).run (.of (soleRow lastRow))).1 with
    | ok r =>
      rw [hr] at hread
      exact ⟨r, rfl, Option.some.inj hread⟩
    | error e =>
      rw [hr] at hread
      exact nomatch hread
  · cases hr : ((RecordsService.markUnsynced (.str " r1") firstNoon).run
        (.of (soleRow lastRow))).1 with
    | ok r =>
      rw [hr] at hraised
      exact nomatch hraised
    | error e => exact ⟨e, rfl⟩

end

end DpostV2.Records
