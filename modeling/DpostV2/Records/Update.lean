import DpostV2.Records.RoundTrip

/-!
# Updates of a record

`RecordsService.update` lets a patch through to the store and looks at the
record only when it reads it back. `update_keeps_readable_iff` says for which
patches that does no harm.
-/

namespace DpostV2.Records

open RecordStore (Db Row rowToSnapshot planUpdate patchPayload)
open SqliteRecordStore (NextFits atomically_run)

theorem isOk_iff {x : Except ε α} : x.isOk = true ↔ ∃ a, x = .ok a := by
  cases x <;> simp [Except.isOk, Except.toBool]

-- ---------------------------------------------------------------------------
-- Metadata through JSON
-- ---------------------------------------------------------------------------

theorem requireMetadata_isOk {d : Dict} :
    (requireMetadata d).isOk = true ↔ ∀ k v, d.get? k = some v → TokenEntry (k, v) := by
  rw [isOk_iff]
  constructor
  · rintro ⟨_, h⟩ k v hv
    obtain ⟨_, hts, -⟩ := except_bind_ok.mp h
    exact tokenEntries_of_ok hts _ (Dict.mem_of_get? hv)
  · intro h
    exact ⟨_, requireMetadata_ok fun e he => h e.1 e.2 (Dict.get?_of_mem he)⟩

theorem toJsonEntries_mem {es js : List (String × Value)} (h : Value.toJsonEntries es = some js) :
    ∀ e ∈ es, ∃ j, e.2.toJson = some j := by
  induction es generalizing js with
  | nil => simp
  | cons e es ih =>
    obtain ⟨k, v⟩ := e
    simp only [Value.toJsonEntries, Option.bind_eq_some_iff, Option.map_eq_some_iff] at h
    obtain ⟨j, hj, js', hjs, -⟩ := h
    intro e he
    rcases List.mem_cons.mp he with rfl | he
    · exact ⟨j, hj⟩
    · exact ih hjs e he

theorem get?_updateEntries_json {es js : List (String × Value)} {d d' : Dict}
    (h : Value.toJsonEntries es = some js) (hd : ∀ k, d'.get? k = (d.get? k).bind Value.toJson)
    (k : String) :
    (d'.updateEntries js).get? k = ((d.updateEntries es).get? k).bind Value.toJson := by
  induction es generalizing js d d' with
  | nil =>
    cases h
    exact hd k
  | cons e es ih =>
    obtain ⟨key, v⟩ := e
    simp only [Value.toJsonEntries, Option.bind_eq_some_iff, Option.map_eq_some_iff] at h
    obtain ⟨j, hj, js', hjs, rfl⟩ := h
    apply ih hjs
    intro k'
    rw [Dict.get?_set, Dict.get?_set]
    split
    · exact hj.symm
    · exact hd k'

theorem tokenEntry_json {k : String} {v j : Value} (h : v.toJson = some j) :
    TokenEntry (k, j) ↔ TokenEntry (k, v) := by
  have hstr : ∀ s, j = .str s ↔ v = .str s := by
    intro s
    cases v with
    | none | bool _ | int _ | float _ | str _ => cases h; rfl
    | datetime _ | object _ _ => cases h
    | list _ | tuple _ | dict _ =>
      obtain ⟨_, -, rfl⟩ := Option.map_eq_some_iff.mp h
      simp
  simp [TokenEntry, hstr]

theorem metadata_json {es js : List (String × Value)} (h : Value.toJsonEntries es = some js) :
    (requireMetadata (Dict.ofEntries js)).isOk = (requireMetadata (Dict.ofEntries es)).isOk := by
  have hget : ∀ k, (Dict.ofEntries js).get? k = ((Dict.ofEntries es).get? k).bind Value.toJson :=
    get?_updateEntries_json h fun _ => rfl
  rw [Bool.eq_iff_iff, requireMetadata_isOk, requireMetadata_isOk]
  constructor
  · intro hj k v hv
    obtain ⟨j, hvj⟩ := toJsonEntries_mem h (k, v) (Dict.mem_ofEntries (Dict.mem_of_get? hv))
    refine (tokenEntry_json hvj).mp (hj k j ?_)
    rw [hget, hv]
    exact hvj
  · intro he k j hj
    rw [hget, Option.bind_eq_some_iff] at hj
    obtain ⟨v, hv, hvj⟩ := hj
    exact (tokenEntry_json hvj).mpr (he k v hv)

-- ---------------------------------------------------------------------------
-- What a mutation brings
-- ---------------------------------------------------------------------------

/-- The payload a mutation brings. -/
def mutationPatch (mutation : Value) : Option Dict :=
  mutation.asDict?.bind fun m => (m.getD "payload" (.dict [])).asDict?

theorem normalizeMutation_patch {mutation normalized : Value}
    (h : normalizeMutation mutation = .ok normalized) :
    ∃ patch, mutationPatch mutation = some patch ∧ patchPayload normalized = .ok patch := by
  unfold normalizeMutation at h
  split at h
  · cases h
  · rename_i m hm
    split at h
    · cases h
    · obtain ⟨_, -, h⟩ := except_bind_ok.mp h
      obtain ⟨payload, hpayload, h⟩ := except_bind_ok.mp h
      cases except_pure_ok.mp h
      refine ⟨payload, ?_, ?_⟩
      · unfold requireMapping at hpayload
        split at hpayload
        · rename_i hd
          cases hpayload
          simp [mutationPatch, hm, hd]
        · cases hpayload
      · simp [patchPayload, Dict.getD]

section
variable [DatedInterpreter]

-- ---------------------------------------------------------------------------
-- What can be read
-- ---------------------------------------------------------------------------

def Readable (recordId : String) (row : Row) : Prop :=
  ∃ r, fromStoreSnapshot (rowToSnapshot recordId row) = .ok r

/-- The check `fromStoreSnapshot` makes of a payload field; other fields it does not look at. -/
def readableField (key : String) (value : Value) : Bool :=
  match key with
  | "created_at" => (requireDatetime value "created_at").isOk
  | "sync_status" => (requireEnum SyncStatus.ofValue value "sync_status").isOk
  | "processing_status" =>
    (requireEnum RecordProcessingStatus.ofValue value "processing_status").isOk
  | "metadata" => (requireMapping value "metadata" >>= requireMetadata).isOk
  | "last_reason_code" => (requireReason value).isOk
  | "source_identity" => (requireToken value "source_identity").isOk
  | "canonical_name" => (requireToken value "canonical_name").isOk
  | _ => true

/-- What stands for a field that is missing. -/
def fieldDefault (key : String) : Value := if key = "metadata" then .dict [] else .none

def ReadablePayload (p : Dict) : Prop :=
  ∀ key, readableField key (p.getD key (fieldDefault key)) = true

/-- A mutation's payload holds nothing that cannot be read back. -/
def PatchReadable (mutation : Value) : Prop :=
  ∀ patch, mutationPatch mutation = some patch →
    ∀ key value, patch.get? key = some value → readableField key value = true

theorem readable_iff {recordId : String} {row : Row} :
    Readable recordId row ↔ blank recordId = false ∧
      (requireDatetime (.str row.updatedAt) "updated_at").isOk = true ∧
        ReadablePayload row.payload := by
  constructor
  · rintro ⟨r, h⟩
    obtain ⟨_, hid, h⟩ := except_bind_ok.mp h
    obtain ⟨_, hcreated, h⟩ := except_bind_ok.mp h
    obtain ⟨_, hupdated, h⟩ := except_bind_ok.mp h
    obtain ⟨_, hsync, h⟩ := except_bind_ok.mp h
    obtain ⟨_, hprocessing, h⟩ := except_bind_ok.mp h
    obtain ⟨d, hmap, h⟩ := except_bind_ok.mp h
    obtain ⟨_, hmeta, h⟩ := except_bind_ok.mp h
    obtain ⟨_, hreason, h⟩ := except_bind_ok.mp h
    obtain ⟨_, hsource, h⟩ := except_bind_ok.mp h
    obtain ⟨_, hname, -⟩ := except_bind_ok.mp h
    obtain ⟨_, hs, hb, -⟩ := requireToken_iff.mp hid
    cases hs
    refine ⟨hb, isOk_iff.mpr ⟨_, hupdated⟩, ?_⟩
    intro key
    unfold readableField
    split
    · exact isOk_iff.mpr ⟨_, hcreated⟩
    · exact isOk_iff.mpr ⟨_, hsync⟩
    · exact isOk_iff.mpr ⟨_, hprocessing⟩
    · exact isOk_iff.mpr ⟨_, except_bind_ok.mpr ⟨d, hmap, hmeta⟩⟩
    · exact isOk_iff.mpr ⟨_, hreason⟩
    · exact isOk_iff.mpr ⟨_, hsource⟩
    · exact isOk_iff.mpr ⟨_, hname⟩
    · rfl
  · rintro ⟨hb, hupdated, hp⟩
    obtain ⟨_, hupdated⟩ := isOk_iff.mp hupdated
    obtain ⟨_, hcreated⟩ := isOk_iff.mp (hp "created_at")
    obtain ⟨_, hsync⟩ := isOk_iff.mp (hp "sync_status")
    obtain ⟨_, hprocessing⟩ := isOk_iff.mp (hp "processing_status")
    obtain ⟨_, hmetadata⟩ := isOk_iff.mp (hp "metadata")
    obtain ⟨_, hmap, hmeta⟩ := except_bind_ok.mp hmetadata
    obtain ⟨_, hreason⟩ := isOk_iff.mp (hp "last_reason_code")
    obtain ⟨_, hsource⟩ := isOk_iff.mp (hp "source_identity")
    obtain ⟨_, hname⟩ := isOk_iff.mp (hp "canonical_name")
    exact ⟨_, except_bind_ok.mpr ⟨_, requireToken_ok hb _, except_bind_ok.mpr ⟨_, hcreated,
      except_bind_ok.mpr ⟨_, hupdated, except_bind_ok.mpr ⟨_, hsync,
      except_bind_ok.mpr ⟨_, hprocessing, except_bind_ok.mpr ⟨_, hmap,
      except_bind_ok.mpr ⟨_, hmeta, except_bind_ok.mpr ⟨_, hreason,
      except_bind_ok.mpr ⟨_, hsource, except_bind_ok.mpr ⟨_, hname, rfl⟩⟩⟩⟩⟩⟩⟩⟩⟩⟩⟩

-- ---------------------------------------------------------------------------
-- Through JSON
-- ---------------------------------------------------------------------------

/-- A field that can be read can be read as it comes back from the store, and only then. -/
theorem readableField_json {v j : Value} (h : v.toJson = some j) (key : String) :
    readableField key j = readableField key v := by
  cases v with
  | none => cases h; rfl
  | bool b => cases h; rfl
  | int i => cases h; rfl
  | float q => cases h; rfl
  | str s => cases h; rfl
  | datetime t => cases h
  | object typeName text => cases h
  | list xs =>
    obtain ⟨js, -, rfl⟩ := Option.map_eq_some_iff.mp h
    unfold readableField
    split <;> rfl
  | tuple xs =>
    obtain ⟨js, -, rfl⟩ := Option.map_eq_some_iff.mp h
    unfold readableField
    split <;> rfl
  | dict es =>
    obtain ⟨js, hjs, rfl⟩ := Option.map_eq_some_iff.mp h
    unfold readableField
    split
    case h_4 => exact metadata_json hjs
    all_goals rfl

-- ---------------------------------------------------------------------------
-- An update
-- ---------------------------------------------------------------------------

/-- A readable payload stays readable under a patch if and only if the patch is readable. -/
theorem readablePayload_patched {old patch new : Dict} (hold : ReadablePayload old)
    (hdumps : (old.update patch).dumps = .ok new) :
    ReadablePayload new ↔
      ∀ key value, patch.get? key = some value → readableField key value = true := by
  have hnew : ∀ key, new.get? key = ((patch.get? key).or (old.get? key)).bind Value.toJson := by
    intro key
    rw [Dict.dumps_get? hdumps, Dict.get?_update]
  have hjson : ∀ key v, (old.update patch).get? key = some v → ∃ j, v.toJson = some j := by
    intro key v hv
    unfold Dict.dumps at hdumps
    split at hdumps
    · rename_i hes
      exact toJsonEntries_mem hes (key, v) (Dict.mem_of_get? hv)
    · cases hdumps
  constructor
  · intro h key value hvalue
    obtain ⟨j, hj⟩ := hjson key value (by rw [Dict.get?_update, hvalue]; rfl)
    have hkey := h key
    rw [Dict.getD, hnew, hvalue] at hkey
    rw [← readableField_json hj]
    simpa [hj] using hkey
  · intro h key
    rw [Dict.getD, hnew]
    cases hpatch : patch.get? key with
    | some value =>
      obtain ⟨j, hj⟩ := hjson key value (by rw [Dict.get?_update, hpatch]; rfl)
      have hvalue := h key value hpatch
      rw [← readableField_json hj] at hvalue
      simpa [hj] using hvalue
    | none =>
      have hkey := hold key
      rw [Dict.getD] at hkey
      cases hvalue : old.get? key with
      | none =>
        rw [hvalue] at hkey
        simpa using hkey
      | some value =>
        obtain ⟨j, hj⟩ := hjson key value (by rw [Dict.get?_update, hpatch, hvalue]; rfl)
        rw [hvalue] at hkey
        simp only [Option.getD_some] at hkey
        rw [← readableField_json hj] at hkey
        simpa [hj] using hkey

/-- The checks before the write let the mutation through. -/
def Accepts (recordId : String) (row : Row) (mutation : Value) : Prop :=
  ∃ normalized plan, normalizeMutation mutation = .ok normalized ∧
    planUpdate (rowToSnapshot recordId row) normalized = .ok plan

/-- The method after its checks: what the store's `update` raises or returns. -/
theorem update_checked {recordId mutation normalized : Value} {id : { s : String // Stripped s }}
    (hid : requireToken recordId "record_id" = .ok id)
    (hm : normalizeMutation mutation = .ok normalized)
    (now : UtcTime) : RecordsService.update recordId mutation now =
      RecordsService.storeCall (SqliteRecordStore.update id.1 normalized now.1.isoformat {}) >>=
        fun snapshot => Eff.lift (fromStoreSnapshot snapshot) := by
  unfold RecordsService.update
  rw [hid, Eff.lift_ok_bind, hm, Eff.lift_ok_bind]

theorem accepts_iff {recordId : String} {row : Row} {mutation normalized : Value}
    (hm : normalizeMutation mutation = .ok normalized) : Accepts recordId row mutation ↔
      ∃ plan, planUpdate (rowToSnapshot recordId row) normalized = .ok plan := by
  constructor
  · rintro ⟨normalized', plan, hn, hplan⟩
    rw [hm] at hn
    cases hn
    exact ⟨plan, hplan⟩
  · rintro ⟨plan, hplan⟩
    exact ⟨normalized, plan, hm, hplan⟩

/-- The store's update of a record it holds. -/
theorem storeUpdate_cases {db : Db} {recordId : String} {row : Row} {mutation normalized : Value}
    (hdb : db recordId = some row) (hm : normalizeMutation mutation = .ok normalized)
    (updatedAt : String) :
    (¬(Accepts recordId row mutation ∧ NextFits row) ∧ ∃ e,
      (SqliteRecordStore.update recordId normalized updatedAt {}).run (.of db) =
        (.error e, .of db)) ∨
    ((Accepts recordId row mutation ∧ NextFits row) ∧ ∃ payload patch,
      mutationPatch mutation = some patch ∧ (row.payload.update patch).dumps = .ok payload ∧
      let new : Row := { revision := row.revision + 1, payload, updatedAt }
      (SqliteRecordStore.update recordId normalized updatedAt {}).run (.of db) =
        (.ok (rowToSnapshot recordId new), .of (Function.update db recordId (some new)))) := by
  by_cases hfits : NextFits row
  · have hrun := SqliteRecordStore.update_atomic normalized updatedAt (Connection.of_closed db)
      fun old hold => Option.some.inj (hdb.symm.trans hold) ▸ hfits
    cases hplan : planUpdate (rowToSnapshot recordId row) normalized with
    | error e =>
      rw [atomically_run (RecordStore.update_run_refused hdb hplan)] at hrun
      refine .inl ⟨fun h => ?_, e, hrun⟩
      obtain ⟨plan, hplan'⟩ := (accepts_iff hm).mp h.1
      rw [hplan] at hplan'
      cases hplan'
    | ok plan =>
      obtain ⟨expected, payload⟩ := plan
      obtain ⟨patch, hpatch, hdumps⟩ := RecordStore.planUpdate_payload hplan
      obtain ⟨patch', hmp, hpp⟩ := normalizeMutation_patch hm
      rw [hpatch] at hpp
      cases hpp
      rw [atomically_run (RecordStore.update_run updatedAt hdb hplan)] at hrun
      exact .inr ⟨⟨(accepts_iff hm).mpr ⟨_, hplan⟩, hfits⟩, payload, patch, hmp, hdumps, hrun⟩
  · exact .inl ⟨fun h => hfits h.2,
      SqliteRecordStore.update_overflow (Connection.of_closed db) hdb hfits⟩

/-- `update` writes a record's next revision and reads it, or raises and writes nothing. -/
theorem update_cases (db : Db) (recordId mutation : Value) (now : UtcTime) :
    (∃ e, (RecordsService.update recordId mutation now).run (.of db) = (.error e, .of db) ∧
      ∀ id row, requireToken recordId "record_id" = .ok id → db id.1 = some row →
        ¬(Accepts id.1 row mutation ∧ NextFits row)) ∨
    ∃ id row payload patch, requireToken recordId "record_id" = .ok id ∧ db id.1 = some row ∧
      (Accepts id.1 row mutation ∧ NextFits row) ∧ mutationPatch mutation = some patch ∧
      (row.payload.update patch).dumps = .ok payload ∧
      let new : Row := { revision := row.revision + 1, payload, updatedAt := now.1.isoformat }
      (RecordsService.update recordId mutation now).run (.of db) =
        (fromStoreSnapshot (rowToSnapshot id.1 new), .of (Function.update db id.1 (some new))) := by
  cases hid : requireToken recordId "record_id" with
  | error e =>
    refine .inl ⟨e, ?_, fun id row h => nomatch h⟩
    unfold RecordsService.update
    rw [hid]
    rfl
  | ok id =>
    cases hm : normalizeMutation mutation with
    | error e =>
      refine .inl ⟨e, ?_, ?_⟩
      · unfold RecordsService.update
        rw [hid, hm]
        rfl
      · rintro _ _ - - ⟨⟨normalized, plan, hn, -⟩, -⟩
        rw [hm] at hn
        cases hn
    | ok normalized =>
      rw [update_checked hid hm]
      cases hdb : db id.1 with
      | none =>
        have hrun := SqliteRecordStore.update_atomic normalized now.1.isoformat
          (Connection.of_closed db) fun old hold => nomatch hdb.symm.trans hold
        rw [atomically_run (RecordStore.update_run_missing hdb)] at hrun
        refine .inl ⟨_, storeCall_raises hrun, ?_⟩
        rintro _ row ⟨⟩ hrow
        rw [hdb] at hrow
        cases hrow
      | some row =>
        rcases storeUpdate_cases hdb hm now.1.isoformat with
          ⟨hnot, e, hrun⟩ | ⟨haccepts, payload, patch, hpatch, hdumps, hrun⟩
        · refine .inl ⟨_, storeCall_raises hrun, ?_⟩
          rintro _ row' ⟨⟩ hrow
          rw [hdb] at hrow
          cases hrow
          exact hnot
        · exact .inr ⟨id, row, payload, patch, rfl, hdb, haccepts, hpatch, hdumps,
            storeCall_returns hrun⟩

/-- The row an accepted update leaves can be read exactly where its patch can. -/
theorem readable_patched {id : String} {row : Row} {payload patch : Dict} {mutation : Value}
    (now : UtcTime) (hrow : Readable id row) (hpatch : mutationPatch mutation = some patch)
    (hdumps : (row.payload.update patch).dumps = .ok payload) :
    Readable id { revision := row.revision + 1, payload, updatedAt := now.1.isoformat } ↔
      PatchReadable mutation := by
  obtain ⟨hb, -, hold⟩ := readable_iff.mp hrow
  have hpatched := readablePayload_patched hold hdumps
  rw [readable_iff]
  constructor
  · rintro ⟨-, -, hnew⟩ patch' hpatch'
    rw [hpatch] at hpatch'
    cases hpatch'
    exact hpatched.mp hnew
  · intro h
    refine ⟨hb, isOk_iff.mpr ⟨_, requireDatetime_isoformat now.1 "updated_at"⟩, ?_⟩
    exact hpatched.mpr (h patch hpatch)

/-- A stored record that can be read is as it was if the update raises, and can be read after it. -/
def UpdateKeeps (db : Db) (recordId mutation : Value) (now : UtcTime) : Prop :=
  let ran := (RecordsService.update recordId mutation now).run (.of db)
  ∀ id row, db id = some row → Readable id row →
    (∀ e, ran.1 = .error e → ran.2.committed id = some row) ∧
      ∃ row', ran.2.committed id = some row' ∧ Readable id row'

/-- An update does no harm if and only if its patch, where the checks before the write let it
through and the next revision fits, holds only fields that can be read back. -/
theorem update_keeps_readable_iff (db : Db) (recordId mutation : Value) (now : UtcTime) :
    UpdateKeeps db recordId mutation now ↔
      ∀ id row, requireToken recordId "record_id" = .ok id → db id.1 = some row →
        Readable id.1 row → Accepts id.1 row mutation → NextFits row → PatchReadable mutation := by
  rcases update_cases db recordId mutation now with
    ⟨e, hran, hrefused⟩ | ⟨id, row, payload, patch, hid, hdb, haccepts, hpatch, hdumps, hran⟩
  · -- nothing is written
    constructor
    · intro _ id row hid hdb _ haccepts hfits
      exact absurd ⟨haccepts, hfits⟩ (hrefused id row hid hdb)
    · intro _ id row hdb hrow
      rw [hran]
      exact ⟨fun _ _ => hdb, row, hdb, hrow⟩
  · constructor
    · intro h id' row' hid' hdb' hrow' _ _
      rw [hid] at hid'
      cases hid'
      rw [hdb] at hdb'
      cases hdb'
      obtain ⟨-, new, hnew, hread⟩ := h id.1 row hdb hrow'
      rw [hran] at hnew
      simp only [Connection.of, Function.update_self, Option.some.injEq] at hnew
      subst hnew
      exact (readable_patched now hrow' hpatch hdumps).mp hread
    · intro h id' row' hdb' hrow'
      rw [hran]
      by_cases heq : id' = id.1
      · subst heq
        rw [hdb] at hdb'
        cases hdb'
        have hnew := (readable_patched now hrow' hpatch hdumps).mpr
          (h id row hid hdb hrow' haccepts.1 haccepts.2)
        obtain ⟨r, hr⟩ := hnew
        refine ⟨?_, _, Function.update_self .., ⟨r, hr⟩⟩
        intro e he
        rw [hr] at he
        cases he
      · simp only [Connection.of, Function.update_of_ne heq]
        exact ⟨fun _ _ => hdb', row', hdb', hrow'⟩

end

section
attribute [local instance] DatedInterpreter.ascii

/-- A mutation at the first revision that names a sync status there is not. -/
def archivedMutation : Value :=
  .dict [("expected_revision", .int 0), ("payload", .dict [("sync_status", .str "archived")])]

example : SyncStatus.ofValue "archived" = none := by decide +kernel

def storedRow : Db := Function.update (fun _ => none) "r1" (some (spacedRecord.row firstNoon))

theorem archivedMutation_accepted : Accepts "r1" (spacedRecord.row firstNoon) archivedMutation :=
  ⟨_, _, rfl, rfl⟩

theorem spacedRow_readable : Readable "r1" (spacedRecord.row firstNoon) := by
  have hid : strip spacedRecord.recordId = "r1" := by decide +kernel
  rw [← hid]
  exact ⟨_, fromStoreSnapshot_row spacedRecord_nonBlank firstNoon⟩

theorem archivedMutation_unreadable : ¬PatchReadable archivedMutation := by
  intro h
  have hfield := h (Dict.ofEntries [("sync_status", .str "archived")]) rfl "sync_status" _ rfl
  revert hfield
  decide +kernel

/-- The update raises, and has written a row that cannot be read. -/
theorem unreadableUpdate :
    (∃ e, ((RecordsService.update (.str "r1") archivedMutation firstNoon).run (.of storedRow)).1 =
      .error e) ∧
    ¬UpdateKeeps storedRow (.str "r1") archivedMutation firstNoon := by
  have htoken : ∃ id, requireToken (.str "r1") "record_id" = .ok id ∧ id.1 = "r1" :=
    ⟨_, requireToken_ok (by decide +kernel) "record_id", by decide +kernel⟩
  obtain ⟨id₀, hid₀, hr1⟩ := htoken
  have hstored : storedRow "r1" = some (spacedRecord.row firstNoon) := Function.update_self ..
  rcases update_cases storedRow (.str "r1") archivedMutation firstNoon with
    ⟨e, -, hrefused⟩ | ⟨id, row, payload, patch, hid, hdb, -, hpatch, hdumps, hran⟩
  · refine absurd ?_ (hrefused id₀ (spacedRecord.row firstNoon) hid₀ (hr1 ▸ hstored))
    rw [hr1]
    exact ⟨archivedMutation_accepted, by decide⟩
  · rw [hid₀] at hid
    cases hid
    rw [hr1] at hdb hran
    rw [hstored] at hdb
    cases hdb
    have hunread : ¬Readable "r1" ⟨(spacedRecord.row firstNoon).revision + 1, payload,
        firstNoon.1.isoformat⟩ := by
      rw [readable_patched firstNoon spacedRow_readable hpatch hdumps]
      exact archivedMutation_unreadable
    constructor
    · rw [hran]
      cases hread : fromStoreSnapshot (rowToSnapshot "r1"
          ⟨(spacedRecord.row firstNoon).revision + 1, payload, firstNoon.1.isoformat⟩) with
      | error e => exact ⟨e, rfl⟩
      | ok r => exact absurd ⟨r, hread⟩ hunread
    · intro h
      obtain ⟨-, new, hnew, hread⟩ := h "r1" _ hstored spacedRow_readable
      rw [hran] at hnew
      simp only [Connection.of, Function.update_self, Option.some.injEq] at hnew
      subst hnew
      exact hunread hread

end

end DpostV2.Records
