import DpostV2.Records.RoundTrip

/-!
# A record saved again

The service puts the store's clock into `updated_at` and leaves `created_at` as
the caller had it. `saved_again_iff` says for which records the next save passes the
check that `updated_at` is not older, and finds room for another revision.
-/

namespace DpostV2.Records

open RecordStore (Db)
open SqliteRecordStore (atomically_run bindable)

section
variable {r s t : LocalRecord}

theorem requireReason_nonBlank {reason : Option String} {token : Option String}
    (h : requireReason (reasonValue reason) = .ok token) :
    ∀ code, reason = some code → blank code = false := by
  rintro code rfl
  obtain ⟨_, ht, -⟩ := except_bind_ok.mp h
  obtain ⟨_, hs, hb, -⟩ := requireToken_iff.mp ht
  cases hs
  exact hb

/-- What `toStorePayload` lets through. -/
theorem toStorePayload_checked {payload : Value} (h : toStorePayload r = .ok payload) :
    r.NonBlank ∧ WellFormed r := by
  obtain ⟨_, hid, h⟩ := except_bind_ok.mp h
  obtain ⟨_, hsource, h⟩ := except_bind_ok.mp h
  obtain ⟨_, hname, h⟩ := except_bind_ok.mp h
  obtain ⟨_, hrev, h⟩ := except_bind_ok.mp h
  obtain ⟨older, hless, h⟩ := except_bind_ok.mp h
  cases older with
  | true => cases h
  | false =>
    obtain ⟨_, hreason, h⟩ := except_bind_ok.mp h
    obtain ⟨_, hmeta, -⟩ := except_bind_ok.mp h
    obtain ⟨_, hentries, -⟩ := except_bind_ok.mp hmeta
    obtain ⟨_, hs, hidb, -⟩ := requireToken_iff.mp hid
    cases hs
    obtain ⟨_, hs, hsourceb, -⟩ := requireToken_iff.mp hsource
    cases hs
    obtain ⟨_, hs, hnameb, -⟩ := requireToken_iff.mp hname
    cases hs
    have hnonneg : 0 ≤ r.revision := by
      unfold requireNonNegativeInt at hrev
      simp only at hrev
      split at hrev
      · cases hrev
      · rename_i hlt
        exact not_lt.mp hlt
    exact ⟨⟨hidb, hsourceb, hnameb, requireReason_nonBlank hreason, tokenEntries_of_ok hentries⟩,
      ⟨hnonneg, hless⟩⟩

/-- A mutation of a clean record leaves no blank text, unless its reason code is one. -/
theorem Mutated.nonBlank {m : Mutation} {u : DateTime} (h : Mutated m s u t) (hs : s.Clean)
    (hm : ∀ status code, m = .applyProcessingResult status (some code) → blank code = false) :
    t.NonBlank := by
  have hn := hs.nonBlank
  refine ⟨?_, ?_, ?_, ?_, ?_⟩
  · rw [h.recordId]
    exact hn.recordId
  · rw [h.sourceIdentity]
    exact hn.sourceIdentity
  · rw [h.canonicalName]
    exact hn.canonicalName
  · intro code hcode
    rw [h.reason] at hcode
    cases m with
    | applyProcessingResult status reasonCode => exact hm status code (congrArg _ hcode)
    | markSynced => exact hn.reason code hcode
    | markUnsynced => exact hn.reason code hcode
  · rw [h.metadata]
    exact hn.metadata

end

section
variable [DatedInterpreter] {r s t : LocalRecord} {now now' : UtcTime} {db db' : Db}

/-- `create` or `save` has stored `r` and handed out `s`. -/
def HandedOut (r : LocalRecord) (now : UtcTime) (db : Db) (s : LocalRecord) (db' : Db) : Prop :=
  (RecordsService.create r now).run (.of db) = (.ok s, .of db') ∨
    (RecordsService.save r now).run (.of db) = (.ok s, .of db')

theorem save_refused {e : Exn} (h : toStorePayload r = .error e) (now : UtcTime)
    (c : Connection Db) : (RecordsService.save r now).run c = (.error e, c) := by
  unfold RecordsService.save
  rw [h]
  rfl

/-- What the store's `save` raises leaves `save` as another exception. -/
theorem save_raises (hn : r.NonBlank) (hw : WellFormed r) {e : Exn}
    (h : (SqliteRecordStore.save r.normalized.toValue now.1.isoformat {}).run (.of db) =
      (.error e, .of db)) :
    (RecordsService.save r now).run (.of db) = (.error (storeCallError e), .of db) := by
  unfold RecordsService.save
  rw [toStorePayload_ok hn hw, Eff.lift_ok_bind, storeCall_raises h]

theorem create_raises (hn : r.NonBlank) (hw : WellFormed r) {e : Exn}
    (h : (SqliteRecordStore.create r.normalized.toValue now.1.isoformat {}).run (.of db) =
      (.error e, .of db)) :
    (RecordsService.create r now).run (.of db) = (.error (storeCallError e), .of db) := by
  unfold RecordsService.create
  rw [toStorePayload_ok hn hw, Eff.lift_ok_bind, storeCall_raises h]

theorem save_run (hn : r.NonBlank) (hw : WellFormed r) (hfits : bindable r.revision = true)
    (now : UtcTime) (hdb : ∀ old, db (strip r.recordId) = some old → old.revision < r.revision) :
    (RecordsService.save r now).run (.of db) = (.ok (r.storedAt now),
      .of (Function.update db (strip r.recordId) (some (r.row now)))) := by
  have hrun : (SqliteRecordStore.save r.normalized.toValue now.1.isoformat {}).run (.of db) =
      (.ok (RecordStore.rowToSnapshot (strip r.recordId) (r.row now)),
        .of (Function.update db (strip r.recordId) (some (r.row now)))) := by
    rw [SqliteRecordStore.save_atomic _ (Connection.of_closed _) (normalized_fits hfits)]
    cases hold : db (strip r.recordId) with
    | none => exact atomically_run (RecordStore.save_run_new hn.payload_isJson.dumps hold)
    | some old =>
      exact atomically_run (RecordStore.save_run_newer hn.payload_isJson.dumps hold (hdb old hold))
  unfold RecordsService.save
  rw [toStorePayload_ok hn hw, Eff.lift_ok_bind, storeCall_returns hrun,
    fromStoreSnapshot_row hn now]
  rfl

/-- A revision that is not newer is refused. -/
theorem save_stale (hn : r.NonBlank) (hw : WellFormed r) (hfits : bindable r.revision = true)
    (now : UtcTime) {old : RecordStore.Row} (hdb : db (strip r.recordId) = some old)
    (hle : r.revision ≤ old.revision) :
    ∃ e, (RecordsService.save r now).run (.of db) = (.error e, .of db) := by
  have hrun := SqliteRecordStore.save_atomic now.1.isoformat (Connection.of_closed db)
    (normalized_fits hfits)
  rw [atomically_run (RecordStore.save_run_stale (n := r.normalized) hdb hle)] at hrun
  exact ⟨_, save_raises hn hw hrun⟩

theorem save_unbindable (hn : r.NonBlank) (hw : WellFormed r) (hfits : bindable r.revision = false)
    (now : UtcTime) (db : Db) :
    ∃ e, (RecordsService.save r now).run (.of db) = (.error e, .of db) := by
  obtain ⟨e, hrun⟩ := SqliteRecordStore.save_overflow now.1.isoformat
    (Connection.of_closed db) (RecordStore.normalizeRecordInput_toValue r.normalized) hfits
  exact ⟨_, save_raises hn hw hrun⟩

theorem create_unbindable (hn : r.NonBlank) (hw : WellFormed r)
    (hfits : bindable r.revision = false) (now : UtcTime) (db : Db) :
    ∃ e, (RecordsService.create r now).run (.of db) = (.error e, .of db) := by
  obtain ⟨e, hrun⟩ := SqliteRecordStore.create_overflow now.1.isoformat
    (Connection.of_closed db) (RecordStore.normalizeRecordInput_toValue r.normalized) hfits
  exact ⟨_, create_raises hn hw hrun⟩

theorem create_taken (hn : r.NonBlank) (hw : WellFormed r) (hfits : bindable r.revision = true)
    (now : UtcTime) {old : RecordStore.Row} (hdb : db (strip r.recordId) = some old) :
    ∃ e, (RecordsService.create r now).run (.of db) = (.error e, .of db) := by
  have hrun := SqliteRecordStore.create_atomic now.1.isoformat (Connection.of_closed db)
    (normalized_fits hfits)
  rw [atomically_run (RecordStore.create_run_taken (n := r.normalized) now.1.isoformat
    hn.payload_isJson.dumps hdb)] at hrun
  exact ⟨_, create_raises hn hw hrun⟩

theorem HandedOut.checked (h : HandedOut r now db s db') : r.NonBlank ∧ WellFormed r := by
  cases hp : toStorePayload r with
  | ok payload => exact toStorePayload_checked hp
  | error e =>
    rcases h with h | h
    · rw [create_refused hp now] at h
      cases h
    · rw [save_refused hp now] at h
      cases h

/-- No call that raises has handed out a record. -/
theorem HandedOut.fits (h : HandedOut r now db s db') : bindable r.revision = true := by
  obtain ⟨hn, hw⟩ := h.checked
  by_contra hfits
  rw [Bool.not_eq_true] at hfits
  rcases h with h | h
  · obtain ⟨e, he⟩ := create_unbindable hn hw hfits now db
    rw [he] at h
    cases h
  · obtain ⟨e, he⟩ := save_unbindable hn hw hfits now db
    rw [he] at h
    cases h

theorem HandedOut.stored (h : HandedOut r now db s db') :
    s = r.storedAt now ∧ db' (strip r.recordId) = some (r.row now) := by
  obtain ⟨hn, hw⟩ := h.checked
  have hfits := h.fits
  rcases h with h | h
  · cases hold : db (strip r.recordId) with
    | none =>
      rw [create_run hn hw hfits now hold] at h
      cases h
      exact ⟨rfl, Function.update_self ..⟩
    | some old =>
      obtain ⟨e, he⟩ := create_taken hn hw hfits now hold
      rw [he] at h
      cases h
  · by_cases hdb : ∀ old, db (strip r.recordId) = some old → old.revision < r.revision
    · rw [save_run hn hw hfits now hdb] at h
      cases h
      exact ⟨rfl, Function.update_self ..⟩
    · simp only [not_forall, not_lt] at hdb
      obtain ⟨old, hold, hle⟩ := hdb
      obtain ⟨e, he⟩ := save_stale hn hw hfits now hold hle
      rw [he] at h
      cases h

-- ---------------------------------------------------------------------------
-- The next save
-- ---------------------------------------------------------------------------

omit [DatedInterpreter] in
/-- The service hands out `created_at` at a fixed offset: it is compared as an instant. -/
theorem ordered_again {m : Mutation} {u : DateTime} (hmut : Mutated m (r.storedAt now) u t)
    (hnonneg : 0 ≤ r.revision) :
    WellFormed t ↔ r.createdAt.isAware = true ∧ r.createdAt.instant ≤ u.instant := by
  have hu : u.isAware = true := by
    have hagree : DateTime.Agree u now.1 := utcTime_fixed now ▸ DateTime.agree_fixed u now.1
    rw [((DateTime.less_of_agree hagree).mp hmut.progression).1, utcTime_isAware]
  have hcreated : t.createdAt = r.createdAt.fixed := hmut.createdAt
  have hordered : DateTime.less t.updatedAt t.createdAt = .ok false ↔
      r.createdAt.isAware = true ∧ r.createdAt.instant ≤ u.instant := by
    rw [hmut.updatedAt, hcreated, DateTime.less_of_agree (DateTime.agree_fixed u _),
      DateTime.fixed_isAware, DateTime.fixed_instant, hu, eq_comm]
  constructor
  · rintro ⟨-, hless⟩
    exact hordered.mp hless
  · intro h
    refine ⟨?_, hordered.mpr h⟩
    have hrev : t.revision = r.revision + 1 := hmut.revision
    omega

/-- A record that was handed out and changed once is saved again if and only if its creation
time can be compared with the time of the change and is not later, and its revision is not the last
that SQLite can hold. -/
theorem saved_again_iff {m : Mutation} {u : DateTime} (hs : HandedOut r now db s db')
    (hm : ∀ status code, m = .applyProcessingResult status (some code) → blank code = false)
    (ht : m.run s u = .ok t) :
    (∃ s', ((RecordsService.save t now').run (.of db')).1 = .ok s' ∧
      s'.revision = s.revision + 1) ↔
      (r.createdAt.isAware = true ∧ r.createdAt.instant ≤ u.instant) ∧ s.revision < 2 ^ 63 - 1 := by
  obtain ⟨hn, hw⟩ := hs.checked
  have hfits := hs.fits
  obtain ⟨rfl, hrow⟩ := hs.stored
  have hmut := Mutation.run_ok ht
  have htn : t.NonBlank := hmut.nonBlank (hn.storedAt_clean now) hm
  have hid : strip t.recordId = strip r.recordId := by
    rw [hmut.recordId]
    exact strip_strip _
  have hrev : t.revision = r.revision + 1 := hmut.revision
  have hroom : bindable t.revision = true ↔ (r.storedAt now).revision < 2 ^ 63 - 1 := by
    change _ ↔ r.revision < 2 ^ 63 - 1
    simp only [bindable, Bool.and_eq_true, decide_eq_true_eq, hrev] at hfits ⊢
    omega
  rw [← ordered_again hmut hw.revision, ← hroom]
  constructor
  · rintro ⟨s', hs', -⟩
    have htw : WellFormed t := by
      cases hp : toStorePayload t with
      | ok payload => exact (toStorePayload_checked hp).2
      | error e =>
        rw [save_refused hp now'] at hs'
        cases hs'
    refine ⟨htw, ?_⟩
    by_contra hover
    rw [Bool.not_eq_true] at hover
    obtain ⟨e, he⟩ := save_unbindable htn htw hover now' db'
    rw [he] at hs'
    cases hs'
  · rintro ⟨htw, hnext⟩
    have hnewer : ∀ old, db' (strip t.recordId) = some old → old.revision < t.revision := by
      intro old hold
      rw [hid, hrow] at hold
      cases hold
      show r.revision < t.revision
      omega
    refine ⟨t.storedAt now', by rw [save_run htn htw hnext now' hnewer], ?_⟩
    exact hrev

end

section
attribute [local instance] DatedInterpreter.ascii

/-- A day after `firstNoon`. -/
def secondNoon : UtcTime :=
  ⟨⟨{ year := 2026, month := 3, day := 5, hour := 12, tzinfo := some .utc }, by decide⟩, rfl, rfl⟩

/-- A record of an instrument whose clock is a day ahead of the store's. -/
def lateRecord : LocalRecord where
  recordId := "r1"
  sourceIdentity := "source"
  canonicalName := "artifact.csv"
  syncStatus := .unsynced
  processingStatus := .pending
  revision := 0
  createdAt := secondNoon.1
  updatedAt := secondNoon.1
  metadata := some Dict.empty

theorem lateRecord_reachable : Reachable lateRecord :=
  .created (show createRecord "r1" "source" "artifact.csv" secondNoon.1 none =
    .ok lateRecord from rfl)

theorem lateRecord_nonBlank : lateRecord.NonBlank where
  recordId := by decide +kernel
  sourceIdentity := by decide +kernel
  canonicalName := by decide +kernel
  reason := nofun
  metadata := nofun

example : (lateRecord.storedAt firstNoon).recordId = "r1" := by decide +kernel

def oneRow : Db := Function.update (fun _ => none) (strip "r1") (some (lateRecord.row firstNoon))

theorem lateRecord_handedOut :
    HandedOut lateRecord firstNoon (fun _ => none) (lateRecord.storedAt firstNoon) oneRow :=
  .inl (create_run lateRecord_nonBlank ⟨lateRecord_reachable.revision, DateTime.less_self _⟩
    (by decide) firstNoon rfl)

/-- The record as it was handed out, synced at a time the domain accepts. -/
def lateSynced (u : UtcTime) : LocalRecord :=
  { lateRecord.storedAt firstNoon with
    syncStatus := .synced, revision := 1, updatedAt := u.1 }

theorem lateSynced_run (u : UtcTime)
    (h : DateTime.less u.1 (lateRecord.storedAt firstNoon).updatedAt = .ok false) :
    Mutation.markSynced.run (lateRecord.storedAt firstNoon) u.1 = .ok (lateSynced u) := by
  simp only [Mutation.run, Records.markSynced, validateTimestampProgression, h]
  rfl

/-- A day later the record is saved again. -/
theorem saved_again_iff_late :
    ∃ s', ((RecordsService.save (lateSynced secondNoon) secondNoon).run (.of oneRow)).1 = .ok s' ∧
      s'.revision = (lateRecord.storedAt firstNoon).revision + 1 :=
  (saved_again_iff lateRecord_handedOut (fun _ _ h => by cases h)
    (lateSynced_run secondNoon (by decide +kernel))).mpr (by decide +kernel)

/-- The service takes the record, hands it out, and does not take it back. -/
theorem handedOutNotSavedAgain :
    HandedOut lateRecord firstNoon (fun _ => none) (lateRecord.storedAt firstNoon) oneRow ∧
    Mutation.markSynced.run (lateRecord.storedAt firstNoon) firstNoon.1 =
      .ok (lateSynced firstNoon) ∧
    ¬∃ s', ((RecordsService.save (lateSynced firstNoon) firstNoon).run (.of oneRow)).1 =
      .ok s' := by
  refine ⟨lateRecord_handedOut, lateSynced_run firstNoon (DateTime.less_self _), ?_⟩
  rintro ⟨s', hs'⟩
  cases hp : toStorePayload (lateSynced firstNoon) with
  | error e =>
    rw [save_refused hp firstNoon] at hs'
    cases hs'
  | ok payload =>
    have hordered := (toStorePayload_checked hp).2.ordered
    have hbefore : DateTime.less (lateSynced firstNoon).updatedAt (lateSynced firstNoon).createdAt =
        .ok true := by decide +kernel
    cases hbefore.symm.trans hordered

end

end DpostV2.Records
