import DpostV2.Ingestion.PersistEffects
import DpostV2.Lib.Effect
import DpostV2.Storage.Alone

/-!
# The record closures of the runtime engine

`save_record`, `update_bookkeeping` and `_mark_runtime_record_unsynced`
write the record store through a map of the revisions this process has
written. The map starts empty with each process, the store does not.

`Known` is what a process keeps of the two whatever came before it, and the
`_run` lemmas say what each closure does from there.
-/

namespace DpostV2.Runtime

open DpostV2.Ingestion (CallResult FromPersist IngestionState NamedBy recordPayload resultPayload)

structure RecordWorld where
  store : RecordStore.Db
  recordRevisions : String → Option Int

abbrev RecordM := Eff Exn RecordWorld

def storeCall (p : RecordStore.StoreProg α) : RecordM α := fun w =>
  ((p.run RecordStore.exec w.store).1, { w with store := (p.run RecordStore.exec w.store).2 })

def trackRevision (recordId : String) (revision : Int) : RecordM Unit :=
  Eff.modify fun w =>
    { w with recordRevisions := Function.update w.recordRevisions recordId (some revision) }

def successResult (value : Value) (operation : String) : CallResult :=
  { status := "success", value, diagnostics := .dict [("operation", .str operation)] }

def failedResult (reasonCode : String) (exc : Exn) : CallResult :=
  { status := "failed",
    diagnostics := .dict [("reason_code", .str reasonCode), ("error", .str exc.message)] }

/-- `try: .. except Exception as exc: return RuntimeCallResult(FAILED, ..)`. -/
def guarded (reasonCode : String) (body : RecordM CallResult) : RecordM CallResult := do
  match ← body.attempt with
  | .ok result => return result
  | .error exc => return failedResult reasonCode exc

/-- `dict(value)`, of a mapping or of something empty. -/
def pyDict (value : Value) : Except Exn Dict :=
  match value.asDict? with
  | some d => .ok d
  | none =>
    match value with
    | .list [] | .tuple [] | .str "" => .ok Dict.empty
    | _ => .error (typeError "cannot convert to a dict")

-- ---------------------------------------------------------------------------
-- Record ids
-- ---------------------------------------------------------------------------

/-- `f"record-{token[:12]}"`. -/
def recordIdOf (token : String) : String := "record-" ++ String.ofList (token.toList.take 12)

/-- The record id of the candidate's identity token, where there is one. -/
def identityRecordId (recordPayload : Dict) : Option String :=
  match (recordPayload.getNone "candidate").asDict? with
  | none => none
  | some candidate =>
    match candidate.getNone "identity_token" with
    | .str identity => if blank identity then none else some (recordIdOf identity)
    | _ => none

/-- `_extract_record_id`. -/
def extractRecordId (saved : RecordStore.Snapshot) (recordPayload : Dict) : String :=
  if blank saved.recordId then (identityRecordId recordPayload).getD "record-generated"
  else strip saved.recordId

theorem unspaced_recordIdOf {token : String} (h : Unspaced token) : Unspaced (recordIdOf token) :=
  .append (by decide) (h.take 12)

section
variable [Interpreter]

def resolveRuntimeRecordId (recordPayload : Dict) : String :=
  match identityRecordId recordPayload with
  | some recordId => recordId
  | none =>
    match recordPayload.getNone "target_path" with
    | .str targetPath =>
      if blank targetPath then "record-generated"
        else recordIdOf (Interpreter.textDigest targetPath)
    | _ => "record-generated"

-- ---------------------------------------------------------------------------
-- The closures
-- ---------------------------------------------------------------------------

def normalizedPayload (recordPayload : Dict) : Except Exn Dict := do
  let candidate ← pyDict (recordPayload.getD "candidate" (.dict []))
  let processorResult := recordPayload.getNone "processor_result"
  let processorResult ← pyDict (if processorResult.truthy then processorResult else .dict [])
  return Dict.ofEntries [("candidate", .dict candidate.entries),
    ("processor_result", .dict processorResult.entries),
    ("target_path", recordPayload.getNone "target_path"), ("sync_status", .str "pending")]

def savedResult (recordId : String) (saved : RecordStore.Snapshot) : CallResult :=
  successResult (.dict [("record_id", .str recordId), ("revision", .int saved.revision),
    ("record_snapshot", .dict [("record_id", .str saved.recordId),
      ("revision", .int saved.revision), ("payload", .dict saved.payload.entries)])]) "save_record"

def saveRecordBody (now : String) (recordPayload : Dict) : RecordM CallResult := do
  let recordId := resolveRuntimeRecordId recordPayload
  let w ← Eff.get
  let nextRevision := (w.recordRevisions recordId).getD (-1) + 1
  let payload ← Eff.lift (normalizedPayload recordPayload)
  let saved ← storeCall (RecordStore.save
    (RecordStore.Normalized.toValue { recordId, revision := nextRevision, payload }) now)
  let recordId := extractRecordId saved recordPayload
  trackRevision recordId saved.revision
  return savedResult recordId saved

def saveRecord (now : String) (recordPayload : Dict) : RecordM CallResult :=
  guarded "record_save_failed" (saveRecordBody now recordPayload)

def bookkeepingPatch (candidate : Candidate) : Dict :=
  Dict.ofEntries [("bookkeeping", .str "updated"), ("plugin_id", optional .str candidate.pluginId),
    ("persisted_path", optional .str candidate.persistedPath)]

def updateBookkeepingBody (now recordId : String) (candidate : Candidate) : RecordM CallResult := do
  let w ← Eff.get
  match w.recordRevisions recordId with
  | none => return successResult (.bool true) "update_bookkeeping"
  | some expectedRevision => do
    let updated ← storeCall (RecordStore.update recordId
      (.dict [("expected_revision", .int expectedRevision),
        ("payload", .dict (bookkeepingPatch candidate).entries)]) now)
    trackRevision recordId updated.revision
    return successResult (.bool true) "update_bookkeeping"

def updateBookkeeping (now recordId : String) (candidate : Candidate) : RecordM CallResult :=
  guarded "bookkeeping_failed" (updateBookkeepingBody now recordId candidate)

def markRuntimeRecordUnsynced (now recordId : String) : RecordM Unit := do
  match ← (storeCall (RecordStore.markUnsynced recordId now)).attempt with
  | .error _ => return ()
  | .ok _ =>
    match ← (storeCall (RecordStore.get recordId)).attempt with
    | .ok (some snapshot) => trackRevision recordId snapshot.revision
    | _ => return ()

end

-- ---------------------------------------------------------------------------
-- What a persist stage asks to save
-- ---------------------------------------------------------------------------

theorem recordPayload_get? (candidatePayload : Dict) (persisted : Option ProcessorResult)
    (targetPath key : String) : (recordPayload candidatePayload persisted targetPath).get? key =
      [("candidate", .dict candidatePayload.entries),
        ("processor_result", resultPayload persisted),
        ("target_path", .str targetPath)].lookup key :=
  Dict.get?_ofEntries (by simp) key

theorem fromPersist_identity {payload : Dict} (h : FromPersist payload) :
    ∃ candidate : Candidate, identityRecordId payload =
      if blank candidate.identityToken then none
        else some (recordIdOf candidate.identityToken) := by
  obtain ⟨candidate, persisted, targetPath, rfl⟩ := h
  have hc : (recordPayload candidate.payload persisted targetPath).getNone "candidate" =
      .dict candidate.payload.entries := by
    simp [Dict.getNone, Dict.getD, recordPayload_get?]
  have hi : candidate.payload.getNone "identity_token" = .str candidate.identityToken := rfl
  refine ⟨candidate, ?_⟩
  rw [identityRecordId, hc, asDict?_entries]
  simp only [hi]

theorem resultPayload_json (persisted : Option ProcessorResult) :
    ∃ result : Dict, (Value.dict result.entries).toJson.isSome ∧
      pyDict (if (resultPayload persisted).truthy then resultPayload persisted else .dict []) =
        .ok result := by
  cases persisted with
  | none => exact ⟨Dict.empty, rfl, rfl⟩
  | some result =>
    refine ⟨Dict.ofEntries [("final_path", .str result.finalPath),
      ("datatype", .str result.datatype), ("force_paths", .tuple (result.forcePaths.map .str))],
      ?_, rfl⟩
    rw [Value.toJson, Option.isSome_map]
    apply toJsonEntries_isSome
    intro e he
    have he : e ∈ [("final_path", Value.str result.finalPath), ("datatype", .str result.datatype),
      ("force_paths", .tuple (result.forcePaths.map .str))] := he
    simp only [List.mem_cons, List.not_mem_nil, or_false] at he
    rcases he with rfl | rfl | rfl
    · rfl
    · rfl
    · rw [Value.toJson, Option.isSome_map]
      exact toJsonList_strs _

theorem fromPersist_normalized {payload : Dict} (h : FromPersist payload) :
    ∃ normalized stored, normalizedPayload payload = .ok normalized ∧
      normalized.dumps = .ok stored := by
  obtain ⟨candidate, persisted, targetPath, rfl⟩ := h
  have hc : (recordPayload candidate.payload persisted targetPath).getD "candidate" (.dict []) =
      .dict candidate.payload.entries := by
    simp [Dict.getD, recordPayload_get?]
  have ht : (recordPayload candidate.payload persisted targetPath).getNone "target_path" =
      .str targetPath := by
    simp [Dict.getNone, Dict.getD, recordPayload_get?, List.lookup_cons]
  have hp : (recordPayload candidate.payload persisted targetPath).getNone "processor_result" =
      resultPayload persisted := by
    simp [Dict.getNone, Dict.getD, recordPayload_get?, List.lookup_cons]
  obtain ⟨result, hjson, hr⟩ := resultPayload_json persisted
  have hn : normalizedPayload (recordPayload candidate.payload persisted targetPath) =
      .ok (Dict.ofEntries [("candidate", .dict candidate.payload.entries),
        ("processor_result", .dict result.entries), ("target_path", .str targetPath),
        ("sync_status", .str "pending")]) := by
    have hd : pyDict (.dict candidate.payload.entries) = .ok candidate.payload := by
      simp [pyDict]
    simp only [normalizedPayload, hc, ht, hp, hr, hd, bind, Except.bind, pure, Except.pure]
  obtain ⟨stored, hs⟩ := Dict.dumps_isSome (d := Dict.ofEntries
      [("candidate", .dict candidate.payload.entries), ("processor_result", .dict result.entries),
        ("target_path", .str targetPath), ("sync_status", .str "pending")]) <| by
    apply toJsonEntries_isSome
    intro e he
    have he : e ∈ [("candidate", Value.dict candidate.payload.entries),
      ("processor_result", .dict result.entries), ("target_path", .str targetPath),
      ("sync_status", .str "pending")] := he
    simp only [List.mem_cons, List.not_mem_nil, or_false] at he
    rcases he with rfl | rfl | rfl | rfl
    · exact candidate.payload_toJson
    · exact hjson
    · rfl
    · rfl
  exact ⟨_, stored, hn, hs⟩

-- ---------------------------------------------------------------------------
-- What each closure does
-- ---------------------------------------------------------------------------

/-- The row stored, and its revision noted. -/
def RecordWorld.put (w : RecordWorld) (recordId : String) (row : RecordStore.Row) : RecordWorld :=
  { store := Function.update w.store recordId (some row),
    recordRevisions := Function.update w.recordRevisions recordId (some row.revision) }

/-- The revisions noted are the stored ones, and what is stored was stored by a closure. -/
structure Known (w : RecordWorld) : Prop where
  tracked : ∀ recordId revision, w.recordRevisions recordId = some revision →
    (w.store recordId).map (·.revision) = some revision
  stored : ∀ recordId row, w.store recordId = some row → 0 ≤ row.revision ∧ row.payload.IsJson

theorem Known.put {w : RecordWorld} (h : Known w) {recordId : String} {row : RecordStore.Row}
    (hrev : 0 ≤ row.revision) (hjson : row.payload.IsJson) : Known (w.put recordId row) := by
  constructor
  · intro id revision hid
    simp only [RecordWorld.put] at hid ⊢
    by_cases heq : id = recordId
    · subst heq
      simpa using hid
    · rw [Function.update_of_ne heq] at hid ⊢
      exact h.tracked id revision hid
  · intro id old hid
    simp only [RecordWorld.put] at hid
    by_cases heq : id = recordId
    · subst heq
      cases (Function.update_self ..).symm.trans hid
      exact ⟨hrev, hjson⟩
    · rw [Function.update_of_ne heq] at hid
      exact h.stored id old hid

/-- What `save_record` stores, read back. -/
def SavedPayload (recordPayload stored : Dict) : Prop :=
  ∃ normalized, normalizedPayload recordPayload = .ok normalized ∧ normalized.dumps = .ok stored

/-- Nothing is stored under the id, or this process has stored it. -/
def Savable (w : RecordWorld) (recordId : String) : Prop :=
  w.store recordId = none ∨ (w.recordRevisions recordId).isSome

def nextRevision (w : RecordWorld) (recordId : String) : Int :=
  (w.recordRevisions recordId).getD (-1) + 1

/-- Every stored revision is the one noted, and none is noted of what is not stored. -/
def Owned (w : RecordWorld) : Prop :=
  ∀ recordId, w.recordRevisions recordId = (w.store recordId).map (·.revision)

theorem Owned.put {w : RecordWorld} (h : Owned w) (recordId : String) (row : RecordStore.Row) :
    Owned (w.put recordId row) := by
  intro id
  simp only [RecordWorld.put]
  by_cases heq : id = recordId
  · subst heq
    simp
  · rw [Function.update_of_ne heq, Function.update_of_ne heq]
    exact h id

theorem Owned.savable {w : RecordWorld} (h : Owned w) (recordId : String) :
    Savable w recordId := by
  unfold Savable
  rw [h recordId]
  cases w.store recordId with
  | none => exact .inl rfl
  | some row => exact .inr rfl

theorem nextRevision_nonneg {w : RecordWorld} (hk : Known w) (recordId : String) :
    0 ≤ nextRevision w recordId := by
  unfold nextRevision
  cases hr : w.recordRevisions recordId with
  | none => simp
  | some revision =>
    obtain ⟨row, hrow, hrev⟩ := Option.map_eq_some_iff.mp (hk.tracked recordId revision hr)
    have h := (hk.stored recordId row hrow).1
    simp only [Option.getD_some]
    omega

theorem savedPayload_isJson {payload stored : Dict} (h : SavedPayload payload stored) :
    stored.IsJson := by
  obtain ⟨_, -, hd⟩ := h
  exact Dict.isJson_of_dumps hd

theorem run_storeCall (p : RecordStore.StoreProg α) (w : RecordWorld) : (storeCall p).run w =
    ((p.run RecordStore.exec w.store).1,
      { w with store := (p.run RecordStore.exec w.store).2 }) := rfl

theorem run_guarded (reasonCode : String) (body : RecordM CallResult) (w : RecordWorld) :
    (guarded reasonCode body).run w = match body.run w with
      | (.ok result, w') => (.ok result, w')
      | (.error exc, w') => (.ok (failedResult reasonCode exc), w') := by
  simp only [guarded, Eff.run_bind, Eff.run_attempt]
  cases hr : body.run w with
  | mk x w' => cases x <;> rfl

theorem bookkeepingPatch_isJson (candidate : Candidate) : (bookkeepingPatch candidate).IsJson := by
  have hopt : ∀ x : Option String, (optional .str x).toJson = some (optional .str x) := by
    intro x
    cases x <;> rfl
  intro k v h
  rw [bookkeepingPatch, Dict.get?_ofEntries (by simp)] at h
  obtain ⟨l₁, l₂, hl, -⟩ := List.lookup_eq_some_iff.mp h
  have hm : (k, v) ∈ l₁ ++ (k, v) :: l₂ := by simp
  rw [← hl] at hm
  simp only [List.mem_cons, Prod.mk.injEq, List.not_mem_nil, or_false] at hm
  rcases hm with ⟨-, rfl⟩ | ⟨-, rfl⟩ | ⟨-, rfl⟩
  · rfl
  · exact hopt _
  · exact hopt _

section
variable [Interpreter]

theorem fromPersist_recordId {payload : Dict} (h : FromPersist payload) :
    Unspaced (resolveRuntimeRecordId payload) ∧ resolveRuntimeRecordId payload ≠ "" := by
  have hof : ∀ token, recordIdOf token ≠ "" := by
    intro token ht
    simpa [recordIdOf] using congrArg String.toList ht
  obtain ⟨candidate, hi⟩ := fromPersist_identity h
  unfold resolveRuntimeRecordId
  rw [hi]
  by_cases hb : blank candidate.identityToken = true
  · simp only [hb, if_true]
    split
    · split
      · exact ⟨by decide, by decide⟩
      · exact ⟨unspaced_recordIdOf (Interpreter.textDigest_hex _).unspaced, hof _⟩
    · exact ⟨by decide, by decide⟩
  · simp only [hb]
    exact ⟨unspaced_recordIdOf candidate.identityToken_ok, hof _⟩

theorem namedBy_savedResult {recordId : String} {saved : RecordStore.Snapshot}
    {state : IngestionState} (hu : Unspaced recordId) (hne : recordId ≠ "")
    (h : NamedBy (savedResult recordId saved) state) : state.recordId = some recordId := by
  obtain ⟨d, hd, hr⟩ := h
  have hget : d.getD "record_id" (.str "") = .str recordId := by
    cases hd
    rfl
  simpa [Ingestion.savedRecordId, hget, hu.strip, hne] using hr

/-- A record this process may save is saved one revision up. -/
theorem saveRecord_run {w : RecordWorld} {payload : Dict} (hk : Known w) (hp : FromPersist payload)
    (hs : Savable w (resolveRuntimeRecordId payload)) (now : String) :
    ∃ stored, SavedPayload payload stored ∧ (saveRecord now payload).run w =
      (.ok (savedResult (resolveRuntimeRecordId payload)
          ⟨resolveRuntimeRecordId payload, nextRevision w (resolveRuntimeRecordId payload),
            stored, now⟩),
        w.put (resolveRuntimeRecordId payload)
          ⟨nextRevision w (resolveRuntimeRecordId payload), stored, now⟩) := by
  obtain ⟨normalized, stored, hn, hd⟩ := fromPersist_normalized hp
  obtain ⟨hu, hne⟩ := fromPersist_recordId hp
  generalize hid : resolveRuntimeRecordId payload = recordId at *
  have hrun : (RecordStore.save (RecordStore.Normalized.toValue
        ⟨recordId, nextRevision w recordId, normalized⟩) now).run RecordStore.exec w.store =
      (.ok ⟨recordId, nextRevision w recordId, stored, now⟩,
        Function.update w.store recordId (some ⟨nextRevision w recordId, stored, now⟩)) := by
    cases hrow : w.store recordId with
    | none => exact RecordStore.save_run_new hd hrow
    | some row =>
      refine RecordStore.save_run_newer hd hrow ?_
      obtain ⟨revision, hrev⟩ := Option.isSome_iff_exists.mp (hs.resolve_left (by simp [hrow]))
      have ht := hk.tracked recordId revision hrev
      simp only [hrow, Option.map_some, Option.some.injEq] at ht
      simp only [nextRevision, hrev, Option.getD_some]
      omega
  have hext : extractRecordId ⟨recordId, nextRevision w recordId, stored, now⟩ payload =
      recordId := by
    simp [extractRecordId, blank, hu.strip, hne]
  refine ⟨stored, ⟨normalized, hn, hd⟩, ?_⟩
  rw [saveRecord, run_guarded, saveRecordBody]
  simp only [hid, Eff.run_bind, Eff.run_get, Eff.run_lift, hn, run_storeCall, ← nextRevision.eq_1]
  rw [hrun]
  simp only [hext]
  rfl

/-- A record that only earlier processes have stored is refused, and nothing changes. -/
theorem saveRecord_run_refused {w : RecordWorld} {payload : Dict} (hk : Known w)
    (hp : FromPersist payload) (hs : ¬Savable w (resolveRuntimeRecordId payload)) (now : String) :
    ∃ exc, (saveRecord now payload).run w = (.ok (failedResult "record_save_failed" exc), w) := by
  obtain ⟨normalized, stored, hn, hd⟩ := fromPersist_normalized hp
  obtain ⟨hrow, hrev⟩ := not_or.mp hs
  obtain ⟨row, hrow⟩ := Option.ne_none_iff_exists'.mp hrow
  have hrev : w.recordRevisions (resolveRuntimeRecordId payload) = none := by simpa using hrev
  have hstale : nextRevision w (resolveRuntimeRecordId payload) ≤ row.revision := by
    simpa [nextRevision, hrev] using (hk.stored _ row hrow).1
  refine ⟨RecordStore.conflict "incoming revision must be greater than stored revision", ?_⟩
  rw [saveRecord, run_guarded, saveRecordBody]
  simp only [Eff.run_bind, Eff.run_get, Eff.run_lift, hn, run_storeCall, ← nextRevision.eq_1]
  rw [RecordStore.save_run_stale hrow hstale]

/-- Bookkeeping merges its patch into a record this process knows, and leaves any other. -/
theorem updateBookkeeping_run {w : RecordWorld} (hk : Known w) (now recordId : String)
    (candidate : Candidate) : ∃ result, CallResult.success result = true ∧
      (updateBookkeeping now recordId candidate).run w = (.ok result,
        match w.recordRevisions recordId, w.store recordId with
        | some _, some row => w.put recordId
            ⟨row.revision + 1, row.payload.update (bookkeepingPatch candidate), now⟩
        | _, _ => w) := by
  refine ⟨successResult (.bool true) "update_bookkeeping", rfl, ?_⟩
  rw [updateBookkeeping, run_guarded, updateBookkeepingBody]
  simp only [Eff.run_bind, Eff.run_get]
  cases hrev : w.recordRevisions recordId with
  | none => rfl
  | some revision =>
    have ht := hk.tracked recordId revision hrev
    cases hrow : w.store recordId with
    | none => simp [hrow] at ht
    | some row =>
      simp only [hrow, Option.map_some, Option.some.injEq] at ht
      subst ht
      have hplan := RecordStore.planUpdate_patch (RecordStore.rowToSnapshot recordId row)
        (hk.stored recordId row hrow).2 (bookkeepingPatch_isJson candidate)
      have hrun := RecordStore.update_run now hrow hplan
      simp only [RecordStore.rowToSnapshot] at hrun
      simp only [Eff.run_bind, run_storeCall]
      rw [hrun]
      rfl

/-- A failed sync marks the record, where there is one. -/
theorem markRuntimeRecordUnsynced_run {w : RecordWorld} (hk : Known w) (now recordId : String) :
    (w.store recordId = none ∧ (markRuntimeRecordUnsynced now recordId).run w = (.ok (), w)) ∨
      ∃ row payload, w.store recordId = some row ∧ Dict.IsJson payload ∧
        (∀ k, payload.get? k = if k = "sync_status" then some (.str "unsynced")
          else row.payload.get? k) ∧
        (markRuntimeRecordUnsynced now recordId).run w =
          (.ok (), w.put recordId ⟨row.revision + 1, payload, now⟩) := by
  unfold markRuntimeRecordUnsynced
  simp only [Eff.run_bind, Eff.run_attempt, run_storeCall]
  cases hrow : w.store recordId with
  | none =>
    refine .inl ⟨rfl, ?_⟩
    rw [RecordStore.markUnsynced_run_missing hrow]
    rfl
  | some row =>
    obtain ⟨payload, hj, hget, hrun⟩ :=
      RecordStore.markUnsynced_run now hrow (hk.stored recordId row hrow).2
    refine .inr ⟨row, payload, rfl, hj, hget, ?_⟩
    rw [hrun]
    simp only [Eff.run_bind, Eff.run_attempt, run_storeCall, RecordStore.get_run,
      Function.update_self]
    rfl

theorem markRuntimeRecordUnsynced_ok (now recordId : String) (w : RecordWorld) :
    ((markRuntimeRecordUnsynced now recordId).run w).1 = .ok () := by
  unfold markRuntimeRecordUnsynced
  simp only [Eff.run_bind, Eff.run_attempt]
  split
  · rfl
  · simp only [Eff.run_bind, Eff.run_attempt]
    split <;> rfl

end

end DpostV2.Runtime
