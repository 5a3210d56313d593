import DpostV2.Storage.RecordStore

/-!
# A client alone

What the methods of the record store do to the table when no other client's
statement falls between theirs. `save` and `update` then do what their
checks promise.
-/

namespace DpostV2.RecordStore

theorem get_run (recordId : String) (db : Db) :
    (get recordId).run exec db = (.ok ((db recordId).map (rowToSnapshot recordId)), db) := rfl

section
variable [Interpreter]

theorem getOrRaise_run (recordId : String) (db : Db) :
    (getOrRaise recordId).run exec db = (match db recordId with
      | none => .error (notFound recordId)
      | some row => .ok (rowToSnapshot recordId row), db) := by
  rw [getOrRaise_eq]
  simp only [Prog.run, exec]
  cases db recordId <;> rfl

theorem create_run {n : Normalized} {payload : Dict} {now : String} {db : Db}
    (hp : n.payload.dumps = .ok payload) (hdb : db n.recordId = none) :
    (create n.toValue now).run exec db =
      (.ok { recordId := n.recordId, revision := n.revision, payload, updatedAt := now },
        Function.update db n.recordId
          (some { revision := n.revision, payload, updatedAt := now })) := by
  simp only [create, normalizeRecordInput_toValue, hp, Prog.lift, Prog.bind_ok, Prog.perform_bind,
    Prog.run, exec, hdb, Option.isSome_none, Bool.false_eq_true, if_false, if_true]
  rw [getOrRaise_run, Function.update_self]
  rfl

theorem create_run_taken {n : Normalized} {payload : Dict} (now : String) {db : Db} {old : Row}
    (hp : n.payload.dumps = .ok payload) (hdb : db n.recordId = some old) :
    (create n.toValue now).run exec db =
      (.error (conflict "UNIQUE constraint failed: records.record_id"), db) := by
  simp only [create, normalizeRecordInput_toValue, hp, Prog.lift, Prog.bind_ok, Prog.perform_bind,
    Prog.run, exec, hdb, Option.isSome_some, Bool.false_eq_true, if_false, if_true, Prog.raise]

/-- A record that is not stored is inserted at the revision it comes with. -/
theorem save_run_new {n : Normalized} {payload : Dict} {now : String} {db : Db}
    (hp : n.payload.dumps = .ok payload) (hdb : db n.recordId = none) :
    (save n.toValue now).run exec db =
      (.ok { recordId := n.recordId, revision := n.revision, payload, updatedAt := now },
        Function.update db n.recordId
          (some { revision := n.revision, payload, updatedAt := now })) := by
  simp only [save, normalizeRecordInput_toValue, Prog.lift, Prog.bind_ok]
  rw [Prog.run_bind, get_run, hdb]
  exact create_run hp hdb

theorem save_run_newer {n : Normalized} {payload : Dict} {now : String} {db : Db} {old : Row}
    (hp : n.payload.dumps = .ok payload) (hdb : db n.recordId = some old)
    (hrev : old.revision < n.revision) :
    (save n.toValue now).run exec db =
      (.ok { recordId := n.recordId, revision := n.revision, payload, updatedAt := now },
        Function.update db n.recordId
          (some { revision := n.revision, payload, updatedAt := now })) := by
  simp only [save, normalizeRecordInput_toValue, Prog.lift, Prog.bind_ok]
  rw [Prog.run_bind, get_run, hdb]
  simp only [Option.map_some, rowToSnapshot, not_le.mpr hrev, if_false, hp, Prog.bind_ok,
    Prog.perform_bind, Prog.run, exec, hdb, Option.all_none, if_true]
  rw [getOrRaise_run, Function.update_self]
  rfl

/-- A revision that is not newer changes nothing. -/
theorem save_run_stale {n : Normalized} {now : String} {db : Db} {old : Row}
    (hdb : db n.recordId = some old) (hrev : n.revision ≤ old.revision) :
    (save n.toValue now).run exec db =
      (.error (conflict "incoming revision must be greater than stored revision"), db) := by
  simp only [save, normalizeRecordInput_toValue, Prog.lift, Prog.bind_ok]
  rw [Prog.run_bind, get_run, hdb]
  simp only [Option.map_some, rowToSnapshot, hrev, if_true]
  rfl

theorem update_run {recordId : String} {mutation : Value} (now : String) {db : Db} {row : Row}
    {expected : Int} {payload : Dict} (hdb : db recordId = some row)
    (hp : planUpdate (rowToSnapshot recordId row) mutation = .ok (expected, payload)) :
    (update recordId mutation now).run exec db =
      (.ok { recordId, revision := row.revision + 1, payload, updatedAt := now },
        Function.update db recordId
          (some { revision := row.revision + 1, payload, updatedAt := now })) := by
  have he : expected = row.revision := (planUpdate_ok hp).2
  rw [update_eq]
  simp only [Prog.run, exec, hdb, continueUpdate, hp, commitUpdate, he, Option.all_some,
    beq_self_eq_true, if_true, Function.update_self, refreshResult, ne_eq, not_true, if_false]
  rfl

/-- The payload `update` stores is what it read, patched and sent through JSON. -/
theorem planUpdate_payload {current : Snapshot} {mutation : Value} {expected : Int} {payload : Dict}
    (h : planUpdate current mutation = .ok (expected, payload)) :
    ∃ patch, patchPayload mutation = .ok patch ∧
      (current.payload.update patch).dumps = .ok payload := by
  obtain ⟨_, _, h⟩ := except_bind_ok.mp h
  split at h
  · cases h
  · obtain ⟨patch, hpatch, h⟩ := except_bind_ok.mp h
    obtain ⟨_, hdumps, h⟩ := except_bind_ok.mp h
    cases except_pure_ok.mp h
    exact ⟨patch, hpatch, hdumps⟩

theorem update_run_missing {recordId : String} {mutation : Value} {now : String} {db : Db}
    (hdb : db recordId = none) :
    (update recordId mutation now).run exec db = (.error (notFound recordId), db) := by
  rw [update_eq]
  simp only [Prog.run, exec, hdb, continueUpdate]

/-- What the checks refuse is not written. -/
theorem update_run_refused {recordId : String} {mutation : Value} {now : String} {db : Db}
    {row : Row} {e : Exn} (hdb : db recordId = some row)
    (hp : planUpdate (rowToSnapshot recordId row) mutation = .error e) :
    (update recordId mutation now).run exec db = (.error e, db) := by
  rw [update_eq]
  simp only [Prog.run, exec, hdb, continueUpdate, hp]

/-- `update` of a stored JSON payload with a JSON patch at the stored revision. -/
theorem planUpdate_patch (current : Snapshot) {patch : Dict} (hc : current.payload.IsJson)
    (hp : patch.IsJson) :
    planUpdate current (.dict [("expected_revision", .int current.revision),
      ("payload", .dict patch.entries)]) =
        .ok (current.revision, current.payload.update patch) := by
  have hm : (Value.dict [("expected_revision", .int current.revision),
      ("payload", .dict patch.entries)]).asDict? = some (Dict.ofEntries
        [("expected_revision", .int current.revision), ("payload", .dict patch.entries)]) := rfl
  have he : expectedRevision (.dict [("expected_revision", .int current.revision),
      ("payload", .dict patch.entries)]) = .ok current.revision := by
    simp [expectedRevision, hm, Dict.get?_ofEntries]
  have hpatch : patchPayload (.dict [("expected_revision", .int current.revision),
      ("payload", .dict patch.entries)]) = .ok patch := by
    simp [patchPayload, hm, Dict.getD, Dict.get?_ofEntries, List.lookup_cons]
  have hd := (hc.update hp).dumps
  simp [planUpdate, he, hpatch, hd, bind, Except.bind, pure, Except.pure]

/-- `mark_unsynced` sets the sync status, and leaves every other field. -/
theorem markUnsynced_run {recordId : String} (now : String) {db : Db} {row : Row}
    (hdb : db recordId = some row) (hj : row.payload.IsJson) :
    ∃ payload : Dict, payload.IsJson ∧
      (∀ k, payload.get? k = if k = "sync_status" then some (.str "unsynced")
        else row.payload.get? k) ∧
      (markUnsynced recordId now).run exec db = (.ok (), Function.update db recordId
        (some { revision := row.revision + 1, payload, updatedAt := now })) := by
  have hm : (row.payload.set "sync_status" (.str "unsynced")).IsJson := hj.set rfl
  refine ⟨row.payload.update (row.payload.set "sync_status" (.str "unsynced")),
    hj.update hm, ?_, ?_⟩
  · intro k
    rw [Dict.get?_update, Dict.get?_set]
    split
    · rfl
    · cases row.payload.get? k <;> rfl
  · unfold markUnsynced
    have hplan := planUpdate_patch (rowToSnapshot recordId row) hj hm
    have hrun := update_run now hdb hplan
    rw [Prog.run_bind, getOrRaise_run, hdb]
    simp only [rowToSnapshot] at hrun ⊢
    rw [Prog.run_bind, hrun]
    rfl

theorem markUnsynced_run_missing {recordId : String} {now : String} {db : Db}
    (hdb : db recordId = none) :
    (markUnsynced recordId now).run exec db = (.error (notFound recordId), db) := by
  unfold markUnsynced
  rw [Prog.run_bind, getOrRaise_run, hdb]

end

end DpostV2.RecordStore
