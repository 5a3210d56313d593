import DpostV2.Lib.Transaction
import DpostV2.Storage.Alone

/-!
# The record store on its connection

The methods of `SqliteRecordStoreAdapter` again, every statement of
theirs on its own: `BEGIN`, the INSERT or UPDATE, `COMMIT` or `ROLLBACK`, and the
SELECTs before and after. Each may fail. Other connections show only as the
locks they hold.

Where nothing fails these are the methods of `Storage.RecordStore`, with a
`BEGIN .. COMMIT` block as one step (`create_atomic` and its like).
-/

namespace DpostV2.SqliteRecordStore

open RecordStore (Db Row Snapshot Stmt Normalized normalizeRecordInput rowToSnapshot
  notFound conflict)

-- ---------------------------------------------------------------------------
-- What `sqlite3` raises
-- ---------------------------------------------------------------------------

def operationalError (message : String) : Exn :=
  { mro := ["OperationalError", "DatabaseError", "Error", "Exception"], message }

def integrityError (message : String) : Exn :=
  { mro := ["IntegrityError", "DatabaseError", "Error", "Exception"], message }

def overflowError : Exn :=
  { mro := ["OverflowError", "ArithmeticError", "Exception"]
    message := "Python int too large to convert to SQLite INTEGER" }

def sqliteErrors : TransactionErrors Exn where
  nested := operationalError "cannot start a transaction within a transaction"
  noCommit := operationalError "cannot commit - no transaction is active"
  noRollback := operationalError "cannot rollback - no transaction is active"

/-- How SQLite fails a statement. -/
inductive SqliteFailure where
  /-- `SQLITE_BUSY`: the transaction stays open, and so it does when it was the `COMMIT`. -/
  | busy
  | failed (error : Exn) (endsTransaction : Bool)

def SqliteFailure.fault : SqliteFailure → Fault Exn
  | .busy => { error := operationalError "database is locked", endsTransaction := false }
  | .failed error endsTransaction => { error, endsTransaction }

/-- Which of the statements of one call fail. -/
structure Faults where
  /-- The SELECT of `mark_unsynced` itself. -/
  marked : Option SqliteFailure := none
  /-- The SELECT before the transaction. -/
  read : Option SqliteFailure := none
  begins : Option SqliteFailure := none
  write : Option SqliteFailure := none
  commit : Option SqliteFailure := none
  /-- The SELECT after it. -/
  readBack : Option SqliteFailure := none

-- ---------------------------------------------------------------------------
-- The adapter
-- ---------------------------------------------------------------------------

abbrev StoreEff := Eff Exn (Connection Db)

/-- An `int` that `sqlite3` can bind. -/
def bindable (revision : Int) : Bool := -2 ^ 63 ≤ revision && revision < 2 ^ 63

/-- An INSERT of a key that is there, or a revision of more than 64 bits, raises. -/
def execute (s : Stmt) (db : Db) : Except Exn Unit × Db :=
  match s with
  | .select _ => (.ok (), db)
  | .insert recordId row =>
    if !bindable row.revision then (.error overflowError, db)
    else if (db recordId).isSome then
      (.error (integrityError "UNIQUE constraint failed: records.record_id"), db)
    else (.ok (), (RecordStore.exec s db).2)
  | .update _ row expected =>
    if !(bindable row.revision && expected.all bindable) then (.error overflowError, db)
    else (.ok (), (RecordStore.exec s db).2)

theorem execute_insert {db : Db} {recordId : String} {row : Row} :
    (execute (.insert recordId row) db).1 = .ok () ↔
      bindable row.revision = true ∧ db recordId = none := by
  simp only [execute]
  cases bindable row.revision with
  | false => simp
  | true => cases db recordId <;> simp

theorem execute_insert_db {db : Db} {recordId : String} {row : Row}
    (hb : bindable row.revision = true) (hdb : db recordId = none) :
    execute (.insert recordId row) db = (.ok (), Function.update db recordId (some row)) := by
  simp [execute, RecordStore.exec, hb, hdb]

theorem execute_update {db : Db} {recordId : String} {row : Row} {expected : Option Int} :
    (execute (.update recordId row expected) db).1 = .ok () ↔
      bindable row.revision = true ∧ expected.all bindable = true := by
  simp only [execute]
  cases bindable row.revision with
  | false => simp
  | true => cases expected.all bindable <;> simp

theorem execute_update_db {db : Db} {recordId : String} {row old : Row} {expected : Option Int}
    (hb : bindable row.revision = true ∧ expected.all bindable = true)
    (hdb : db recordId = some old) (he : expected.all (· == old.revision) = true) :
    execute (.update recordId row expected) db =
      (.ok (), Function.update db recordId (some row)) := by
  simp [execute, RecordStore.exec, hb, hdb, he]

def get (recordId : String) (fault : Option SqliteFailure) : StoreEff (Option Snapshot) :=
  Connection.statement
    (fun db => (.ok ((db recordId).map (rowToSnapshot recordId)), db)) (fault.map (·.fault))

/-- `with self._transaction()` around one statement, from what the block prepares for it. -/
def inTransaction (prepared : Except Exn Stmt) (faults : Faults) : StoreEff Unit :=
  Connection.transaction sqliteErrors (faults.begins.map (·.fault)) (faults.commit.map (·.fault)) do
    Connection.statement (execute (← Eff.lift prepared)) (faults.write.map (·.fault))

/-- `try: .. except` around `m`, with a handler that raises another exception. -/
def handling (translate : Exn → Exn) (m : StoreEff α) : StoreEff α := do
  match ← m.attempt with
  | .ok a => return a
  | .error e => Eff.raise (translate e)

/-- A SELECT that works answers from what the connection sees. -/
theorem get_run (recordId : String) (c : Connection Db) :
    (get recordId none).run c = (.ok ((c.view recordId).map (rowToSnapshot recordId)), c) :=
  Connection.statement_reads (fun _ => rfl) c

theorem get_fails {c : Connection Db} (hc : c.Closed) (recordId : String)
    (failure : SqliteFailure) :
    (get recordId (some failure)).run c = (.error failure.fault.error, c) :=
  Connection.failing_closed hc failure.fault

theorem handling_run (translate : Exn → Exn) (m : StoreEff α) (c : Connection Db) :
    (handling translate m).run c = ((m.run c).1.mapError translate, (m.run c).2) := by
  unfold handling
  rw [Eff.run_bind, Eff.run_attempt]
  cases (m.run c).1 with
  | ok a => rfl
  | error e => rfl

theorem inTransaction_run {c : Connection Db} (hc : c.Closed) (prepared : Except Exn Stmt) :
    (inTransaction prepared {}).run c = match prepared with
      | .error e => (.error e, c)
      | .ok s => match (execute s c.committed).1 with
        | .ok () => (.ok (), .of (execute s c.committed).2)
        | .error e => (.error e, c) := by
  unfold inTransaction
  cases prepared with
  | error e => exact Connection.transaction_raised hc (w := c.committed) rfl
  | ok s =>
    simp only
    cases hx : (execute s c.committed).1 with
    | ok a => exact Connection.transaction_reached hc rfl hx
    | error e =>
      refine Connection.transaction_raised hc (w := (execute s c.committed).2) ?_
      rw [Eff.run_bind]
      exact Prod.ext hx rfl

section
variable [Interpreter]

def storeError (cls : String) (message : String) : Exn :=
  { mro := [cls, "RecordStoreError", "RuntimeError", "Exception"], message }

def mapOperationalError (e : Exn) : Exn :=
  let lowered := Interpreter.lower e.message
  if containsText "locked" lowered || containsText "busy" lowered ||
    containsText "timeout" lowered then
    storeError "RecordStoreTimeoutError" e.message
  else storeError "RecordStoreIntegrityError" e.message

/-- The handlers of `create` and `save`, and of `update`, which has none for `IntegrityError`. -/
def translate (integrity : Option String) (e : Exn) : Exn :=
  match integrity, e.isInstance "IntegrityError" with
  | some cls, true => storeError cls e.message
  | _, _ => if e.isInstance "OperationalError" then mapOperationalError e else e

def getOrRaise (recordId : String) (fault : Option SqliteFailure) : StoreEff Snapshot := do
  match ← get recordId fault with
  | none => Eff.raise (notFound recordId)
  | some snapshot => return snapshot

def create (record : Value) (now : String) (faults : Faults) : StoreEff Snapshot := do
  let normalized ← Eff.lift (normalizeRecordInput record)
  handling (translate (some "RecordStoreConflictError")) do
    inTransaction (do
      let payload ← normalized.payload.dumps
      return .insert normalized.recordId
        { revision := normalized.revision, payload, updatedAt := now }) faults
    getOrRaise normalized.recordId faults.readBack

def save (record : Value) (now : String) (faults : Faults) : StoreEff Snapshot := do
  let normalized ← Eff.lift (normalizeRecordInput record)
  -- this SELECT is outside of the `try`
  match ← get normalized.recordId faults.read with
  | none => create normalized.toValue now faults
  | some existing =>
    if normalized.revision ≤ existing.revision then
      Eff.raise (conflict "incoming revision must be greater than stored revision")
    else
      handling (translate (some "RecordStoreIntegrityError")) do
        inTransaction (do
          let payload ← normalized.payload.dumps
          return .update normalized.recordId
            { revision := normalized.revision, payload, updatedAt := now } none) faults
        getOrRaise normalized.recordId faults.readBack

/-- What `update` works out before its transaction: the expected revision and the merged payload. -/
def mergePatch (current : Snapshot) (mutation : Value) : Except Exn (Int × Dict) := do
  let expected ← RecordStore.expectedRevision mutation
  if expected ≠ current.revision then
    throw (conflict (s!"revision conflict for record {Interpreter.reprOf current.recordId}: " ++
      s!"expected {expected}, current {current.revision}"))
  else do
    let patch ← RecordStore.patchPayload mutation
    return (expected, current.payload.update patch)

def update (recordId : String) (mutation : Value) (now : String) (faults : Faults) :
    StoreEff Snapshot := do
  let current ← getOrRaise recordId faults.read
  let (expected, merged) ← Eff.lift (mergePatch current mutation)
  let newRevision := current.revision + 1
  handling (translate none) do
    inTransaction (do
      let payload ← merged.dumps
      return .update recordId { revision := newRevision, payload, updatedAt := now }
        (some expected))
      faults
    let refreshed ← getOrRaise recordId faults.readBack
    if refreshed.revision ≠ newRevision then Eff.raise (conflict "concurrent write detected")
    else return refreshed

def markUnsynced (recordId : String) (now : String) (faults : Faults) : StoreEff Unit := do
  let current ← getOrRaise recordId faults.marked
  let merged := current.payload.set "sync_status" (.str "unsynced")
  let _ ← update recordId
    (.dict [("expected_revision", .int current.revision),
      ("payload", .dict merged.entries)]) now faults
  return ()

-- ---------------------------------------------------------------------------
-- Where nothing fails
-- ---------------------------------------------------------------------------

theorem getOrRaise_run {c : Connection Db} (hc : c.Closed) (recordId : String) :
    (getOrRaise recordId none).run c = (match c.committed recordId with
      | none => .error (notFound recordId)
      | some row => .ok (rowToSnapshot recordId row), c) := by
  unfold getOrRaise
  rw [Eff.run_bind, get_run, Connection.view_closed hc]
  cases c.committed recordId <;> rfl

/-- The SELECT after the COMMIT finds the row. -/
theorem readBack_run (db : Db) (recordId : String) (row : Row) :
    (getOrRaise recordId none).run (.of (Function.update db recordId (some row))) =
      (.ok (rowToSnapshot recordId row), .of (Function.update db recordId (some row))) := by
  rw [getOrRaise_run (Connection.of_closed _)]
  simp [Connection.of]

/-- What `update` looks at once more is what it has written. -/
theorem checkBack_run (db : Db) (recordId : String) (row : Row) (h : row.revision = revision) :
    (do
      let refreshed ← getOrRaise recordId none
      if refreshed.revision ≠ revision then Eff.raise (conflict "concurrent write detected")
      else return refreshed).run (.of (Function.update db recordId (some row))) =
      (.ok (rowToSnapshot recordId row), .of (Function.update db recordId (some row))) := by
  rw [Eff.run_bind, readBack_run]
  simp [rowToSnapshot, h]

/-- `update` works out the same as its one-step form, and sends it off to JSON later. -/
theorem planUpdate_eq (current : Snapshot) (mutation : Value) :
    RecordStore.planUpdate current mutation = (do
      let (expected, merged) ← mergePatch current mutation
      let payload ← merged.dumps
      return (expected, payload)) := by
  unfold RecordStore.planUpdate mergePatch
  cases RecordStore.expectedRevision mutation with
  | error e => rfl
  | ok expected =>
    simp only [bind, Except.bind]
    split
    · rfl
    · cases RecordStore.patchPayload mutation <;> rfl

theorem mergePatch_expected {current : Snapshot} {expected : Int} {merged : Dict}
    (h : mergePatch current mutation = .ok (expected, merged)) : expected = current.revision := by
  obtain ⟨_, _, h⟩ := except_bind_ok.mp h
  split at h
  · cases h
  · rename_i hne
    obtain ⟨_, _, h⟩ := except_bind_ok.mp h
    cases except_pure_ok.mp h
    exact not_not.mp hne

theorem translate_of_not_sqlite {e : Exn} (integrity : Option String)
    (hi : e.isInstance "IntegrityError" = false) (ho : e.isInstance "OperationalError" = false) :
    translate integrity e = e := by
  cases integrity <;> simp [translate, hi, ho]

theorem translate_dumps {d : Dict} {e : Exn} (integrity : Option String)
    (h : d.dumps = .error e) : translate integrity e = e := by
  rw [Dict.dumps_error h]
  exact translate_of_not_sqlite integrity (by simp [typeError, Exn.isInstance])
    (by simp [typeError, Exn.isInstance])

/-- The result and the table of a one-step method, on a connection. -/
def atomically (m : RecordStore.StoreProg α) (c : Connection Db) : Except Exn α × Connection Db :=
  ((m.run RecordStore.exec c.committed).1, .of (m.run RecordStore.exec c.committed).2)

omit [Interpreter] in
theorem atomically_run {p : RecordStore.StoreProg α} {db db' : Db} {x : Except Exn α}
    (h : p.run RecordStore.exec db = (x, db')) : atomically p (.of db) = (x, .of db') := by
  show ((p.run RecordStore.exec db).1, Connection.of (p.run RecordStore.exec db).2) = _
  rw [h]

section
variable {record mutation : Value} {now recordId : String} {c : Connection Db}

theorem create_atomic (now : String) (hc : c.Closed)
    (hfits : ∀ n, normalizeRecordInput record = .ok n → bindable n.revision = true) :
    (create record now {}).run c = atomically (RecordStore.create record now) c := by
  unfold create RecordStore.create atomically
  rw [Eff.run_bind, Eff.run_lift]
  cases hn : normalizeRecordInput record with
  | error e => exact Prod.ext rfl hc.eta.symm
  | ok n =>
    simp only [Prog.lift, Prog.bind_ok]
    rw [handling_run, Eff.run_bind, inTransaction_run hc]
    cases hd : n.payload.dumps with
    | error e => exact Prod.ext (congrArg Except.error (translate_dumps _ hd)) hc.eta.symm
    | ok payload =>
      simp only [bind, Except.bind, pure, Except.pure, Prog.bind, Prog.perform, Prog.run]
      cases hdb : c.committed n.recordId with
      | none =>
        rw [execute_insert_db (hfits n hn) hdb]
        simp only [RecordStore.exec, hdb, Option.isSome_none, Bool.false_eq_true, if_false, if_true,
          RecordStore.getOrRaise_run, Function.update_self, readBack_run, Except.mapError]
      | some old =>
        have htr : translate (some "RecordStoreConflictError")
            (integrityError "UNIQUE constraint failed: records.record_id") =
            conflict "UNIQUE constraint failed: records.record_id" := by
          simp [translate, integrityError, Exn.isInstance, storeError, conflict]
        simp only [execute, hfits n hn, hdb, RecordStore.exec, Option.isSome_some, Bool.not_true,
          Bool.false_eq_true, if_false, if_true, Except.mapError, htr, Prog.raise, Prog.run]
        exact Prod.ext rfl hc.eta.symm

theorem save_atomic (now : String) (hc : c.Closed)
    (hfits : ∀ n, normalizeRecordInput record = .ok n → bindable n.revision = true) :
    (save record now {}).run c = atomically (RecordStore.save record now) c := by
  unfold save RecordStore.save atomically
  rw [Eff.run_bind, Eff.run_lift]
  cases hn : normalizeRecordInput record with
  | error e => exact Prod.ext rfl hc.eta.symm
  | ok n =>
    simp only [Prog.lift, Prog.bind_ok]
    rw [Eff.run_bind, get_run, Connection.view_closed hc, Prog.run_bind, RecordStore.get_run]
    cases hdb : c.committed n.recordId with
    | none =>
      refine create_atomic now hc ?_
      intro n' hn'
      rw [RecordStore.normalizeRecordInput_toValue] at hn'
      cases hn'
      exact hfits n hn
    | some old =>
      simp only [Option.map_some]
      by_cases hle : n.revision ≤ (rowToSnapshot n.recordId old).revision
      · simp only [hle, if_true]
        exact Prod.ext rfl hc.eta.symm
      · simp only [hle, if_false]
        rw [handling_run, Eff.run_bind, inTransaction_run hc]
        cases hd : n.payload.dumps with
        | error e => exact Prod.ext (congrArg Except.error (translate_dumps _ hd)) hc.eta.symm
        | ok payload =>
          simp only [bind, Except.bind, pure, Except.pure, Prog.bind, Prog.perform, Prog.run]
          rw [execute_update_db ⟨hfits n hn, rfl⟩ hdb rfl]
          simp only [RecordStore.exec, hdb, Option.all_none, if_true, RecordStore.getOrRaise_run,
            Function.update_self, readBack_run, Except.mapError]

omit [Interpreter] in
/-- A transaction whose statement raises leaves the table, and the block after it is not reached. -/
theorem inTransaction_raises (hc : c.Closed) (tr : Exn → Exn) {prepared : Except Exn Stmt}
    (h : ∀ s, prepared = .ok s → (execute s c.committed).1 ≠ .ok ()) (k : Unit → StoreEff α) :
    ∃ e, (handling tr (inTransaction prepared {} >>= k)).run c = (.error e, c) := by
  rw [handling_run, Eff.run_bind, inTransaction_run hc]
  cases prepared with
  | error e => exact ⟨tr e, rfl⟩
  | ok s =>
    simp only
    cases hx : (execute s c.committed).1 with
    | ok a => exact absurd hx (h s rfl)
    | error e => exact ⟨tr e, rfl⟩

/-- A revision of more than 64 bits is not inserted. -/
theorem create_overflow (now : String) (hc : c.Closed) {n : Normalized}
    (hn : normalizeRecordInput record = .ok n) (hb : bindable n.revision = false) :
    ∃ e, (create record now {}).run c = (.error e, c) := by
  unfold create
  rw [Eff.run_bind, Eff.run_lift, hn]
  refine inTransaction_raises hc _ (fun s hs hx => ?_) _
  obtain ⟨payload, -, hs⟩ := except_bind_ok.mp hs
  cases except_pure_ok.mp hs
  exact absurd (execute_insert.mp hx).1 (by simp [hb])

theorem save_overflow (now : String) (hc : c.Closed) {n : Normalized}
    (hn : normalizeRecordInput record = .ok n) (hb : bindable n.revision = false) :
    ∃ e, (save record now {}).run c = (.error e, c) := by
  unfold save
  rw [Eff.run_bind, Eff.run_lift, hn]
  simp only
  rw [Eff.run_bind, get_run, Connection.view_closed hc]
  cases hdb : c.committed n.recordId with
  | none => exact create_overflow now hc (RecordStore.normalizeRecordInput_toValue n) hb
  | some old =>
    simp only [Option.map_some]
    split
    · exact ⟨_, rfl⟩
    · refine inTransaction_raises hc _ (fun s hs hx => ?_) _
      obtain ⟨payload, -, hs⟩ := except_bind_ok.mp hs
      cases except_pure_ok.mp hs
      exact absurd (execute_update.mp hx).1 (by simp [hb])

/-- The revision of the row and the next one are integers SQLite can hold. -/
def NextFits (row : Row) : Prop := bindable row.revision = true ∧ bindable (row.revision + 1) = true

instance (row : Row) : Decidable (NextFits row) := inferInstanceAs (Decidable (_ ∧ _))

omit [Interpreter] in
theorem nextFits_iff {row : Row} (h : bindable row.revision = true) :
    NextFits row ↔ row.revision < 2 ^ 63 - 1 := by
  simp only [NextFits, bindable, Bool.and_eq_true, decide_eq_true_eq] at h ⊢
  omega

theorem update_overflow (hc : c.Closed) {old : Row} (hdb : c.committed recordId = some old)
    (hfits : ¬NextFits old) : ∃ e, (update recordId mutation now {}).run c = (.error e, c) := by
  unfold update
  rw [Eff.run_bind, getOrRaise_run hc, hdb]
  simp only
  rw [Eff.run_bind, Eff.run_lift]
  cases hmerge : mergePatch (rowToSnapshot recordId old) mutation with
  | error e => exact ⟨e, rfl⟩
  | ok plan =>
    obtain ⟨expected, merged⟩ := plan
    have hexp : expected = old.revision := mergePatch_expected hmerge
    refine inTransaction_raises hc _ (fun s hs hx => ?_) _
    obtain ⟨payload, -, hs⟩ := except_bind_ok.mp hs
    cases except_pure_ok.mp hs
    obtain ⟨hnew, hold⟩ := execute_update.mp hx
    exact hfits ⟨by simpa [hexp] using hold, hnew⟩

theorem update_atomic (mutation : Value) (now : String) (hc : c.Closed)
    (hfits : ∀ old, c.committed recordId = some old → NextFits old) :
    (update recordId mutation now {}).run c =
      atomically (RecordStore.update recordId mutation now) c := by
  unfold update atomically
  rw [Eff.run_bind, getOrRaise_run hc]
  cases hdb : c.committed recordId with
  | none =>
    rw [RecordStore.update_run_missing hdb]
    exact Prod.ext rfl hc.eta.symm
  | some old =>
    obtain ⟨hold, hnew⟩ := hfits old hdb
    have hplan := planUpdate_eq (rowToSnapshot recordId old) mutation
    simp only
    rw [Eff.run_bind, Eff.run_lift]
    cases hmerge : mergePatch (rowToSnapshot recordId old) mutation with
    | error e =>
      rw [hmerge] at hplan
      rw [RecordStore.update_run_refused hdb hplan]
      exact Prod.ext rfl hc.eta.symm
    | ok plan =>
      obtain ⟨expected, merged⟩ := plan
      have hexp : expected = old.revision := mergePatch_expected hmerge
      rw [hmerge] at hplan
      simp only
      rw [handling_run, Eff.run_bind, inTransaction_run hc]
      cases hd : merged.dumps with
      | error e =>
        simp only [hd, bind, Except.bind] at hplan
        rw [RecordStore.update_run_refused hdb hplan]
        exact Prod.ext (congrArg Except.error (translate_dumps _ hd)) hc.eta.symm
      | ok payload =>
        simp only [hd, bind, Except.bind, pure, Except.pure] at hplan
        rw [RecordStore.update_run now hdb hplan]
        subst hexp
        have hx : execute (.update recordId
          { revision := old.revision + 1, payload, updatedAt := now }
            (some old.revision)) c.committed = (.ok (), Function.update c.committed recordId
              (some { revision := old.revision + 1, payload, updatedAt := now })) :=
          execute_update_db ⟨hnew, hold⟩ hdb (by simp)
        have hp : (do
            let payload ← Except.ok payload
            return Stmt.update recordId
              { revision := (rowToSnapshot recordId old).revision + 1, payload, updatedAt := now }
              (some old.revision) : Except Exn Stmt) = .ok (.update recordId
                { revision := old.revision + 1, payload, updatedAt := now }
                  (some old.revision)) := rfl
        have hrev : ({ revision := old.revision + 1, payload, updatedAt := now } : Row).revision =
            (rowToSnapshot recordId old).revision + 1 := rfl
        rw [hp]
        simp only [hx]
        rw [checkBack_run c.committed recordId _ hrev]
        rfl

theorem markUnsynced_atomic (now : String) (hc : c.Closed)
    (hfits : ∀ old, c.committed recordId = some old → NextFits old) :
    (markUnsynced recordId now {}).run c =
      atomically (RecordStore.markUnsynced recordId now) c := by
  unfold markUnsynced atomically RecordStore.markUnsynced
  rw [Eff.run_bind, getOrRaise_run hc, Prog.run_bind, RecordStore.getOrRaise_run]
  cases hdb : c.committed recordId with
  | none => exact Prod.ext rfl hc.eta.symm
  | some old =>
    simp only
    rw [Eff.run_bind, update_atomic _ _ hc hfits, Prog.run_bind]
    unfold atomically
    generalize (RecordStore.update _ _ _).run RecordStore.exec c.committed = ran
    obtain ⟨x, db⟩ := ran
    cases x <;> rfl

end

end

end DpostV2.SqliteRecordStore
