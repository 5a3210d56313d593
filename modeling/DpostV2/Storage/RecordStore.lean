import DpostV2.Lib.Interleaving
import DpostV2.Lib.Python

/-!
# The SQLite record store

`SqliteRecordStoreAdapter`, each method as a program over the statements it
sends. A `SELECT` is one atomic step, and so is a `BEGIN .. COMMIT` block.
The stored payload is kept decoded: `Dict.dumps` is what comes back for what
was written. SQLite's 64-bit range for `revision` is not modelled.
-/

namespace DpostV2.RecordStore

/-- A row of the `records` table, its key aside. -/
structure Row where
  revision : Int
  payload : Dict
  updatedAt : String

structure Snapshot where
  recordId : String
  revision : Int
  payload : Dict
  updatedAt : String

/-- The `records` table; `record_id` is its primary key. -/
abbrev Db := String → Option Row

inductive Stmt where
  | select (recordId : String)
  | insert (recordId : String) (row : Row)
  /-- `UPDATE .. WHERE record_id = ?`, with `AND revision = ?` when a revision is expected. -/
  | update (recordId : String) (row : Row) (expected : Option Int)

/-- The row found, whether the key was free, or whether a row matched. -/
abbrev Stmt.Res : Stmt → Type
  | .select _ => Option Row
  | .insert .. | .update .. => Bool

def exec : (s : Stmt) → Db → s.Res × Db
  | .select recordId, db => (db recordId, db)
  | .insert recordId row, db =>
    if (db recordId).isSome then (false, db) else (true, Function.update db recordId (some row))
  | .update recordId row expected, db =>
    match db recordId with
    | none => (false, db)
    | some old =>
      if expected.all (· == old.revision) then (true, Function.update db recordId (some row))
      else (false, db)

/-- The row a statement has written, given its answer. -/
def written : (s : Stmt) → s.Res → Option (String × Row)
  | .select _, _ => none
  | .insert recordId row, (ok : Bool) | .update recordId row _, (ok : Bool) =>
    if ok then some (recordId, row) else none

/-- A statement changes the table by the row it has written, and by nothing else. -/
theorem exec_db (s : Stmt) (db : Db) :
    (exec s db).2 = match written s (exec s db).1 with
      | some (recordId, row) => Function.update db recordId (some row)
      | none => db := by
  cases s with
  | select recordId => rfl
  | insert recordId row => simp only [exec, written]; split <;> rfl
  | update recordId row expected =>
    cases h : db recordId with
    | none => simp [exec, written, h]
    | some old => simp only [exec, written, h]; split <;> rfl

theorem written_update {recordId : String} {row : Row} {expected : Option Int} {ok : Bool}
    (h : written (.update recordId row expected) ok = some p) : p = (recordId, row) := by
  cases ok <;> simp_all [written]

/-- A record no statement has written to is as it was. -/
theorem exec_frame {s : Stmt} {db : Db}
    (h : ∀ p, written s (exec s db).1 = some p → p.1 ≠ recordId) :
    (exec s db).2 recordId = db recordId := by
  rw [exec_db]
  cases hw : written s (exec s db).1 with
  | none => rfl
  | some p => exact Function.update_of_ne (Ne.symm (h p hw)) ..

abbrev StoreProg := Prog Stmt Stmt.Res Exn

def conflict (message : String) : Exn :=
  { mro := ["RecordStoreConflictError", "RecordStoreError", "RuntimeError", "Exception"], message }

section
variable [Interpreter]

def notFound (recordId : String) : Exn :=
  conflict s!"record not found: {Interpreter.reprOf recordId}"

structure Normalized where
  recordId : String
  revision : Int
  payload : Dict

def normalizeRecordInput (record : Value) : Except Exn Normalized :=
  match record.asDict? with
  | none => .error (conflict "record must be a mapping")
  | some record =>
    match record.get? "record_id" with
    | none => .error (conflict "record_id is required")
    | some recordId =>
      match (record.getD "payload" (.dict [])).asDict? with
      | none => .error (conflict "record.payload must be a mapping")
      | some payload => do
        let revision ← pyInt (record.getD "revision" (.int 0))
        return { recordId := pyStr recordId, revision, payload }

def Normalized.toValue (n : Normalized) : Value :=
  .dict [("record_id", .str n.recordId), ("revision", .int n.revision),
    ("payload", .dict n.payload.entries)]

@[simp] theorem normalizeRecordInput_toValue (n : Normalized) :
    normalizeRecordInput n.toValue = .ok n := by
  have hr : n.toValue.asDict? = some (Dict.ofEntries [("record_id", .str n.recordId),
      ("revision", .int n.revision), ("payload", .dict n.payload.entries)]) := rfl
  simp [normalizeRecordInput, hr, Dict.getD, Dict.get?_ofEntries, List.lookup_cons, bind,
    Except.bind, pure, Except.pure]

def rowToSnapshot (recordId : String) (row : Row) : Snapshot :=
  { recordId, revision := row.revision, payload := row.payload, updatedAt := row.updatedAt }

def get (recordId : String) : StoreProg (Option Snapshot) := do
  let row : Option Row ← Prog.perform (Stmt.select recordId)
  return row.map (rowToSnapshot recordId)

def getOrRaise (recordId : String) : StoreProg Snapshot := do
  match ← get recordId with
  | none => Prog.raise (notFound recordId)
  | some snapshot => return snapshot

/-- `now` is the clock reading the method takes before its transaction. -/
def create (record : Value) (now : String) : StoreProg Snapshot := do
  let normalized ← Prog.lift (normalizeRecordInput record)
  let payload ← Prog.lift normalized.payload.dumps
  let inserted : Bool ← Prog.perform
    (Stmt.insert normalized.recordId { revision := normalized.revision, payload, updatedAt := now })
  if inserted then getOrRaise normalized.recordId
  else Prog.raise (conflict "UNIQUE constraint failed: records.record_id")

def save (record : Value) (now : String) : StoreProg Snapshot := do
  let normalized ← Prog.lift (normalizeRecordInput record)
  match ← get normalized.recordId with
  | none => create normalized.toValue now
  | some existing =>
    if normalized.revision ≤ existing.revision then
      Prog.raise (conflict "incoming revision must be greater than stored revision")
    else do
      let payload ← Prog.lift normalized.payload.dumps
      -- the row count is not looked at, and the revision read above is not part of the WHERE
      let _ ← Prog.perform (.update normalized.recordId
        { revision := normalized.revision, payload, updatedAt := now } none)
      getOrRaise normalized.recordId

/-- `int(mutation["expected_revision"])`, after the checks `update` makes on the way to it. -/
def expectedRevision (mutation : Value) : Except Exn Int :=
  match mutation.asDict? with
  | none => .error (conflict "mutation must be a mapping")
  | some mutation =>
    match mutation.get? "expected_revision" with
    | none => .error (conflict "expected_revision is required for update")
    | some expected => pyInt expected

def patchPayload (mutation : Value) : Except Exn Dict :=
  match ((mutation.asDict?.getD Dict.empty).getD "payload" (.dict [])).asDict? with
  | none => .error (conflict "mutation.payload must be a mapping")
  | some patch => .ok patch

/-- What `update` works out between its first SELECT and its transaction: the
expected revision and the merged payload as it will be stored. -/
def planUpdate (current : Snapshot) (mutation : Value) : Except Exn (Int × Dict) := do
  let expected ← expectedRevision mutation
  if expected ≠ current.revision then
    throw (conflict (s!"revision conflict for record {Interpreter.reprOf current.recordId}: " ++
      s!"expected {expected}, current {current.revision}"))
  else do
    let patch ← patchPayload mutation
    let payload ← (current.payload.update patch).dumps
    return (expected, payload)

def update (recordId : String) (mutation : Value) (now : String) : StoreProg Snapshot := do
  let current ← getOrRaise recordId
  let (expected, payload) ← Prog.lift (planUpdate current mutation)
  let newRevision := current.revision + 1
  let _ ← Prog.perform
    (.update recordId { revision := newRevision, payload, updatedAt := now } (some expected))
  let refreshed ← getOrRaise recordId
  if refreshed.revision ≠ newRevision then Prog.raise (conflict "concurrent write detected")
  else return refreshed

def markUnsynced (recordId : String) (now : String) : StoreProg Unit := do
  let current ← getOrRaise recordId
  let merged := current.payload.set "sync_status" (.str "unsynced")
  let _ ← update recordId
    (.dict [("expected_revision", .int current.revision), ("payload", .dict merged.entries)]) now
  return ()

-- ---------------------------------------------------------------------------
-- The programs, statement by statement
-- ---------------------------------------------------------------------------

theorem planUpdate_ok {current : Snapshot} {mutation : Value} {expected : Int} {payload : Dict}
    (h : planUpdate current mutation = .ok (expected, payload)) :
    expectedRevision mutation = .ok expected ∧ expected = current.revision := by
  simp only [planUpdate, except_bind_ok] at h
  obtain ⟨r, hr, h⟩ := h
  split at h
  · cases h
  · rename_i hne
    simp only [except_bind_ok] at h
    obtain ⟨_, _, _, _, h⟩ := h
    simp only [except_pure_ok, Prod.mk.injEq] at h
    exact ⟨h.1 ▸ hr, h.1 ▸ not_not.mp hne⟩

theorem getOrRaise_eq (recordId : String) : getOrRaise recordId =
    .act (.select recordId) fun row => match row with
      | none => .done (.error (notFound recordId))
      | some row => .done (.ok (rowToSnapshot recordId row)) := by
  simp only [getOrRaise, get, Prog.perform_bind, Prog.pure_eq, Prog.bind_act]
  congr 1
  funext row
  cases row <;> rfl

/-- The call's last word: the row it reads back decides, not the row count of its UPDATE. -/
def refreshResult (recordId : String) (newRevision : Int) : Option Row → Except Exn Snapshot
  | none => .error (notFound recordId)
  | some row =>
    if row.revision ≠ newRevision then .error (conflict "concurrent write detected")
    else .ok (rowToSnapshot recordId row)

/-- From the UPDATE of `update` to its end. -/
def commitUpdate (recordId : String) (row : Row) (expected : Int) : StoreProg Snapshot :=
  .act (.update recordId row (some expected)) fun _ =>
    .act (.select recordId) fun refreshed => .done (refreshResult recordId row.revision refreshed)

/-- What `update` does with the row it has read. -/
def continueUpdate (recordId : String) (mutation : Value) (now : String) :
    Option Row → StoreProg Snapshot
  | none => .done (.error (notFound recordId))
  | some row =>
    match planUpdate (rowToSnapshot recordId row) mutation with
    | .error e => .done (.error e)
    | .ok (expected, payload) =>
      commitUpdate recordId { revision := row.revision + 1, payload, updatedAt := now } expected

theorem update_eq (recordId : String) (mutation : Value) (now : String) :
    update recordId mutation now = .act (.select recordId)
      (continueUpdate recordId mutation now) := by
  simp only [update, getOrRaise_eq, Prog.bind_act]
  congr 1
  funext row
  cases row with
  | none => rfl
  | some row =>
    simp only [Prog.bind_ok, Prog.lift, continueUpdate]
    cases planUpdate (rowToSnapshot recordId row) mutation with
    | error e => rfl
    | ok plan =>
      obtain ⟨expected, payload⟩ := plan
      simp only [Prog.bind_ok, Prog.perform_bind, commitUpdate]
      congr 1
      funext _
      congr 1
      funext refreshed
      cases refreshed with
      | none => rfl
      | some refreshed =>
        simp only [Prog.bind_ok, refreshResult, rowToSnapshot]
        by_cases hr : refreshed.revision = row.revision + 1 <;> simp [hr]

/-- Every UPDATE `update` sends stores one more than the revision it expects. -/
theorem continueUpdate_cases (recordId : String) (mutation : Value) (now : String)
    (row : Option Row) :
    (∃ e, continueUpdate recordId mutation now row = .done (.error e)) ∨
      ∃ old new, row = some old ∧ new.revision = old.revision + 1 ∧
        expectedRevision mutation = .ok old.revision ∧
        continueUpdate recordId mutation now row = commitUpdate recordId new old.revision := by
  cases row with
  | none => exact .inl ⟨_, rfl⟩
  | some row =>
    cases hp : planUpdate (rowToSnapshot recordId row) mutation with
    | error e => exact .inl ⟨e, by simp [continueUpdate, hp]⟩
    | ok plan =>
      obtain ⟨expected, payload⟩ := plan
      obtain ⟨he, hr⟩ := planUpdate_ok hp
      have hr : expected = row.revision := hr
      subst hr
      exact .inr ⟨row, { revision := row.revision + 1, payload, updatedAt := now }, rfl, rfl, he,
        by simp [continueUpdate, hp]⟩

end

end DpostV2.RecordStore
