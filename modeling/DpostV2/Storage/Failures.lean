import DpostV2.Storage.Connection

/-!
# Failed calls of the record store

What a call leaves that raises: `_Transaction.__exit__` rolls back for an
error in its block and for nothing else. `failures_leave_store_iff` says after
which failures the store is as it was, over any run of calls.
-/

namespace DpostV2.SqliteRecordStore

open RecordStore (Db Row Snapshot Stmt Normalized normalizeRecordInput rowToSnapshot notFound)

-- ---------------------------------------------------------------------------
-- From BEGIN to the end of a call
-- ---------------------------------------------------------------------------

/-- What a call leaves that has come to its COMMIT with `w` written. -/
structure Outcome (faults : Faults) (c : Connection Db) (w : Db)
    (x : Except Exn α × Connection Db) :
    Prop where
  notCommitted : ∀ failure, faults.commit = some failure → ∃ e, x = (.error e,
    if failure.fault.endsTransaction then c else { c with working := some w })
  notReadBack : ∀ failure, faults.commit = none → faults.readBack = some failure →
    ∃ e, x = (.error e, .of w)
  returned : faults.commit = none → faults.readBack = none → ∃ a, x = (.ok a, .of w)

section
variable {faults : Faults} {c : Connection Db} {w : Db} {prepared : Except Exn Stmt}
  {rest : StoreEff α} {translate : Exn → Exn}

theorem Outcome.discard {m : StoreEff α} (h : Outcome faults c w (m.run c')) :
    Outcome faults c w ((do let _ ← m; return ()).run c') := by
  refine ⟨?_, ?_, ?_⟩
  · intro failure hf
    obtain ⟨e, hx⟩ := h.notCommitted failure hf
    exact ⟨e, by rw [Eff.run_bind, hx]⟩
  · intro failure hcommit hf
    obtain ⟨e, hx⟩ := h.notReadBack failure hcommit hf
    exact ⟨e, by rw [Eff.run_bind, hx]⟩
  · intro hcommit hf
    obtain ⟨a, hx⟩ := h.returned hcommit hf
    exact ⟨(), by rw [Eff.run_bind, hx]; rfl⟩

/-- The block writes: the COMMIT decides, and after it the read that follows. -/
theorem written {s : Stmt} (hc : c.Closed) (hb : faults.begins = none) (hw : faults.write = none)
    (hp : prepared = .ok s) (hx : execute s c.committed = (.ok (), w))
    (hrest : ∀ failure, faults.readBack = some failure →
      ∃ e, rest.run (.of w) = (.error e, .of w))
    (hok : faults.readBack = none → ∃ a, rest.run (.of w) = (.ok a, .of w)) :
    Outcome faults c w
      ((handling translate (do inTransaction prepared faults; rest)).run c) := by
  have hrun : (inTransaction prepared faults).run c =
      Connection.committing (faults.commit.map (·.fault)) c w () := by
    have hws : w = (execute s c.committed).2 := by rw [hx]
    unfold inTransaction
    rw [hb, hw, hws, Option.map_none]
    exact Connection.transaction_reached hc hp (congrArg Prod.fst hx)
  refine ⟨?_, ?_, ?_⟩
  · intro failure hf
    refine ⟨translate failure.fault.error, ?_⟩
    rw [handling_run, Eff.run_bind, hrun, hf]
    rfl
  · intro failure hcommit hf
    obtain ⟨e, he⟩ := hrest failure hf
    refine ⟨translate e, ?_⟩
    rw [handling_run, Eff.run_bind, hrun, hcommit]
    simp only [Option.map_none, Connection.committing, he, Except.mapError]
  · intro hcommit hf
    obtain ⟨a, ha⟩ := hok hf
    refine ⟨a, ?_⟩
    rw [handling_run, Eff.run_bind, hrun, hcommit]
    simp only [Option.map_none, Connection.committing, ha, Except.mapError]

theorem not_written (hc : c.Closed) (h : ¬(faults.begins = none ∧ faults.write = none ∧
      ∃ s, prepared = .ok s ∧ (execute s c.committed).1 = .ok ())) :
    ∃ e, (handling translate (do inTransaction prepared faults; rest)).run c = (.error e, c) := by
  have hno : ¬(faults.begins.map (·.fault) = none ∧ faults.write.map (·.fault) = none ∧
      ∃ s a, prepared = .ok s ∧ (execute s c.committed).1 = .ok a) := by
    rintro ⟨hb, hw, s, ⟨⟩, hp, hx⟩
    exact h ⟨Option.map_eq_none_iff.mp hb, Option.map_eq_none_iff.mp hw, s, hp, hx⟩
  have hrun : ∃ e, (inTransaction prepared faults).run c = (.error e, c) :=
    Connection.transaction_unreached hc hno
  obtain ⟨e, he⟩ := hrun
  refine ⟨translate e, ?_⟩
  rw [handling_run, Eff.run_bind, he]
  rfl

end

theorem discard_rejected {m : StoreEff α} {c : Connection Db} (h : ∃ e, m.run c = (.error e, c)) :
    ∃ e, (do let _ ← m; return () : StoreEff Unit).run c = (.error e, c) := by
  obtain ⟨e, he⟩ := h
  exact ⟨e, by rw [Eff.run_bind, he]⟩

-- ---------------------------------------------------------------------------
-- What a failed call leaves
-- ---------------------------------------------------------------------------

/-- Nothing shows of what happened between two states of the adapter, and nothing is pending. -/
structure LeftAsItWas (before after : Connection Db) : Prop where
  gets : ∀ recordId, ((get recordId none).run after).1 = ((get recordId none).run before).1
  closed : after.Closed
  begins : ((Connection.begin sqliteErrors none).run after).1 = .ok ()

theorem LeftAsItWas.refl {c : Connection Db} (hc : c.Closed) : LeftAsItWas c c :=
  ⟨fun _ => rfl, hc, Connection.begin_ok.mpr hc⟩

/-- The COMMIT does not fail and stay open, and once it is through the SELECT after it works. -/
structure Faults.Spare (f : Faults) : Prop where
  commit : ∀ failure, f.commit = some failure → failure.fault.endsTransaction = true
  readBack : f.commit = none → f.readBack = none

/-- `row` is how a normalized record is written at `now`. -/
structure StoredAs (n : Normalized) (now : String) (row : Row) : Prop where
  payload : n.payload.dumps = .ok row.payload
  revision : row.revision = n.revision
  updatedAt : row.updatedAt = now
  fits : bindable n.revision = true

theorem StoredAs.eta {n : Normalized} {now : String} {row : Row} (h : StoredAs n now row) :
    ({ revision := n.revision, payload := row.payload, updatedAt := now } : Row) = row := by
  rw [← h.revision, ← h.updatedAt]

section
variable [Interpreter]

-- ---------------------------------------------------------------------------
-- Calls
-- ---------------------------------------------------------------------------

inductive Call where
  | create (record : Value)
  | save (record : Value)
  | update (recordId : String) (mutation : Value)
  | markUnsynced (recordId : String)

/-- A call, the clock reading it takes, and the statements that fail under it. -/
structure Request where
  call : Call
  now : String
  faults : Faults := {}

def Request.prog (r : Request) : StoreEff Unit :=
  match r.call with
  | .create record => do
    let _ ← create record r.now r.faults
    return ()
  | .save record => do
    let _ ← save record r.now r.faults
    return ()
  | .update recordId mutation => do
    let _ ← update recordId mutation r.now r.faults
    return ()
  | .markUnsynced recordId => markUnsynced recordId r.now r.faults

-- ---------------------------------------------------------------------------
-- The row a call stores
-- ---------------------------------------------------------------------------

/-- `row` is what a mutation makes of the row `old` at `now`. -/
structure PatchedTo (recordId : String) (mutation : Value) (now : String) (old row : Row) :
    Prop where
  plan : RecordStore.planUpdate (rowToSnapshot recordId old) mutation =
    .ok (old.revision, row.payload)
  revision : row.revision = old.revision + 1
  updatedAt : row.updatedAt = now
  fits : bindable old.revision = true ∧ bindable (old.revision + 1) = true

/-- What `mark_unsynced` gives to `update` for the row it has read. -/
def unsyncedMutation (row : Row) : Value :=
  .dict [("expected_revision", .int row.revision),
    ("payload", .dict (row.payload.set "sync_status" (.str "unsynced")).entries)]

/-- The call's checks pass on the table, and `row` is what it then writes under `recordId`. -/
def Call.Stores (now : String) (db : Db) (recordId : String) (row : Row) : Call → Prop
  | .create record => ∃ n, normalizeRecordInput record = .ok n ∧ n.recordId = recordId ∧
      StoredAs n now row ∧ db recordId = none
  | .save record => ∃ n, normalizeRecordInput record = .ok n ∧ n.recordId = recordId ∧
      StoredAs n now row ∧ ∀ old, db recordId = some old → old.revision < n.revision
  | .update target mutation => target = recordId ∧
      ∃ old, db recordId = some old ∧ PatchedTo recordId mutation now old row
  | .markUnsynced target => target = recordId ∧
      ∃ old, db recordId = some old ∧ PatchedTo recordId (unsyncedMutation old) now old row

/-- The SELECTs before the transaction are answered. -/
def Call.Reads (faults : Faults) : Call → Prop
  | .create _ => True
  | .save _ | .update .. => faults.read = none
  | .markUnsynced _ => faults.marked = none ∧ faults.read = none

/-- The call comes to its COMMIT with `row` written under `recordId`. -/
structure Request.Reaches (r : Request) (db : Db) (recordId : String) (row : Row) : Prop where
  stores : r.call.Stores r.now db recordId row
  reads : r.call.Reads r.faults
  begins : r.faults.begins = none
  write : r.faults.write = none

/-- What a call writes is not what was there. -/
theorem Call.Stores.changes {now : String} {db : Db} {recordId : String} {row : Row} {call : Call}
    (h : call.Stores now db recordId row) : db recordId ≠ some row := by
  intro heq
  cases call with
  | create record =>
    obtain ⟨n, -, -, -, hnone⟩ := h
    rw [hnone] at heq
    cases heq
  | save record =>
    obtain ⟨n, -, -, hs, hnewer⟩ := h
    have hlt := hnewer row heq
    rw [hs.revision] at hlt
    exact lt_irrefl _ hlt
  | update target mutation =>
    obtain ⟨-, old, hold, hp⟩ := h
    rw [hold] at heq
    cases heq
    have hrev := hp.revision
    omega
  | markUnsynced target =>
    obtain ⟨-, old, hold, hp⟩ := h
    rw [hold] at heq
    cases heq
    have hrev := hp.revision
    omega

-- ---------------------------------------------------------------------------
-- Each method
-- ---------------------------------------------------------------------------

section
variable {record mutation : Value} {now recordId : String} {faults : Faults} {c : Connection Db}
  {row : Row}

theorem getOrRaise_fails {c : Connection Db} (hc : c.Closed) (recordId : String)
    (failure : SqliteFailure) :
    (getOrRaise recordId (some failure)).run c = (.error failure.fault.error, c) := by
  unfold getOrRaise
  rw [Eff.run_bind, get_fails hc]

theorem readBack_fails (db : Db) (recordId : String) (failure : SqliteFailure) :
    ∃ e, (getOrRaise recordId (some failure)).run (.of db) = (.error e, .of db) :=
  ⟨_, getOrRaise_fails (Connection.of_closed _) ..⟩

theorem create_outcome {n : Normalized} (hc : c.Closed) (hn : normalizeRecordInput record = .ok n)
    (hs : StoredAs n now row) (hnone : c.committed n.recordId = none)
    (hb : faults.begins = none) (hw : faults.write = none) :
    Outcome faults c (Function.update c.committed n.recordId (some row))
      ((create record now faults).run c) := by
  unfold create
  rw [hn, Eff.run_bind, Eff.run_lift]
  have hfits : bindable row.revision = true := by rw [hs.revision, hs.fits]
  refine written hc hb hw ?_ (execute_insert_db hfits hnone) ?_ ?_
  · rw [hs.payload]
    exact congrArg (fun row => Except.ok (Stmt.insert n.recordId row)) hs.eta
  · intro failure hf
    rw [hf]
    exact readBack_fails ..
  · intro hf
    rw [hf]
    exact ⟨_, readBack_run ..⟩

theorem create_rejected (hc : c.Closed)
    (h : ∀ n row, normalizeRecordInput record = .ok n → StoredAs n now row →
      c.committed n.recordId = none → faults.begins = none → faults.write ≠ none) :
    ∃ e, (create record now faults).run c = (.error e, c) := by
  unfold create
  rw [Eff.run_bind, Eff.run_lift]
  cases hn : normalizeRecordInput record with
  | error e => exact ⟨e, rfl⟩
  | ok n =>
    refine not_written hc ?_
    rintro ⟨hb, hw, s, hp, hx⟩
    obtain ⟨payload, hpayload, hs⟩ := except_bind_ok.mp hp
    cases except_pure_ok.mp hs
    obtain ⟨hfits, hnone⟩ := execute_insert.mp hx
    exact h n { revision := n.revision, payload, updatedAt := now } hn ⟨hpayload, rfl, rfl, hfits⟩
      hnone hb hw

theorem save_outcome {n : Normalized} (hc : c.Closed) (hn : normalizeRecordInput record = .ok n)
    (hs : StoredAs n now row)
    (hnewer : ∀ old, c.committed n.recordId = some old → old.revision < n.revision)
    (hr : faults.read = none) (hb : faults.begins = none) (hw : faults.write = none) :
    Outcome faults c (Function.update c.committed n.recordId (some row))
      ((save record now faults).run c) := by
  unfold save
  rw [hn, Eff.run_bind, Eff.run_lift, hr]
  simp only
  rw [Eff.run_bind, get_run, Connection.view_closed hc]
  cases hold : c.committed n.recordId with
  | none =>
    exact create_outcome hc (RecordStore.normalizeRecordInput_toValue n) hs hold hb hw
  | some old =>
    have hlt := hnewer old hold
    simp only [Option.map_some, rowToSnapshot, not_le.mpr hlt, if_false]
    have hfits : bindable row.revision = true ∧ (none : Option Int).all bindable = true := by
      rw [hs.revision, hs.fits]
      exact ⟨rfl, rfl⟩
    refine written hc hb hw ?_ (execute_update_db hfits hold rfl) ?_ ?_
    · rw [hs.payload]
      exact congrArg (fun row => Except.ok (Stmt.update n.recordId row none)) hs.eta
    · intro failure hf
      rw [hf]
      exact readBack_fails ..
    · intro hf
      rw [hf]
      exact ⟨_, readBack_run ..⟩

theorem save_rejected (hc : c.Closed)
    (h : ∀ n row, normalizeRecordInput record = .ok n → StoredAs n now row →
      (∀ old, c.committed n.recordId = some old → old.revision < n.revision) →
      faults.read = none → faults.begins = none → faults.write ≠ none) :
    ∃ e, (save record now faults).run c = (.error e, c) := by
  unfold save
  rw [Eff.run_bind, Eff.run_lift]
  cases hn : normalizeRecordInput record with
  | error e => exact ⟨e, rfl⟩
  | ok n =>
    simp only
    cases hr : faults.read with
    | some failure => exact ⟨failure.fault.error, by rw [Eff.run_bind, get_fails hc]⟩
    | none =>
      rw [Eff.run_bind, get_run, Connection.view_closed hc]
      cases hold : c.committed n.recordId with
      | none =>
        refine create_rejected hc ?_
        intro n' row hn' hs hnone hb
        rw [RecordStore.normalizeRecordInput_toValue] at hn'
        cases hn'
        exact h n row hn hs (fun old ho => by rw [hold] at ho; cases ho) hr hb
      | some old =>
        simp only [Option.map_some, rowToSnapshot]
        split
        · exact ⟨_, rfl⟩
        · rename_i hle
          refine not_written hc ?_
          rintro ⟨hb, hw, s, hp, hx⟩
          obtain ⟨payload, hpayload, hs⟩ := except_bind_ok.mp hp
          cases except_pure_ok.mp hs
          obtain ⟨hfits, -⟩ := execute_update.mp hx
          refine h n { revision := n.revision, payload, updatedAt := now } hn
            ⟨hpayload, rfl, rfl, hfits⟩ ?_ hr hb hw
          intro old' ho
          rw [hold] at ho
          cases ho
          exact not_le.mp hle

theorem update_outcome {old : Row} (hc : c.Closed) (hold : c.committed recordId = some old)
    (hp : PatchedTo recordId mutation now old row)
    (hr : faults.read = none) (hb : faults.begins = none) (hw : faults.write = none) :
    Outcome faults c (Function.update c.committed recordId (some row))
      ((update recordId mutation now faults).run c) := by
  have hplan := hp.plan
  rw [planUpdate_eq] at hplan
  obtain ⟨⟨expected, merged⟩, hmerge, hplan⟩ := except_bind_ok.mp hplan
  obtain ⟨payload, hpayload, hplan⟩ := except_bind_ok.mp hplan
  obtain ⟨rfl, rfl⟩ := Prod.mk.inj (except_pure_ok.mp hplan)
  unfold update
  rw [Eff.run_bind, hr, getOrRaise_run hc, hold]
  simp only
  rw [Eff.run_bind, hmerge, Eff.run_lift]
  have hrow : ({ revision := old.revision + 1, payload := row.payload, updatedAt := now } : Row) =
      row := by
    rw [← hp.revision, ← hp.updatedAt]
  have hfits : bindable row.revision = true ∧ (some old.revision).all bindable = true := by
    rw [hp.revision]
    exact ⟨hp.fits.2, hp.fits.1⟩
  refine written hc hb hw ?_ (execute_update_db hfits hold (by simp)) ?_ ?_
  · simp only [rowToSnapshot] at hpayload ⊢
    rw [hpayload]
    exact congrArg (fun row => Except.ok (Stmt.update recordId row (some old.revision))) hrow
  · intro failure hf
    obtain ⟨e, he⟩ := readBack_fails
      (Function.update c.committed recordId (some row)) recordId failure
    exact ⟨e, by rw [hf, Eff.run_bind, he]⟩
  · intro hf
    rw [hf]
    exact ⟨_, checkBack_run _ _ _ hp.revision⟩

theorem update_rejected (hc : c.Closed)
    (h : ∀ old row, c.committed recordId = some old → PatchedTo recordId mutation now old row →
      faults.read = none → faults.begins = none → faults.write ≠ none) :
    ∃ e, (update recordId mutation now faults).run c = (.error e, c) := by
  unfold update
  rw [Eff.run_bind]
  cases hr : faults.read with
  | some failure => exact ⟨failure.fault.error, by rw [getOrRaise_fails hc]⟩
  | none =>
    rw [getOrRaise_run hc]
    cases hold : c.committed recordId with
    | none => exact ⟨_, rfl⟩
    | some old =>
      simp only
      rw [Eff.run_bind, Eff.run_lift]
      cases hmerge : mergePatch (rowToSnapshot recordId old) mutation with
      | error e => exact ⟨e, rfl⟩
      | ok plan =>
        obtain ⟨expected, merged⟩ := plan
        have hexp : expected = old.revision := mergePatch_expected hmerge
        refine not_written hc ?_
        rintro ⟨hb, hw, s, hp, hx⟩
        obtain ⟨payload, hpayload, hs⟩ := except_bind_ok.mp hp
        cases except_pure_ok.mp hs
        obtain ⟨hfits, hfits'⟩ := execute_update.mp hx
        have hplan : RecordStore.planUpdate (rowToSnapshot recordId old) mutation =
            .ok (old.revision, payload) := by
          rw [planUpdate_eq, hmerge]
          simp [hpayload, hexp, bind, Except.bind, pure, Except.pure]
        rw [hexp] at hfits'
        exact h old { revision := old.revision + 1, payload, updatedAt := now } hold
          ⟨hplan, rfl, rfl, hfits', hfits⟩ hr hb hw

theorem markUnsynced_eq {old : Row} (hc : c.Closed) (hold : c.committed recordId = some old)
    (hm : faults.marked = none) : (markUnsynced recordId now faults).run c =
      (do let _ ← update recordId (unsyncedMutation old) now faults; return ()).run c := by
  unfold markUnsynced
  rw [Eff.run_bind, hm, getOrRaise_run hc, hold]
  rfl

end

-- ---------------------------------------------------------------------------
-- Any call
-- ---------------------------------------------------------------------------

section
variable {r : Request} {c : Connection Db} {recordId : String} {row : Row}

theorem Request.outcome (hc : c.Closed) (h : r.Reaches c.committed recordId row) :
    Outcome r.faults c (Function.update c.committed recordId (some row)) (r.prog.run c) := by
  obtain ⟨hstores, hreads, hb, hw⟩ := h
  obtain ⟨call, now, faults⟩ := r
  unfold Request.prog
  cases call with
  | create record =>
    obtain ⟨n, hn, rfl, hs, hnone⟩ := hstores
    exact (create_outcome hc hn hs hnone hb hw).discard
  | save record =>
    obtain ⟨n, hn, rfl, hs, hnewer⟩ := hstores
    exact (save_outcome hc hn hs hnewer hreads hb hw).discard
  | update target mutation =>
    obtain ⟨rfl, old, hold, hp⟩ := hstores
    exact (update_outcome hc hold hp hreads hb hw).discard
  | markUnsynced target =>
    obtain ⟨rfl, old, hold, hp⟩ := hstores
    simp only
    rw [markUnsynced_eq hc hold hreads.1]
    exact (update_outcome hc hold hp hreads.2 hb hw).discard

/-- A call that does not come to its COMMIT raises and changes nothing. -/
theorem Request.rejected (hc : c.Closed) (h : ∀ recordId row, ¬r.Reaches c.committed recordId row) :
    ∃ e, r.prog.run c = (.error e, c) := by
  obtain ⟨call, now, faults⟩ := r
  unfold Request.prog
  cases call with
  | create record =>
    refine discard_rejected (create_rejected hc ?_)
    intro n row hn hs hnone hb hw
    exact h n.recordId row ⟨⟨n, hn, rfl, hs, hnone⟩, trivial, hb, hw⟩
  | save record =>
    refine discard_rejected (save_rejected hc ?_)
    intro n row hn hs hnewer hr hb hw
    exact h n.recordId row ⟨⟨n, hn, rfl, hs, hnewer⟩, hr, hb, hw⟩
  | update target mutation =>
    refine discard_rejected (update_rejected hc ?_)
    intro old row hold hp hr hb hw
    exact h target row ⟨⟨rfl, old, hold, hp⟩, hr, hb, hw⟩
  | markUnsynced target =>
    simp only
    cases hm : faults.marked with
    | some failure =>
      unfold markUnsynced
      exact ⟨failure.fault.error, by rw [Eff.run_bind, hm, getOrRaise_fails hc]⟩
    | none =>
      cases hold : c.committed target with
      | none =>
        unfold markUnsynced
        exact ⟨notFound target, by rw [Eff.run_bind, hm, getOrRaise_run hc, hold]⟩
      | some old =>
        rw [markUnsynced_eq hc hold hm]
        refine discard_rejected (update_rejected hc ?_)
        intro old' row hold' hp hr hb hw
        rw [hold] at hold'
        cases hold'
        exact h target row ⟨⟨rfl, old, hold, hp⟩, ⟨hm, hr⟩, hb, hw⟩

end

def Request.FailsClean (r : Request) (c : Connection Db) : Prop :=
  ∀ e, (r.prog.run c).1 = .error e → LeftAsItWas c (r.prog.run c).2

/-- What fails before the COMMIT is put right; what fails there or after has to spare the call. -/
theorem Request.failsClean_iff {r : Request} {c : Connection Db} (hc : c.Closed) : r.FailsClean c ↔
    ∀ recordId row, r.Reaches c.committed recordId row → r.faults.Spare := by
  constructor
  · intro h recordId row hreach
    have ho := r.outcome hc hreach
    have hchanges := hreach.stores.changes
    refine ⟨?_, ?_⟩
    · intro failure hf
      obtain ⟨e, hx⟩ := ho.notCommitted failure hf
      have hleft := h e (by rw [hx])
      rw [hx] at hleft
      by_contra hopen
      have hclosed := hleft.closed
      simp only [Bool.not_eq_true] at hopen
      simp only [hopen, Bool.false_eq_true, if_false] at hclosed
      cases hclosed
    · intro hcommit
      by_contra hf
      obtain ⟨failure, hf⟩ := Option.ne_none_iff_exists'.mp hf
      obtain ⟨e, hx⟩ := ho.notReadBack failure hcommit hf
      have hleft := h e (by rw [hx])
      rw [hx] at hleft
      have hget := hleft.gets recordId
      rw [get_run, get_run, Connection.view_closed hc] at hget
      cases hold : c.committed recordId with
      | none => simp [Connection.of, Connection.view, hold] at hget
      | some old =>
        simp only [Connection.of, Connection.view, Option.getD_none, Function.update_self, hold,
          Option.map_some, Except.ok.injEq, Option.some.injEq, rowToSnapshot, Snapshot.mk.injEq,
          true_and] at hget
        obtain ⟨h₁, h₂, h₃⟩ := hget
        apply hchanges
        rw [hold]
        obtain ⟨_, _, _⟩ := row
        obtain ⟨_, _, _⟩ := old
        cases h₁; cases h₂; cases h₃
        rfl
  · intro h e he
    by_cases hreach : ∃ recordId row, r.Reaches c.committed recordId row
    · obtain ⟨recordId, row, hreach⟩ := hreach
      have ho := r.outcome hc hreach
      have hspare := h recordId row hreach
      cases hcommit : r.faults.commit with
      | some failure =>
        obtain ⟨e', hx⟩ := ho.notCommitted failure hcommit
        rw [hx, hspare.commit failure hcommit]
        exact .refl hc
      | none =>
        obtain ⟨a, hx⟩ := ho.returned hcommit (hspare.readBack hcommit)
        rw [hx] at he
        cases he
    · obtain ⟨e', hx⟩ := r.rejected hc fun recordId row hr => hreach ⟨recordId, row, hr⟩
      rw [hx]
      exact .refl hc

/-- `P` holds of every request of a run, in the state it finds. -/
def Throughout (P : Request → Connection Db → Prop) : List Request → Connection Db → Prop
  | [], _ => True
  | r :: rs, c => P r c ∧ Throughout P rs (r.prog.run c).2

theorem Request.next_closed {r : Request} {c : Connection Db} (hc : c.Closed)
    (h : r.FailsClean c) : (r.prog.run c).2.Closed := by
  cases hx : (r.prog.run c).1 with
  | error e => exact (h e hx).closed
  | ok a =>
    by_cases hreach : ∃ recordId row, r.Reaches c.committed recordId row
    · obtain ⟨recordId, row, hreach⟩ := hreach
      have ho := r.outcome hc hreach
      cases hcommit : r.faults.commit with
      | some failure =>
        obtain ⟨e, hx'⟩ := ho.notCommitted failure hcommit
        rw [hx'] at hx
        cases hx
      | none =>
        cases hread : r.faults.readBack with
        | some failure =>
          obtain ⟨e, hx'⟩ := ho.notReadBack failure hcommit hread
          rw [hx'] at hx
          cases hx
        | none =>
          obtain ⟨a', hx'⟩ := ho.returned hcommit hread
          rw [hx']
          rfl
    · obtain ⟨e, hx'⟩ := r.rejected hc fun recordId row hr => hreach ⟨recordId, row, hr⟩
      rw [hx'] at hx
      cases hx

theorem throughout_congr {P Q : Request → Connection Db → Prop}
    (hiff : ∀ r c, c.Closed → (P r c ↔ Q r c))
    (hnext : ∀ r c, c.Closed → P r c → (r.prog.run c).2.Closed) (rs : List Request)
    {c : Connection Db} (hc : c.Closed) : Throughout P rs c ↔ Throughout Q rs c := by
  induction rs generalizing c with
  | nil => rfl
  | cons r rs ih =>
    unfold Throughout
    rw [← hiff r c hc]
    constructor
    · rintro ⟨h, hrest⟩
      exact ⟨h, (ih (hnext r c hc h)).mp hrest⟩
    · rintro ⟨h, hrest⟩
      exact ⟨h, (ih (hnext r c hc h)).mpr hrest⟩

/-- In a run every call that raises leaves the store as it was, if and only if no call that comes
to its COMMIT has it fail and stay open, or has the SELECT after it fail. -/
theorem failures_leave_store_iff (requests : List Request) (db : Db) :
    Throughout Request.FailsClean requests (.of db) ↔
      Throughout (fun r c => ∀ recordId row, r.Reaches c.committed recordId row → r.faults.Spare)
        requests (.of db) := by
  apply throughout_congr
  · intro r c hc
    exact r.failsClean_iff hc
  · intro r c hc h
    exact r.next_closed hc h
  · exact Connection.of_closed db

end

section
attribute [local instance] Interpreter.ascii

/-- A record whose COMMIT finds the database locked. -/
def lockedCreate : Request where
  call := .create (.dict [("record_id", .str "r1"), ("revision", .int 1)])
  now := "2025-03-01T10:00:00+00:00"
  faults := { commit := some .busy }

def lockedRow : Row :=
  { revision := 1, payload := Dict.empty, updatedAt := "2025-03-01T10:00:00+00:00" }

theorem translate_operational (integrity : Option String) (message : String) :
    translate integrity (operationalError message) =
      mapOperationalError (operationalError message) := by
  have hi : (operationalError message).isInstance "IntegrityError" = false := by
    simp [operationalError, Exn.isInstance]
  have ho : (operationalError message).isInstance "OperationalError" = true := by
    simp [operationalError, Exn.isInstance]
  cases integrity <;> simp [translate, hi, ho]

theorem timeout_of_locked : mapOperationalError (operationalError "database is locked") =
    storeError "RecordStoreTimeoutError" "database is locked" := by
  decide +kernel

theorem lockedCreate_run : lockedCreate.prog.run (.of fun _ => none) =
    (.error (mapOperationalError (operationalError "database is locked")),
      { committed := fun _ => none
        working := some (Function.update (fun _ => none) "r1" (some lockedRow)) }) := by
  have hn : normalizeRecordInput (.dict [("record_id", .str "r1"), ("revision", .int 1)]) =
      .ok { recordId := "r1", revision := 1, payload := Dict.empty } := rfl
  have hx : execute (.insert "r1" lockedRow) (fun _ => none) =
      (.ok (), Function.update (fun _ => none) "r1" (some lockedRow)) :=
    execute_insert_db (by decide +kernel) rfl
  have ht : (inTransaction (.ok (.insert "r1" lockedRow)) lockedCreate.faults).run
      (.of fun _ => none) = (.error (operationalError "database is locked"),
        { committed := fun _ => none
          working := some (Function.update (fun _ => none) "r1" (some lockedRow)) }) := by
    refine (Connection.transaction_reached (Connection.of_closed _) rfl
      (congrArg Prod.fst hx)).trans ?_
    rw [Connection.of, hx]
    rfl
  have hp : (do
      let payload ← Dict.empty.dumps
      return Stmt.insert "r1"
        { revision := 1, payload, updatedAt := "2025-03-01T10:00:00+00:00" } : Except Exn Stmt) =
      .ok (.insert "r1" lockedRow) := rfl
  simp only [Request.prog, lockedCreate, create]
  rw [Eff.run_bind, Eff.run_bind, Eff.run_lift, hn]
  simp only
  rw [handling_run, Eff.run_bind, hp]
  simp only [lockedCreate] at ht
  rw [ht]
  simp only [Except.mapError, translate_operational]

/-- The call times out, and yet its record can be read and its transaction is still open. -/
theorem lockedCommitStaysOpen :
    (lockedCreate.prog.run (.of fun _ => none)).1 =
      .error (storeError "RecordStoreTimeoutError" "database is locked") ∧
    ((get "r1" none).run (lockedCreate.prog.run (.of fun _ => none)).2).1 =
      .ok (some (rowToSnapshot "r1" lockedRow)) ∧
    ((Connection.begin sqliteErrors none).run (lockedCreate.prog.run (.of fun _ => none)).2).1 =
      .error sqliteErrors.nested ∧
    ¬Throughout Request.FailsClean [lockedCreate] (.of fun _ => none) := by
  rw [lockedCreate_run]
  refine ⟨by rw [timeout_of_locked], rfl, rfl, ?_⟩
  rintro ⟨h, -⟩
  unfold Request.FailsClean at h
  rw [lockedCreate_run] at h
  have hclosed := (h _ rfl).closed
  cases hclosed

end

end DpostV2.SqliteRecordStore
