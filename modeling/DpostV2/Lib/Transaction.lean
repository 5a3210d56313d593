import DpostV2.Lib.Effect

/-!
# A connection and its transaction

Explicit `BEGIN`, `COMMIT` and `ROLLBACK` over a store of any kind, as SQLite
has them: a transaction works on a copy that its own connection sees, a
statement outside of one is committed at once, and a second `BEGIN` is
refused. Any statement may fail. What fails has no effect of its own, but it
can end the transaction, and where it does not the transaction stays open,
after a failed `COMMIT` too.
-/

namespace DpostV2

structure Connection (σ : Type) where
  committed : σ
  /-- What the open transaction has made of the store. -/
  working : Option σ

/-- How a statement fails, and whether the store itself ends the transaction over it. -/
structure Fault (ε : Type) where
  error : ε
  endsTransaction : Bool

/-- What is raised for a `BEGIN` in a transaction, and for a `COMMIT` or a `ROLLBACK` outside. -/
structure TransactionErrors (ε : Type) where
  nested : ε
  noCommit : ε
  noRollback : ε

variable {ε σ α β : Type}

namespace Connection

def of (s : σ) : Connection σ := { committed := s, working := none }

/-- What the connection's own statements see. -/
def view (c : Connection σ) : σ := c.working.getD c.committed

def Closed (c : Connection σ) : Prop := c.working = none

def failing (f : Fault ε) : Eff ε (Connection σ) α := fun c =>
  (.error f.error, if f.endsTransaction then { c with working := none } else c)

def statement (exec : σ → Except ε α × σ) : Option (Fault ε) → Eff ε (Connection σ) α
  | some f => failing f
  | none => fun c => match c.working with
    | some w => ((exec w).1, { c with working := some (exec w).2 })
    | none => ((exec c.committed).1, { c with committed := (exec c.committed).2 })

section
variable (errors : TransactionErrors ε)

def begin (fault : Option (Fault ε)) : Eff ε (Connection σ) Unit := fun c =>
  match c.working, fault with
  | some _, _ => (.error errors.nested, c)
  | none, some f => (.error f.error, c)
  | none, none => (.ok (), { c with working := some c.committed })

def commit (fault : Option (Fault ε)) : Eff ε (Connection σ) Unit := fun c =>
  match c.working, fault with
  | none, _ => (.error errors.noCommit, c)
  | some _, some f => (failing f).run c
  | some w, none => (.ok (), { committed := w, working := none })

def rollback : Eff ε (Connection σ) Unit := fun c =>
  match c.working with
  | none => (.error errors.noRollback, c)
  | some _ => (.ok (), { c with working := none })

end

-- ---------------------------------------------------------------------------
-- A closed connection
-- ---------------------------------------------------------------------------

@[simp] theorem of_closed (s : σ) : (of s).Closed := rfl

@[simp] theorem view_closed {c : Connection σ} (hc : c.Closed) : c.view = c.committed := by
  unfold view
  rw [hc]
  rfl

theorem Closed.eta {c : Connection σ} (hc : c.Closed) : { c with working := none } = c := by
  obtain ⟨s, w⟩ := c
  cases hc
  rfl

/-- What fails outside of a transaction changes nothing. -/
theorem failing_closed {c : Connection σ} (hc : c.Closed) (f : Fault ε) :
    (failing f : Eff ε (Connection σ) α).run c = (.error f.error, c) := by
  have hself : (if f.endsTransaction then { c with working := none } else c) = c := by
    rw [hc.eta, ite_self]
  exact Prod.ext rfl hself

/-- A statement that does not change the store does not change the connection. -/
theorem statement_reads {exec : σ → Except ε α × σ} (h : ∀ s, (exec s).2 = s) (c : Connection σ) :
    (statement exec none).run c = ((exec c.view).1, c) := by
  obtain ⟨s, w⟩ := c
  cases w with
  | none => simp [statement, Eff.run, view, h]
  | some w => simp [statement, Eff.run, view, h]

section
variable {errors : TransactionErrors ε} {c : Connection σ}

/-- The next transaction can start, unless one is open. -/
theorem begin_ok : ((begin errors none).run c).1 = .ok () ↔ c.Closed := by
  obtain ⟨s, w⟩ := c
  cases w with
  | none => exact ⟨fun _ => rfl, fun _ => rfl⟩
  | some w => exact ⟨fun h => (nomatch h), fun h => (nomatch h)⟩

end

-- ---------------------------------------------------------------------------
-- A `with` block
-- ---------------------------------------------------------------------------

/-- `BEGIN`, the block, and `COMMIT` after it or `ROLLBACK` when it raised. The error of a
failed `COMMIT` is raised as it is: nothing is rolled back for it. -/
def transaction (errors : TransactionErrors ε) (begins commits : Option (Fault ε))
    (block : Eff ε (Connection σ) α) : Eff ε (Connection σ) α := do
  begin errors begins
  match ← block.attempt with
  | .ok a => do
    commit errors commits
    return a
  | .error e => do
    rollback errors
    Eff.raise e

section
variable {errors : TransactionErrors ε} {begins commits fault : Option (Fault ε)}
  {block : Eff ε (Connection σ) α} {c : Connection σ}

theorem transaction_not_begun (hc : c.Closed) {f : Fault ε} :
    (transaction errors (some f) commits block).run c = (.error f.error, c) := by
  unfold transaction
  rw [Eff.run_bind]
  simp only [begin, Eff.run, show c.working = none from hc]

/-- A block that raises is rolled back. -/
theorem transaction_raised (hc : c.Closed) {e : ε} {w : σ}
    (hb : block.run { c with working := some c.committed } =
      (.error e, { c with working := some w })) :
    (transaction errors none commits block).run c = (.error e, c) := by
  obtain ⟨s, _⟩ := c
  cases hc
  unfold Eff.run at hb
  simp [transaction, begin, Eff.run, bind, Eff.bind, Eff.attempt, hb, rollback, Eff.raise]

/-- Where the failure has ended the transaction the `ROLLBACK` raises in its place. -/
theorem transaction_ended (hc : c.Closed) {e : ε}
    (hb : block.run { c with working := some c.committed } =
      (.error e, { c with working := none })) :
    (transaction errors none commits block).run c = (.error errors.noRollback, c) := by
  obtain ⟨s, _⟩ := c
  cases hc
  unfold Eff.run at hb
  simp [transaction, begin, Eff.run, bind, Eff.bind, Eff.attempt, hb, rollback]

/-- What a `COMMIT` makes of a transaction that came to `w`. One that fails leaves the
transaction to its fault. -/
def committing (commits : Option (Fault ε)) (c : Connection σ) (w : σ) (a : α) :
    Except ε α × Connection σ :=
  match commits with
  | none => (.ok a, of w)
  | some f => (.error f.error, if f.endsTransaction then c else { c with working := some w })

theorem transaction_returned (hc : c.Closed) {a : α} {w : σ}
    (hb : block.run { c with working := some c.committed } =
      (.ok a, { c with working := some w })) :
    (transaction errors none commits block).run c = committing commits c w a := by
  obtain ⟨s, _⟩ := c
  cases hc
  unfold Eff.run at hb
  cases commits with
  | none =>
    simp [transaction, begin, Eff.run, bind, Eff.bind, Eff.attempt, hb, commit,
      committing, of, pure]
  | some f =>
    simp [transaction, begin, Eff.run, bind, Eff.bind, Eff.attempt, hb, commit, committing, failing]

-- One statement, from what the block has prepared for it

variable {prepared : Except ε β} {exec : β → σ → Except ε α × σ}

theorem transaction_reached (hc : c.Closed) {b : β} {a : α} (hp : prepared = .ok b)
    (hx : (exec b c.committed).1 = .ok a) :
    (transaction errors none commits (do statement (exec (← Eff.lift prepared)) none)).run c =
      committing commits c (exec b c.committed).2 a := by
  subst hp
  apply transaction_returned hc
  rw [Eff.run_bind]
  simp only [Eff.run_lift]
  exact Prod.ext hx rfl

theorem transaction_unreached (hc : c.Closed)
    (h : ¬(begins = none ∧ fault = none ∧ ∃ b a, prepared = .ok b ∧
      (exec b c.committed).1 = .ok a)) :
    ∃ e, (transaction errors begins commits
      (do statement (exec (← Eff.lift prepared)) fault)).run c =
      (.error e, c) := by
  cases begins with
  | some f => exact ⟨f.error, transaction_not_begun hc⟩
  | none =>
    cases prepared with
    | error e => exact ⟨e, transaction_raised hc (w := c.committed) rfl⟩
    | ok b =>
      cases fault with
      | some f =>
        cases he : f.endsTransaction with
        | true =>
          refine ⟨errors.noRollback, transaction_ended hc (e := f.error) ?_⟩
          rw [Eff.run_bind]
          simp [statement, failing, Eff.run, Eff.lift, he]
        | false =>
          refine ⟨f.error, transaction_raised hc (w := c.committed) ?_⟩
          rw [Eff.run_bind]
          simp [statement, failing, Eff.run, Eff.lift, he]
      | none =>
        cases hx : (exec b c.committed).1 with
        | ok a => exact absurd ⟨rfl, rfl, b, a, rfl, hx⟩ h
        | error e =>
          refine ⟨e, transaction_raised hc (w := (exec b c.committed).2) ?_⟩
          rw [Eff.run_bind]
          exact Prod.ext hx rfl

end

end Connection

end DpostV2
