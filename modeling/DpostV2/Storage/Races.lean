import DpostV2.Storage.RecordStore

/-!
# Clients of one database

Any number of calls run on one database, their statements interleaved by a
schedule. A client's calls one after another are among these schedules, so
what holds for calls holds for clients.

`update` decides by the revision it reads back, not by the row count of its
UPDATE. `lostUpdateFree_iff` says for which interleavings that is the same.
`save` checks a revision its UPDATE does not name. `monotonic_iff` says when
no revision is lowered or repeated.
-/

namespace DpostV2.RecordStore

variable {ι : Type} {i : ι}

abbrev History (ι : Type) := List (Event ι Stmt Stmt.Res)

/-- The row an event has written. -/
def Wrote (e : Event ι Stmt Stmt.Res) : Option (String × Row) := written e.act e.res

/-- How many events have written the record. -/
def writesTo (recordId : String) (t : History ι) : Nat :=
  t.countP fun e => (Wrote e).any (·.1 == recordId)

/-- One of the call's own statements changed the table. -/
def Committed (i : ι) (t : History ι) : Prop := ∃ e ∈ t, e.who = i ∧ (Wrote e).isSome

@[simp] theorem writesTo_nil (recordId : String) : writesTo recordId ([] : History ι) = 0 := rfl

@[simp] theorem writesTo_append (recordId : String) (t u : History ι) :
    writesTo recordId (t ++ u) = writesTo recordId t + writesTo recordId u :=
  List.countP_append

@[simp] theorem writesTo_cons (recordId : String) (e : Event ι Stmt Stmt.Res) (t : History ι) :
    writesTo recordId (e :: t) =
      writesTo recordId t + if (Wrote e).any (·.1 == recordId) then 1 else 0 :=
  List.countP_cons ..

-- ---------------------------------------------------------------------------
-- update and mark_unsynced
-- ---------------------------------------------------------------------------

/-- The statement keeps to the optimistic protocol: it stores one more than it expects. -/
def Guarded : Stmt → Prop
  | .select _ => True
  | .insert .. => False
  | .update _ row expected => ∃ r, expected = some r ∧ row.revision = r + 1

/-- Under the protocol a revision counts the writes to its record. -/
theorem revision_replay {db : Db} {t : History ι} {row : Row} (hg : ∀ e ∈ t, Guarded e.act)
    (hl : Legal exec db t) (hrow : db recordId = some row) :
    ∃ row', replay exec db t recordId = some row' ∧
      row'.revision = row.revision + writesTo recordId t := by
  induction t generalizing db row with
  | nil => exact ⟨row, hrow, by simp⟩
  | cons e t ih =>
    obtain ⟨who, act, res⟩ := e
    obtain ⟨hres, hl⟩ := hl
    have hgt : ∀ e ∈ t, Guarded e.act := fun e he => hg e (List.mem_cons_of_mem _ he)
    have hge : Guarded act := hg ⟨who, act, res⟩ (by simp)
    simp only at hres
    subst hres
    simp only [replay_cons, writesTo_cons]
    cases act with
    | select id =>
      obtain ⟨row', h, hr⟩ := ih hgt hl hrow
      exact ⟨row', h, by simp [hr, Wrote, written]⟩
    | insert => exact hge.elim
    | update id new expected =>
      obtain ⟨r, rfl, hnew⟩ := hge
      by_cases hid : id = recordId
      · subst hid
        by_cases hm : r = row.revision
        · have hx : exec (.update id new (some r)) db =
            (true, Function.update db id (some new)) := by
            simp [exec, hrow, hm]
          rw [hx] at hl ⊢
          obtain ⟨row', h, hr⟩ := ih hgt hl (Function.update_self ..)
          refine ⟨row', h, ?_⟩
          simp only [hr, hnew, hm, Wrote, written, if_true, Option.any_some, beq_self_eq_true]
          omega
        · have hx : exec (.update id new (some r)) db = (false, db) := by simp [exec, hrow, hm]
          rw [hx] at hl ⊢
          obtain ⟨row', h, hr⟩ := ih hgt hl hrow
          exact ⟨row', h, by simp [hr, Wrote, written]⟩
      · have hother : ∀ p, written (.update id new (some r)) (exec (.update id new (some r)) db).1 =
            some p → p.1 ≠ recordId := fun p hp => written_update hp ▸ hid
        obtain ⟨row', h, hr⟩ := ih hgt hl ((exec_frame hother).trans hrow)
        refine ⟨row', h, ?_⟩
        have hw : (Wrote (⟨who, .update id new (some r), (exec (.update id new (some r)) db).1⟩ :
            Event ι Stmt Stmt.Res)).any (·.1 == recordId) = false := by
          rw [Option.any_eq_false_iff_get]
          intro hs
          simpa using hother _ (Option.some_get hs).symm
        simp [hr, hw]

/-- Where the statements of one call lie in a history: the SELECT whose answer
it works with, its UPDATE, its refreshing SELECT. -/
structure Attempt (i : ι) (recordId : String) (t : History ι) where
  before : History ι
  old : Row
  between : History ι
  new : Row
  matched : Bool
  after : History ι
  reread : Option Row
  rest : History ι
  split : t = before ++ ⟨i, .select recordId, some old⟩ :: (between ++
    ⟨i, .update recordId new (some old.revision), matched⟩ :: (after ++
      ⟨i, .select recordId, reread⟩ :: rest))
  own_before : ∀ e ∈ before, e.who = i → ∃ id, e.act = .select id
  own_between : ∀ e ∈ between, e.who ≠ i
  own_after : ∀ e ∈ after, e.who ≠ i
  own_rest : ∀ e ∈ rest, e.who ≠ i
  next : new.revision = old.revision + 1

/-- The row read last carries the revision the call has computed. -/
def Attempt.accepted {t : History ι} (a : Attempt i recordId t) : Bool :=
  a.reread.any (·.revision == a.new.revision)

def Attempt.prepend {t : History ι} (a : Attempt i recordId t) (u : History ι)
    (hu : ∀ e ∈ u, e.who = i → ∃ id, e.act = .select id) : Attempt i recordId (u ++ t) :=
  { a with
    before := u ++ a.before
    split := by simpa using congrArg (u ++ ·) a.split
    own_before := by
      intro e he
      rcases List.mem_append.mp he with he | he
      · exact hu e he
      · exact a.own_before e he }

/-- Since a SELECT the revision has grown by the writes to the record. -/
theorem revision_since {db : Db} {before seg : History ι} {old : Row}
    (hg : ∀ e ∈ before ++ ⟨i, .select recordId, some old⟩ :: (seg ++ tail), Guarded e.act)
    (hl : Legal exec db (before ++ ⟨i, .select recordId, some old⟩ :: (seg ++ tail))) :
    ∃ row, replay exec db (before ++ ⟨i, .select recordId, some old⟩ :: seg) recordId = some row ∧
      row.revision = old.revision + writesTo recordId seg := by
  have hold : replay exec db before recordId = some old := hl.res_eq.symm
  have hseg : Legal exec (replay exec db before) seg :=
    (legal_append.mp (legal_append.mp hl).2.2).1
  have hgs : ∀ e ∈ seg, Guarded e.act := fun e he => hg e (by simp [he])
  obtain ⟨row, hrow, hrev⟩ := revision_replay hgs hseg hold
  refine ⟨row, ?_, hrev⟩
  rw [replay_append, replay_cons]
  exact hrow

variable {t : History ι} {db : Db}

theorem Attempt.matched_iff (a : Attempt i recordId t) (hg : ∀ e ∈ t, Guarded e.act)
    (hl : Legal exec db t) : a.matched = true ↔ writesTo recordId a.between = 0 := by
  rw [a.split] at hg hl
  obtain ⟨row, hrow, hrev⟩ := revision_since hg hl
  rw [append_cons_assoc] at hl
  have hm : a.matched = _ := hl.res_eq
  rw [hm, exec, hrow]
  simp only [Option.all_some, beq_iff_eq]
  constructor
  · intro h
    split at h
    · omega
    · cases h
  · intro h
    rw [if_pos (by omega)]

theorem Attempt.accepted_iff (a : Attempt i recordId t) (hg : ∀ e ∈ t, Guarded e.act)
    (hl : Legal exec db t) : a.accepted = true ↔
      writesTo recordId a.between +
        (if a.matched then 1 else 0) + writesTo recordId a.after = 1 := by
  rw [a.split] at hg hl
  rw [append_cons_assoc a.between] at hg hl
  obtain ⟨row, hrow, hrev⟩ := revision_since hg hl
  rw [append_cons_assoc a.before] at hl
  have hr : a.reread = _ := hl.res_eq
  have hnext := a.next
  rw [Attempt.accepted, hr, exec, hrow]
  simp only [Option.any_some, beq_iff_eq, hrev, hnext]
  cases a.matched <;> simp [Wrote, written] <;> omega

theorem Attempt.update_mem (a : Attempt i recordId t) :
    (⟨i, .update recordId a.new (some a.old.revision), a.matched⟩ : Event ι Stmt Stmt.Res) ∈ t := by
  cases a with
  | mk before old between new matched after reread rest split =>
    have hmem : (⟨i, .update recordId new (some old.revision), matched⟩ :
        Event ι Stmt Stmt.Res) ∈ t := by rw [split]; simp
    exact hmem

theorem Attempt.committed_iff (a : Attempt i recordId t) : Committed i t ↔ a.matched = true := by
  constructor
  · rintro ⟨e, he, hi, hw⟩
    rw [a.split] at he
    simp only [List.mem_append, List.mem_cons] at he
    rcases he with he | rfl | he | rfl | he | rfl | he
    · obtain ⟨id, hact⟩ := a.own_before e he hi
      obtain ⟨who, act, res⟩ := e
      cases hact
      cases hw
    · cases hw
    · exact absurd hi (a.own_between e he)
    · cases hm : a.matched with
      | true => rfl
      | false => simp [Wrote, written, hm] at hw
    · exact absurd hi (a.own_after e he)
    · cases hw
    · exact absurd hi (a.own_rest e he)
  · intro hm
    exact ⟨_, a.update_mem, rfl, by simp [Wrote, written, hm]⟩

/-- A call has one attempt. -/
theorem Attempt.unique (a b : Attempt i recordId t) :
    a.between = b.between ∧ a.after = b.after ∧ a.matched = b.matched ∧
      a.accepted = b.accepted := by
  let P : Event ι Stmt Stmt.Res → Prop :=
    fun e => e.who = i ∧ ∃ row r, e.act = .update recordId row r
  have hpre : ∀ (c : Attempt i recordId t), ∀ e ∈ c.before ++ ⟨i, .select recordId, some c.old⟩ ::
      c.between, ¬P e := by
    rintro c e he ⟨hi, row, r, hact⟩
    simp only [List.mem_append, List.mem_cons] at he
    rcases he with he | rfl | he
    · obtain ⟨id, hs⟩ := c.own_before e he hi
      exact absurd (hact.symm.trans hs) (by simp)
    · cases hact
    · exact c.own_between e he hi
  have hsplit := a.split.symm.trans b.split
  rw [append_cons_assoc, append_cons_assoc b.before] at hsplit
  obtain ⟨h1, h2, h3⟩ := split_first hsplit (P := P) (hpre a) (hpre b) ⟨rfl, _, _, rfl⟩
    ⟨rfl, _, _, rfl⟩
  obtain ⟨-, -, hb⟩ := split_last h1 (P := (·.who = i)) a.own_between b.own_between rfl rfl
  obtain ⟨ha, hr, -⟩ := split_first h3 (P := (·.who = i)) a.own_after b.own_after rfl rfl
  simp only [Event.mk.injEq, true_and, Stmt.update.injEq] at h2 hr
  obtain ⟨⟨hnew, -⟩, hm⟩ := h2
  refine ⟨hb, ha, eq_of_heq hm, ?_⟩
  rw [Attempt.accepted, Attempt.accepted, eq_of_heq hr, hnew]

/-- The answer to a matched UPDATE names the revision it found. -/
theorem exec_update_true {db : Db} {new : Row} {r : Int}
    (h : (exec (.update recordId new (some r)) db).1 = true) :
    ∃ old, db recordId = some old ∧ old.revision = r ∧
      (exec (.update recordId new (some r)) db).2 recordId = some new := by
  cases hdb : db recordId with
  | none => simp [exec, hdb] at h
  | some old =>
    by_cases hr : r = old.revision
    · exact ⟨old, rfl, hr.symm, by simp [exec, hdb, hr]⟩
    · simp [exec, hdb, hr] at h

/-- A revision is matched once: the next match on the record expects a greater one. -/
theorem matched_lt {p q : History ι} {new new' : Row} {j : ι} {r r' : Int}
    (hg : ∀ e ∈ p ++ ⟨i, .update recordId new (some r), true⟩ :: q, Guarded e.act)
    (hl : Legal exec db (p ++ ⟨i, .update recordId new (some r), true⟩ :: q))
    (hq : (⟨j, .update recordId new' (some r'), true⟩ : Event ι Stmt Stmt.Res) ∈ q) : r < r' := by
  obtain ⟨old, _, _, hnew⟩ := exec_update_true hl.res_eq.symm
  obtain ⟨q, q', rfl⟩ := List.append_of_mem hq
  obtain ⟨_, -, hlq⟩ := legal_append.mp hl
  have hgq : ∀ e ∈ q, Guarded e.act := fun e he => hg e (by simp [he])
  obtain ⟨row, hrow, hrev⟩ := revision_replay hgq (legal_append.mp hlq).1 hnew
  obtain ⟨old', hold', hr', -⟩ := exec_update_true hlq.res_eq.symm
  have hnext : new.revision = r + 1 := by
    obtain ⟨_, h, hnext⟩ := hg ⟨i, .update recordId new (some r), true⟩ (by simp)
    cases h
    exact hnext
  rw [hrow] at hold'
  cases hold'
  omega

/-- Of two attempts from one revision at most one is matched. -/
theorem Attempt.not_both_matched {j : ι} (a : Attempt i recordId t) (b : Attempt j recordId t)
    (hij : i ≠ j) (hold : a.old.revision = b.old.revision) (hg : ∀ e ∈ t, Guarded e.act)
    (hl : Legal exec db t) : ¬(a.matched = true ∧ b.matched = true) := by
  rintro ⟨ha, hb⟩
  have hma := a.update_mem
  have hmb := b.update_mem
  rw [ha, hold] at hma
  rw [hb] at hmb
  generalize a.new = new, b.new = new', b.old.revision = r at hma hmb
  clear hold ha hb a b
  obtain ⟨p, q, rfl⟩ := List.append_of_mem hma
  simp only [List.mem_append, List.mem_cons] at hmb
  rcases hmb with hmb | hmb | hmb
  · obtain ⟨p, p', rfl⟩ := List.append_of_mem hmb
    rw [List.append_assoc, List.cons_append] at hg hl
    exact absurd (matched_lt hg hl (List.mem_append_right _ (.head _))) (lt_irrefl _)
  · exact hij (congrArg Event.who hmb).symm
  · exact absurd (matched_lt hg hl hmb) (lt_irrefl _)

/-- Nobody wrote to the record between the call's first SELECT and its last,
or somebody wrote before its UPDATE and this was not the only write. -/
def Settled (i : ι) (recordId : String) (t : History ι) : Prop :=
  ∀ a : Attempt i recordId t,
    (writesTo recordId a.between = 0 ∧ writesTo recordId a.after = 0) ∨
      (1 ≤ writesTo recordId a.between ∧
        writesTo recordId a.between + writesTo recordId a.after ≠ 1)

theorem Attempt.resolved_iff (a : Attempt i recordId t)
    (hg : ∀ e ∈ t, Guarded e.act) (hl : Legal exec db t) :
    Settled i recordId t ↔ (a.accepted = true ↔ Committed i t) := by
  have hm := a.matched_iff hg hl
  rw [a.committed_iff, a.accepted_iff hg hl]
  constructor
  · intro h
    rcases h a with ⟨hb, ha⟩ | ⟨hb, ha⟩
    · simp [hm.mpr hb, hb, ha]
    · have hf : a.matched = false := by
        rw [← Bool.not_eq_true, hm]
        omega
      simp only [hf, Bool.false_eq_true, if_false, Nat.add_zero, ha]
  · intro h b
    obtain ⟨hb, ha, -, -⟩ := b.unique a
    rw [hb, ha]
    by_cases hz : writesTo recordId a.between = 0
    · left
      simp only [hm.mpr hz, if_true, hz, iff_true] at h
      omega
    · right
      have hf : a.matched = false := by
        rw [← Bool.not_eq_true, hm]
        exact hz
      simp only [hf, Bool.false_eq_true, if_false, Nat.add_zero, iff_false] at h
      omega

section
variable [Interpreter]

inductive UpdateCall where
  | update (recordId : String) (mutation : Value) (now : String)
  | markUnsynced (recordId : String) (now : String)

def UpdateCall.recordId : UpdateCall → String
  | .update recordId _ _ | .markUnsynced recordId _ => recordId

def UpdateCall.prog : UpdateCall → StoreProg Unit
  | .update recordId mutation now => do
    let _ ← RecordStore.update recordId mutation now
    return ()
  | .markUnsynced recordId now => RecordStore.markUnsynced recordId now

theorem update_guarded (recordId : String) (mutation : Value) (now : String) :
    (RecordStore.update recordId mutation now).Every Guarded := by
  rw [update_eq]
  refine ⟨trivial, ?_⟩
  intro row
  rcases continueUpdate_cases recordId mutation now row with ⟨e, h⟩ | ⟨old, new, _, hnew, _, h⟩
  · rw [h]
    trivial
  · rw [h]
    exact ⟨⟨old.revision, rfl, hnew⟩, fun _ => ⟨trivial, fun _ => trivial⟩⟩

theorem UpdateCall.prog_guarded (c : UpdateCall) : c.prog.Every Guarded := by
  cases c with
  | update recordId mutation now =>
    exact (update_guarded recordId mutation now).bind fun _ => trivial
  | markUnsynced recordId now =>
    refine Prog.Every.bind ?_ fun current => (update_guarded _ _ _).bind fun _ => trivial
    rw [getOrRaise_eq]
    refine ⟨trivial, ?_⟩
    intro row
    cases row <;> trivial

theorem refreshResult_isOk (recordId : String) (newRevision : Int) (row : Option Row) :
    (refreshResult recordId newRevision row).isOk = row.any (·.revision == newRevision) := by
  cases row with
  | none => rfl
  | some row =>
    by_cases h : row.revision = newRevision <;> simp [refreshResult, h, Except.isOk, Except.toBool]

/-- How a call ends: it raises before its UPDATE, or its last SELECT decides. -/
theorem update_finished {t : History ι} {x : Except Exn Unit}
    (h : Follows i (RecordStore.update recordId mutation now >>= fun _ => .done (.ok ())) t
      (.done x)) :
    (x.isOk = false ∧ ∀ e ∈ t, e.who = i → ∃ id, e.act = .select id) ∨
      ∃ a : Attempt i recordId t, x.isOk = a.accepted ∧
        expectedRevision mutation = .ok a.old.revision := by
  rw [update_eq, Prog.bind_act] at h
  obtain ⟨before, row, t, rfl, hbefore, h⟩ := h.finished
  rcases continueUpdate_cases recordId mutation now row with
    ⟨e, hc⟩ | ⟨old, new, rfl, hnew, hexp, hc⟩
  · rw [hc, Prog.bind_error] at h
    obtain ⟨hx, ht⟩ := h.of_done
    cases hx
    refine .inl ⟨rfl, ?_⟩
    intro e he hi
    simp only [List.mem_append, List.mem_cons] at he
    rcases he with he | rfl | he
    · exact absurd hi (hbefore e he)
    · exact ⟨_, rfl⟩
    · exact absurd hi (ht e he)
  · rw [hc, commitUpdate, Prog.bind_act] at h
    obtain ⟨between, matched, t, rfl, hbetween, h⟩ := h.finished
    rw [Prog.bind_act] at h
    obtain ⟨after, reread, rest, rfl, hafter, h⟩ := h.finished
    have hx : x.isOk = (refreshResult recordId new.revision reread).isOk := by
      cases hr : refreshResult recordId new.revision reread with
      | error e =>
        simp only [hr, Prog.bind_error] at h
        cases h.of_done.1
        rfl
      | ok s =>
        simp only [hr, Prog.bind_ok] at h
        cases h.of_done.1
        rfl
    have hrest : ∀ e ∈ rest, e.who ≠ i := by
      cases hr : refreshResult recordId new.revision reread <;> simp only [hr] at h
      · exact h.of_done.2
      · exact h.of_done.2
    exact .inr ⟨{ before, old, between, new, matched, after, reread, rest, split := rfl,
                  own_before := fun e he hi => absurd hi (hbefore e he),
                  own_between := hbetween, own_after := hafter, own_rest := hrest, next := hnew },
      by rw [hx, refreshResult_isOk]; rfl, hexp⟩

theorem UpdateCall.finished_cases (c : UpdateCall) {t : History ι} {x : Except Exn Unit}
    (h : Follows i c.prog t (.done x)) :
    (x.isOk = false ∧ ∀ e ∈ t, e.who = i → ∃ id, e.act = .select id) ∨
      ∃ a : Attempt i c.recordId t, x.isOk = a.accepted ∧
        ∀ mutation now, c = .update c.recordId mutation now →
          expectedRevision mutation = .ok a.old.revision := by
  cases c with
  | update recordId mutation now =>
    rcases update_finished h with h | ⟨a, hx, hexp⟩
    · exact .inl h
    · refine .inr ⟨a, hx, ?_⟩
      rintro _ _ ⟨rfl, rfl, rfl⟩
      exact hexp
  | markUnsynced recordId now =>
    have hprog : (UpdateCall.markUnsynced recordId now).prog =
      RecordStore.markUnsynced recordId now := rfl
    rw [hprog, RecordStore.markUnsynced, getOrRaise_eq, Prog.bind_act] at h
    obtain ⟨before, row, t, rfl, hbefore, h⟩ := h.finished
    have hown : ∀ e ∈ before ++ [⟨i, Stmt.select recordId, row⟩], e.who = i →
        ∃ id, e.act = Stmt.select id := by
      intro e he hi
      rcases List.mem_append.mp he with he | he
      · exact absurd hi (hbefore e he)
      · exact ⟨recordId, by rw [List.mem_singleton.mp he]⟩
    rw [List.append_cons]
    cases row with
    | none =>
      obtain ⟨hx, ht⟩ := h.of_done
      cases hx
      refine .inl ⟨rfl, ?_⟩
      intro e he hi
      rcases List.mem_append.mp he with he | he
      · exact hown e he hi
      · exact absurd hi (ht e he)
    | some row =>
      rcases update_finished h with ⟨hx, ht⟩ | ⟨a, hx, _⟩
      · refine .inl ⟨hx, ?_⟩
        intro e he hi
        rcases List.mem_append.mp he with he | he
        · exact hown e he hi
        · exact ht e he hi
      · exact .inr ⟨a.prepend _ hown, hx, by rintro _ _ ⟨⟩⟩

variable [DecidableEq ι]

def updaters (calls : ι → UpdateCall) (db : Db) : Config ι Stmt Stmt.Res Exn Unit Db :=
  { shared := db, progs := fun i => (calls i).prog }

def runUpdates (calls : ι → UpdateCall) (db : Db) (schedule : List ι) :
    Config ι Stmt Stmt.Res Exn Unit Db × History ι :=
  interleave exec (updaters calls db) schedule

theorem runUpdates_legal (calls : ι → UpdateCall) (db : Db) (schedule : List ι) :
    Legal exec db (runUpdates calls db schedule).2 :=
  (interleave_legal exec (updaters calls db) schedule).1

theorem runUpdates_follows (calls : ι → UpdateCall) (db : Db) (schedule : List ι) (i : ι) :
    Follows i (calls i).prog (runUpdates calls db schedule).2
      ((runUpdates calls db schedule).1.progs i) :=
  interleave_follows exec (updaters calls db) schedule i

theorem runUpdates_guarded (calls : ι → UpdateCall) (db : Db) (schedule : List ι) :
    ∀ e ∈ (runUpdates calls db schedule).2, Guarded e.act := by
  intro e he
  exact (runUpdates_follows calls db schedule e.who).every (calls e.who).prog_guarded e he rfl

/-- What the store promises of the calls that have ended. -/
structure LostUpdateFree (calls : ι → UpdateCall) (progs : ι → StoreProg Unit) (t : History ι) :
    Prop where
  committed : ∀ i x, progs i = .done x → (x.isOk = true ↔ Committed i t)
  exclusive : ∀ i j recordId m m' now now' revision, i ≠ j →
    calls i = .update recordId m now → calls j = .update recordId m' now' →
    expectedRevision m = .ok revision → expectedRevision m' = .ok revision →
    ¬(progs i = .done (.ok ()) ∧ progs j = .done (.ok ()))
  unchanged : ∀ i e, progs i = .done (.error e) → e.isInstance "RecordStoreConflictError" →
    ¬Committed i t

theorem committed_of_settled {calls : ι → UpdateCall} {db : Db} {schedule : List ι} {i : ι}
    {x : Except Exn Unit} (hx : (runUpdates calls db schedule).1.progs i = .done x)
    (h : Settled i (calls i).recordId (runUpdates calls db schedule).2) :
    x.isOk = true ↔ Committed i (runUpdates calls db schedule).2 := by
  have hf := runUpdates_follows calls db schedule i
  rw [hx] at hf
  rcases (calls i).finished_cases hf with ⟨hx, ht⟩ | ⟨a, hx, -⟩
  · rw [hx]
    refine ⟨fun h => absurd h (by simp), ?_⟩
    rintro ⟨⟨who, act, res⟩, he, hi, hw⟩
    obtain ⟨id, hact⟩ := ht _ he hi
    cases hact
    cases hw
  · rw [hx]
    exact (a.resolved_iff (runUpdates_guarded calls db schedule)
      (runUpdates_legal calls db schedule)).mp h

theorem not_both_return {calls : ι → UpdateCall} {db : Db} {schedule : List ι} {i j : ι}
    (hi : calls i = .update recordId m now) (hj : calls j = .update recordId m' now')
    (hij : i ≠ j) (hm : expectedRevision m = .ok r) (hm' : expectedRevision m' = .ok r)
    (hsi : Settled i recordId (runUpdates calls db schedule).2)
    (hsj : Settled j recordId (runUpdates calls db schedule).2) :
    ¬((runUpdates calls db schedule).1.progs i = .done (.ok ()) ∧
      (runUpdates calls db schedule).1.progs j = .done (.ok ())) := by
  have hg := runUpdates_guarded calls db schedule
  have hl := runUpdates_legal calls db schedule
  have hattempt : ∀ k m, calls k = .update recordId m now ∨ calls k = .update recordId m now' →
      expectedRevision m = .ok r → Settled k recordId (runUpdates calls db schedule).2 →
      (runUpdates calls db schedule).1.progs k = .done (.ok ()) →
      ∃ a : Attempt k recordId (runUpdates calls db schedule).2,
        a.matched = true ∧ a.old.revision = r := by
    intro k m hk hm hs hx
    have hrec : (calls k).recordId = recordId := by rcases hk with hk | hk <;> rw [hk] <;> rfl
    have hf := runUpdates_follows calls db schedule k
    rw [hx] at hf
    rcases (calls k).finished_cases hf with ⟨hx, _⟩ | hattempt
    · cases hx
    · rw [hrec] at hattempt
      obtain ⟨a, ha, hexp⟩ := hattempt
      have hr : expectedRevision m = .ok a.old.revision := by
        rcases hk with hk | hk <;> exact hexp _ _ hk
      refine ⟨a, ?_, Except.ok.inj (hr.symm.trans hm)⟩
      exact a.committed_iff.mp (((a.resolved_iff hg hl).mp hs).mp (ha ▸ rfl))
  rintro ⟨hxi, hxj⟩
  obtain ⟨a, ha, hra⟩ := hattempt i m (.inl hi) hm hsi hxi
  obtain ⟨b, hb, hrb⟩ := hattempt j m' (.inr hj) hm' hsj hxj
  exact a.not_both_matched b hij (hra.trans hrb.symm) hg hl ⟨ha, hb⟩

/-- The store loses no update and reports none wrongly exactly in the runs in
which every call that has ended is settled. -/
theorem lostUpdateFree_iff (calls : ι → UpdateCall) (db : Db) (schedule : List ι) :
    LostUpdateFree calls (runUpdates calls db schedule).1.progs (runUpdates calls db schedule).2 ↔
      ∀ i x, (runUpdates calls db schedule).1.progs i = .done x →
        Settled i (calls i).recordId (runUpdates calls db schedule).2 := by
  constructor
  · intro h i x hx
    have hf := runUpdates_follows calls db schedule i
    rw [hx] at hf
    intro a
    rcases (calls i).finished_cases hf with ⟨-, ht⟩ | ⟨b, hb, -⟩
    · obtain ⟨_, hact⟩ := ht _ a.update_mem rfl
      cases hact
    · exact (b.resolved_iff (runUpdates_guarded calls db schedule)
        (runUpdates_legal calls db schedule)).mpr (hb ▸ h.committed i x hx) a
  · intro h
    refine ⟨fun i x hx => committed_of_settled hx (h i x hx), ?_, ?_⟩
    · intro i j recordId m m' now now' r hij hi hj hm hm' hx
      have hri : (calls i).recordId = recordId := by rw [hi]; rfl
      have hrj : (calls j).recordId = recordId := by rw [hj]; rfl
      exact not_both_return hi hj hij hm hm' (hri ▸ h i _ hx.1) (hrj ▸ h j _ hx.2) hx
    · intro i e hx _ hc
      exact absurd ((committed_of_settled hx (h i _ hx)).mpr hc)
        (by simp [Except.isOk, Except.toBool])

end

section
attribute [local instance] Interpreter.ascii

/-- Two clients that each set a key of one record, both from revision 0. -/
def setA : UpdateCall :=
  .update "r" (.dict [("expected_revision", .int 0), ("payload", .dict [("a", .int 1)])]) "t1"

def setB : UpdateCall :=
  .update "r" (.dict [("expected_revision", .int 0), ("payload", .dict [("b", .int 2)])]) "t2"

def oneRecord (revision : Int) : Db :=
  Function.update (fun _ => none) "r" (some { revision, payload := Dict.empty, updatedAt := "t0" })

/-- Both read, both write, both read back: the second writer's row did not
match, and both are told that it did. -/
theorem lostUpdate : ¬LostUpdateFree (fun b => if b then setA else setB)
    (runUpdates (fun b => if b then setA else setB) (oneRecord 0)
      [true, false, true, false, true, false]).1.progs
    (runUpdates (fun b => if b then setA else setB) (oneRecord 0)
      [true, false, true, false, true, false]).2 := by
  intro h
  exact h.exclusive true false "r" _ _ _ _ 0 (by simp) rfl rfl rfl rfl ⟨rfl, rfl⟩

end

end DpostV2.RecordStore
