import DpostV2.Storage.Races

/-!
# Revisions over every write

The four writing calls together. `create` writes where nothing is stored, and
an optimistic UPDATE stores one more than the row it matches. Only the UPDATE
of `save` carries no guard: between its SELECT and its UPDATE another writer
may store a revision as great as the incoming one. `monotonic_iff` says that
nothing else lowers or repeats a revision.
-/

namespace DpostV2.RecordStore

variable {ι : Type} {i : ι} {db : Db} {t : History ι}

/-- Each write to a record stores a greater revision than the one it replaces. -/
def Monotonic (db : Db) (t : History ι) : Prop :=
  ∀ p e q, t = p ++ e :: q → ∀ recordId row old, Wrote e = some (recordId, row) →
    replay exec db p recordId = some old → old.revision < row.revision

theorem Monotonic.of_append {p q : History ι} (h : Monotonic db (p ++ q)) :
    Monotonic (replay exec db p) q := by
  rintro r e s rfl recordId row old hw hold
  refine h (p ++ r) e s (by simp) recordId row old hw ?_
  rw [replay_append]
  exact hold

theorem Monotonic.of_prefix {p q : History ι} (h : Monotonic db (p ++ q)) : Monotonic db p := by
  rintro r e s rfl
  exact h r e (s ++ q) (by simp)

-- ---------------------------------------------------------------------------
-- One record through a history
-- ---------------------------------------------------------------------------

theorem exec_record (s : Stmt) (db : Db) (recordId : String) :
    (∃ row, written s (exec s db).1 = some (recordId, row) ∧ (exec s db).2 recordId = some row) ∨
      (exec s db).2 recordId = db recordId := by
  cases hw : written s (exec s db).1 with
  | none => exact .inr (exec_frame (by simp [hw]))
  | some p =>
    obtain ⟨id, row⟩ := p
    by_cases hid : id = recordId
    · subst hid
      refine .inl ⟨row, rfl, ?_⟩
      rw [exec_db, hw]
      exact Function.update_self ..
    · refine .inr (exec_frame ?_)
      rintro p hp
      cases hw.symm.trans hp
      exact hid

/-- What holds of a stored row and of every row written since holds of the row stored now. -/
theorem replay_invariant {P : Row → Prop} {old : Row} (hl : Legal exec db t)
    (hold : db recordId = some old) (hP : P old)
    (hw : ∀ e ∈ t, ∀ row, Wrote e = some (recordId, row) → P row) :
    ∃ row, replay exec db t recordId = some row ∧ P row := by
  induction t generalizing db old with
  | nil => exact ⟨old, hold, hP⟩
  | cons e t ih =>
    obtain ⟨who, act, res⟩ := e
    obtain ⟨hres, hl⟩ := hl
    have hwt : ∀ e ∈ t, ∀ row, Wrote e = some (recordId, row) → P row :=
      fun e he => hw e (List.mem_cons_of_mem _ he)
    simp only at hres
    subst hres
    rcases exec_record act db recordId with ⟨row, hrow, hdb⟩ | hdb
    · exact ih hl hdb (hw _ (.head _) row hrow) hwt
    · exact ih hl (hdb.trans hold) hP hwt

/-- In a monotonic history a stored revision only grows. -/
theorem Monotonic.stored_le {old : Row} (hm : Monotonic db t) (hl : Legal exec db t)
    (hold : db recordId = some old) :
    ∃ row, replay exec db t recordId = some row ∧ old.revision ≤ row.revision := by
  induction t generalizing db old with
  | nil => exact ⟨old, hold, le_refl _⟩
  | cons e t ih =>
    obtain ⟨who, act, res⟩ := e
    obtain ⟨hres, hl⟩ := hl
    simp only at hres
    subst hres
    have hmt : Monotonic (exec act db).2 t := hm.of_append (p := [⟨who, act, (exec act db).1⟩])
    rcases exec_record act db recordId with ⟨row, hrow, hdb⟩ | hdb
    · have hlt : old.revision < row.revision := hm [] _ t rfl recordId row old hrow hold
      obtain ⟨row', h, hle⟩ := ih hmt hl hdb
      exact ⟨row', h, by omega⟩
    · exact ih hmt hl (hdb.trans hold)

theorem Monotonic.written_le {p q : History ι} {e : Event ι Stmt Stmt.Res} {row : Row}
    (hm : Monotonic db (p ++ e :: q)) (hl : Legal exec db (p ++ e :: q))
    (hw : Wrote e = some (recordId, row)) :
    ∃ new, replay exec db (p ++ e :: q) recordId = some new ∧ row.revision ≤ new.revision := by
  obtain ⟨who, act, res⟩ := e
  obtain ⟨-, hres, hlq⟩ := legal_append.mp hl
  simp only at hres
  subst hres
  have hmq : Monotonic (replay exec db p) _ := hm.of_append
  have hmq : Monotonic (exec act (replay exec db p)).2 q :=
    hmq.of_append (p := [⟨who, act, (exec act (replay exec db p)).1⟩])
  rw [replay_append, replay_cons]
  refine hmq.stored_le hlq ?_
  rw [exec_db, show written act _ = some (recordId, row) from hw]
  exact Function.update_self ..

-- ---------------------------------------------------------------------------
-- Statements whose guard is enough
-- ---------------------------------------------------------------------------

/-- An UPDATE that names the revision below the one it stores, or no UPDATE. -/
def Checked : Stmt → Prop
  | .select _ | .insert .. => True
  | .update _ row expected => ∃ r, expected = some r ∧ row.revision = r + 1

theorem Guarded.checked {s : Stmt} (h : Guarded s) : Checked s := by
  cases s with
  | select => trivial
  | insert => trivial
  | update => exact h

theorem Checked.increases {s : Stmt} {old : Row} (hc : Checked s)
    (hw : written s (exec s db).1 = some (recordId, row)) (hold : db recordId = some old) :
    old.revision < row.revision := by
  cases s with
  | select => cases hw
  | insert id new =>
    cases hx : (exec (.insert id new) db).1 with
    | false => simp [written, hx] at hw
    | true =>
      simp only [written, hx, if_true, Option.some.injEq, Prod.mk.injEq] at hw
      obtain ⟨rfl, rfl⟩ := hw
      simp [exec, hold] at hx
  | update id new expected =>
    obtain ⟨r, rfl, hnext⟩ := hc
    cases hx : (exec (.update id new (some r)) db).1 with
    | false => simp [written, hx] at hw
    | true =>
      obtain ⟨row', hrow', hr, _⟩ := exec_update_true hx
      simp only [written, hx, if_true, Option.some.injEq, Prod.mk.injEq] at hw
      obtain ⟨rfl, rfl⟩ := hw
      cases hold.symm.trans hrow'
      omega

-- ---------------------------------------------------------------------------
-- The UPDATE of save
-- ---------------------------------------------------------------------------

/-- Where the SELECT and the UPDATE of a `save` lie in a history. -/
structure SaveAttempt (i : ι) (t : History ι) where
  before : History ι
  recordId : String
  existing : Row
  between : History ι
  row : Row
  matched : Bool
  rest : History ι
  split : t = before ++ ⟨i, .select recordId, some existing⟩ :: (between ++
    ⟨i, .update recordId row none, matched⟩ :: rest)
  own_between : ∀ e ∈ between, e.who ≠ i
  greater : existing.revision < row.revision

/-- No write that falls between the SELECT and the UPDATE of a `save` stores
a revision as great as the incoming one. -/
def Unovertaken (i : ι) (t : History ι) : Prop :=
  ∀ a : SaveAttempt i t, ∀ e ∈ a.between, ∀ row, Wrote e = some (a.recordId, row) →
    row.revision < a.row.revision

theorem SaveAttempt.stored (a : SaveAttempt i t) (hl : Legal exec db t) :
    replay exec db (a.before ++ [⟨i, .select a.recordId, some a.existing⟩]) a.recordId =
        some a.existing ∧
      Legal exec (replay exec db (a.before ++ [⟨i, .select a.recordId, some a.existing⟩]))
        a.between := by
  rw [a.split] at hl
  have hold : replay exec db a.before a.recordId = some a.existing := hl.res_eq.symm
  rw [replay_append]
  exact ⟨hold, (legal_append.mp (legal_append.mp hl).2.2).1⟩

/-- The moment before the UPDATE of a `save`. -/
def SaveAttempt.upTo (a : SaveAttempt i t) : History ι :=
  (a.before ++ [⟨i, .select a.recordId, some a.existing⟩]) ++ a.between

theorem SaveAttempt.split_upTo (a : SaveAttempt i t) :
    t = a.upTo ++ ⟨i, .update a.recordId a.row none, a.matched⟩ :: a.rest := by
  simpa [SaveAttempt.upTo] using a.split

/-- An UPDATE without a guard writes whatever is stored. -/
theorem SaveAttempt.overwrites (a : SaveAttempt i t) (hl : Legal exec db t)
    (hstored : replay exec db a.upTo a.recordId = some old) : a.matched = true := by
  have hsplit := a.split_upTo
  rw [hsplit] at hl
  have hm : a.matched = _ := hl.res_eq
  rw [hm, exec, hstored]
  rfl

theorem SaveAttempt.unovertaken_of_monotonic (a : SaveAttempt i t) (hl : Legal exec db t)
    (hm : Monotonic db t) : ∀ e ∈ a.between, ∀ row, Wrote e = some (a.recordId, row) →
      row.revision < a.row.revision := by
  intro e he row hw
  obtain ⟨p, q, hpq⟩ := List.append_of_mem he
  have hup : a.upTo = (a.before ++ [⟨i, .select a.recordId, some a.existing⟩] ++ p) ++ e :: q := by
    simp [SaveAttempt.upTo, hpq]
  have hsplit := a.split_upTo
  rw [hsplit] at hl hm
  obtain ⟨new, hnew, hle⟩ : ∃ new, replay exec db a.upTo a.recordId = some new ∧
      row.revision ≤ new.revision := by
    have hlu : Legal exec db a.upTo := (legal_append.mp hl).1
    have hmu : Monotonic db a.upTo := hm.of_prefix
    rw [hup] at hlu hmu ⊢
    exact hmu.written_le hlu hw
  have hmatch := a.overwrites (hsplit ▸ hl) hnew
  have hlt : new.revision < a.row.revision :=
    hm _ _ _ rfl a.recordId a.row new (by simp [Wrote, written, hmatch]) hnew
  omega

/-- Unovertaken, the UPDATE of a `save` finds a smaller revision than its own. -/
theorem SaveAttempt.stored_lt (a : SaveAttempt i t) (hl : Legal exec db t)
    (hu : ∀ e ∈ a.between, ∀ row, Wrote e = some (a.recordId, row) →
      row.revision < a.row.revision) :
    ∃ old, replay exec db a.upTo a.recordId = some old ∧ old.revision < a.row.revision := by
  obtain ⟨hold, hlb⟩ := a.stored hl
  rw [SaveAttempt.upTo, replay_append]
  exact replay_invariant (P := (·.revision < a.row.revision)) hlb hold a.greater hu

section
variable [Interpreter]

inductive StoreCall where
  | create (record : Value) (now : String)
  | save (record : Value) (now : String)
  | optimistic (call : UpdateCall)

def StoreCall.prog : StoreCall → StoreProg Unit
  | .create record now => do
    let _ ← RecordStore.create record now
    return ()
  | .save record now => do
    let _ ← RecordStore.save record now
    return ()
  | .optimistic call => call.prog

theorem getOrRaise_checked (recordId : String) : (getOrRaise recordId).Every Checked := by
  rw [getOrRaise_eq]
  refine ⟨trivial, ?_⟩
  intro row
  cases row <;> trivial

theorem create_checked (record : Value) (now : String) : (create record now).Every Checked := by
  refine Prog.Every.bind trivial fun n => Prog.Every.bind trivial fun payload => ?_
  refine ⟨trivial, ?_⟩
  intro inserted
  cases inserted with
  | false => trivial
  | true => exact getOrRaise_checked n.recordId

/-- What `save` does with the row it has read. -/
def continueSave (n : Normalized) (now : String) : Option Row → StoreProg Snapshot
  | none => create n.toValue now
  | some existing =>
    if n.revision ≤ existing.revision then
      .done (.error (conflict "incoming revision must be greater than stored revision"))
    else match n.payload.dumps with
      | .error e => .done (.error e)
      | .ok payload =>
        .act (.update n.recordId { revision := n.revision, payload, updatedAt := now } none)
          fun _ => getOrRaise n.recordId

theorem save_eq (record : Value) (now : String) : save record now =
    match normalizeRecordInput record with
    | .error e => .done (.error e)
    | .ok n => .act (.select n.recordId) (continueSave n now) := by
  simp only [save, Prog.lift]
  cases normalizeRecordInput record with
  | error e => rfl
  | ok n =>
    simp only [Prog.bind_ok, get, Prog.perform_bind, Prog.pure_eq, Prog.bind_act]
    congr 1
    funext row
    cases row with
    | none => rfl
    | some existing =>
      simp only [Option.map_some, rowToSnapshot, continueSave]
      split
      · rfl
      · cases n.payload.dumps <;> rfl

theorem continueSave_cases (n : Normalized) (now : String) (row : Option Row) :
    (continueSave n now row).Every Checked ∨
      ∃ existing new, row = some existing ∧ existing.revision < new.revision ∧
        continueSave n now row =
          .act (.update n.recordId new none) fun _ => getOrRaise n.recordId := by
  cases row with
  | none => exact .inl (create_checked _ _)
  | some existing =>
    simp only [continueSave]
    split
    · exact .inl trivial
    · rename_i hgt
      cases n.payload.dumps with
      | error e => exact .inl trivial
      | ok payload =>
        exact .inr ⟨existing, { revision := n.revision, payload, updatedAt := now }, rfl,
          Int.not_le.mp hgt, rfl⟩

/-- An own statement of a `save` carries a guard, or is the UPDATE of its attempt. -/
theorem save_event {p q : History ι} {e : Event ι Stmt Stmt.Res}
    (h : Follows i (save record now >>= fun _ => .done (.ok ())) (p ++ e :: q) rest)
    (hi : e.who = i) :
    Checked e.act ∨ ∃ a : SaveAttempt i (p ++ e :: q),
      p = a.upTo ∧ e = ⟨i, .update a.recordId a.row none, a.matched⟩ := by
  have hmem : e ∈ p ++ e :: q := by simp
  rw [save_eq] at h
  cases hn : normalizeRecordInput record with
  | error err =>
    simp only [hn, Prog.bind_error] at h
    exact absurd hi (h.of_done.2 e hmem)
  | ok n =>
    simp only [hn, Prog.bind_act] at h
    rcases h.of_act with ⟨-, hnone⟩ | ⟨before, r, post, hsplit, hbefore, h⟩
    · exact absurd hi (hnone e hmem)
    rcases continueSave_cases n now r with hc | ⟨existing, new, rfl, hgt, hc⟩
    · left
      rw [hsplit] at hmem
      simp only [List.mem_append, List.mem_cons] at hmem
      rcases hmem with hm | rfl | hm
      · exact absurd hi (hbefore e hm)
      · trivial
      · exact h.every (hc.bind fun _ => trivial) e hm hi
    · rw [hc, Prog.bind_act] at h
      rcases h.of_act with ⟨-, hnone⟩ | ⟨between, matched, tail, rfl, hbetween, h⟩
      · left
        rw [hsplit] at hmem
        simp only [List.mem_append, List.mem_cons] at hmem
        rcases hmem with hm | rfl | hm
        · exact absurd hi (hbefore e hm)
        · trivial
        · exact absurd hi (hnone e hm)
      · by_cases hce : Checked e.act
        · exact .inl hce
        right
        let a : SaveAttempt i (p ++ e :: q) :=
          { before, recordId := n.recordId, existing, between, row := new, matched, rest := tail,
            split := hsplit, own_between := hbetween, greater := hgt }
        have hup : ∀ x ∈ a.upTo, ¬(x.who = i ∧ ¬Checked x.act) := by
          rintro x hx ⟨hxi, hxc⟩
          simp only [SaveAttempt.upTo, List.mem_append, List.mem_singleton] at hx
          rcases hx with (hx | rfl) | hx
          · exact hbefore x hx hxi
          · exact hxc trivial
          · exact hbetween x hx hxi
        have hrest : ∀ x ∈ tail, ¬(x.who = i ∧ ¬Checked x.act) := by
          rintro x hx ⟨hxi, hxc⟩
          exact hxc (h.every ((getOrRaise_checked _).bind fun _ => trivial) x hx hxi)
        obtain ⟨h1, h2, -⟩ := split_unique (P := fun x => x.who = i ∧ ¬Checked x.act)
          a.split_upTo.symm hup hrest ⟨hi, hce⟩
        exact ⟨a, h1.symm, h2.symm⟩

theorem StoreCall.event_cases (c : StoreCall) {p q : History ι} {e : Event ι Stmt Stmt.Res}
    (h : Follows i c.prog (p ++ e :: q) rest) (hi : e.who = i) :
    Checked e.act ∨ ∃ a : SaveAttempt i (p ++ e :: q),
      p = a.upTo ∧ e = ⟨i, .update a.recordId a.row none, a.matched⟩ := by
  cases c with
  | create record now =>
    have hc : (StoreCall.create record now).prog.Every Checked :=
      (create_checked record now).bind fun _ => trivial
    exact .inl (h.every hc e (by simp) hi)
  | save record now => exact save_event h hi
  | optimistic call => exact .inl (h.every call.prog_guarded e (by simp) hi).checked

variable [DecidableEq ι]

def callers (calls : ι → StoreCall) (db : Db) : Config ι Stmt Stmt.Res Exn Unit Db :=
  { shared := db, progs := fun i => (calls i).prog }

def runCalls (calls : ι → StoreCall) (db : Db) (schedule : List ι) :
    Config ι Stmt Stmt.Res Exn Unit Db × History ι :=
  interleave exec (callers calls db) schedule

/-- Revisions only grow, exactly in the runs in which no `save` is overtaken
between its SELECT and its UPDATE. -/
theorem monotonic_iff (calls : ι → StoreCall) (db : Db) (schedule : List ι) :
    Monotonic db (runCalls calls db schedule).2 ↔
      ∀ i, Unovertaken i (runCalls calls db schedule).2 := by
  have hl : Legal exec db (runCalls calls db schedule).2 :=
    (interleave_legal exec (callers calls db) schedule).1
  have hf : ∀ i, Follows i (calls i).prog (runCalls calls db schedule).2 _ :=
    fun i => interleave_follows exec (callers calls db) schedule i
  generalize (runCalls calls db schedule).2 = t at hl hf ⊢
  constructor
  · intro hm i a
    exact a.unovertaken_of_monotonic hl hm
  · rintro hu p e q rfl recordId row old hw hold
    rcases (calls e.who).event_cases (hf e.who) rfl with hc | ⟨a, hp, he⟩
    · obtain ⟨who, act, res⟩ := e
      obtain ⟨-, hres, -⟩ := legal_append.mp hl
      simp only at hres
      subst hres
      exact hc.increases hw hold
    · obtain ⟨old', hold', hlt⟩ := a.stored_lt hl (hu e.who a)
      have hwritten : written (.update a.recordId a.row none) a.matched = some (recordId, row) := by
        rw [he] at hw
        exact hw
      cases written_update hwritten
      rw [← hp] at hold'
      cases hold.symm.trans hold'
      exact hlt

end

section
attribute [local instance] Interpreter.ascii

def saveRevision (revision : Int) : StoreCall :=
  .save (.dict [("record_id", .str "r"), ("revision", .int revision), ("payload", .dict [])]) "t1"

def overtaken : History Bool :=
  (runCalls (fun b => if b then saveRevision 10 else saveRevision 5) (oneRecord 0)
    [false, true, true, false]).2

/-- Revision 10 is stored between the SELECT and the UPDATE of a `save` of revision 5. -/
theorem revisionLowered : ¬Monotonic (oneRecord 0) overtaken := by
  intro h
  have hlt : (10 : Int) < 5 :=
    h (overtaken.take 3)
      ⟨false, .update "r" { revision := 5, payload := Dict.empty, updatedAt := "t1" } none, true⟩ []
      rfl "r" _ { revision := 10, payload := Dict.empty, updatedAt := "t1" } rfl rfl
  exact absurd hlt (by decide)

end

end DpostV2.RecordStore
