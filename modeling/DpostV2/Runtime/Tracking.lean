import DpostV2.Runtime.Engine

/-!
# Revisions in one process

The map of revisions and the store move together: `Known` holds through any
ingestion whatever earlier processes have stored, and a process that has
stored everything itself is `Owned`. From there no revision conflict is
possible (`records_tracked`).
-/

namespace DpostV2.Runtime

open DpostV2.Ingestion

-- ---------------------------------------------------------------------------
-- What each call does to the records
-- ---------------------------------------------------------------------------

section
variable [Interpreter] {D : Type} (env : Environment D) (settings : RuntimeSettings)

/-- A call that neither stores, keeps the books nor synchronizes leaves the records. -/
theorem exec_records {c : Call} (hc : c.quiet = true ∨ c.isMove = true) (w : RuntimeWorld D) :
    (runtimeExec env settings c w).2.records = w.records := by
  cases c with
  | fsFacts path => exact readRuntimeFileFacts_records env _ w
  | moveFile source target => exact moveFile_records settings source target w
  | saveRecord | updateBookkeeping | triggerSync => rcases hc with h | h <;> cases h
  | _ => rfl

theorem after_records {t : List CallStep} (ht : ∀ e ∈ t, e.1.quiet = true ∨ e.1.isMove = true)
    (w : RuntimeWorld D) : (Prog.after (runtimeExec env settings) w t).records = w.records := by
  induction t generalizing w with
  | nil => rfl
  | cons e t ih =>
    rw [Prog.after_cons, ih (fun e he => ht e (List.mem_cons_of_mem _ he)),
      exec_records env settings (ht e (by simp))]

theorem quiet_records {t : List CallStep} (ht : Quiet t) (w : RuntimeWorld D) :
    (Prog.after (runtimeExec env settings) w t).records = w.records :=
  after_records env settings (fun e he => .inl (ht e he)) w

theorem movesDone_records {t : List CallStep} (ht : MovesDone plan t) (w : RuntimeWorld D) :
    (Prog.after (runtimeExec env settings) w t).records = w.records := by
  refine after_records env settings ?_ w
  induction ht with
  | nil => simp
  | cons _ _ ih => exact List.forall_mem_cons.mpr ⟨.inr rfl, ih⟩

/-- A sync marks the record it was for, or leaves the records; it fails where it has marked. -/
theorem triggerSync_records (state : IngestionState) (w : RuntimeWorld D) :
    (((triggerSync env state).run w).2.records = w.records ∧
        (¬Failed ((triggerSync env state).run w).1 ∨ state.recordId.all blank = true)) ∨
      ∃ recordId now, state.recordId = some recordId ∧ ((triggerSync env state).run w).2.records =
        ((markRuntimeRecordUnsynced now recordId).run w.records).2 := by
  unfold triggerSync
  cases state.recordId with
  | none => exact .inl ⟨rfl, .inr rfl⟩
  | some recordId =>
    simp only
    split
    · rename_i hb
      exact .inl ⟨rfl, .inr hb⟩
    · simp only [Eff.run_bind, Eff.run_get, Eff.run_attempt, run_ask]
      split
      · refine .inr ⟨recordId, env.updatedAt (env.syncRecord state w.records.store w.toOutside).2,
          rfl, ?_⟩
        simp only [Eff.run_bind, run_withRecords, markRuntimeRecordUnsynced_ok]
        rfl
      · split
        · refine .inl ⟨rfl, .inl ?_⟩
          simp [Failed, successResult, CallResult.success]
        · refine .inr ⟨recordId,
            env.updatedAt (env.syncRecord state w.records.store w.toOutside).2, rfl,
          ?_⟩
          simp only [Eff.run_bind, run_withRecords, markRuntimeRecordUnsynced_ok]
          rfl

/-- The sync port raises, or answers with a status that is none of success. -/
def SyncPortFails (state : IngestionState) (w : RuntimeWorld D) : Prop :=
  ∀ response, (env.syncRecord state w.records.store w.toOutside).1 = .ok response →
    Interpreter.lower response.status ∉ syncStatuses

theorem triggerSync_failed_iff {state : IngestionState} {w : RuntimeWorld D} {recordId : String}
    (hid : state.recordId = some recordId) (hb : blank recordId = false) :
    Failed ((triggerSync env state).run w).1 ↔ SyncPortFails env state w := by
  unfold triggerSync SyncPortFails
  simp only [hid, hb, Bool.false_eq_true, if_false, Eff.run_bind, Eff.run_get, Eff.run_attempt,
    run_ask]
  cases (env.syncRecord state w.records.store w.toOutside).1 with
  | error exc =>
    simp [Eff.run_bind, run_withRecords, markRuntimeRecordUnsynced_ok, Failed, syncFailed,
      CallResult.success]
  | ok response =>
    by_cases hstatus : Interpreter.lower response.status ∈ syncStatuses
    · simp [hstatus, Failed, successResult, CallResult.success]
    · simp [hstatus, Eff.run_bind, run_withRecords, markRuntimeRecordUnsynced_ok, Failed,
        syncFailed, CallResult.success]

-- ---------------------------------------------------------------------------
-- What holds of the records throughout
-- ---------------------------------------------------------------------------

/-- Whatever call it is, the records are as they were, or one row is stored and noted. -/
theorem exec_put {c : Call} (hp : ∀ payload, c = .saveRecord payload → FromPersist payload)
    {w : RuntimeWorld D} (hk : Known w.records) :
    (runtimeExec env settings c w).2.records = w.records ∨ ∃ recordId row,
      0 ≤ row.revision ∧ row.payload.IsJson ∧
        (runtimeExec env settings c w).2.records = w.records.put recordId row := by
  cases c with
  | saveRecord payload =>
    have hf := hp payload rfl
    have hrec : (runtimeExec env settings (.saveRecord payload) w).2.records =
        ((saveRecord (env.updatedAt w.toOutside) payload).run w.records).2 := rfl
    rw [hrec]
    by_cases hs : Savable w.records (resolveRuntimeRecordId payload)
    · obtain ⟨stored, hstored, hrun⟩ := saveRecord_run hk hf hs (env.updatedAt w.toOutside)
      rw [hrun]
      exact .inr ⟨_, _, nextRevision_nonneg hk _, savedPayload_isJson hstored, rfl⟩
    · obtain ⟨exc, hrun⟩ := saveRecord_run_refused hk hf hs (env.updatedAt w.toOutside)
      rw [hrun]
      exact .inl rfl
  | updateBookkeeping recordId candidate =>
    have hrec : (runtimeExec env settings (.updateBookkeeping recordId candidate) w).2.records =
        ((updateBookkeeping (env.updatedAt w.toOutside) recordId candidate).run w.records).2 := rfl
    rw [hrec]
    obtain ⟨result, -, hrun⟩ :=
      updateBookkeeping_run hk (env.updatedAt w.toOutside) recordId candidate
    rw [hrun]
    simp only
    split
    · rename_i row _ hrow
      obtain ⟨hrev, hj⟩ := hk.stored recordId row hrow
      exact .inr ⟨_, _, by simp only; omega, hj.update (bookkeepingPatch_isJson candidate), rfl⟩
    · exact .inl rfl
  | triggerSync state =>
    have hrec : (runtimeExec env settings (.triggerSync state) w).2.records =
        ((triggerSync env state).run w).2.records := rfl
    rw [hrec]
    rcases triggerSync_records env state w with ⟨h, -⟩ | ⟨recordId, now, -, h⟩
    · exact .inl h
    · rw [h]
      rcases markRuntimeRecordUnsynced_run hk now recordId with
        ⟨-, hrun⟩ | ⟨row, payload, hrow, hj, -, hrun⟩
      · rw [hrun]
        exact .inl rfl
      · rw [hrun]
        have hrev := (hk.stored recordId row hrow).1
        exact .inr ⟨_, _, by simp only; omega, hj, rfl⟩
  | moveFile source target => exact .inl (exec_records env settings (.inr rfl) w)
  | _ => exact .inl (exec_records env settings (.inl rfl) w)

/-- A call a persist stage may make. -/
def Expected (c : Call) : Prop := ∀ payload, c = .saveRecord payload → FromPersist payload

theorem exec_known {c : Call} {w : RuntimeWorld D} (hc : Expected c) (hk : Known w.records) :
    Known (runtimeExec env settings c w).2.records := by
  rcases exec_put env settings hc hk with h | ⟨recordId, row, hrev, hj, h⟩
  · rw [h]
    exact hk
  · rw [h]
    exact hk.put hrev hj

theorem exec_owned {c : Call} {w : RuntimeWorld D} (hc : Expected c) (hk : Known w.records)
    (ho : Owned w.records) : Owned (runtimeExec env settings c w).2.records := by
  rcases exec_put env settings hc hk with h | ⟨recordId, row, -, -, h⟩
  · rw [h]
    exact ho
  · rw [h]
    exact ho.put recordId row

-- ---------------------------------------------------------------------------
-- Turns
-- ---------------------------------------------------------------------------

section
variable (turn : Turn D) (w : RuntimeWorld D)

theorem Turn.expected : ∀ e ∈ turn.trace env settings w, Expected e.1 := by
  have hrun := turn.ingestionRun env settings w
  rintro ⟨c, r⟩ he payload rfl
  exact hrun.fromPersist he

variable {turn w}

/-- At every point of an ingestion the records are known. -/
theorem Turn.known_at (ht : turn.trace env settings w = t ++ u) (hk : Known w.records) :
    Known (Prog.after (runtimeExec env settings) (turn.begin w) t).records :=
  Prog.after_invariant (I := fun w : RuntimeWorld D => Known w.records) (P := Expected)
    (fun _ _ hc hk => exec_known env settings hc hk)
    (fun e he => turn.expected env settings w e (ht ▸ List.mem_append_left _ he)) hk

theorem Turn.owned_at (ht : turn.trace env settings w = t ++ u) (hk : Known w.records)
    (ho : Owned w.records) :
      Known (Prog.after (runtimeExec env settings) (turn.begin w) t).records ∧
      Owned (Prog.after (runtimeExec env settings) (turn.begin w) t).records :=
  Prog.after_invariant (I := fun w : RuntimeWorld D => Known w.records ∧ Owned w.records)
    (P := Expected)
    (fun _ _ hc h => ⟨exec_known env settings hc h.1, exec_owned env settings hc h.1 h.2⟩)
    (fun e he => turn.expected env settings w e (ht ▸ List.mem_append_left _ he)) ⟨hk, ho⟩

theorem Turn.run_known (hk : Known w.records) : Known (turn.run env settings w).records := by
  rw [turn.run_eq]
  exact turn.known_at env settings (List.append_nil _).symm hk

theorem Turn.run_owned (hk : Known w.records) (ho : Owned w.records) :
    Owned (turn.run env settings w).records := by
  rw [turn.run_eq]
  exact (turn.owned_at env settings (List.append_nil _).symm hk ho).2

end

-- ---------------------------------------------------------------------------
-- A process that stores everything itself
-- ---------------------------------------------------------------------------

/-- A save or an update of the books that did not succeed. -/
def Refused : CallStep → Prop
  | ⟨.saveRecord _, r⟩ | ⟨.updateBookkeeping _ _, r⟩ => Failed r
  | _ => False

/-- The sync of an ingestion failed, after this was saved and this was kept. -/
structure SyncFailed (t : List CallStep) (recordId : String) (payload : Dict)
    (candidate : Candidate) : Prop where
  saved : ∃ r, ⟨.saveRecord payload, r⟩ ∈ t
  kept : ∃ r, ⟨.updateBookkeeping recordId candidate, r⟩ ∈ t
  recordId_eq : recordId = resolveRuntimeRecordId payload

/-- What an ingestion leaves of the records of such a process. -/
structure RecordsTracked (turn : Turn D) (w : RuntimeWorld D) : Prop where
  revisions : ∀ recordId, (turn.run env settings w).records.recordRevisions recordId =
    ((turn.run env settings w).records.store recordId).map (·.revision)
  accepted : ∀ e ∈ turn.trace env settings w, ¬Refused e
  failed_iff : ∀ t state r u, turn.trace env settings w = t ++ ⟨.triggerSync state, r⟩ :: u →
    (Failed r ↔
      SyncPortFails env state (Prog.after (runtimeExec env settings) (turn.begin w) t))
  unsynced : ∀ state r, ⟨.triggerSync state, r⟩ ∈ turn.trace env settings w → Failed r →
    ∃ recordId payload candidate stored row, state.recordId = some recordId ∧
      SyncFailed (turn.trace env settings w) recordId payload candidate ∧
      SavedPayload payload stored ∧
      (turn.run env settings w).records.store recordId = some row ∧
      ∀ k, row.payload.get? k = if k = "sync_status" then some (.str "unsynced")
        else (stored.update (bookkeepingPatch candidate)).get? k

theorem Turn.accepted {turn : Turn D} {w : RuntimeWorld D} (hk : Known w.records)
    (ho : Owned w.records) : ∀ e ∈ turn.trace env settings w, ¬Refused e := by
  intro e he hr
  have hc := turn.expected env settings w e he
  obtain ⟨t₁, t₂, ht, hans⟩ := (turn.played env settings w).answer he
  obtain ⟨hk, ho⟩ := turn.owned_at env settings ht hk ho
  generalize Prog.after (runtimeExec env settings) (turn.begin w) t₁ = w₁ at hk ho hans
  obtain ⟨c, r⟩ := e
  cases c with
  | saveRecord payload =>
    obtain ⟨_, -, hrun⟩ := saveRecord_run hk (hc payload rfl) (ho.savable _)
      (env.updatedAt w₁.toOutside)
    have hr' : r = ((saveRecord (env.updatedAt w₁.toOutside) payload).run w₁.records).1 := hans
    rw [hrun] at hr'
    subst hr'
    cases hr
  | updateBookkeeping recordId candidate =>
    obtain ⟨result, hs, hrun⟩ :=
      updateBookkeeping_run hk (env.updatedAt w₁.toOutside) recordId candidate
    have hr' : r = ((updateBookkeeping (env.updatedAt w₁.toOutside) recordId candidate).run
      w₁.records).1 := hans
    rw [hrun] at hr'
    subst hr'
    have hf : CallResult.success result = false := hr
    rw [hs] at hf
    cases hf
  | _ => exact hr

section
variable {w : RuntimeWorld D}

theorem exec_saveRecord {payload : Dict} {r : CallResult} {next : IngestionState}
    (hk : Known w.records) (hp : FromPersist payload)
    (hs : Savable w.records (resolveRuntimeRecordId payload))
    (hr : Except.ok r = (runtimeExec env settings (.saveRecord payload) w).1)
    (hname : NamedBy r next) :
    next.recordId = some (resolveRuntimeRecordId payload) ∧ ∃ stored, SavedPayload payload stored ∧
      ((runtimeExec env settings (.saveRecord payload) w).2.records.store
        (resolveRuntimeRecordId payload)).map (·.payload) = some stored := by
  obtain ⟨stored, hstored, hrun⟩ := saveRecord_run hk hp hs (env.updatedAt w.toOutside)
  obtain ⟨hu, hne⟩ := fromPersist_recordId hp
  have hexec : (runtimeExec env settings (.saveRecord payload) w).2.records =
      ((saveRecord (env.updatedAt w.toOutside) payload).run w.records).2 := rfl
  have hr : Except.ok r = ((saveRecord (env.updatedAt w.toOutside) payload).run w.records).1 := hr
  rw [hrun] at hr hexec
  cases hr
  refine ⟨namedBy_savedResult hu hne hname, stored, hstored, ?_⟩
  rw [hexec]
  simp [RecordWorld.put]

theorem exec_updateBookkeeping {recordId : String} (candidate : Candidate) {payload : Dict}
    (hk : Known w.records) (ho : Owned w.records)
    (hpayload : (w.records.store recordId).map (·.payload) = some payload) :
    ((runtimeExec env settings (.updateBookkeeping recordId candidate) w).2.records.store
      recordId).map (·.payload) = some (payload.update (bookkeepingPatch candidate)) := by
  obtain ⟨row, hrow, rfl⟩ := Option.map_eq_some_iff.mp hpayload
  have hrev := ho recordId
  rw [hrow, Option.map_some] at hrev
  obtain ⟨result, -, hrun⟩ :=
    updateBookkeeping_run hk (env.updatedAt w.toOutside) recordId candidate
  have hexec : (runtimeExec env settings (.updateBookkeeping recordId candidate) w).2.records =
      ((updateBookkeeping (env.updatedAt w.toOutside) recordId candidate).run w.records).2 := rfl
  rw [hexec, hrun]
  simp only [hrev, hrow]
  simp [RecordWorld.put]

theorem exec_triggerSync {recordId : String} {state : IngestionState} {payload : Dict}
    (hk : Known w.records) (hid : state.recordId = some recordId) (hb : blank recordId = false)
    (hpayload : (w.records.store recordId).map (·.payload) = some payload)
    (hf : Failed (runtimeExec env settings (.triggerSync state) w).1) :
    ∃ row, (runtimeExec env settings (.triggerSync state) w).2.records.store recordId = some row ∧
      ∀ k, row.payload.get? k = if k = "sync_status" then some (.str "unsynced")
        else payload.get? k := by
  obtain ⟨row, hrow, rfl⟩ := Option.map_eq_some_iff.mp hpayload
  have hf : Failed ((triggerSync env state).run w).1 := hf
  have hexec : (runtimeExec env settings (.triggerSync state) w).2.records =
      ((triggerSync env state).run w).2.records := rfl
  rw [hexec]
  rcases triggerSync_records env state w with ⟨-, hns | hall⟩ | ⟨id, now, hid', hmark⟩
  · exact absurd hf hns
  · simp [hid, hb] at hall
  · cases hid.symm.trans hid'
    rw [hmark]
    rcases markRuntimeRecordUnsynced_run hk now recordId with
      ⟨hnone, -⟩ | ⟨row', payload, hrow', -, hget, hrun⟩
    · rw [hrow] at hnone
      cases hnone
    · cases hrow.symm.trans hrow'
      rw [hrun]
      exact ⟨_, Function.update_self .., hget⟩

/-- What save, books and sync leave when they come in this order and the sync fails. -/
theorem unsynced_after {c u : List CallStep} {payload : Dict} {r rk : CallResult}
    {next : IngestionState} {rs : Call.Res (.triggerSync next)} {candidate : Candidate}
    {recordId : String} (hk : Known w.records) (ho : Owned w.records) (hp : FromPersist payload)
    (hname : NamedBy r next) (hnext : next.recordId = some recordId) (hc : Quiet c) (hu : Quiet u)
    (hf : Failed rs)
    (h : Prog.Played (runtimeExec env settings) w (⟨.saveRecord payload, .ok r⟩ :: (c ++
      ⟨.updateBookkeeping recordId candidate, .ok rk⟩ :: ⟨.triggerSync next, rs⟩ :: u))) :
    recordId = resolveRuntimeRecordId payload ∧ ∃ stored row, SavedPayload payload stored ∧
      (Prog.after (runtimeExec env settings) w (⟨.saveRecord payload, .ok r⟩ :: (c ++
        ⟨.updateBookkeeping recordId candidate, .ok rk⟩ ::
          ⟨.triggerSync next, rs⟩ :: u))).records.store
          recordId = some row ∧
      ∀ k, row.payload.get? k = if k = "sync_status" then some (.str "unsynced")
        else (stored.update (bookkeepingPatch candidate)).get? k := by
  simp only [Prog.played_cons, Prog.played_append] at h
  simp only [Prog.after_cons, Prog.after_append]
  obtain ⟨hr, -, -, hrs, -⟩ := h
  have hexpected : Expected (.saveRecord payload) := by
    rintro _ ⟨⟩
    exact hp
  obtain ⟨hid, stored, hstored, hpayload⟩ :=
    exec_saveRecord env settings hk hp (ho.savable _) hr hname
  cases hnext.symm.trans hid
  have hk₁ := exec_known env settings hexpected hk
  have ho₁ := exec_owned env settings hexpected hk ho
  generalize (runtimeExec env settings (.saveRecord payload) w).2 = w₁ at *
  have hrec₂ := quiet_records env settings hc w₁
  generalize Prog.after (runtimeExec env settings) w₁ c = w₂ at *
  rw [← hrec₂] at hpayload hk₁ ho₁
  have hbooks : Expected (.updateBookkeeping (resolveRuntimeRecordId payload) candidate) := by
    rintro _ ⟨⟩
  have hk₃ := exec_known env settings hbooks hk₁
  have hpayload₃ := exec_updateBookkeeping env settings candidate hk₁ ho₁ hpayload
  generalize (runtimeExec env settings
    (.updateBookkeeping (resolveRuntimeRecordId payload) candidate) w₂).2 = w₃ at *
  obtain ⟨hunspaced, hne⟩ := fromPersist_recordId hp
  have hb : blank (resolveRuntimeRecordId payload) = false := by
    simpa [blank, hunspaced.strip] using hne
  rw [hrs] at hf
  obtain ⟨row, hrow, hget⟩ := exec_triggerSync env settings hk₃ hnext hb hpayload₃ hf
  refine ⟨rfl, stored, row, hstored, ?_, hget⟩
  rw [quiet_records env settings hu]
  exact hrow

end

theorem Turn.unsynced {turn : Turn D} {w : RuntimeWorld D} (hk : Known w.records)
    (ho : Owned w.records) {state : IngestionState} {r : Call.Res (.triggerSync state)}
    (he : ⟨.triggerSync state, r⟩ ∈ turn.trace env settings w) (hf : Failed r) :
    ∃ recordId payload candidate stored row, state.recordId = some recordId ∧
      SyncFailed (turn.trace env settings w) recordId payload candidate ∧
      SavedPayload payload stored ∧
      (turn.run env settings w).records.store recordId = some row ∧
      ∀ k, row.payload.get? k = if k = "sync_status" then some (.str "unsynced")
        else (stored.update (bookkeepingPatch candidate)).get? k := by
  have hnot : ∀ {u : List CallStep}, Without Call.isSync u → ⟨.triggerSync state, r⟩ ∉ u := by
    intro u hu hm
    cases hu _ hm
  have hrun := turn.ingestionRun env settings w
  have hplayed := turn.played env settings w
  rw [turn.run_eq]
  generalize turn.trace env settings w = t at *
  cases hrun with
  | early ht => exact absurd he (hnot (ht.without isSync_loud))
  | persisting hi hr hc hp hu =>
    have hq := hnot ((hr.quiet (by decide)).without isSync_loud)
    simp [hq, hnot (hc.quiet.without isSync_loud), hnot hp.isSync,
      hnot (hu.without isSync_loud)] at he
  | @persisted payload _ _ _ q c m r₀ next c' p x u hi hr hc hm hfp hs hn hc' hp hu =>
    have hq := hr.quiet (by decide)
    have hm' : Without Call.isSync m := hm.without fun _ _ => rfl
    have hsave : (⟨.triggerSync state, r⟩ : CallStep) ≠ ⟨.saveRecord payload, .ok r₀⟩ := by
      rintro ⟨⟩
    simp only [List.mem_append, List.mem_cons, hnot (hq.without isSync_loud),
      hnot (hc.quiet.without isSync_loud), hnot hm', hsave, hnot (hc'.without isSync_loud),
      hnot (hu.without isSync_loud), false_or, or_false] at he
    cases hp with
    | unstarted => cases he
    | unkept => simp at he
    | kept hkept =>
      obtain ⟨_, _, _, rfl, -⟩ := hkept
      simp at he
    | @synchronized recordId candidate rk rs v _ hnext hrk hv =>
      simp only [List.mem_cons, hnot (hv.without isSync_loud), or_false] at he
      have he := he.resolve_left (by rintro ⟨⟩)
      cases he
      have ht : q ++ c ++ m ++ ⟨.saveRecord payload, .ok r₀⟩ :: (c' ++
          ⟨.updateBookkeeping recordId candidate, .ok rk⟩ :: ⟨.triggerSync state, r⟩ :: v ++ u) =
          (q ++ c ++ m) ++ (⟨.saveRecord payload, .ok r₀⟩ :: (c' ++
            ⟨.updateBookkeeping recordId candidate, .ok rk⟩ :: ⟨.triggerSync state, r⟩ ::
              (v ++ u))) := by
        simp
      rw [ht, Prog.played_append] at hplayed
      rw [ht, Prog.after_append]
      have hrec : (Prog.after (runtimeExec env settings) (turn.begin w) (q ++ c ++ m)).records =
          w.records := by
        rw [Prog.after_append, movesDone_records env settings hm,
          quiet_records env settings (hq.append hc.quiet)]
        rfl
      generalize Prog.after (runtimeExec env settings) (turn.begin w) (q ++ c ++ m) = w₀ at *
      rw [← hrec] at hk ho
      obtain ⟨hid, stored, row, hstored, hrow, hget⟩ :=
        unsynced_after env settings hk ho hfp hn hnext
        hc' (hv.append hu) hf hplayed.2
      exact ⟨recordId, payload, candidate, stored, row, hnext,
        ⟨⟨.ok r₀, by simp⟩, ⟨.ok rk, by simp⟩, hid⟩, hstored, hrow, hget⟩

theorem Turn.failed_iff {turn : Turn D} {w : RuntimeWorld D} (hk : Known w.records)
    (ho : Owned w.records) {t u : List CallStep} {state : IngestionState}
    {r : Call.Res (.triggerSync state)}
    (ht : turn.trace env settings w = t ++ ⟨.triggerSync state, r⟩ :: u) :
    Failed r ↔ SyncPortFails env state
      (Prog.after (runtimeExec env settings) (turn.begin w) t) := by
  have he : ⟨.triggerSync state, r⟩ ∈ turn.trace env settings w := by simp [ht]
  have hr : r = ((triggerSync env state).run
      (Prog.after (runtimeExec env settings) (turn.begin w) t)).1 := by
    have hplayed := turn.played env settings w
    rw [ht, Prog.played_append] at hplayed
    exact hplayed.2.1
  constructor
  · intro hf
    obtain ⟨recordId, payload, _, _, _, hid, hfailed, -⟩ := turn.unsynced env settings hk ho he hf
    obtain ⟨_, hsaved⟩ := hfailed.saved
    obtain ⟨hunspaced, hne⟩ :=
      fromPersist_recordId (turn.expected env settings w _ hsaved payload rfl)
    have hb : blank recordId = false := by
      rw [hfailed.recordId_eq]
      simpa [blank, hunspaced.strip] using hne
    rwa [hr, triggerSync_failed_iff env hid hb] at hf
  · intro hport
    rw [hr]
    cases hid : state.recordId with
    | none => simp [triggerSync, hid, Failed, syncFailed, CallResult.success]
    | some recordId =>
      cases hb : blank recordId with
      | true => simp [triggerSync, hid, hb, Failed, syncFailed, CallResult.success]
      | false => exact (triggerSync_failed_iff env hid hb).mpr hport

omit [Interpreter] in
theorem known_start : Known { store := fun _ => none, recordRevisions := fun _ => none } :=
  ⟨fun _ _ h => by simp at h, fun _ _ h => by simp at h⟩

theorem turns_owned (turns : List (Turn D)) (outside : Outside D) :
    Known (turns.foldl (Turn.run env settings) (.start outside)).records ∧
      Owned (turns.foldl (Turn.run env settings) (.start outside)).records := by
  induction turns using List.reverseRecOn with
  | nil => exact ⟨known_start, fun _ => rfl⟩
  | append_singleton turns turn ih =>
    rw [List.foldl_append]
    exact ⟨turn.run_known env settings ih.1, turn.run_owned env settings ih.1 ih.2⟩

/-- One process on an empty store: through any ingestions, with any syncs, it
notes the revisions that are stored, nothing it saves or keeps is refused, and
a failed sync changes nothing but the sync status. -/
theorem records_tracked (outside : Outside D) (turns : List (Turn D)) (turn : Turn D) :
    RecordsTracked env settings turn (turns.foldl (Turn.run env settings) (.start outside)) := by
  obtain ⟨hk, ho⟩ := turns_owned env settings turns outside
  exact ⟨turn.run_owned env settings hk ho, turn.accepted env settings hk ho,
    fun _ _ _ _ ht => turn.failed_iff env settings hk ho ht,
    fun _ _ he hf => turn.unsynced env settings hk ho he hf⟩

end

end DpostV2.Runtime
