import DpostV2.Ingestion.Stages

/-!
# What the persist stage leaves behind

`PersistRun` lists the ways a run of the stage can go: stopped by a move,
stopped by the record store, or through. The stage has no compensation: what
was moved before it stopped stays moved (`runPersistStage_persisted`).
-/

namespace DpostV2.Ingestion

abbrev CallStep := Step Call Call.Res

/-- Whether a call is none of the four that change what is stored. -/
def Call.quiet : Call → Bool
  | .moveFile .. | .saveRecord _ | .updateBookkeeping .. | .triggerSync _ => false
  | _ => true

def Quiet (t : List CallStep) : Prop := ∀ e ∈ t, e.1.quiet = true

theorem quiet_nil : Quiet [] := by simp [Quiet]

theorem Quiet.append (ht : Quiet t) (hu : Quiet u) : Quiet (t ++ u) := by
  intro e he
  rcases List.mem_append.mp he with he | he
  · exact ht e he
  · exact hu e he

/-- Every move of the list was made in order and returned SUCCESS. -/
inductive MovesDone : List (String × String) → List CallStep → Prop
  | nil : MovesDone [] []
  | cons {source target r plan t} : CallResult.success r = true → MovesDone plan t →
      MovesDone ((source, target) :: plan) (⟨.moveFile source target, .ok r⟩ :: t)

/-- The call raised, or returned another status. -/
def Failed : Except Exn CallResult → Prop
  | .ok r => r.success = false
  | .error _ => True

/-- The stage raised, or ended the pipeline without completing it. -/
inductive Halted : Except Exn Directive → Prop
  | raised (e) : Halted (.error e)
  | terminal (outcome state) : outcome ≠ .completed → Halted (.ok (.terminal outcome state))

theorem Halted.ne_continueTo {x : Except Exn Directive} (h : Halted x) :
    x ≠ .ok (.continueTo stage state) := by
  cases h with
  | raised e => simp
  | terminal outcome state _ => exact fun h => terminal_ne_continueTo (Except.ok.inj h)

/-- A payload the stage asks to save. -/
def FromPersist (payload : Dict) : Prop :=
  ∃ (candidate : Candidate) (persisted : Option ProcessorResult) (targetPath : String),
    payload = recordPayload candidate.payload persisted targetPath

/-- The state names the record by what saving it has returned. -/
def NamedBy [Interpreter] (r : CallResult) (state : IngestionState) : Prop :=
  ∃ saved, savedValue r = .ok saved ∧ state.recordId = some (savedRecordId saved)

inductive PersistRun [Interpreter] (plan : List (String × String)) :
    List CallStep → Except Exn Directive → Prop
  | unstarted {x} : Halted x → (plan = [] ∨ ∃ e, x = .error e) → PersistRun plan [] x
  | unmoved {done source target rest t r u x} : plan = done ++ (source, target) :: rest →
      MovesDone done t → Failed r → Quiet u → Halted x →
      PersistRun plan (t ++ ⟨.moveFile source target, r⟩ :: u) x
  | unsaved {t payload r u x} : MovesDone plan t → FromPersist payload → Failed r → Quiet u →
      Halted x → PersistRun plan (t ++ ⟨.saveRecord payload, r⟩ :: u) x
  | interrupted {t payload r e} : MovesDone plan t → FromPersist payload →
      CallResult.success r = true → PersistRun plan (t ++ [⟨.saveRecord payload, .ok r⟩]) (.error e)
  | saved {t payload r state} : MovesDone plan t → FromPersist payload →
      CallResult.success r = true → NamedBy r state →
      PersistRun plan (t ++ [⟨.saveRecord payload, .ok r⟩]) (.ok (.continueTo "post_persist" state))

/-- The moves the stage sets out to make. -/
def plannedMoves (state : IngestionState) : List (String × String) :=
  match state.candidate with
  | none => []
  | some candidate =>
    match candidate.targetPath with
    | none => []
    | some targetPath => buildMovePlan targetPath candidate state.processorResult

-- ---------------------------------------------------------------------------
-- Files and records after the stage
-- ---------------------------------------------------------------------------

section
variable {σ : Type} (moved : String → String → σ → σ)

/-- The filesystem after the moves of a list. -/
def applyMoves (fs : σ) (plan : List (String × String)) : σ :=
  plan.foldl (fun fs m => moved m.1 m.2 fs) fs

/-- The filesystem after a trace: a move that returned SUCCESS took place, no other call
touches a file. -/
def filesAfter (fs : σ) (t : List CallStep) : σ :=
  t.foldl (fun fs e => match e with
    | ⟨.moveFile source target, .ok r⟩ => if r.success then moved source target fs else fs
    | _ => fs) fs

/-- The step stored a record. -/
def Stored (e : CallStep) : Prop :=
  ∃ payload r, e = ⟨.saveRecord payload, .ok r⟩ ∧ CallResult.success r = true

variable {moved} {fs : σ} {t u : List CallStep}

@[simp] theorem filesAfter_append : filesAfter moved fs (t ++ u) =
    filesAfter moved (filesAfter moved fs t) u :=
  List.foldl_append

theorem filesAfter_quiet (h : Quiet t) : filesAfter moved fs t = fs := by
  induction t generalizing fs with
  | nil => rfl
  | cons e t ih =>
    have ht : Quiet t := fun e he => h e (List.mem_cons_of_mem _ he)
    have he := h e (by simp)
    obtain ⟨c, r⟩ := e
    have hstep : filesAfter moved fs (⟨c, r⟩ :: t) = filesAfter moved fs t := by
      cases c <;> first | rfl | cases he
    rw [hstep, ih ht]

theorem filesAfter_movesDone (h : MovesDone plan t) :
    filesAfter moved fs t = applyMoves moved fs plan := by
  induction h generalizing fs with
  | nil => rfl
  | @cons source target r plan t hr _ ih =>
    have hstep : filesAfter moved fs (⟨.moveFile source target, .ok r⟩ :: t) =
        filesAfter moved (moved source target fs) t := by
      simp [filesAfter, hr]
    rw [hstep, ih]
    rfl

theorem filesAfter_failed {source target : String} (hr : Failed r) :
    filesAfter moved fs (⟨.moveFile source target, r⟩ :: t) = filesAfter moved fs t := by
  cases r with
  | error e => rfl
  | ok r =>
    have hf : r.success = false := hr
    simp [filesAfter, hf]

theorem filesAfter_saveRecord : filesAfter moved fs (⟨.saveRecord payload, r⟩ :: t) =
    filesAfter moved fs t := rfl

theorem not_stored_of_quiet (h : Quiet t) : ∀ e ∈ t, ¬Stored e := by
  rintro e he ⟨payload, r, rfl, -⟩
  cases h _ he

theorem not_stored_of_movesDone (h : MovesDone plan t) : ∀ e ∈ t, ¬Stored e := by
  induction h with
  | nil => simp
  | cons _ _ ih =>
    rintro e he ⟨payload, r, hs, hr⟩
    rcases List.mem_cons.mp he with rfl | he
    · cases hs
    · exact ih e he ⟨payload, r, hs, hr⟩

/-- What the persist stage leaves: stopped, no record and the moves before
the first that did not succeed; through, a record and every planned move. -/
structure Persisted (moved : String → String → σ → σ) (fs : σ) (plan : List (String × String))
    (t : List CallStep) (x : Except Exn Directive) : Prop where
  stopped : ∀ outcome state, x = .ok (.terminal outcome state) →
    (∀ e ∈ t, ¬Stored e) ∧ ∃ done rest, plan = done ++ rest ∧
      filesAfter moved fs t = applyMoves moved fs done ∧
      ∀ m ∈ rest.head?, ∃ r, ⟨.moveFile m.1 m.2, r⟩ ∈ t ∧ Failed r
  through : ∀ stage state, x = .ok (.continueTo stage state) →
    (∃ e ∈ t, Stored e) ∧ filesAfter moved fs t = applyMoves moved fs plan

theorem not_stored_around {e : CallStep} (ht : MovesDone plan t) (he : ¬Stored e) (hu : Quiet u) :
    ∀ e' ∈ t ++ e :: u, ¬Stored e' := by
  intro e' hm
  simp only [List.mem_append, List.mem_cons] at hm
  rcases hm with hm | rfl | hm
  · exact not_stored_of_movesDone ht e' hm
  · exact he
  · exact not_stored_of_quiet hu e' hm

theorem not_stored_failed (hr : Failed r) : ¬Stored ⟨.saveRecord payload, r⟩ := by
  rintro ⟨_, r', h, hr'⟩
  cases h
  exact absurd hr (by simp [Failed, hr'])

theorem PersistRun.persisted [Interpreter] {plan : List (String × String)}
    {x : Except Exn Directive} (h : PersistRun plan t x) : Persisted moved fs plan t x := by
  cases h with
  | unstarted hx hplan =>
    refine ⟨?_, ?_⟩
    · rintro outcome state rfl
      rcases hplan with rfl | ⟨e, he⟩
      · exact ⟨by simp, [], [], rfl, rfl, by simp⟩
      · cases he
    · intro stage state h
      exact absurd h hx.ne_continueTo
  | @unmoved done source target rest t r u x hplan ht hr hu hx =>
    refine ⟨?_, ?_⟩
    · rintro outcome state rfl
      refine ⟨not_stored_around ht (by rintro ⟨_, _, h, _⟩; cases h) hu, done,
        (source, target) :: rest, hplan, ?_, ?_⟩
      · rw [filesAfter_append, filesAfter_movesDone ht, filesAfter_failed hr, filesAfter_quiet hu]
      · rintro m hm
        cases hm
        exact ⟨r, by simp, hr⟩
    · intro stage state h
      exact absurd h hx.ne_continueTo
  | @unsaved t payload r u x ht _ hr hu hx =>
    refine ⟨?_, ?_⟩
    · rintro outcome state rfl
      refine ⟨not_stored_around ht (not_stored_failed hr) hu, plan, [], by simp, ?_, by simp⟩
      rw [filesAfter_append, filesAfter_movesDone ht, filesAfter_saveRecord, filesAfter_quiet hu]
    · intro stage state h
      exact absurd h hx.ne_continueTo
  | interrupted => exact ⟨by rintro _ _ ⟨⟩, by rintro _ _ ⟨⟩⟩
  | @saved t payload r state ht _ hr =>
    refine ⟨fun _ _ h => absurd (Except.ok.inj h).symm terminal_ne_continueTo, ?_⟩
    rintro stage state' -
    refine ⟨⟨_, by simp, payload, r, rfl, hr⟩, ?_⟩
    rw [filesAfter_append, filesAfter_movesDone ht]
    rfl

end

-- ---------------------------------------------------------------------------
-- The stage, part by part
-- ---------------------------------------------------------------------------

section
variable {c : Call} {P : List CallStep → Except Exn β → Prop}

theorem call_ensures {f : c.Answer → StageProg β} (herr : ∀ e, P [⟨c, .error e⟩] (.error e))
    (hok : ∀ a, (f a).Ensures fun t => P (⟨c, .ok a⟩ :: t)) : (call c >>= f).Ensures P := by
  refine .act ?_
  intro r
  cases r with
  | error e => exact .done (herr e)
  | ok a => exact hok a

theorem tryCall_ensures {f : Except Exn c.Answer → StageProg β}
    (h : ∀ r, (f r).Ensures fun t => P (⟨c, r⟩ :: t)) : (tryCall c >>= f).Ensures P :=
  .act h

theorem lift_ensures {x : Except Exn α} {f : α → StageProg β}
    (herr : ∀ e, x = .error e → P [] (.error e)) (hok : ∀ a, x = .ok a → (f a).Ensures P) :
    (Prog.lift x >>= f).Ensures P := by
  cases x with
  | error e => exact .done (herr e rfl)
  | ok a => exact hok a rfl

end

section
variable [Interpreter]

/-- The state the route stage hands on is routed. -/
theorem runRouteStage_routed (allowedRoots : List String) (state : IngestionState) :
    (runRouteStage allowedRoots state).Ensures fun _ x =>
      ∀ stage next, x = .ok (.continueTo stage next) → ∃ candidate targetPath,
        Routed next candidate targetPath := by
  have hstop : ∀ outcome s stage next, (Except.ok (.terminal outcome s) : Except Exn Directive) =
      .ok (.continueTo stage next) → ∃ candidate targetPath, Routed next candidate targetPath :=
    fun _ _ _ _ h => absurd (Except.ok.inj h) terminal_ne_continueTo
  unfold runRouteStage
  cases state.candidate with
  | none => exact .pure (hstop _ _)
  | some candidate =>
    refine call_ensures (by simp) ?_
    intro route
    simp only
    split
    · exact .pure (hstop _ _)
    · refine call_ensures (by simp) ?_
      intro filename
      split
      · exact .pure (hstop _ _)
      · split
        · exact .pure (hstop _ _)
        · rename_i normalizedPath hpath
          refine lift_ensures (by simp) ?_
          intro routed hr
          refine .pure ?_
          intro stage next h
          cases Option.some.inj (congrArg StageDirective.state (Except.ok.inj h))
          refine ⟨routed, normalizePath normalizedPath, rfl, ?_, ?_⟩
          · unfold Candidate.withRoute at hr
            split at hr
            · cases hr
            · split at hr
              · cases hr
              · cases hr
                rfl
          · obtain ⟨raw, rfl⟩ := evaluateForcePath_normal hpath
            exact normalizePath_twice raw

theorem runMovePlan_ensures (plan : List (String × String)) : (runMovePlan plan).Ensures fun t x =>
    (x = .ok none ∧ MovesDone plan t) ∨
      ((∀ y, x = .ok y → y.isSome) ∧ ∃ done source target rest t' r,
        plan = done ++ (source, target) :: rest ∧ MovesDone done t' ∧ Failed r ∧
          t = t' ++ [⟨.moveFile source target, r⟩]) := by
  induction plan with
  | nil => exact .pure (.inl ⟨rfl, .nil⟩)
  | cons m plan ih =>
    obtain ⟨source, target⟩ := m
    refine call_ensures ?_ ?_
    · intro e
      exact .inr ⟨by simp, [], source, target, plan, [], .error e, rfl, .nil, trivial, rfl⟩
    · intro r
      split
      · rename_i hr
        refine ih.mono ?_
        rintro t x (⟨rfl, ht⟩ | ⟨hx, done, s, t', rest, u, q, hplan, hu, hq, rfl⟩)
        · exact .inl ⟨rfl, .cons hr ht⟩
        · exact .inr ⟨hx, (source, target) :: done, s, t', rest, _ :: u, q, by rw [hplan]; rfl,
            .cons hr hu, hq, rfl⟩
      · rename_i hr
        exact .pure (.inr ⟨by simp, [], source, target, plan, [], .ok r, rfl, .nil,
          Bool.eq_false_iff.mpr hr, rfl⟩)

theorem retryOrTerminal_ensures (state : IngestionState) (reason : String) :
    (retryOrTerminalForFailure state reason).Ensures fun t x =>
      Quiet t ∧ ∀ d, x = .ok (some d) → Halted (.ok d) := by
  refine tryCall_ensures ?_
  intro r
  have hq : Quiet [⟨.planRetry reason state.attemptIndex, r⟩] := by
    intro e he
    rw [List.mem_singleton.mp he]
    rfl
  have hinvalid : (pure (some (StageDirective.terminal .failed
      (state.withReason "persist" "invalid_retry_plan"))) : StageProg (Option Directive)).Ensures
      fun t x => Quiet (⟨.planRetry reason state.attemptIndex, r⟩ :: t) ∧
        ∀ d, x = .ok (some d) → Halted (.ok d) := by
    refine .pure ⟨hq, ?_⟩
    rintro d ⟨⟩
    exact .terminal _ _ (by simp)
  cases r with
  | error e => exact hinvalid
  | ok rawPlan =>
    simp only
    cases normalizedRetryPlan rawPlan state.attemptIndex with
    | none => exact hinvalid
    | some plan =>
      simp only
      split
      · exact .pure ⟨hq, by simp⟩
      · refine lift_ensures (fun e _ => ⟨hq, by simp⟩) ?_
        intro n _
        refine .pure ⟨hq, ?_⟩
        rintro d ⟨⟩
        exact .terminal _ _ (by simp)

theorem finishPersist_ensures (state : IngestionState) (candidate : Candidate) (targetPath : String)
    (persistedResult : Option ProcessorResult) (saveResult : CallResult) :
    (finishPersist state candidate targetPath persistedResult saveResult).Ensures fun t x =>
      t = [] ∧ ((∃ e, x = .error e) ∨
        ∃ s, x = .ok (.continueTo "post_persist" s) ∧ NamedBy saveResult s) := by
  refine lift_ensures (fun e _ => ⟨rfl, .inl ⟨e, rfl⟩⟩) ?_
  intro saved hs
  refine lift_ensures (fun e _ => ⟨rfl, .inl ⟨e, rfl⟩⟩) ?_
  intro persistedCandidate _
  exact .pure ⟨rfl, .inr ⟨_, rfl, saved, hs, rfl⟩⟩

theorem savePersisted_run {plan : List (String × String)} {t : List CallStep}
    (ht : MovesDone plan t) (state : IngestionState) (candidate : Candidate) (targetPath : String)
    (persistedResult : Option ProcessorResult) :
    (savePersisted state candidate targetPath persistedResult).Ensures fun u x =>
      PersistRun plan (t ++ u) x := by
  have hp : FromPersist (recordPayload candidate.payload persistedResult targetPath) :=
    ⟨_, _, _, rfl⟩
  unfold savePersisted
  rw [candidate.toPayload_ok]
  refine call_ensures (fun e => .unsaved ht hp trivial quiet_nil (.raised e)) ?_
  intro r
  split
  · rename_i hr
    have hr : Failed (.ok r) := by simpa [Failed] using hr
    refine .bind (retryOrTerminal_ensures state _) ?_ ?_
    · rintro d u ⟨hu, hd⟩
      cases d with
      | none =>
        refine .pure ?_
        rw [List.append_nil]
        exact .unsaved ht hp hr hu (.terminal _ _ (by simp))
      | some d =>
        refine .pure ?_
        rw [List.append_nil]
        exact .unsaved ht hp hr hu (hd d rfl)
    · rintro e u ⟨hu, -⟩
      exact .unsaved ht hp hr hu (.raised e)
  · rename_i hr
    have hr : CallResult.success r = true := by simpa using hr
    refine (finishPersist_ensures state candidate targetPath persistedResult r).mono ?_
    rintro u x ⟨rfl, ⟨e, rfl⟩ | ⟨s, rfl, hs⟩⟩
    · exact .interrupted ht hp hr
    · exact .saved ht hp hr hs

/-- Every run of the persist stage is one of the listed ones. -/
theorem runPersistStage_run (state : IngestionState) :
    (runPersistStage state).Ensures (PersistRun (plannedMoves state)) := by
  unfold runPersistStage plannedMoves
  cases state.candidate with
  | none => exact .pure (.unstarted (.terminal _ _ (by simp)) (.inl rfl))
  | some candidate =>
    simp only
    cases candidate.targetPath with
    | none => exact .pure (.unstarted (.terminal _ _ (by simp)) (.inl rfl))
    | some targetPath =>
      refine lift_ensures (fun e _ => .unstarted (.raised e) (.inr ⟨e, rfl⟩)) ?_
      intro persistedResult _
      refine .bind (runMovePlan_ensures _) ?_ ?_
      · rintro moveReason t (⟨hx, ht⟩ | ⟨hx, done, source, target, rest, t, r, hplan, ht, hr, rfl⟩)
        · cases hx
          exact savePersisted_run ht state candidate targetPath persistedResult
        · obtain ⟨reason, rfl⟩ := Option.isSome_iff_exists.mp (hx _ rfl)
          have hstop : ∀ u x, Quiet u → Halted x → PersistRun
              (buildMovePlan targetPath candidate state.processorResult)
              (t ++ [⟨.moveFile source target, r⟩] ++ u) x := by
            intro u x hu hx
            rw [List.append_assoc]
            exact .unmoved hplan ht hr hu hx
          refine .bind (retryOrTerminal_ensures state reason) ?_ ?_
          · rintro d u ⟨hu, hd⟩
            cases d with
            | none =>
              simp only
              split
              · exact .pure (hstop _ _ (hu.append quiet_nil) (.terminal _ _ (by simp)))
              · exact .pure (hstop _ _ (hu.append quiet_nil) (.terminal _ _ (by simp)))
            | some d => exact .pure (hstop _ _ (hu.append quiet_nil) (hd d rfl))
          · rintro e u ⟨hu, -⟩
            exact hstop _ _ hu (.raised e)
      · rintro e t (⟨hx, -⟩ | ⟨-, done, source, target, rest, t, r, hplan, ht, hr, rfl⟩)
        · cases hx
        · exact .unmoved hplan ht hr quiet_nil (.raised e)

/-- The persist stage stores a record only when it goes through, and keeps
the moves it has made when it does not. -/
theorem runPersistStage_persisted {σ : Type} (moved : String → String → σ → σ) (fs : σ)
    (state : IngestionState) :
    (runPersistStage state).Ensures (Persisted moved fs (plannedMoves state)) :=
  (runPersistStage_run state).mono fun _ _ h => h.persisted

end

section
attribute [local instance] Interpreter.ascii

/-- The second move fails, and the planner does not ask for a retry. -/
def secondMoveFails : (c : Call) → Nat → c.Res × Nat
  | .moveFile .., n => (.ok { status := if n = 0 then "success" else "failed" }, n + 1)
  | .planRetry reason _, n =>
    (.ok (.dict [("terminal_type", .str "stop_retrying"), ("reason_code", .str reason)]), n)
  | _, n => (.error (valueError "not called"), n)

def renamed (source target : String) (files : String → Option String) : String → Option String :=
  fun path => if path = target then files source else if path = source then none else files path

def twoFiles : String → Option String :=
  renamed "" "/in/x.ngb"
    (renamed "" "/in/x.csv" fun path => if path = "" then some "data" else none)

def twoMoves : IngestionState :=
  routedState "/out/x.csv" (pair "/in/" "/in/x.ngb" (by decide) (by decide))

/-- The stage ends as failed, and the first file is at its target. -/
theorem firstMoveStays :
    ∃ state, ((runPersistStage twoMoves).run secondMoveFails 0).1 = .ok (.terminal .failed state) ∧
      twoFiles "/out/x.csv" = none ∧
      filesAfter renamed twoFiles ((runPersistStage twoMoves).trace secondMoveFails 0)
        "/out/x.csv" = some "data" :=
  ⟨_, rfl, by decide +kernel, by decide +kernel⟩

end

end DpostV2.Ingestion
