import DpostV2.Ingestion.PersistEffects

/-!
# One ingestion, whatever its callables do

`process_safe`: an ingestion ends with an outcome, and the calls that move
files, store records, keep the books and synchronize come in order. The
proof reads the order off the pipeline: nothing but `persist` and
`post_persist` makes such a call (`stage_quiet`), and what these two make is
listed by `PersistRun` and `PostPersistRun`.
-/

namespace DpostV2.Ingestion

abbrev IsQuiet (c : Call) : Prop := c.quiet = true

-- ---------------------------------------------------------------------------
-- Stages that only look
-- ---------------------------------------------------------------------------

theorem call_every {c : Call} (h : IsQuiet c) : (call c).Every IsQuiet := ⟨h, fun _ => trivial⟩

theorem tryCall_every {c : Call} (h : IsQuiet c) : (tryCall c).Every IsQuiet :=
  (call_every h).attempt

theorem Quiet.of_every {p : StageProg α} (h : p.Every IsQuiet) (ht : p.Ends t x) : Quiet t :=
  h.ends ht

theorem lift_every (x : Except Exn α) : (Prog.lift x : StageProg α).Every IsQuiet := trivial

theorem prepareInput_quiet (processor : Processor) (rawInput : Dict) :
    (prepareInput processor rawInput).Every IsQuiet := by
  unfold prepareInput
  split
  · exact call_every rfl
  · trivial

theorem supportsInput_quiet (processor : Processor) (preparedInput : Dict) :
    (supportsInput processor preparedInput).Every IsQuiet := by
  unfold supportsInput
  split
  · refine (tryCall_every rfl).bind fun supported => ?_
    split <;> trivial
  · trivial

section
variable [Interpreter]

theorem runResolveStage_quiet (state : IngestionState) : (runResolveStage state).Every IsQuiet := by
  unfold runResolveStage
  refine (tryCall_every rfl).bind fun facts => ?_
  split
  · trivial
  · split
    · trivial
    · split
      · split <;> trivial
      · refine (tryCall_every rfl).bind fun selection => ?_
        split
        · split
          · trivial
          · split <;> trivial
        · exact (lift_every _).bind fun _ => trivial

theorem runStabilizeStage_quiet (settleDelaySeconds : Seconds) (state : IngestionState) :
    (runStabilizeStage settleDelaySeconds state).Every IsQuiet := by
  unfold runStabilizeStage
  split
  · trivial
  · split
    · trivial
    · refine (call_every rfl).bind fun now => (lift_every _).bind fun nowValue => ?_
      refine (call_every rfl).bind fun decision => ?_
      simp only
      repeat' split
      all_goals trivial

theorem runTransformStage_quiet (state : IngestionState) :
    (runTransformStage state).Every IsQuiet := by
  unfold runTransformStage
  split
  · refine (lift_every _).bind fun rawInput => ?_
    refine (prepareInput_quiet _ _).attempt.bind fun prepared => ?_
    split
    · trivial
    · split
      · trivial
      · refine (supportsInput_quiet _ _).bind fun supported => ?_
        split
        · trivial
        · split
          · trivial
          · refine ((call_every rfl).bind fun _ => lift_every _).attempt.bind fun processed => ?_
            split <;> trivial
  · trivial

theorem runRouteStage_quiet (allowedRoots : List String) (state : IngestionState) :
    (runRouteStage allowedRoots state).Every IsQuiet := by
  unfold runRouteStage
  split
  · trivial
  · refine (call_every rfl).bind fun routeRoot => ?_
    simp only
    split
    · trivial
    · refine (call_every rfl).bind fun filename => ?_
      split
      · trivial
      · split
        · trivial
        · exact (lift_every _).bind fun _ => trivial

end

-- ---------------------------------------------------------------------------
-- Post-persist
-- ---------------------------------------------------------------------------

/-- The step kept the books. -/
def Kept (e : CallStep) : Prop :=
  ∃ recordId candidate r, e = ⟨.updateBookkeeping recordId candidate, .ok r⟩ ∧
    CallResult.success r = true

inductive PostPersistRun (state : IngestionState) : List CallStep → Except Exn Directive → Prop
  | unstarted {x} : Halted x → PostPersistRun state [] x
  | unkept {recordId candidate r x} : Halted x →
      PostPersistRun state [⟨.updateBookkeeping recordId candidate, r⟩] x
  | kept {e x} : Kept e → PostPersistRun state [e] x
  | synchronized {recordId candidate r r' u x} : state.recordId = some recordId →
      CallResult.success r = true → Quiet u →
      PostPersistRun state (⟨.updateBookkeeping recordId candidate, .ok r⟩ ::
        ⟨.triggerSync state, r'⟩ :: u) x

theorem runPostPersistStage_run [Interpreter] (immediateSyncEnabled : Bool)
    (state : IngestionState) :
    (runPostPersistStage immediateSyncEnabled state).Ensures (PostPersistRun state) := by
  unfold runPostPersistStage
  split
  · rename_i candidate recordId _ hrecord
    refine call_ensures (fun e => .unkept (.raised e)) ?_
    intro r
    split
    · exact .pure (.unkept (.terminal _ _ (by simp)))
    · rename_i hr
      have hr : CallResult.success r = true := by simpa using hr
      split
      · exact .pure (.kept ⟨_, _, r, rfl, hr⟩)
      · refine call_ensures (fun e => .synchronized hrecord hr quiet_nil) ?_
        intro r'
        have hq : ∀ {c : Call} {r : c.Res}, c.quiet = true → Quiet [⟨c, r⟩] := by
          intro c r hc e he
          rw [List.mem_singleton.mp he]
          exact hc
        split
        · exact call_ensures (fun e => .synchronized hrecord hr (hq rfl))
            fun _ => .pure (.synchronized hrecord hr (hq rfl))
        · exact .pure (.synchronized hrecord hr quiet_nil)
  · exact .pure (.unstarted (.terminal _ _ (by simp)))

-- ---------------------------------------------------------------------------
-- The order of the stages
-- ---------------------------------------------------------------------------

def stagesBefore (stage : String) : List String := requiredStageOrder.takeWhile (· != stage)

theorem table_mem {stage : String} {policy : PipelineTransitionPolicy}
    (h : defaultIngestionTransitionTable.lookup stage = some policy) :
    (stage, policy) ∈ defaultIngestionTransitionTable := by
  obtain ⟨l₁, l₂, hl, -⟩ := List.lookup_eq_some_iff.mp h
  rw [hl]
  simp

theorem table_next {stage next : String} {policy : PipelineTransitionPolicy}
    (h : defaultIngestionTransitionTable.lookup stage = some policy)
    (hn : next ∈ policy.allowedNextStages) :
    stagesBefore next = stagesBefore stage ++ [stage] ∧ stage ≠ "post_persist" ∧
      (stage = "persist" ↔ next = "post_persist") := by
  have hm := table_mem h
  simp only [defaultIngestionTransitionTable, List.mem_cons, List.not_mem_nil, or_false,
    Prod.mk.injEq] at hm
  rcases hm with ⟨rfl, rfl⟩ | ⟨rfl, rfl⟩ | ⟨rfl, rfl⟩ | ⟨rfl, rfl⟩ | ⟨rfl, rfl⟩ | ⟨rfl, rfl⟩
  all_goals simp only [List.mem_singleton, List.not_mem_nil] at hn
  all_goals
    subst hn
    decide

theorem table_completed {stage : String} {policy : PipelineTransitionPolicy}
    (h : defaultIngestionTransitionTable.lookup stage = some policy)
    (hc : .completed ∈ policy.allowedTerminalOutcomes) : stage = "post_persist" := by
  have hm := table_mem h
  simp only [defaultIngestionTransitionTable, List.mem_cons, List.not_mem_nil, or_false,
    Prod.mk.injEq] at hm
  rcases hm with ⟨rfl, rfl⟩ | ⟨rfl, rfl⟩ | ⟨rfl, rfl⟩ | ⟨rfl, rfl⟩ | ⟨rfl, rfl⟩ | ⟨rfl, rfl⟩
  all_goals first | rfl | simp at hc

section
variable [Interpreter] (settings : StageSettings) (hooks : EngineHooks)

theorem stage_quiet {settings : StageSettings} {stage : String}
    {handler : StageHandler IngestionState Call Call.Res}
    (h : stageHandlers settings stage = some handler)
    (hp : stage ≠ "persist") (hpp : stage ≠ "post_persist") (state : IngestionState) :
    (handler state).Every IsQuiet := by
  unfold stageHandlers at h
  split at h
  · cases h
    exact runResolveStage_quiet state
  split at h
  · cases h
    exact runStabilizeStage_quiet _ state
  split at h
  · cases h
    exact runTransformStage_quiet state
  split at h
  · cases h
    exact runRouteStage_quiet _ state
  cases h

/-- `should_cancel` of the pipeline run. -/
def cancelled : StageProg Bool :=
  ((ingestionEngine settings hooks).cancellationSignal).getD (pure false)

theorem cancelled_quiet : (cancelled settings hooks).Every IsQuiet := by
  unfold cancelled ingestionEngine
  cases hooks.cancellationSignal
  · trivial
  · exact call_every rfl

/-- What asking for cancellation calls. -/
def Polled (t : List CallStep) : Prop := ∃ y, (cancelled settings hooks).Ends t y

theorem Polled.quiet {settings : StageSettings} {hooks : EngineHooks}
    (h : Polled settings hooks t) : Quiet t := by
  obtain ⟨_, h⟩ := h
  exact .of_every (cancelled_quiet settings hooks) h

/-- The pipeline has come to the stage, after the calls of the trace. -/
abbrev Through (initialState : IngestionState) :
    String → IngestionState → List PipelineTransitionRecord → List CallStep → Prop :=
  Reached (ingestionEngine settings hooks).pipelineRunner (stageHandlers settings)
    (cancelled settings hooks) initialState

variable {settings hooks} {initialState : IngestionState}

/-- The log names the stages that come before. -/
theorem Through.stages (h : Through settings hooks initialState stage state log t) :
    log.map (·.stageId) = stagesBefore stage := by
  induction h with
  | start => rfl
  | next _ hp _ _ _ _ _ hn ih =>
    rw [List.map_append, ih, (table_next hp hn).1]
    rfl

/-- Nothing is moved or stored on the way to a stage up to `persist`. -/
theorem Through.quiet (h : Through settings hooks initialState stage state log t)
    (hs : stage ≠ "post_persist") : Quiet t := by
  induction h with
  | start => exact quiet_nil
  | next _ hp hh hc hd _ _ hn ih =>
    obtain ⟨-, hpp, hpersist⟩ := table_next hp hn
    exact ((ih hpp).append (.of_every (cancelled_quiet settings hooks) hc)).append
      (.of_every (stage_quiet hh (fun hs' => hs (hpersist.mp hs')) hpp _) hd)

/-- `post_persist` is reached through a stored record. -/
theorem Through.persisted (h : Through settings hooks initialState "post_persist" state log t) :
    ∃ state₀ log₀ q c m payload r, Through settings hooks initialState "persist" state₀ log₀ q ∧
      Polled settings hooks c ∧ MovesDone (plannedMoves state₀) m ∧ FromPersist payload ∧
      CallResult.success r = true ∧ NamedBy r state ∧
      t = q ++ c ++ m ++ [⟨.saveRecord payload, .ok r⟩] := by
  generalize hs : "post_persist" = stage at h
  cases h with
  | start => exact absurd hs (by decide : "post_persist" ≠ "resolve")
  | @next stage state₀ log₀ q policy handler c p d _ hr hp hh hc hd hk _ hn =>
    have hstage : stage = "persist" := (table_next hp hn).2.2.mpr hs.symm
    subst hstage
    cases hh
    have hrun := runPersistStage_run state₀ p (.ok d) hd
    generalize hx : (Except.ok d : Except Exn Directive) = x at hrun
    have hne : ∀ outcome s, d ≠ .terminal outcome s := by
      rintro outcome s rfl
      exact absurd hk (by decide : "terminal" ≠ "continue")
    have hhalt : ¬Halted x := by
      rintro (⟨e⟩ | ⟨outcome, s, -⟩)
      · cases hx
      · exact hne outcome s (Except.ok.inj hx)
    cases hrun with
    | unstarted h _ => exact absurd h hhalt
    | unmoved _ _ _ _ h => exact absurd h hhalt
    | unsaved _ _ _ _ h => exact absurd h hhalt
    | interrupted => cases hx
    | @saved m payload r next hm hp hs hn =>
      cases hx
      refine ⟨state₀, log₀, q, c, m, payload, r, hr, ⟨_, hc⟩,
        hm, hp, hs, hn, ?_⟩
      simp only [List.append_assoc]

-- ---------------------------------------------------------------------------
-- A run of the pipeline
-- ---------------------------------------------------------------------------

variable (settings hooks) (created : Except Exn IngestionState)

/-- The calls of an ingestion, by the last stage that made any but quiet ones. -/
inductive IngestionRun : List CallStep → Prop
  | early {t} : Quiet t → IngestionRun t
  | persisting {initialState state log q c p x u} : created = .ok initialState →
      Through settings hooks initialState "persist" state log q → Polled settings hooks c →
      PersistRun (plannedMoves state) p x → Quiet u → IngestionRun (q ++ c ++ p ++ u)
  | persisted (payload) {initialState state log q c m r next c' p x u} :
      created = .ok initialState → Through settings hooks initialState "persist" state log q →
      Polled settings hooks c → MovesDone (plannedMoves state) m → FromPersist payload →
      CallResult.success r = true → NamedBy r next → Quiet c' → PostPersistRun next p x → Quiet u →
      IngestionRun (q ++ c ++ m ++ ⟨.saveRecord payload, .ok r⟩ :: (c' ++ p ++ u))

variable {settings hooks created}

theorem IngestionRun.append (h : IngestionRun settings hooks created t) (hu : Quiet u) :
    IngestionRun settings hooks created (t ++ u) := by
  cases h with
  | early ht => exact .early (ht.append hu)
  | persisting hi hr hc hp hv =>
    rw [List.append_assoc]
    exact .persisting hi hr hc hp (hv.append hu)
  | persisted payload hi hr hc hm hf hs hn hc' hp hv =>
    have h := IngestionRun.persisted payload hi hr hc hm hf hs hn hc' hp (hv.append hu)
    simpa only [List.append_assoc, List.cons_append] using h

theorem Final.parts (h : Final (ingestionEngine settings hooks).pipelineRunner
      (stageHandlers settings) (cancelled settings hooks) .failed stage state log t x) :
    ∃ c p, t = c ++ p ∧ Polled settings hooks c ∧
      (p = [] ∨ ∃ handler y, stageHandlers settings stage = some handler ∧
      (handler state).Ends p y) := by
  cases h with
  | uncalled hc _ => exact ⟨_, [], (List.append_nil _).symm, ⟨_, hc⟩, .inl rfl⟩
  | raised hh hc hd => exact ⟨_, _, rfl, ⟨_, hc⟩, .inr ⟨_, _, hh, hd⟩⟩
  | ended _ hh hc hd => exact ⟨_, _, rfl, ⟨_, hc⟩, .inr ⟨_, _, hh, hd⟩⟩

theorem final_run {initialState : IngestionState} (hi : created = .ok initialState)
    (hr : Through settings hooks initialState stage state log t)
    (h : Final (ingestionEngine settings hooks).pipelineRunner
      (stageHandlers settings) (cancelled settings hooks) .failed stage state log u x) :
    IngestionRun settings hooks created (t ++ u) := by
  obtain ⟨c, p, rfl, hc, hp⟩ := h.parts
  rcases hp with rfl | ⟨handler, y, hh, hp⟩
  · rw [List.append_nil]
    by_cases hpp : stage = "post_persist"
    · subst hpp
      obtain ⟨state₀, log₀, q, c', m, payload, r, hr₀, hc', hm, hf, hs, hn, rfl⟩ := hr.persisted
      have hrun : PersistRun (plannedMoves state₀) (m ++ [⟨.saveRecord payload, .ok r⟩])
          (.ok (.continueTo "post_persist" state)) := .saved hm hf hs hn
      have h := IngestionRun.persisting hi hr₀ hc' hrun hc.quiet
      simpa only [List.append_assoc] using h
    · exact .early ((hr.quiet hpp).append hc.quiet)
  · by_cases hpp : stage = "post_persist"
    · subst hpp
      cases hh
      obtain ⟨state₀, log₀, q, c', m, payload, r, hr₀, hc', hm, hf, hs, hn, rfl⟩ := hr.persisted
      have h := IngestionRun.persisted payload hi hr₀ hc' hm hf hs hn hc.quiet
        (runPostPersistStage_run _ _ _ _ hp) quiet_nil
      simpa only [List.append_assoc, List.cons_append, List.append_nil, List.nil_append] using h
    · by_cases hps : stage = "persist"
      · subst hps
        cases hh
        have h := IngestionRun.persisting hi hr hc (runPersistStage_run _ _ _ hp) quiet_nil
        simpa only [List.append_assoc, List.append_nil] using h
      · exact .early ((hr.quiet hpp).append
          (hc.quiet.append (.of_every (stage_quiet hh hps hpp _) hp)))

end

-- ---------------------------------------------------------------------------
-- Calls that are not quiet
-- ---------------------------------------------------------------------------

def Call.isMove : Call → Bool
  | .moveFile .. => true
  | _ => false

def Call.isSave : Call → Bool
  | .saveRecord _ => true
  | _ => false

def Call.isSync : Call → Bool
  | .triggerSync _ => true
  | _ => false

def Without (f : Call → Bool) (t : List CallStep) : Prop := ∀ e ∈ t, f e.1 = false

section
variable {f : Call → Bool}

@[simp] theorem without_nil : Without f [] := by simp [Without]

@[simp] theorem without_cons : Without f (e :: t) ↔ f e.1 = false ∧ Without f t :=
  List.forall_mem_cons

@[simp] theorem without_append : Without f (t ++ u) ↔ Without f t ∧ Without f u :=
  List.forall_mem_append

theorem Quiet.without (ht : Quiet t) (hf : ∀ c, f c = true → c.quiet = false) : Without f t := by
  intro e he
  by_contra h
  have hq := hf e.1 (Bool.not_eq_false _ ▸ h)
  rw [ht e he] at hq
  cases hq

theorem isMove_loud (c : Call) (h : c.isMove = true) : c.quiet = false := by
  cases c <;> first | rfl | cases h

theorem isSave_loud (c : Call) (h : c.isSave = true) : c.quiet = false := by
  cases c <;> first | rfl | cases h

theorem isSync_loud (c : Call) (h : c.isSync = true) : c.quiet = false := by
  cases c <;> first | rfl | cases h

theorem MovesDone.without (h : MovesDone plan t)
    (hf : ∀ source target, f (.moveFile source target) = false) :
    Without f t := by
  induction h with
  | nil => exact without_nil
  | cons _ _ ih => exact without_cons.mpr ⟨hf _ _, ih⟩

theorem PersistRun.isSync [Interpreter] {plan : List (String × String)}
    (h : PersistRun plan t x) : Without Call.isSync t := by
  have hm : ∀ {plan t}, MovesDone plan t → Without Call.isSync t :=
    fun h => h.without fun _ _ => rfl
  cases h with
  | unstarted => exact without_nil
  | unmoved _ ht _ hu =>
    exact without_append.mpr ⟨hm ht, without_cons.mpr ⟨rfl, hu.without isSync_loud⟩⟩
  | unsaved ht _ _ hu =>
    exact without_append.mpr ⟨hm ht, without_cons.mpr ⟨rfl, hu.without isSync_loud⟩⟩
  | interrupted ht => exact without_append.mpr ⟨hm ht, without_cons.mpr ⟨rfl, without_nil⟩⟩
  | saved ht => exact without_append.mpr ⟨hm ht, without_cons.mpr ⟨rfl, without_nil⟩⟩

/-- A record is stored after the planned moves, once. -/
theorem PersistRun.isSave [Interpreter] {plan : List (String × String)}
    (h : PersistRun plan t x) : Without Call.isSave t ∨
      ∃ m payload r u, t = m ++ ⟨.saveRecord payload, r⟩ :: u ∧ MovesDone plan m ∧
        FromPersist payload ∧ Without Call.isSave u := by
  cases h with
  | unstarted => exact .inl without_nil
  | unmoved _ ht _ hu =>
    exact .inl (without_append.mpr
      ⟨ht.without fun _ _ => rfl, without_cons.mpr ⟨rfl, hu.without isSave_loud⟩⟩)
  | unsaved ht hp _ hu => exact .inr ⟨_, _, _, _, rfl, ht, hp, hu.without isSave_loud⟩
  | interrupted ht hp => exact .inr ⟨_, _, _, _, rfl, ht, hp, without_nil⟩
  | saved ht hp => exact .inr ⟨_, _, _, _, rfl, ht, hp, without_nil⟩

theorem Kept.without (h : Kept e)
    (hf : ∀ recordId candidate, f (.updateBookkeeping recordId candidate) = false) :
    f e.1 = false := by
  obtain ⟨_, _, _, rfl, -⟩ := h
  exact hf _ _

theorem PostPersistRun.isSave (h : PostPersistRun state t x) : Without Call.isSave t := by
  cases h with
  | unstarted => exact without_nil
  | unkept => exact without_cons.mpr ⟨rfl, without_nil⟩
  | kept hk => exact without_cons.mpr ⟨hk.without fun _ _ => rfl, without_nil⟩
  | synchronized _ _ hu =>
    exact without_cons.mpr ⟨rfl, without_cons.mpr ⟨rfl, hu.without isSave_loud⟩⟩

/-- A sync is triggered after the books are kept, once. -/
theorem PostPersistRun.isSync (h : PostPersistRun state t x) : Without Call.isSync t ∨
    ∃ recordId candidate r r' u, t = ⟨.updateBookkeeping recordId candidate, .ok r⟩ ::
      ⟨.triggerSync state, r'⟩ :: u ∧ state.recordId = some recordId ∧
      CallResult.success r = true ∧ Without Call.isSync u := by
  cases h with
  | unstarted => exact .inl without_nil
  | unkept => exact .inl (without_cons.mpr ⟨rfl, without_nil⟩)
  | kept hk => exact .inl (without_cons.mpr ⟨hk.without fun _ _ => rfl, without_nil⟩)
  | synchronized hn hr hu => exact .inr ⟨_, _, _, _, _, rfl, hn, hr, hu.without isSync_loud⟩

theorem PostPersistRun.completed {d : Directive} (h : PostPersistRun state t (.ok d))
    (hd : d.outcome = some .completed) : ∃ e ∈ t, Kept e := by
  generalize hx : (Except.ok d : Except Exn Directive) = x at h
  have hhalt : ¬Halted x := by
    rintro (⟨e⟩ | ⟨outcome, s, ho⟩)
    · cases hx
    · cases hx
      exact ho (Option.some.inj hd)
  cases h with
  | unstarted h => exact absurd h hhalt
  | unkept h => exact absurd h hhalt
  | kept hk => exact ⟨_, List.mem_cons_self, hk⟩
  | synchronized _ hr => exact ⟨_, List.mem_cons_self, _, _, _, rfl, hr⟩

end

-- ---------------------------------------------------------------------------
-- Safety
-- ---------------------------------------------------------------------------

section
variable [Interpreter] (settings : StageSettings) (hooks : EngineHooks)
  (created : Except Exn IngestionState)

/-- What holds of the calls of an ingestion and its outcome. -/
structure PipelineSafe (t : List CallStep) (outcome : IngestionOutcome IngestionState) : Prop where
  /-- Files are moved in `persist`, which the four stages before it lead to. -/
  moves : Without Call.isMove t ∨ ∃ initialState state log q u, created = .ok initialState ∧
    Through settings hooks initialState "persist" state log q ∧
    log.map (·.stageId) = ["resolve", "stabilize", "transform", "route"] ∧
    Without Call.isMove q ∧ t = q ++ u
  /-- A record is stored at most once, right after every planned move. -/
  saves : Without Call.isSave t ∨ ∃ initialState state log q c m payload r u,
    created = .ok initialState ∧ Through settings hooks initialState "persist" state log q ∧
    Quiet q ∧ Quiet c ∧ MovesDone (plannedMoves state) m ∧
    t = q ++ c ++ m ++ ⟨.saveRecord payload, r⟩ :: u ∧ Without Call.isSave u
  /-- A sync is triggered at most once, with the record stored and the books kept. -/
  syncs : Without Call.isSync t ∨ ∃ t₁ state r t₂, t = t₁ ++ ⟨.triggerSync state, r⟩ :: t₂ ∧
    Without Call.isSync t₁ ∧ Without Call.isSync t₂ ∧ (∃ e ∈ t₁, Stored e) ∧ ∃ e ∈ t₁, Kept e
  succeeded : outcome.kind = .succeeded → (∃ e ∈ t, Stored e) ∧ (∃ e ∈ t, Kept e) ∧
    outcome.stageTrace.map (·.stageId) = requiredStageOrder

variable {settings hooks created}

theorem IngestionRun.moves (h : IngestionRun settings hooks created t) :
    Without Call.isMove t ∨ ∃ initialState state log q u, created = .ok initialState ∧
      Through settings hooks initialState "persist" state log q ∧
      log.map (·.stageId) = ["resolve", "stabilize", "transform", "route"] ∧
      Without Call.isMove q ∧ t = q ++ u := by
  have hq : ∀ {initialState state log q},
    Through settings hooks initialState "persist" state log q →
      log.map (·.stageId) = ["resolve", "stabilize", "transform", "route"] ∧
        Without Call.isMove q :=
    fun h => ⟨h.stages.trans (by decide), (h.quiet (by decide)).without isMove_loud⟩
  cases h with
  | early ht => exact .inl (ht.without isMove_loud)
  | persisting hi hr =>
    simp only [List.append_assoc]
    exact .inr ⟨_, _, _, _, _, hi, hr, (hq hr).1, (hq hr).2, rfl⟩
  | persisted _ hi hr =>
    simp only [List.append_assoc]
    exact .inr ⟨_, _, _, _, _, hi, hr, (hq hr).1, (hq hr).2, rfl⟩

theorem IngestionRun.saves (h : IngestionRun settings hooks created t) :
    Without Call.isSave t ∨ ∃ initialState state log q c m payload r u,
      created = .ok initialState ∧ Through settings hooks initialState "persist" state log q ∧
      Quiet q ∧ Quiet c ∧ MovesDone (plannedMoves state) m ∧
      t = q ++ c ++ m ++ ⟨.saveRecord payload, r⟩ :: u ∧ Without Call.isSave u := by
  cases h with
  | early ht => exact .inl (ht.without isSave_loud)
  | persisting hi hr hc hp hu =>
    have hq := hr.quiet (by decide)
    have hu := hu.without isSave_loud
    rcases hp.isSave with hp | ⟨m, payload, r, v, rfl, hm, -, hv⟩
    · exact .inl (by simp [hq.without isSave_loud, hc.quiet.without isSave_loud, hp, hu])
    · exact .inr ⟨_, _, _, _, _, m, payload, r, _, hi, hr, hq, hc.quiet, hm,
        by simp only [List.append_assoc, List.cons_append], without_append.mpr ⟨hv, hu⟩⟩
  | persisted payload hi hr hc hm _ _ _ hc' hp hu =>
    refine .inr ⟨_, _, _, _, _, _, payload, _, _, hi, hr, hr.quiet (by decide), hc.quiet,
      hm, rfl, ?_⟩
    simp [hc'.without isSave_loud, hp.isSave, hu.without isSave_loud]

theorem IngestionRun.fromPersist (h : IngestionRun settings hooks created t) {payload : Dict}
    {r : Call.Res (.saveRecord payload)} (he : ⟨.saveRecord payload, r⟩ ∈ t) :
    FromPersist payload := by
  have hnot : ∀ {u : List CallStep}, Without Call.isSave u → ⟨.saveRecord payload, r⟩ ∉ u := by
    intro u hu hm
    cases hu _ hm
  cases h with
  | early ht => exact absurd he (hnot (ht.without isSave_loud))
  | persisting hi hr hc hp hu =>
    have hq := hnot ((hr.quiet (by decide)).without isSave_loud)
    have hc := hnot (hc.quiet.without isSave_loud)
    have hu := hnot (hu.without isSave_loud)
    simp only [List.mem_append, hq, hc, hu, false_or, or_false] at he
    rcases hp.isSave with hp | ⟨m, payload', r', v, rfl, hm, hf, hv⟩
    · exact absurd he (hnot hp)
    · have hm := hnot (hm.without fun _ _ => rfl)
      simp only [List.mem_append, List.mem_cons, hm, hnot hv, false_or, or_false] at he
      cases he
      exact hf
  | persisted payload' hi hr hc hm hf _ _ hc' hp hu =>
    have hq := hnot ((hr.quiet (by decide)).without isSave_loud)
    have hc := hnot (hc.quiet.without isSave_loud)
    have hm := hnot (hm.without fun _ _ => rfl)
    have hc' := hnot (hc'.without isSave_loud)
    have hu := hnot (hu.without isSave_loud)
    simp only [List.mem_append, List.mem_cons, hq, hc, hm, hc', hnot hp.isSave, hu, false_or,
      or_false] at he
    cases he
    exact hf

theorem IngestionRun.syncs (h : IngestionRun settings hooks created t) :
    Without Call.isSync t ∨ ∃ t₁ state r t₂, t = t₁ ++ ⟨.triggerSync state, r⟩ :: t₂ ∧
      Without Call.isSync t₁ ∧ Without Call.isSync t₂ ∧ (∃ e ∈ t₁, Stored e) ∧
        ∃ e ∈ t₁, Kept e := by
  cases h with
  | early ht => exact .inl (ht.without isSync_loud)
  | persisting hi hr hc hp hu =>
    have hq := (hr.quiet (by decide)).without isSync_loud
    exact .inl (by simp [hq, hc.quiet.without isSync_loud, hp.isSync, hu.without isSync_loud])
  | @persisted payload _ _ _ q c m r _ c' p _ u hi hr hc hm _ hs _ hc' hp hu =>
    have hq := (hr.quiet (by decide)).without isSync_loud
    have hc := hc.quiet.without isSync_loud
    have hm : Without Call.isSync m := hm.without fun _ _ => rfl
    have hc' := hc'.without isSync_loud
    have hu := hu.without isSync_loud
    have hsave : Call.isSync (.saveRecord payload) = false := rfl
    rcases hp.isSync with hp | ⟨recordId, candidate, rk, r', v, rfl, -, hk, hv⟩
    · exact .inl (by simp [hq, hc, hm, hsave, hc', hp, hu])
    · refine .inr ⟨q ++ c ++ m ++ ⟨.saveRecord payload, .ok r⟩ ::
        (c' ++ [⟨.updateBookkeeping recordId candidate, .ok rk⟩]), _, r', v ++ u,
        ?_, ?_, without_append.mpr ⟨hv, hu⟩, ?_, ?_⟩
      · simp only [List.append_assoc, List.cons_append, List.nil_append]
      · have hkeep : Call.isSync (.updateBookkeeping recordId candidate) = false := rfl
        simp [hq, hc, hm, hsave, hc', hkeep]
      · exact ⟨⟨.saveRecord payload, .ok r⟩, by simp, payload, r, rfl, hs⟩
      · exact ⟨⟨.updateBookkeeping recordId candidate, .ok rk⟩, by simp, recordId, candidate,
          rk, rfl, hk⟩

theorem normalizeException_quiet (exc : Exn) (event : Dict) :
    ((ingestionEngine settings hooks).normalizeException exc event).Every IsQuiet := by
  unfold IngestionEngine.normalizeException
  refine .bind ?_ fun classification => .bind ?_ fun failureOutcome => .bind ?_ fun _ => trivial
  · unfold IngestionEngine.safeClassification IngestionEngine.classifyException ingestionEngine
    refine (Prog.Every.attempt ?_).bind fun y => ?_
    · cases hooks.errorHandlingPolicy
      · trivial
      · exact call_every rfl
    · cases y <;> trivial
  · unfold IngestionEngine.safeFailureOutcome IngestionEngine.buildFailureOutcome ingestionEngine
    refine (Prog.Every.attempt ?_).bind fun y => ?_
    · cases hooks.failureOutcomePolicy
      · trivial
      · exact call_every rfl
    · cases y <;> trivial
  · unfold IngestionEngine.emitFailureIfNeeded ingestionEngine
    split
    · trivial
    · cases hooks.failureEmitter
      · trivial
      · refine (Prog.Every.attempt (call_every rfl)).bind fun y => ?_
        cases y <;> trivial

theorem Final.succeeded {initialState : IngestionState} {result : PipelineRunResult IngestionState}
    (hr : Through settings hooks initialState stage state log t)
    (h : Final (ingestionEngine settings hooks).pipelineRunner (stageHandlers settings)
      (cancelled settings hooks) .failed stage state log u (.ok result))
    (hc : result.outcome = .completed) :
    (∃ e ∈ t ++ u, Stored e) ∧ (∃ e ∈ t ++ u, Kept e) ∧
      result.transitionLog.map (·.stageId) = requiredStageOrder := by
  cases h with
  | uncalled _ hx =>
    have hf := hx result rfl
    rw [hc] at hf
    cases hf
  | @ended policy handler c p d outcome hp hh hc' hd hk ho hmem =>
    cases hc
    cases table_completed hp hmem
    cases hh
    obtain ⟨state₀, log₀, q, c', m, payload, r, -, -, -, -, hs, -, rfl⟩ := hr.persisted
    obtain ⟨e, he, hkept⟩ := PostPersistRun.completed (runPostPersistStage_run _ _ _ _ hd) ho
    refine ⟨⟨⟨.saveRecord payload, .ok r⟩, by simp, payload, r, rfl, hs⟩,
      ⟨e, by simp [he], hkept⟩, ?_⟩
    simp only [List.map_append, hr.stages, List.map_cons, List.map_nil]
    decide

theorem run_parts {initialState : IngestionState}
    {x : Except Exn (PipelineRunResult IngestionState)}
    (h : ((ingestionEngine settings hooks).pipelineRunner.run (stageHandlers settings) .failed
      initialState (ingestionEngine settings hooks).cancellationSignal).Ends t x) :
    ∃ stage state log t₁ t₂, t = t₁ ++ t₂ ∧ Through settings hooks initialState stage state log t₁ ∧
      Final (ingestionEngine settings hooks).pipelineRunner (stageHandlers settings)
        (cancelled settings hooks) .failed stage state log t₂ x :=
  loop_ends h .start

/-- Whatever the answers, an ingestion ends with an outcome. -/
theorem process_run (event : Value) (initialStateFactory : Dict → Except Exn IngestionState) :
    ((ingestionEngine settings hooks).process event initialStateFactory).Ensures fun t x =>
      ∃ outcome, x = .ok outcome ∧
        IngestionRun settings hooks (initialStateFactory (coerceEventPayload event)) t ∧
        (outcome.kind = .succeeded → (∃ e ∈ t, Stored e) ∧ (∃ e ∈ t, Kept e) ∧
          outcome.stageTrace.map (·.stageId) = requiredStageOrder) := by
  intro t x h
  rcases IngestionEngine.process_ends h with
    ⟨state, result, hi, hrun, rfl⟩ | ⟨exc, t₁, t₂, outcome, rfl, hn, rfl, hk, hrun⟩
  · obtain ⟨_, _, _, t₁, t₂, rfl, hr, hf⟩ := run_parts hrun
    refine ⟨_, rfl, final_run hi hr hf, ?_⟩
    intro hs
    have hc : result.outcome = .completed := by
      cases ho : result.outcome <;> simp [mapPipelineResult, mapPipelineTerminal, ho] at hs
      rfl
    exact hf.succeeded hr hc
  · have ht₂ : Quiet t₂ := .of_every (normalizeException_quiet exc _) hn
    refine ⟨outcome, rfl, .append ?_ ht₂, fun h => absurd h hk⟩
    rcases hrun with rfl | ⟨state, hi, hrun⟩
    · exact .early quiet_nil
    · obtain ⟨_, _, _, u₁, u₂, rfl, hr, hf⟩ := run_parts hrun
      exact final_run hi hr hf

theorem process_ensures (event : Value) (initialStateFactory : Dict → Except Exn IngestionState) :
    ((ingestionEngine settings hooks).process event initialStateFactory).Ensures fun t x =>
      ∃ outcome, x = .ok outcome ∧ PipelineSafe settings hooks
        (initialStateFactory (coerceEventPayload event)) t outcome := by
  refine (process_run event initialStateFactory).mono ?_
  rintro t x ⟨outcome, hx, hrun, hk⟩
  exact ⟨outcome, hx, hrun.moves, hrun.saves, hrun.syncs, hk⟩

end

section
variable [Interpreter]

/-- An ingestion, run against callables that answer as they please. -/
theorem process_safe {σ : Type} (settings : StageSettings) (hooks : EngineHooks) (event : Value)
    (initialStateFactory : Dict → Except Exn IngestionState) (exec : (c : Call) → σ → c.Res × σ)
    (world : σ) :
    ∃ outcome, (((ingestionEngine settings hooks).process event initialStateFactory).run
        exec world).1 = .ok outcome ∧
      PipelineSafe settings hooks (initialStateFactory (coerceEventPayload event))
        (((ingestionEngine settings hooks).process event initialStateFactory).trace exec world)
        outcome :=
  process_ensures event initialStateFactory _ _ (Prog.run_ends exec _ world)

end

end DpostV2.Ingestion
