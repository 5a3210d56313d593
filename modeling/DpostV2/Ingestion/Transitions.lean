import Mathlib.Data.List.Chain
import DpostV2.Ingestion.Engine

/-!
# The runner and its transition table

The handlers and the cancellation signal of a runner are calls here that may answer
anything. `run_follows_table`: whatever they answer, the stages a run visits are a walk in
the table, the log it returns is that walk, and the state is handed from stage to stage.
-/

namespace DpostV2.Ingestion

inductive RunnerCall (S : Type) where
  | cancelled
  | handle (stage : String) (state : S)

abbrev RunnerCall.Res {S : Type} : RunnerCall S → Type
  | .cancelled => Except Exn Bool
  | .handle .. => Except Exn (StageDirective S)

variable {S : Type}

abbrev RunnerStep (S : Type) := Step (RunnerCall S) RunnerCall.Res

def calledHandlers (registered : String → Bool) :
    String → Option (StageHandler S (RunnerCall S) RunnerCall.Res) := fun stage =>
  if registered stage then some fun state => do Prog.lift (← Prog.perform (.handle stage state))
  else none

def calledSignal : Prog (RunnerCall S) RunnerCall.Res Exn Bool := do
  Prog.lift (← Prog.perform .cancelled)

structure HandlerCall (S : Type) where
  stage : String
  state : S
  answer : Except Exn (StageDirective S)

def handlerCalls (t : List (RunnerStep S)) : List (HandlerCall S) :=
  t.filterMap fun
    | ⟨.handle stage state, answer⟩ => some { stage, state, answer }
    | ⟨.cancelled, _⟩ => none

def visited (t : List (RunnerStep S)) : List String := (handlerCalls t).map HandlerCall.stage

/-- The state of the last directive that carried one. -/
def carried (state : S) (calls : List (HandlerCall S)) : S :=
  calls.foldl (fun state call =>
    match call.answer with
    | .ok directive => directive.state.getD state
    | .error _ => state) state

/-- The run ends with a call that raises `e`. -/
def RaisedBy (t : List (RunnerStep S)) (e : Exn) : Prop :=
  (∃ stage state, t.getLast? = some ⟨.handle stage state, .error e⟩) ∨
    t.getLast? = some ⟨.cancelled, .error e⟩

def Allowed (table : TransitionTable) (stage next : String) : Prop :=
  ∃ policy, table.lookup stage = some policy ∧ next ∈ policy.allowedNextStages

/-- The stages go on from one to the next as the table allows. -/
def Walk (table : TransitionTable) (stage : String) (stages : List String) : Prop :=
  stages = [] ∨ ∃ rest, stages = stage :: rest ∧ List.IsChain (Allowed table) stages

/-- A log of continue steps, from one stage to another. -/
inductive Follows (table : TransitionTable) :
    String → List PipelineTransitionRecord → String → Prop
  | here (stage) : Follows table stage [] stage
  | next {stage next log last} : Allowed table stage next → Follows table next log last →
      Follows table stage
        ({ stageId := stage, directive := "continue", nextStage := some next } :: log) last

/-- How a run that returns has ended, at the stage its continue steps led to. -/
inductive Finished (table : TransitionTable) (cancellationOutcome : PipelineTerminalOutcome)
    (t : List (RunnerStep S)) (last : String) (log : List PipelineTransitionRecord)
    (result : PipelineRunResult S) : Prop
  | terminal (policy : PipelineTransitionPolicy) (listed : table.lookup last = some policy)
      (allowed : result.outcome ∈ policy.allowedTerminalOutcomes)
      (logged : result.transitionLog = log ++
        [{ stageId := last, directive := "terminal", outcome := some result.outcome }])
  | cancelled (signalled : t.getLast? = some ⟨.cancelled, .ok true⟩)
      (outcome : result.outcome = cancellationOutcome) (logged : result.transitionLog = log)

/-- What holds of a run from a stage on, whose log has begun. -/
structure FollowsTable (runner : PipelineRunner) (cancellationOutcome : PipelineTerminalOutcome)
    (steps : Nat) (stage : String) (state : S) (begun : List PipelineTransitionRecord)
    (t : List (RunnerStep S)) (x : Except Exn (PipelineRunResult S)) : Prop where
  bounded : (handlerCalls t).length ≤ steps
  received : ∀ before call after, handlerCalls t = before ++ call :: after →
    call.state = carried state before
  walk : Walk runner.transitionTable stage (visited t)
  returned : ∀ result, x = .ok result → result.state = carried state (handlerCalls t) ∧
    result.transitionLog.map PipelineTransitionRecord.stageId =
      begun.map PipelineTransitionRecord.stageId ++ visited t ∧
    ∃ last log, Follows runner.transitionTable stage log last ∧
      Finished runner.transitionTable cancellationOutcome t last (begun ++ log) result
  guarded : x = .error (cycleGuardError runner.maxSteps) →
    RaisedBy t (cycleGuardError runner.maxSteps) ∨
      ∃ next, (visited t).length = steps ∧ Walk runner.transitionTable stage (visited t ++ [next])

section
variable {runner : PipelineRunner} {cancellationOutcome : PipelineTerminalOutcome}
  {registered : String → Bool} {steps : Nat} {stage : String} {state : S}
  {begun : List PipelineTransitionRecord} {t : List (RunnerStep S)}
  {x : Except Exn (PipelineRunResult S)}

theorem handlerCalls_append {t u : List (RunnerStep S)} :
    handlerCalls (t ++ u) = handlerCalls t ++ handlerCalls u := List.filterMap_append

/-- A run that stops before it calls a handler. -/
theorem FollowsTable.stopped (ht : handlerCalls t = [])
    (hok : ∀ result, x = .ok result → result.state = state ∧ result.transitionLog = begun ∧
      Finished runner.transitionTable cancellationOutcome t stage begun result)
    (herr : x = .error (cycleGuardError runner.maxSteps) →
      RaisedBy t (cycleGuardError runner.maxSteps) ∨ steps = 0) :
    FollowsTable runner cancellationOutcome steps stage state begun t x := by
  have hvisited : visited t = [] := by simp [visited, ht]
  refine ⟨by simp [ht], by simp [ht], .inl hvisited, ?_, ?_⟩
  · intro result hx
    obtain ⟨hstate, hlog, hfinished⟩ := hok result hx
    refine ⟨by simp [ht, hstate, carried], by simp [hlog, hvisited], stage, [], .here stage, ?_⟩
    rwa [List.append_nil]
  · intro hx
    refine (herr hx).imp_right fun hsteps => ⟨stage, by simp [hvisited, hsteps], ?_⟩
    rw [hvisited]
    exact .inr ⟨[], rfl, by simp⟩

theorem signal_ends {given : Bool} {y : Except Exn Bool}
    (h : ((if given then some calledSignal else none).getD (pure false) :
      Prog (RunnerCall S) RunnerCall.Res Exn Bool).Ends t y) :
    t = [⟨.cancelled, y⟩] ∨ t = [] ∧ y = .ok false := by
  cases given with
  | false => exact .inr h
  | true =>
    obtain ⟨r, t', rfl, rfl, rfl⟩ := h
    exact .inl rfl

theorem handler_ends {handler : StageHandler S (RunnerCall S) RunnerCall.Res}
    {y : Except Exn (StageDirective S)} (hhandler : calledHandlers registered stage = some handler)
    (h : (handler state).Ends t y) : t = [⟨.handle stage state, y⟩] := by
  unfold calledHandlers at hhandler
  split at hhandler
  · cases hhandler
    obtain ⟨r, t', rfl, rfl, rfl⟩ := h
    rfl
  · cases hhandler

/-- One handler call that continues, before the rest of a run. -/
theorem FollowsTable.continued {directive : StageDirective S} {next : String}
    {tc rest : List (RunnerStep S)} (hc : handlerCalls tc = [])
    (hallowed : Allowed runner.transitionTable stage next)
    (h : FollowsTable runner cancellationOutcome steps next (directive.state.getD state)
      (begun ++ [{ stageId := stage, directive := "continue", nextStage := some next }]) rest x) :
    FollowsTable runner cancellationOutcome (steps + 1) stage state begun
      (tc ++ ⟨.handle stage state, .ok directive⟩ :: rest) x := by
  have hcalls : handlerCalls (tc ++ ⟨.handle stage state, .ok directive⟩ :: rest) =
      ⟨stage, state, .ok directive⟩ :: handlerCalls rest := by
    rw [handlerCalls_append, hc, List.nil_append]
    rfl
  have hvisited : visited (tc ++ ⟨.handle stage state, .ok directive⟩ :: rest) =
      stage :: visited rest := congrArg (List.map HandlerCall.stage) hcalls
  have hwalk : ∀ stages, Walk runner.transitionTable next stages →
      Walk runner.transitionTable stage (stage :: stages) := by
    rintro stages (rfl | ⟨tail, rfl, hchain⟩)
    · exact .inr ⟨[], rfl, by simp⟩
    · exact .inr ⟨_, rfl, List.isChain_cons_cons.mpr ⟨hallowed, hchain⟩⟩
  refine ⟨?_, ?_, ?_, ?_, ?_⟩
  · rw [hcalls]
    exact Nat.succ_le_succ h.bounded
  · intro before call after hsplit
    rw [hcalls] at hsplit
    cases before with
    | nil =>
      cases hsplit
      rfl
    | cons first before =>
      obtain ⟨rfl, htail⟩ := List.cons.inj hsplit
      exact h.received before call after htail
  · rw [hvisited]
    exact hwalk _ h.walk
  · intro result hx
    obtain ⟨hstate, hstages, last, log, hfollows, hfinished⟩ := h.returned result hx
    refine ⟨by rw [hcalls, hstate]; rfl, by simp [hstages, hvisited], last, _,
      .next hallowed hfollows, ?_⟩
    rw [List.append_assoc] at hfinished
    cases hfinished with
    | terminal policy listed allowed logged => exact .terminal policy listed allowed logged
    | cancelled signalled outcome logged =>
      refine .cancelled ?_ outcome logged
      rw [List.getLast?_append, List.getLast?_cons, signalled]
      rfl
  · intro hx
    refine (h.guarded hx).imp ?_ ?_
    · rintro (⟨stage', state', hlast⟩ | hlast)
      · exact .inl ⟨stage', state', by rw [List.getLast?_append, List.getLast?_cons, hlast]; rfl⟩
      · exact .inr (by rw [List.getLast?_append, List.getLast?_cons, hlast]; rfl)
    · rintro ⟨last, hlength, hlast⟩
      refine ⟨last, by rw [hvisited, List.length_cons, hlength], ?_⟩
      rw [hvisited]
      exact hwalk _ hlast

/-- One handler call after which the run ends. -/
theorem FollowsTable.ended {answer : Except Exn (StageDirective S)} {tc : List (RunnerStep S)}
    (hc : handlerCalls tc = [])
    (hok : ∀ result, x = .ok result → ∃ directive, answer = .ok directive ∧
      result.state = directive.state.getD state ∧
      result.transitionLog.map PipelineTransitionRecord.stageId =
        begun.map PipelineTransitionRecord.stageId ++ [stage] ∧
      Finished runner.transitionTable cancellationOutcome
        (tc ++ [⟨.handle stage state, answer⟩]) stage begun result)
    (herr : x = .error (cycleGuardError runner.maxSteps) →
      answer = .error (cycleGuardError runner.maxSteps)) :
    FollowsTable runner cancellationOutcome (steps + 1) stage state begun
      (tc ++ [⟨.handle stage state, answer⟩]) x := by
  have hcalls : handlerCalls (tc ++ [⟨.handle stage state, answer⟩]) =
    [⟨stage, state, answer⟩] := by
    rw [handlerCalls_append, hc]
    rfl
  refine ⟨by simp [hcalls], ?_, ?_, ?_, ?_⟩
  · intro before call after hsplit
    rw [hcalls] at hsplit
    cases before with
    | nil =>
      cases hsplit
      rfl
    | cons first before => simp at hsplit
  · exact .inr ⟨[], by simp [visited, hcalls], by simp [visited, hcalls]⟩
  · intro result hx
    obtain ⟨directive, rfl, hstate, hstages, hfinished⟩ := hok result hx
    refine ⟨by rw [hcalls, hstate]; rfl, by simp [hstages, visited, hcalls], stage, [],
      .here stage, ?_⟩
    rwa [List.append_nil]
  · intro hx
    exact .inl (.inl ⟨stage, state, by rw [herr hx]; simp⟩)

theorem followDirective_error {policy : PipelineTransitionPolicy} {directive : StageDirective S}
    {e : Exn} (h : followDirective policy stage state begun directive = .error e) :
    ∃ message, e = transitionError stage message := by
  unfold followDirective at h
  split at h
  · split at h
    · exact ⟨_, (Except.error.inj h).symm⟩
    · split at h
      · exact ⟨_, (Except.error.inj h).symm⟩
      · cases h
  · split at h
    · split at h
      · exact ⟨_, (Except.error.inj h).symm⟩
      · split at h
        · exact ⟨_, (Except.error.inj h).symm⟩
        · cases h
    · exact ⟨_, (Except.error.inj h).symm⟩

/-- The signal is asked first, and a run may stop there. -/
theorem signal_follows {given : Bool} {p : Prog (RunnerCall S) RunnerCall.Res Exn Bool}
    {f : Bool → Prog (RunnerCall S) RunnerCall.Res Exn (PipelineRunResult S)}
    (hp : p = (if given then some calledSignal else none).getD (pure false))
    (hstop : ∀ u y, (f true).Ends u y → u = [] ∧ ∃ result, y = .ok result ∧
      result.outcome = cancellationOutcome ∧ result.state = state ∧ result.transitionLog = begun)
    (hgo : ∀ tc u, handlerCalls tc = [] → (f false).Ends u x →
      FollowsTable runner cancellationOutcome steps stage state begun (tc ++ u) x)
    (h : (p >>= f).Ends t x) :
    FollowsTable runner cancellationOutcome steps stage state begun t x := by
  subst hp
  rcases Prog.ends_bind.mp h with ⟨e, he, rfl⟩ | ⟨cancel, tc, u, rfl, hc, hrest⟩
  · rcases signal_ends he with rfl | ⟨-, he⟩
    · refine .stopped rfl nofun fun hx => .inl (.inr ?_)
      cases hx
      rfl
    · cases he
  · cases cancel with
    | true =>
      rcases signal_ends hc with rfl | ⟨-, hc⟩
      · obtain ⟨rfl, result, rfl, houtcome, hstate, hlog⟩ := hstop u x hrest
        refine .stopped rfl ?_ nofun
        rintro _ ⟨⟩
        exact ⟨hstate, hlog, .cancelled rfl houtcome hlog⟩
      · cases hc
    | false =>
      refine hgo tc u ?_ hrest
      rcases signal_ends hc with rfl | ⟨rfl, -⟩
      · rfl
      · rfl

variable (registered) in
theorem loop_follows (given : Bool) (last : Option String)
    (h : (runner.loop (calledHandlers registered)
      ((if given then some calledSignal else none).getD
        (pure false)) cancellationOutcome steps stage
      state begun last).Ends t x) :
    FollowsTable runner cancellationOutcome steps stage state begun t x := by
  induction steps generalizing stage state begun last t with
  | zero =>
    unfold PipelineRunner.loop at h
    refine signal_follows rfl ?_ ?_ h
    · rintro u y ⟨rfl, rfl⟩
      exact ⟨rfl, _, rfl, rfl, rfl, rfl⟩
    · rintro tc u hc ⟨rfl, rfl⟩
      exact .stopped (by simp [hc]) (by rintro _ ⟨⟩) fun _ => .inr rfl
  | succ steps ih =>
    unfold PipelineRunner.loop at h
    refine signal_follows rfl ?_ ?_ h
    · rintro u y ⟨rfl, rfl⟩
      exact ⟨rfl, _, rfl, rfl, rfl, rfl⟩
    · intro tc u hc h
      simp only [Bool.false_eq_true, if_false] at h
      have herror : ∀ {cls message stageId}, cls ≠ "PipelineCycleGuardError" →
          Except.error (pipelineError cls message stageId) ≠
            (.error (cycleGuardError runner.maxSteps) : Except Exn (PipelineRunResult S)) := by
        intro cls message stageId hcls heq
        cases heq
        exact hcls rfl
      cases hpolicy : runner.transitionTable.lookup stage with
      | none =>
        rw [hpolicy] at h
        obtain ⟨rfl, rfl⟩ := h
        exact .stopped (by simp [hc]) (by rintro _ ⟨⟩) fun hx => absurd hx (herror (by decide))
      | some policy =>
        cases hhandler : (calledHandlers registered stage : Option
            (StageHandler S (RunnerCall S) RunnerCall.Res)) with
        | none =>
          rw [hpolicy, hhandler] at h
          obtain ⟨rfl, rfl⟩ := h
          exact .stopped (by simp [hc]) (by rintro _ ⟨⟩) fun hx => absurd hx (herror (by decide))
        | some handler =>
          rw [hpolicy, hhandler] at h
          rcases Prog.ends_bind.mp h with ⟨e, he, rfl⟩ | ⟨directive, th, u, rfl, hd, h⟩
          · rw [handler_ends hhandler he]
            refine .ended hc (by rintro _ ⟨⟩) fun hx => ?_
            cases hx
            rfl
          rw [handler_ends hhandler hd]
          rcases Prog.ends_bind.mp h with ⟨e, ⟨rfl, hy⟩, rfl⟩ | ⟨y, _, u, rfl, ⟨rfl, hy⟩, h⟩
          · obtain ⟨message, rfl⟩ := followDirective_error hy.symm
            exact .ended hc (by rintro _ ⟨⟩) fun hx => absurd hx (herror (by decide))
          rcases followDirective_ok hy.symm with
            ⟨-, next, -, hmem, rfl⟩ | ⟨-, outcome, -, hmem, rfl⟩
          · exact .continued hc ⟨policy, hpolicy, hmem⟩ (ih _ h)
          · obtain ⟨rfl, rfl⟩ := h
            refine .ended hc ?_ (by rintro ⟨⟩)
            rintro _ ⟨⟩
            exact ⟨directive, rfl, rfl, by simp, .terminal policy hpolicy hmem rfl⟩

-- ---------------------------------------------------------------------------
-- The table of the ingestion pipeline
-- ---------------------------------------------------------------------------

/-- Where every step goes to the next entry of a list, a walk from an entry goes along it. -/
theorem chain_prefix {α : Type} {R : α → α → Prop} {order : List α} (hnodup : order.Nodup)
    (hstep : ∀ a b, R a b → ∃ pre post, order = pre ++ a :: b :: post) (pre : List α)
    {post rest : List α} {a : α}
    (horder : order = pre ++ a :: post) (hchain : List.IsChain R (a :: rest)) :
    a :: rest <+: a :: post := by
  induction rest generalizing pre a post with
  | nil => exact ⟨post, rfl⟩
  | cons b rest ih =>
    obtain ⟨hab, htail⟩ := List.isChain_cons_cons.mp hchain
    obtain ⟨pre', post', horder'⟩ := hstep a b hab
    have hsplit : a ∉ pre ∧ a ∉ post := by
      rw [horder] at hnodup
      obtain ⟨-, hpost, hdisjoint⟩ := List.nodup_append.mp hnodup
      exact ⟨fun hmem => hdisjoint a hmem a (.head _) rfl, (List.nodup_cons.mp hpost).1⟩
    obtain ⟨rfl, -, rfl⟩ := (List.append_cons_inj_of_notMem hsplit.1 hsplit.2).mp
      (horder.symm.trans horder')
    exact (List.prefix_cons_inj a).mpr (ih (pre ++ [a]) (by simpa using horder) htail)

theorem defaultTable_next {stage next : String}
    (h : Allowed defaultIngestionTransitionTable stage next) :
    ∃ pre post, requiredStageOrder = pre ++ stage :: next :: post := by
  obtain ⟨policy, hpolicy, hnext⟩ := h
  obtain ⟨before, after, htable, -⟩ := List.lookup_eq_some_iff.mp hpolicy
  have hmem : (stage, policy) ∈ defaultIngestionTransitionTable := by simp [htable]
  simp only [defaultIngestionTransitionTable, List.mem_cons, List.not_mem_nil, or_false,
    Prod.mk.injEq] at hmem
  rcases hmem with ⟨rfl, rfl⟩ | ⟨rfl, rfl⟩ | ⟨rfl, rfl⟩ | ⟨rfl, rfl⟩ | ⟨rfl, rfl⟩ | ⟨rfl, rfl⟩
  · cases List.mem_singleton.mp hnext
    exact ⟨[], _, rfl⟩
  · cases List.mem_singleton.mp hnext
    exact ⟨["resolve"], _, rfl⟩
  · cases List.mem_singleton.mp hnext
    exact ⟨["resolve", "stabilize"], _, rfl⟩
  · cases List.mem_singleton.mp hnext
    exact ⟨["resolve", "stabilize", "transform"], _, rfl⟩
  · cases List.mem_singleton.mp hnext
    exact ⟨["resolve", "stabilize", "transform", "route"], _, rfl⟩
  · cases hnext

theorem defaultTable_walk {stages : List String}
    (h : Walk defaultIngestionTransitionTable "resolve" stages) :
      stages <+: requiredStageOrder := by
  rcases h with rfl | ⟨rest, rfl, hchain⟩
  · exact List.nil_prefix
  · exact chain_prefix (by decide) (fun _ _ => defaultTable_next) []
      (rfl : requiredStageOrder = _) hchain

end

/-- Whatever the handlers and the signal of a run answer, it keeps to its table. -/
theorem run_follows_table (runner : PipelineRunner) (hmax : 0 < runner.maxSteps)
    (registered : String → Bool) (signalled : Bool) (cancellationOutcome : PipelineTerminalOutcome)
    (initialState : S) {W : Type} (exec : (c : RunnerCall S) → W → c.Res × W) (world : W) :
    let run := runner.run (calledHandlers registered) cancellationOutcome initialState
      (if signalled then some calledSignal else none)
    FollowsTable runner cancellationOutcome runner.maxSteps.toNat runner.startStage initialState []
        (run.trace exec world) (run.run exec world).1 ∧
      (runner.transitionTable = defaultIngestionTransitionTable → runner.startStage = "resolve" →
        visited (run.trace exec world) <+: requiredStageOrder ∧
        (visited (run.trace exec world)).Nodup ∧
        (6 ≤ runner.maxSteps → (run.run exec world).1 = .error (cycleGuardError runner.maxSteps) →
          RaisedBy (run.trace exec world) (cycleGuardError runner.maxSteps))) := by
  intro run
  have hends := Prog.run_ends exec run world
  have hfollows : FollowsTable runner cancellationOutcome runner.maxSteps.toNat runner.startStage
      initialState [] (run.trace exec world) (run.run exec world).1 := by
    refine loop_follows registered signalled none ?_
    have hrun : run = runner.loop (calledHandlers registered)
        ((if signalled then some calledSignal else none).getD (pure false)) cancellationOutcome
        runner.maxSteps.toNat runner.startStage initialState [] none := if_neg (not_le.mpr hmax)
    rwa [← hrun]
  refine ⟨hfollows, fun htable hstart => ?_⟩
  have hwalk := hfollows.walk
  have hguarded := hfollows.guarded
  rw [htable, hstart] at hwalk hguarded
  have hwritten := defaultTable_walk hwalk
  refine ⟨hwritten, List.Nodup.sublist hwritten.sublist (by decide), ?_⟩
  intro hsteps herror
  rcases hguarded herror with hraised | ⟨next, hlength, hnext⟩
  · exact hraised
  · have hlong := (defaultTable_walk hnext).length_le
    simp only [List.length_append, requiredStageOrder, List.length_cons,
      List.length_nil] at hlong
    omega

/-- A world whose handlers go on along the required stages, and complete. -/
def passing : (c : RunnerCall Unit) → Unit → c.Res × Unit
  | .cancelled, w => (.ok false, w)
  | .handle stage state, w =>
    (.ok (match (requiredStageOrder.dropWhile (· ≠ stage)).tail with
      | next :: _ => .continueTo next state
      | [] => .terminal .completed state), w)

theorem passing_follows_table :
    FollowsTable { startStage := "resolve",
                   transitionTable := defaultIngestionTransitionTable } .failed
      50 "resolve" () [] (Prog.trace passing (PipelineRunner.run
        { startStage := "resolve", transitionTable := defaultIngestionTransitionTable }
        (calledHandlers fun _ => true) .failed () (some calledSignal)) ())
      (Prog.run passing (PipelineRunner.run
        { startStage := "resolve", transitionTable := defaultIngestionTransitionTable }
        (calledHandlers fun _ => true) .failed () (some calledSignal)) ()).1 :=
  (run_follows_table { startStage := "resolve", transitionTable := defaultIngestionTransitionTable }
    (by decide) (fun _ => true) true .failed () passing ()).1

end DpostV2.Ingestion
