import DpostV2.Lib.Prog
import DpostV2.Lib.Python

/-!
# The stage pipeline

`PipelineRunner.run`: a loop over stage handlers that a transition table
keeps in line. `max_steps` bounds it, so its recursion is on the steps left.
Handlers are programs over the actions of their callables.
-/

namespace DpostV2.Ingestion

inductive PipelineTerminalOutcome where
  | completed
  | deferredStage
  | retry
  | rejected
  | failed
  deriving DecidableEq, Repr

def PipelineTerminalOutcome.value : PipelineTerminalOutcome → String
  | .completed => "completed"
  | .deferredStage => "deferred_stage"
  | .retry => "retry"
  | .rejected => "rejected"
  | .failed => "failed"

structure PipelineTransitionPolicy where
  allowedNextStages : List String
  allowedTerminalOutcomes : List PipelineTerminalOutcome

/-- What a handler returns; nothing forces a handler to build it through the
two class methods. -/
structure StageDirective (S : Type) where
  kind : String
  nextStage : Option String := none
  outcome : Option PipelineTerminalOutcome := none
  state : Option S := none

variable {S Act : Type} {Res : Act → Type}

def StageDirective.continueTo (nextStage : String) (state : S) : StageDirective S :=
  { kind := "continue", nextStage := some nextStage, state := some state }

def StageDirective.terminal (outcome : PipelineTerminalOutcome) (state : S) : StageDirective S :=
  { kind := "terminal", outcome := some outcome, state := some state }

theorem terminal_ne_continueTo {outcome : PipelineTerminalOutcome} {nextStage : String}
    {state state' : S} :
    StageDirective.terminal outcome state ≠ StageDirective.continueTo nextStage state' := by
  intro h
  exact absurd (congrArg StageDirective.kind h) (by decide : "terminal" ≠ "continue")

structure PipelineTransitionRecord where
  stageId : String
  directive : String
  nextStage : Option String := none
  outcome : Option PipelineTerminalOutcome := none
  deriving DecidableEq, Repr

structure PipelineRunResult (S : Type) where
  outcome : PipelineTerminalOutcome
  finalStageId : Option String
  state : S
  transitionLog : List PipelineTransitionRecord

abbrev StageHandler (S Act : Type) (Res : Act → Type) := S → Prog Act Res Exn (StageDirective S)

abbrev TransitionTable := List (String × PipelineTransitionPolicy)

def pipelineError (cls message : String) (stageId : Option String) : Exn :=
  { mro := [cls, "PipelineError", "RuntimeError", "Exception"], message, stageId }

def missingStageError (stageId : String) : Exn :=
  pipelineError "PipelineMissingStageError" ("Missing stage handler for stage '" ++ stageId ++ "'.")
    (some stageId)

def transitionError (stageId message : String) : Exn :=
  pipelineError "PipelineTransitionError"
    ("Invalid transition from stage '" ++ stageId ++ "': " ++ message) (some stageId)

def cycleGuardError (maxSteps : Int) : Exn :=
  pipelineError "PipelineCycleGuardError"
    ("Pipeline exceeded max step guard (" ++ toString maxSteps ++ ").") none

structure PipelineRunner where
  startStage : String
  transitionTable : TransitionTable
  maxSteps : Int := 50

/-- What the directive of a stage leads to: the next stage, or the end. -/
def followDirective (policy : PipelineTransitionPolicy) (currentStage : String) (state : S)
    (transitionLog : List PipelineTransitionRecord) (directive : StageDirective S) :
    Except Exn (PipelineRunResult S ⊕ (String × List PipelineTransitionRecord)) :=
  if directive.kind = "continue" then
    match directive.nextStage with
    | none => .error (transitionError currentStage "continue directive must include next stage")
    | some nextStage =>
      if nextStage ∉ policy.allowedNextStages then
        .error (transitionError currentStage
          ("next stage '" ++ nextStage ++ "' is not allowed by transition table"))
      else .ok (.inr (nextStage, transitionLog ++
        [{ stageId := currentStage, directive := "continue", nextStage := some nextStage }]))
  else if directive.kind = "terminal" then
    match directive.outcome with
    | none => .error (transitionError currentStage
        "terminal directive must include terminal outcome")
    | some outcome =>
      if outcome ∉ policy.allowedTerminalOutcomes then
        .error (transitionError currentStage
          ("terminal outcome '" ++ outcome.value ++ "' is not allowed by transition table"))
      else .ok (.inl { outcome, finalStageId := some currentStage, state,
                       transitionLog := transitionLog ++
                        [{ stageId := currentStage, directive := "terminal",
                           outcome := some outcome }] })
  else .error (transitionError currentStage
    ("unknown stage directive '" ++ directive.kind ++ "'"))

section
variable (runner : PipelineRunner) (stageHandlers : String → Option (StageHandler S Act Res))
  (shouldCancel : Prog Act Res Exn Bool) (cancellationOutcome : PipelineTerminalOutcome)

/-- The `while True` of `run`, with the steps it has left. -/
def PipelineRunner.loop : Nat → String → S → List PipelineTransitionRecord → Option String →
    Prog Act Res Exn (PipelineRunResult S)
  | steps, currentStage, state, transitionLog, lastStageId => do
    if ← shouldCancel then
      return { outcome := cancellationOutcome, finalStageId := lastStageId, state, transitionLog }
    else match steps with
    | 0 => Prog.raise (cycleGuardError runner.maxSteps)
    | steps + 1 =>
      match runner.transitionTable.lookup currentStage with
      | none => Prog.raise (transitionError currentStage
          "missing transition policy for current stage")
      | some policy =>
        match stageHandlers currentStage with
        | none => Prog.raise (missingStageError currentStage)
        | some stageHandler => do
          let directive ← stageHandler state
          let state := directive.state.getD state
          match ← Prog.lift (followDirective policy currentStage state transitionLog directive) with
          | .inl result => return result
          | .inr (nextStage, transitionLog) =>
            PipelineRunner.loop steps nextStage state transitionLog (some currentStage)

def PipelineRunner.run (initialState : S) (cancellationSignal : Option (Prog Act Res Exn Bool)) :
    Prog Act Res Exn (PipelineRunResult S) :=
  if runner.maxSteps ≤ 0 then Prog.raise (valueError "max_steps must be greater than 0.")
  else PipelineRunner.loop runner stageHandlers (cancellationSignal.getD (pure false))
    cancellationOutcome runner.maxSteps.toNat runner.startStage initialState [] none

end

def defaultIngestionTransitionTable : TransitionTable :=
  [("resolve", { allowedNextStages := ["stabilize"],
                 allowedTerminalOutcomes := [.rejected, .failed] }),
    ("stabilize", { allowedNextStages := ["transform"],
                    allowedTerminalOutcomes := [.retry, .rejected, .failed] }),
    ("transform", { allowedNextStages := ["route"],
                    allowedTerminalOutcomes := [.deferredStage, .retry, .rejected, .failed] }),
    ("route", { allowedNextStages := ["persist"],
                allowedTerminalOutcomes := [.rejected, .failed] }),
    ("persist", { allowedNextStages := ["post_persist"],
                  allowedTerminalOutcomes := [.retry, .rejected, .failed] }),
    ("post_persist", { allowedNextStages := [],
                       allowedTerminalOutcomes := [.completed, .failed] })]

-- ---------------------------------------------------------------------------
-- Where a run comes to
-- ---------------------------------------------------------------------------

theorem followDirective_ok {policy : PipelineTransitionPolicy} {d : StageDirective S}
    {y : PipelineRunResult S ⊕ (String × List PipelineTransitionRecord)}
    (h : followDirective policy stage state log d = .ok y) :
    (d.kind = "continue" ∧ ∃ next, d.nextStage = some next ∧ next ∈ policy.allowedNextStages ∧
      y = .inr (next, log ++
        [{ stageId := stage, directive := "continue", nextStage := some next }])) ∨
    (d.kind = "terminal" ∧ ∃ outcome, d.outcome = some outcome ∧
      outcome ∈ policy.allowedTerminalOutcomes ∧
      y = .inl { outcome, finalStageId := some stage, state,
                 transitionLog := log ++
                  [{ stageId := stage, directive := "terminal", outcome := some outcome }] }) := by
  unfold followDirective at h
  split at h
  · rename_i hk
    split at h
    · cases h
    · rename_i next hn
      split at h
      · cases h
      · rename_i hmem
        exact .inl ⟨hk, next, hn, not_not.mp hmem, (Except.ok.inj h).symm⟩
  · split at h
    · rename_i hk
      split at h
      · cases h
      · rename_i outcome ho
        split at h
        · cases h
        · rename_i hmem
          exact .inr ⟨hk, outcome, ho, not_not.mp hmem, (Except.ok.inj h).symm⟩
    · cases h

section
variable (runner : PipelineRunner) (stageHandlers : String → Option (StageHandler S Act Res))
  (shouldCancel : Prog Act Res Exn Bool) (cancellationOutcome : PipelineTerminalOutcome)
  (initialState : S)

/-- The loop is about to look at a stage: every stage before it has run and
continued as the table allows. The trace is what has happened since the start. -/
inductive Reached : String → S → List PipelineTransitionRecord → List (Step Act Res) → Prop
  | start : Reached runner.startStage initialState [] []
  | next {stage state log t policy handler tc th d next} : Reached stage state log t →
      runner.transitionTable.lookup stage = some policy → stageHandlers stage = some handler →
      shouldCancel.Ends tc (.ok false) → (handler state).Ends th (.ok d) →
      d.kind = "continue" → d.nextStage = some next → next ∈ policy.allowedNextStages →
      Reached next (d.state.getD state)
        (log ++ [{ stageId := stage, directive := "continue", nextStage := some next }])
        (t ++ tc ++ th)

/-- How a run ends at the stage it has reached. -/
inductive Final (stage : String) (state : S) (log : List PipelineTransitionRecord) :
    List (Step Act Res) → Except Exn (PipelineRunResult S) → Prop
  | uncalled {tc y x} :
    shouldCancel.Ends tc y → (∀ r, x = .ok r → r.outcome = cancellationOutcome) →
      Final stage state log tc x
  | raised {handler tc th y e} : stageHandlers stage = some handler →
      shouldCancel.Ends tc (.ok false) → (handler state).Ends th y →
      Final stage state log (tc ++ th) (.error e)
  | ended {policy handler tc th d outcome} : runner.transitionTable.lookup stage = some policy →
      stageHandlers stage = some handler → shouldCancel.Ends tc (.ok false) →
      (handler state).Ends th (.ok d) → d.kind = "terminal" → d.outcome = some outcome →
      outcome ∈ policy.allowedTerminalOutcomes →
      Final stage state log (tc ++ th)
        (.ok { outcome, finalStageId := some stage, state := d.state.getD state,
               transitionLog := log ++
                [{ stageId := stage, directive := "terminal", outcome := some outcome }] })

variable {runner stageHandlers shouldCancel cancellationOutcome initialState}

/-- A run of the loop ends at some stage that is reached. -/
theorem loop_ends {steps : Nat} {last : Option String} {x : Except Exn (PipelineRunResult S)}
    (h : (runner.loop stageHandlers shouldCancel cancellationOutcome steps stage state log
      last).Ends
      t x) (hr : Reached runner stageHandlers shouldCancel initialState stage state log t₀) :
    ∃ stage' state' log' t₁ t₂, t₀ ++ t = t₁ ++ t₂ ∧
      Reached runner stageHandlers shouldCancel initialState stage' state' log' t₁ ∧
      Final runner stageHandlers shouldCancel cancellationOutcome stage' state' log' t₂ x := by
  induction steps using Nat.strongRecOn generalizing stage state log last t₀ t with
  | ind steps ih =>
    rw [PipelineRunner.loop.eq_def] at h
    rcases Prog.ends_bind.mp h with ⟨e, he, rfl⟩ | ⟨cancel, tc, u, rfl, hc, h⟩
    · exact ⟨_, _, _, _, _, rfl, hr, .uncalled he (by simp)⟩
    have hstop : ∀ y u, (Prog.done y : Prog Act Res Exn _).Ends u x →
        (∀ r, y = .ok r → r.outcome = cancellationOutcome) →
        Final runner stageHandlers shouldCancel cancellationOutcome stage state log
          (tc ++ u) x := by
      rintro y _ ⟨rfl, rfl⟩ hy
      rw [List.append_nil]
      exact .uncalled hc hy
    cases cancel with
    | true => exact ⟨_, _, _, _, _, rfl, hr, hstop _ _ h (by rintro _ ⟨⟩; rfl)⟩
    | false =>
    cases steps with
    | zero => exact ⟨_, _, _, _, _, rfl, hr, hstop _ _ h (by simp)⟩
    | succ steps =>
      simp only [Bool.false_eq_true, if_false] at h
      cases hp : runner.transitionTable.lookup stage with
      | none =>
        rw [hp] at h
        exact ⟨_, _, _, _, _, rfl, hr, hstop _ _ h (by simp)⟩
      | some policy =>
        cases hh : stageHandlers stage with
        | none =>
          rw [hp, hh] at h
          exact ⟨_, _, _, _, _, rfl, hr, hstop _ _ h (by simp)⟩
        | some handler =>
          rw [hp, hh] at h
          rcases Prog.ends_bind.mp h with ⟨e, he, rfl⟩ | ⟨d, th, u, rfl, hd, h⟩
          · exact ⟨_, _, _, _, _, rfl, hr, .raised hh hc he⟩
          rcases Prog.ends_bind.mp h with ⟨e, ⟨rfl, -⟩, rfl⟩ | ⟨y, _, u, rfl, ⟨rfl, hy⟩, h⟩
          · rw [List.append_nil]
            exact ⟨_, _, _, _, _, rfl, hr, .raised hh hc hd⟩
          rcases followDirective_ok hy.symm with ⟨hk, next, hn, hmem, rfl⟩ | ⟨hk, o, ho, hmem, rfl⟩
          · have hr' := hr.next hp hh hc hd hk hn hmem
            obtain ⟨stage', state', log', t₁, t₂, ht, hr'', hf⟩ :=
              ih steps (Nat.lt_succ_self steps) h hr'
            refine ⟨stage', state', log', t₁, t₂, ?_, hr'', hf⟩
            rw [← ht]
            simp
          · obtain ⟨rfl, rfl⟩ := h
            simp only [List.append_nil]
            exact ⟨_, _, _, _, _, rfl, hr, .ended hp hh hc hd hk ho hmem⟩

end

end DpostV2.Ingestion
