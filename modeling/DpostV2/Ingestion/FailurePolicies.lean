import DpostV2.Ingestion.Engine

/-!
# The failure policies, and an engine wired with them

`classify_exception` and `build_failure_outcome`. The outcome they build
carries a member of their own enumeration of terminal types, and the engine
compares it with the members of its own: whatever the policies say of an
exception of the pipeline, the processed event has failed terminally
(`process_wired`).
-/

namespace DpostV2.Ingestion

section
variable [Interpreter]

-- ---------------------------------------------------------------------------
-- `error_handling`
-- ---------------------------------------------------------------------------

/-- `[A-Z]`. -/
def asciiUpper (c : Char) : Bool := 'A' ≤ c && c ≤ 'Z'

/-- `[a-z]`. -/
def asciiLower (c : Char) : Bool := 'a' ≤ c && c ≤ 'z'

/-- `[a-z0-9]`. -/
def asciiLowerOrDigit (c : Char) : Bool := asciiLower c || ('0' ≤ c && c ≤ '9')

/-- `re.sub("(.)([A-Z][a-z]+)", r"\1_\2", ..)`; the flag says that the text goes on inside the
`[a-z]+` of a match. -/
def splitWords : Bool → List Char → List Char
  | inWord, c :: u :: l :: rest =>
    if inWord && asciiLower c then c :: splitWords true (u :: l :: rest)
    else if c ≠ '\n' && asciiUpper u && asciiLower l
      then c :: '_' :: u :: splitWords true (l :: rest)
    else c :: splitWords false (u :: l :: rest)
  | _, cs => cs

/-- `re.sub("([a-z0-9])([A-Z])", r"\1_\2", ..)`. -/
def splitCapitals : List Char → List Char
  | c :: u :: rest =>
    if asciiLowerOrDigit c && asciiUpper u then c :: '_' :: u :: splitCapitals rest
    else c :: splitCapitals (u :: rest)
  | cs => cs

def snakeCaseTypeName (name : String) : String :=
  Interpreter.lower (String.ofList (splitCapitals (splitWords false name.toList)))

/-- `needle in text`. -/
def isIn (needle text : String) : Bool := text.toList.tails.any needle.toList.isPrefixOf

def classifyException (exc : Exn) (stageId : Option String) : FailureClassification :=
  { reasonCode := snakeCaseTypeName exc.className, severity := "error",
    retryable := exc.isInstance "TimeoutError" || exc.isInstance "ConnectionError" ||
      (exc.isInstance "RuntimeError" && isIn "retry" (Interpreter.lower exc.message)),
    stageId, diagnostics := [("message", exc.message), ("type", exc.className)] }

end

-- ---------------------------------------------------------------------------
-- `failure_outcome`
-- ---------------------------------------------------------------------------

def failureOutcomeTypeError (message : String) : Exn :=
  { mro := ["FailureOutcomeTypeError", "FailureOutcomeError", "ValueError", "Exception"], message }

def resolvedTerminal (classification : FailureClassification)
    (terminalType : Option PolicyTerminalType) : PolicyTerminalType :=
  terminalType.getD (if classification.retryable then .retry else .failed)

def buildFailureOutcome (classification : FailureClassification)
    (terminalType : Option PolicyTerminalType) (retryPlan : Option Dict) (shouldEmit : Bool) :
    Except Exn FailureOutcome :=
  let resolvedTerminal := resolvedTerminal classification terminalType
  if resolvedTerminal = .retry ∧ retryPlan.isNone then
    .error (failureOutcomeTypeError "Retry terminal type requires a retry plan payload.")
  else if resolvedTerminal ≠ .retry ∧ retryPlan.isSome then
    .error (failureOutcomeTypeError
      "Non-retry terminal types must not include a retry plan payload.")
  else .ok { terminalType := .policy resolvedTerminal, stageId := classification.stageId,
             reasonCode := classification.reasonCode, severity := classification.severity,
             retryPlan, shouldEmit }

-- ---------------------------------------------------------------------------
-- The wired engine
-- ---------------------------------------------------------------------------

variable {S Act : Type} {Res : Act → Type} {σ : Type}

/-- What `build_failure_outcome` is called with besides the classification. -/
structure OutcomeArguments where
  terminalType : Option PolicyTerminalType := none
  retryPlan : Option Dict := none
  shouldEmit : Bool := true

/-- The engine with `classify_exception` and `build_failure_outcome` as its policies. -/
def wiredEngine [Interpreter] (engine : IngestionEngine S Act Res)
    (arguments : OutcomeArguments) : IngestionEngine S Act Res :=
  { engine with
    errorHandlingPolicy := some fun exc stageId => return classifyException exc stageId
    failureOutcomePolicy := some fun classification => Prog.lift
      (buildFailureOutcome classification arguments.terminalType arguments.retryPlan
        arguments.shouldEmit) }

/-- The value of a terminal type, the same in both enumerations. -/
def TerminalMember.value : TerminalMember → String
  | .engine .retry | .policy .retry => "retry"
  | .engine .rejected | .policy .rejected => "rejected"
  | .engine .failed | .policy .failed => "failed"

/-- The outcome of an event says what the policy's outcome says, and that of a
retryable exception is not terminal. -/
structure KeepsVerdict (classification : FailureClassification)
    (verdict : Except Exn FailureOutcome) (outcome : IngestionOutcome S) : Prop where
  retry : ∀ o, verdict = .ok o → o.terminalType.value = "retry" →
    outcome.kind = .deferredRetry ∧ outcome.retryPlan = o.retryPlan
  rejected : ∀ o, verdict = .ok o → o.terminalType.value = "rejected" → outcome.kind = .rejected
  failed : ∀ o, verdict = .ok o → o.terminalType.value = "failed" → outcome.kind = .failedTerminal
  retryable : classification.retryable = true → outcome.kind ≠ .failedTerminal

section
variable (engine : IngestionEngine S Act Res) (arguments : OutcomeArguments)
  (exec : (c : Act) → σ → Res c × σ)

theorem emitFailureIfNeeded_run (failureOutcome : FailureOutcome) (event : Dict) (s : σ) :
    ∃ status, ((engine.emitFailureIfNeeded failureOutcome event).run exec s).1 = .ok status :=
  IngestionEngine.emitFailureIfNeeded_ok failureOutcome event _ _
    (Prog.run_ends exec (engine.emitFailureIfNeeded failureOutcome event) s)

theorem buildFailureOutcome_terminal {classification : FailureClassification} {o : FailureOutcome}
    (h : buildFailureOutcome classification arguments.terminalType arguments.retryPlan
      arguments.shouldEmit = .ok o) :
    o.terminalType = .policy (resolvedTerminal classification arguments.terminalType) ∧
      o.retryPlan = arguments.retryPlan ∧
      (resolvedTerminal classification arguments.terminalType = .retry ↔
        arguments.retryPlan.isSome = true) := by
  unfold buildFailureOutcome at h
  simp only at h
  split at h
  · cases h
  · rename_i hretry
    split at h
    · cases h
    · rename_i hother
      cases h
      refine ⟨rfl, rfl, ?_, ?_⟩
      · intro ht
        rw [Option.isSome_iff_ne_none]
        rintro hnone
        exact hretry ⟨ht, by rw [hnone]; rfl⟩
      · intro hs
        by_contra ht
        exact hother ⟨ht, hs⟩

theorem buildFailureOutcome_ok (classification : FailureClassification)
    (h : resolvedTerminal classification arguments.terminalType = .retry ↔
      arguments.retryPlan.isSome = true) :
    ∃ o, buildFailureOutcome classification arguments.terminalType arguments.retryPlan
      arguments.shouldEmit = .ok o := by
  unfold buildFailureOutcome
  simp only
  split
  · rename_i hretry
    obtain ⟨ht, hnone⟩ := hretry
    rw [Option.isNone_iff_eq_none] at hnone
    rw [hnone] at h
    exact absurd (h.mp ht) (by simp)
  · split
    · rename_i hother
      exact absurd (h.mpr hother.2) hother.1
    · exact ⟨_, rfl⟩

/-- The outcome the wired engine goes on with: the policy's, or a failure of its own. -/
def failureVerdict (classification : FailureClassification) : FailureOutcome :=
  match buildFailureOutcome classification arguments.terminalType arguments.retryPlan
    arguments.shouldEmit with
  | .ok o => o
  | .error _ =>
    { terminalType := .engine .failed, stageId := classification.stageId,
      reasonCode := classification.reasonCode, severity := classification.severity,
      retryPlan := none, shouldEmit := true }

theorem mapFailureTerminal_verdict (classification : FailureClassification) :
    mapFailureTerminal (failureVerdict arguments classification).terminalType =
      .failedTerminal := by
  unfold failureVerdict
  split
  · rename_i o ho
    rw [(buildFailureOutcome_terminal arguments ho).1]
    rfl
  · rfl

/-- `build_failure_outcome` is asked for a plain failure, or refuses what it is asked for. -/
def OutcomeArguments.Failing (arguments : OutcomeArguments) : Prop :=
  match arguments.terminalType with
  | none | some .failed => True
  | some .retry => arguments.retryPlan = none
  | some .rejected => arguments.retryPlan.isSome = true

theorem KeepsVerdict.failed_only {classification : FailureClassification}
    {verdict : Except Exn FailureOutcome} {outcome : IngestionOutcome S}
    (h : KeepsVerdict classification verdict outcome) (hkind : outcome.kind = .failedTerminal) :
    ∀ o, verdict = .ok o → o.terminalType.value = "failed" := by
  intro o ho
  have hretry := h.retry o ho
  have hrejected := h.rejected o ho
  cases hterminal : o.terminalType with
  | engine terminalType | policy terminalType =>
    cases terminalType with
    | failed => rfl
    | retry => exact absurd (hkind ▸ (hretry (by rw [hterminal]; rfl)).1) (by decide)
    | rejected => exact absurd (hkind ▸ hrejected (by rw [hterminal]; rfl)) (by decide)

theorem failing_iff {classification : FailureClassification}
    (hretryable : classification.retryable = false) :
    (∀ o, buildFailureOutcome classification arguments.terminalType arguments.retryPlan
      arguments.shouldEmit = .ok o → o.terminalType.value = "failed") ↔ arguments.Failing := by
  constructor
  · intro h
    have hplanned : ∀ t, arguments.terminalType = some t →
        (t = .retry ↔ arguments.retryPlan.isSome = true) → t = .failed := by
      intro t ht hplan
      have hresolved : resolvedTerminal classification arguments.terminalType = t := by
        rw [ht]
        rfl
      obtain ⟨o, ho⟩ := buildFailureOutcome_ok arguments classification (hresolved ▸ hplan)
      have hvalue := h o ho
      rw [(buildFailureOutcome_terminal arguments ho).1, hresolved] at hvalue
      cases t with
      | failed => rfl
      | retry | rejected => exact absurd hvalue (by decide)
    unfold OutcomeArguments.Failing
    split
    · trivial
    · trivial
    · rename_i ht
      by_contra hplan
      cases hplanned _ ht ⟨fun _ => Option.isSome_iff_ne_none.mpr hplan, fun _ => rfl⟩
    · rename_i ht
      by_contra hplan
      cases hplanned _ ht ⟨fun h => (nomatch h), fun h => absurd h hplan⟩
  · intro hfailing o ho
    obtain ⟨hterminal, -, hplan⟩ := buildFailureOutcome_terminal arguments ho
    rw [hterminal]
    unfold OutcomeArguments.Failing at hfailing
    split at hfailing
    · rename_i hnone
      rw [hnone, resolvedTerminal, hretryable]
      rfl
    · rename_i hf
      rw [hf]
      rfl
    · rename_i hr
      rw [hfailing, hr] at hplan
      exact absurd (hplan.mp rfl) (by simp)
    · rename_i hr
      rw [hr] at hplan
      cases hplan.mpr hfailing

variable [Interpreter]

theorem safeFailureOutcome_wired (classification : FailureClassification) :
    (wiredEngine engine arguments).safeFailureOutcome classification =
      return failureVerdict arguments classification := by
  unfold IngestionEngine.safeFailureOutcome failureVerdict
  simp only [IngestionEngine.buildFailureOutcome, wiredEngine, Prog.lift, Prog.attempt,
    Prog.bind_ok]
  cases buildFailureOutcome classification arguments.terminalType arguments.retryPlan
    arguments.shouldEmit <;> rfl

/-- An exception normalized by the wired engine has failed terminally. -/
theorem normalizeException_wired (exc : Exn) (event : Dict) (s : σ) :
    ∃ outcome, (((wiredEngine engine arguments).normalizeException exc event).run exec s).1 =
      .ok outcome ∧ outcome.kind = .failedTerminal := by
  have hclass : (wiredEngine engine arguments).safeClassification exc exc.stageId =
      return classifyException exc exc.stageId := rfl
  unfold IngestionEngine.normalizeException
  rw [hclass, Prog.pure_eq, Prog.bind_ok, safeFailureOutcome_wired, Prog.pure_eq, Prog.bind_ok,
    Prog.run_bind]
  obtain ⟨status, hstatus⟩ := emitFailureIfNeeded_run (wiredEngine engine arguments) exec
    (failureVerdict arguments (classifyException exc exc.stageId)) event s
  generalize Prog.run exec _ s = ran at *
  obtain ⟨result, s'⟩ := ran
  subst hstatus
  exact ⟨_, rfl, mapFailureTerminal_verdict arguments _⟩

/-- Whatever the pipeline raised, the event has failed terminally. -/
theorem process_wired {event : Value} {factory : Dict → Except Exn S} {state : S} {exc : Exn}
    {s : σ} (hstate : factory (coerceEventPayload event) = .ok state)
    (hraised : ((engine.pipelineRunner.run engine.stageHandlers .failed state
      engine.cancellationSignal).run exec s).1 = .error exc) :
    ∃ outcome, (((wiredEngine engine arguments).process event factory).run exec s).1 = .ok outcome ∧
      outcome.kind = .failedTerminal := by
  have hrun : (Prog.run exec (do
      let initialState ← Prog.lift (factory (coerceEventPayload event))
      let result ← (wiredEngine engine arguments).pipelineRunner.run
        (wiredEngine engine arguments).stageHandlers .failed initialState
        (wiredEngine engine arguments).cancellationSignal
      return mapPipelineResult result) s).1 = .error exc := by
    rw [hstate, Prog.lift, Prog.bind_ok]
    exact Prog.run_bind_error hraised
  unfold IngestionEngine.process
  rw [Prog.run_bind, Prog.run_attempt, hrun]
  exact normalizeException_wired engine arguments exec exc (coerceEventPayload event) _

/-- The verdict of the policies survives the engine if and only if it is a
failure: the exception is not retryable, and no retry and no rejection was
asked for. -/
theorem verdict_kept_iff (event : Value) (factory : Dict → Except Exn S) (state : S) (exc : Exn)
    (s : σ) (hstate : factory (coerceEventPayload event) = .ok state)
    (hraised : ((engine.pipelineRunner.run engine.stageHandlers .failed state
      engine.cancellationSignal).run exec s).1 = .error exc) :
    (∃ outcome, (((wiredEngine engine arguments).process event factory).run exec s).1 =
      .ok outcome ∧
      KeepsVerdict (classifyException exc exc.stageId)
        (buildFailureOutcome (classifyException exc exc.stageId) arguments.terminalType
          arguments.retryPlan arguments.shouldEmit) outcome) ↔
    (classifyException exc exc.stageId).retryable = false ∧ arguments.Failing := by
  obtain ⟨outcome, hrun, hkind⟩ := process_wired engine arguments exec hstate hraised
  generalize classifyException exc exc.stageId = classification
  rw [hrun]
  constructor
  · rintro ⟨_, heq, hkeeps⟩
    cases heq
    have hretryable : classification.retryable = false := by
      by_contra h
      exact hkeeps.retryable (by simpa using h) hkind
    exact ⟨hretryable, (failing_iff arguments hretryable).mp (hkeeps.failed_only hkind)⟩
  · rintro ⟨hretryable, hfailing⟩
    have hfailed := (failing_iff arguments hretryable).mpr hfailing
    refine ⟨outcome, rfl, ?_, ?_, fun _ _ _ => hkind, by simp [hretryable]⟩
    · intro o ho hvalue
      rw [hfailed o ho] at hvalue
      exact absurd hvalue (by decide)
    · intro o ho hvalue
      rw [hfailed o ho] at hvalue
      exact absurd hvalue (by decide)

end

section
attribute [local instance] Interpreter.ascii

/-- An engine whose stages all raise one exception. -/
def raisingEngine (exc : Exn) : IngestionEngine Unit Empty fun _ => Unit :=
  { pipelineRunner :=
      { startStage := "resolve", transitionTable := defaultIngestionTransitionTable }
    stageHandlers := fun _ => some fun _ => Prog.raise exc }

def processRaising (exc : Exn) (arguments : OutcomeArguments) :
    Except Exn (IngestionOutcome Unit) :=
  (((wiredEngine (raisingEngine exc) arguments).process (.dict []) fun _ => .ok ()).run
    (fun a => a.elim) ()).1

/-- A `ValueError` is a failure, and stays one. -/
theorem verdict_kept_valueError : ∃ outcome, processRaising (valueError "bad") {} = .ok outcome ∧
    KeepsVerdict (classifyException (valueError "bad") none)
      (buildFailureOutcome (classifyException (valueError "bad") none) none none true) outcome :=
  (verdict_kept_iff (raisingEngine (valueError "bad")) {} (fun a => a.elim) (.dict [])
    (fun _ => .ok ()) () (valueError "bad") () rfl rfl).mpr ⟨by decide +kernel, trivial⟩

def timedOut : Exn :=
  { mro := ["TimeoutError", "OSError", "Exception"], message := "timed out" }

def withRetryPlan : OutcomeArguments where
  terminalType := some .retry
  retryPlan := some (Dict.ofEntries [("delay_seconds", .int 5), ("next_attempt", .int 1)])

/-- A timeout fails terminally: without a retry plan because the policy
refuses, with one although the policy says retry. -/
theorem timeoutFailsTerminally :
    (classifyException timedOut none).retryable = true ∧
      (∃ outcome, processRaising timedOut {} = .ok outcome ∧ outcome.kind = .failedTerminal) ∧
      ∃ o outcome, buildFailureOutcome (classifyException timedOut none) withRetryPlan.terminalType
          withRetryPlan.retryPlan true = .ok o ∧ o.terminalType.value = "retry" ∧
        processRaising timedOut withRetryPlan = .ok outcome ∧ outcome.kind = .failedTerminal ∧
        ¬KeepsVerdict (classifyException timedOut none) (.ok o) outcome := by
  refine ⟨by decide +kernel, ⟨_, rfl, rfl⟩, _, _, rfl, rfl, rfl, rfl, fun h => ?_⟩
  cases (h.retry _ rfl rfl).1

end

end DpostV2.Ingestion
