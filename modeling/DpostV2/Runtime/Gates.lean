import DpostV2.Runtime.Engine

/-!
# The duplicate gates

Two gates answer the stabilize stage. The runtime's `_ModifiedEventGateState`
hands back a mapping, in which the stage looks for an attribute: it drops
nothing (`duplicates_dropped_iff`). `ModifiedEventGate` has a debounce window,
and enters every attempt it allows before the settle delay has been looked at:
the next attempt at a settling candidate is its own duplicate unless the window
is over (`settled_iff`).
-/

namespace DpostV2.Runtime

open DpostV2.Ingestion

-- ---------------------------------------------------------------------------
-- Answers
-- ---------------------------------------------------------------------------

inductive ModifiedEventDecision where
  | allow
  | defer
  | dropDuplicate
  deriving DecidableEq, Repr

def ModifiedEventDecision.value : ModifiedEventDecision → String
  | .allow => "allow"
  | .defer => "defer"
  | .dropDuplicate => "drop_duplicate"

structure ModifiedEventGateResult where
  decision : ModifiedEventDecision
  reasonCode : String
  nextEligibleAt : Option Seconds := none

/-- What a gate hands back. -/
inductive GateResult where
  | result (r : ModifiedEventGateResult)
  | mapping (entries : Dict)

/-- The text of the attribute `decision`. A mapping has entries, and no such attribute. -/
def GateResult.decision? : GateResult → Option String
  | .result r => some r.decision.value
  | .mapping _ => none

/-- The time of the last evaluation a gate has entered for a key. -/
abbrev LastSeen := String → Option Seconds

-- ---------------------------------------------------------------------------
-- The stage with a gate's answer
-- ---------------------------------------------------------------------------

section
variable [Interpreter] {W : Type} (settleDelaySeconds : Seconds)

def RejectedDuplicate (state : IngestionState) (x : Except Exn Directive) : Prop :=
  x = .ok (.terminal .rejected (state.withReason "stabilize" "duplicate_event"))

def RetriedUnsettled (state : IngestionState) (x : Except Exn Directive) : Prop :=
  ∃ age, x = .ok (.terminal .retry (state.withDiagnostics "stabilize"
    [("reason_code", .str "settle_delay_not_elapsed"), ("age_seconds", .float age),
      ("required_seconds", .float settleDelaySeconds)]))

def ContinuedReady (state : IngestionState) (x : Except Exn Directive) : Prop :=
  x = .ok (.continueTo "transform" (state.withReason "stabilize" "ready"))

/-- What the stage makes of the gate's decision. -/
def stabilized (state : IngestionState) (candidate : Candidate) (nowValue : Seconds)
    (decision : String) : Directive :=
  if decision = "drop_duplicate" then
    .terminal .rejected (state.withReason "stabilize" "duplicate_event")
  else if decision = "defer" ∨ decision = "defer_retry" then
    .terminal .retry (state.withReason "stabilize" "gate_deferred")
  else match candidate.modifiedAt with
  | none => .terminal .failed (state.withReason "stabilize" "missing_modified_timestamp")
  | some modifiedAt =>
    if nowValue < modifiedAt then
      .terminal .failed (state.withReason "stabilize" "clock_regression")
    else if nowValue - modifiedAt < settleDelaySeconds then
      .terminal .retry (state.withDiagnostics "stabilize"
        [("reason_code", .str "settle_delay_not_elapsed"),
          ("age_seconds", .float (nowValue - modifiedAt)),
          ("required_seconds", .float settleDelaySeconds)])
    else .continueTo "transform" (state.withReason "stabilize" "ready")

variable {exec : (c : Call) → W → c.Res × W} (state : IngestionState) {candidate : Candidate}
  {w w₁ w₂ : W} {now : Seconds}

theorem stabilize_negative (exec : (c : Call) → W → c.Res × W) (w : W)
    (h : settleDelaySeconds < 0) :
    ∃ e, (runStabilizeStage settleDelaySeconds state).run exec w = (.error e, w) := by
  unfold runStabilizeStage
  rw [if_pos h]
  exact ⟨_, rfl⟩

theorem stabilize_run {decision : Option String} (hsettle : ¬settleDelaySeconds < 0)
    (hcandidate : state.candidate = some candidate) (hnow : exec .now w = (.ok (.float now), w₁))
    (hgate : exec (.modifiedEventGate candidate.identityToken now) w₁ = (.ok decision, w₂)) :
    (runStabilizeStage settleDelaySeconds state).run exec w =
      (.ok (stabilized settleDelaySeconds state candidate now (decision.getD "allow")), w₂) := by
  unfold runStabilizeStage stabilized
  rw [if_neg hsettle, hcandidate]
  simp only [call, Prog.lift, pyFloat, Prog.bind_act, Prog.bind_ok, Prog.run, hnow, hgate]
  split
  · rfl
  · split
    · rfl
    · cases candidate.modifiedAt with
      | none => rfl
      | some modifiedAt =>
        simp only
        split
        · rfl
        · split <;> rfl

theorem stabilize_raises {e : Exn} (hsettle : ¬settleDelaySeconds < 0)
    (hcandidate : state.candidate = some candidate) (hnow : exec .now w = (.ok (.float now), w₁))
    (hgate : exec (.modifiedEventGate candidate.identityToken now) w₁ = (.error e, w₂)) :
    (runStabilizeStage settleDelaySeconds state).run exec w = (.error e, w₂) := by
  unfold runStabilizeStage
  rw [if_neg hsettle, hcandidate]
  simp only [call, Prog.lift, pyFloat, Prog.bind_act, Prog.bind_ok, Prog.bind_error, Prog.run, hnow,
    hgate]

end

section
variable (settleDelaySeconds : Seconds) (state : IngestionState) (candidate : Candidate)
  (now : Seconds)

theorem stabilized_allow_outcome :
    (stabilized settleDelaySeconds state candidate now "allow").outcome ≠ some .rejected := by
  unfold stabilized
  rw [if_neg (by decide), if_neg (by decide)]
  cases candidate.modifiedAt with
  | none => simp [StageDirective.terminal]
  | some modifiedAt =>
    simp only
    split
    · simp [StageDirective.terminal]
    · split <;> simp [StageDirective.terminal, StageDirective.continueTo]

theorem stabilized_allow_cases :
    ((stabilized settleDelaySeconds state candidate now "allow").outcome = some .failed ∧
        ∀ m, candidate.modifiedAt = some m → now < m) ∨
      ∃ m, candidate.modifiedAt = some m ∧ m ≤ now ∧
        ((now - m < settleDelaySeconds ∧ RetriedUnsettled settleDelaySeconds state
            (.ok (stabilized settleDelaySeconds state candidate now "allow"))) ∨
          (settleDelaySeconds ≤ now - m ∧ ContinuedReady state
            (.ok (stabilized settleDelaySeconds state candidate now "allow")))) := by
  unfold stabilized
  rw [if_neg (by decide), if_neg (by decide)]
  cases candidate.modifiedAt with
  | none => exact .inl ⟨rfl, by simp⟩
  | some m =>
    simp only
    split
    · rename_i h
      exact .inl ⟨rfl, by rintro _ ⟨⟩; exact h⟩
    · rename_i h
      refine .inr ⟨m, rfl, not_lt.mp h, ?_⟩
      split
      · rename_i hage
        exact .inl ⟨hage, _, rfl⟩
      · rename_i hage
        exact .inr ⟨not_lt.mp hage, rfl⟩

end

-- ---------------------------------------------------------------------------
-- The gate of the runtime
-- ---------------------------------------------------------------------------

namespace ModifiedEventGateState

def isDuplicate (lastSeen : Option Seconds) (eventTimestamp : Seconds) : Bool :=
  lastSeen.any (eventTimestamp ≤ ·)

def evaluate (seen : LastSeen) (eventKey : String) (eventTimestamp : Seconds) : Dict × LastSeen :=
  let duplicate := isDuplicate (seen eventKey) eventTimestamp
  (Dict.ofEntries
    [("decision", .str (if duplicate then "drop_duplicate" else "allow")),
      ("reason_code", .str
        (if duplicate then "inside_debounce_window" else "outside_debounce_window"))],
    Function.update seen eventKey (some eventTimestamp))

/-- The gate after a sequence of evaluations. -/
def after (history : List (String × Seconds)) : LastSeen :=
  history.foldl (fun seen e => (evaluate seen e.1 e.2).2) fun _ => none

theorem after_mem {history : List (String × Seconds)} {key : String} {last : Seconds}
    (h : after history key = some last) : (key, last) ∈ history := by
  induction history using List.reverseRecOn with
  | nil => cases h
  | append_singleton history e ih =>
    obtain ⟨key', last'⟩ := e
    have hstep : after (history ++ [(key', last')]) =
        Function.update (after history) key' (some last') := by
      simp [after, List.foldl_append, evaluate]
    rw [hstep] at h
    by_cases hkey : key = key'
    · subst hkey
      rw [Function.update_self] at h
      cases h
      simp
    · rw [Function.update_of_ne hkey] at h
      exact List.mem_append_left _ (ih h)

theorem decision_eq (seen : LastSeen) (key : String) (now : Seconds) :
    (evaluate seen key now).1.getNone "decision" = .str "drop_duplicate" ↔
      ∃ last, seen key = some last ∧ now ≤ last := by
  have hdecision : (evaluate seen key now).1.getNone "decision" =
      .str (if isDuplicate (seen key) now then "drop_duplicate" else "allow") := by
    simp [evaluate, Dict.getNone, Dict.getD, Dict.get?_ofEntries]
  rw [hdecision]
  unfold isDuplicate
  cases seen key with
  | none => simp
  | some last =>
    by_cases h : now ≤ last
    · simp [h]
    · simp [h]

end ModifiedEventGateState

/-- The engine's callable is this gate. -/
theorem modifiedEventGate_run {D : Type} (key : String) (now : Seconds) (w : RuntimeWorld D) :
    (modifiedEventGate key now).run w =
      (.ok (GateResult.mapping (ModifiedEventGateState.evaluate w.lastSeen key now).1).decision?,
        { w with lastSeen := (ModifiedEventGateState.evaluate w.lastSeen key now).2 }) := rfl

section
variable [Interpreter] {D : Type} (env : Environment D) (settings : RuntimeSettings)

theorem not_rejectedDuplicate (settleDelaySeconds : Seconds) (state : IngestionState)
    (candidate : Candidate) (hcandidate : state.candidate = some candidate) (w : RuntimeWorld D) :
    ¬RejectedDuplicate state
      ((runStabilizeStage settleDelaySeconds state).run (runtimeExec env settings) w).1 := by
  intro h
  by_cases hsettle : settleDelaySeconds < 0
  · obtain ⟨e, he⟩ :=
      stabilize_negative settleDelaySeconds state (runtimeExec env settings) w hsettle
    rw [he] at h
    cases h
  · rw [stabilize_run settleDelaySeconds state hsettle hcandidate rfl
      (modifiedEventGate_run candidate.identityToken (env.clock w.toOutside).1 _)] at h
    have houtcome := congrArg (fun x => x.toOption.bind StageDirective.outcome) h
    exact stabilized_allow_outcome settleDelaySeconds state candidate _ houtcome

/-- The stage obeys the gate of the runtime if and only if the gate has nothing
to say: after any evaluations, the stage rejects a duplicate exactly when the
gate does, which is when the token was evaluated before with a timestamp not
below this one, just where no such evaluation has taken place. -/
theorem duplicates_dropped_iff (settleDelaySeconds : Seconds) (state : IngestionState)
    (candidate : Candidate) (history : List (String × Seconds)) (outside : Outside D)
    (records : RecordWorld) :
    ((RejectedDuplicate { state with candidate := some candidate }
        ((runStabilizeStage settleDelaySeconds { state with candidate := some candidate }).run
          (runtimeExec env settings)
          { toOutside := outside, lastSeen := ModifiedEventGateState.after history, records }).1 ↔
      (ModifiedEventGateState.evaluate (ModifiedEventGateState.after history)
        candidate.identityToken (env.clock outside).1).1.getNone "decision" =
          .str "drop_duplicate") ∧
    ((ModifiedEventGateState.evaluate (ModifiedEventGateState.after history)
        candidate.identityToken (env.clock outside).1).1.getNone "decision" =
          .str "drop_duplicate" ↔
      ∃ e ∈ history, e.1 = candidate.identityToken ∧ (env.clock outside).1 ≤ e.2)) ↔
    ∀ e ∈ history, e.1 = candidate.identityToken → e.2 < (env.clock outside).1 := by
  have hnever := not_rejectedDuplicate env settings settleDelaySeconds
    { state with candidate := some candidate } candidate rfl
    { toOutside := outside, lastSeen := ModifiedEventGateState.after history, records }
  constructor
  · rintro ⟨hstage, hgate⟩ e he hkey
    by_contra h
    exact hnever (hstage.mpr (hgate.mpr ⟨e, he, hkey, not_lt.mp h⟩))
  · intro hfresh
    have hnone : ¬∃ e ∈ history, e.1 = candidate.identityToken ∧ (env.clock outside).1 ≤ e.2 := by
      rintro ⟨e, he, hkey, hle⟩
      exact absurd (hfresh e he hkey) (not_lt.mpr hle)
    have hallow : ¬(ModifiedEventGateState.evaluate (ModifiedEventGateState.after history)
        candidate.identityToken (env.clock outside).1).1.getNone "decision" =
          .str "drop_duplicate" := by
      rw [ModifiedEventGateState.decision_eq]
      rintro ⟨last, hlast, hle⟩
      exact hnone ⟨_, ModifiedEventGateState.after_mem hlast, rfl, hle⟩
    exact ⟨iff_of_false hnever hallow, iff_of_false hallow hnone⟩

end

def unsettled : Candidate :=
  { identityToken := "t", sourcePath := "/in/x.csv", eventKind := "created", observedAt := 0,
    modifiedAt := some 0, identityToken_ok := unspaced_token }

section
attribute [local instance] Interpreter.ascii

/-- The gate calls the second evaluation at one time a duplicate, and the stage goes on. -/
theorem duplicateContinued :
    (ModifiedEventGateState.evaluate (ModifiedEventGateState.after [("t", 10)]) "t" 10).1.getNone
        "decision" = .str "drop_duplicate" ∧
      ContinuedReady { event := Dict.empty, candidate := some unsettled }
        ((runStabilizeStage 5 { event := Dict.empty, candidate := some unsettled }).run
          (runtimeExec defaultDevice toOut)
          { toOutside := { files := Fs.empty, devices := () },
            lastSeen := ModifiedEventGateState.after [("t", 10)],
            records := { store := fun _ => none, recordRevisions := fun _ => none } }).1 := by
  refine ⟨(ModifiedEventGateState.decision_eq _ _ _).mpr ⟨10, rfl, le_refl _⟩, ?_⟩
  rw [stabilize_run 5 _ (by decide +kernel) rfl rfl
    (modifiedEventGate_run unsettled.identityToken 10 _)]
  rcases stabilized_allow_cases 5 { event := Dict.empty, candidate := some unsettled } unsettled 10
    with ⟨-, h⟩ | ⟨m, hm, -, h | h⟩
  · exact absurd (h 0 rfl) (by decide +kernel)
  · cases hm
    exact absurd h.1 (by decide +kernel)
  · exact h.2

end

-- ---------------------------------------------------------------------------
-- The debounce gate
-- ---------------------------------------------------------------------------

/-- `ModifiedEventGateConfig`, as `ModifiedEventGate.__init__` lets it through. -/
structure ModifiedEventGateConfig where
  windowSeconds : Seconds
  windowSeconds_ok : 0 ≤ windowSeconds

def modifiedEventGateError (cls message : String) : Exn :=
  { mro := [cls, "ModifiedEventGateError", "ValueError", "Exception"], message }

namespace ModifiedEventGate

section
variable [Interpreter] (config : ModifiedEventGateConfig)

def evaluate (seen : LastSeen) (eventKey : String) (eventTimestamp : Seconds) :
    Except Exn ModifiedEventGateResult × LastSeen :=
  if eventKey = "" then
    (.error (modifiedEventGateError "ModifiedEventGateConfigError" "event_key must be non-empty."),
      seen)
  else match seen eventKey with
  | none =>
    (.ok { decision := .allow, reasonCode := "outside_debounce_window" },
      Function.update seen eventKey (some eventTimestamp))
  | some lastSeen =>
    if eventTimestamp < lastSeen then
      (.error (modifiedEventGateError "ModifiedEventGateTimeError"
        ("Timestamp regression for '" ++ eventKey ++ "': " ++
          pyStr (.float eventTimestamp) ++ " < " ++
          pyStr (.float lastSeen))), seen)
    else if eventTimestamp - lastSeen < config.windowSeconds then
      (.ok { decision := .dropDuplicate, reasonCode := "inside_debounce_window",
             nextEligibleAt := some (lastSeen + config.windowSeconds) }, seen)
    else (.ok { decision := .allow, reasonCode := "outside_debounce_window" },
      Function.update seen eventKey (some eventTimestamp))

theorem evaluate_other (seen : LastSeen) {eventKey key : String} (eventTimestamp : Seconds)
    (h : eventKey ≠ key) : (evaluate config seen eventKey eventTimestamp).2 key = seen key := by
  unfold evaluate
  split
  · rfl
  · split
    · exact Function.update_of_ne h.symm _ _
    · split
      · rfl
      · split
        · rfl
        · exact Function.update_of_ne h.symm _ _

/-- The stabilize stage's callables, with this gate and the clock at `now`. -/
def callables (now : Seconds) : (c : Call) → LastSeen → c.Res × LastSeen
  | .now, seen => (.ok (.float now), seen)
  | .modifiedEventGate eventKey eventTimestamp, seen =>
    let (answer, seen) := evaluate config seen eventKey eventTimestamp
    (answer.map fun r => (GateResult.result r).decision?, seen)
  | _, seen => (.error (typeError "the stage has no such callable"), seen)

end

end ModifiedEventGate

/-- An attempt at a candidate: the evaluations of other candidates since the
one before, the state it comes with, and the time. -/
structure Attempt (candidate : Candidate) where
  others : List (String × Seconds)
  state : IngestionState
  now : Seconds
  others_ok : ∀ e ∈ others, e.1 ≠ candidate.identityToken

theorem le_next {candidate : Candidate} {earlier : List (Attempt candidate)}
    {next previous : Attempt candidate}
    (hordered : ((earlier ++ [next]).map (·.now)).Pairwise (· ≤ ·))
    (hprevious : earlier.getLast? = some previous) : previous.now ≤ next.now := by
  rw [List.map_append, List.pairwise_append] at hordered
  exact hordered.2.2 _ (List.mem_map_of_mem (List.mem_of_getLast? hprevious)) _ (by simp)

section
variable [Interpreter] (config : ModifiedEventGateConfig) (settleDelaySeconds : Seconds)
  {candidate : Candidate}

def Attempt.input (a : Attempt candidate) : IngestionState :=
  { a.state with candidate := some candidate }

def Attempt.seenBefore (a : Attempt candidate) (seen : LastSeen) : LastSeen :=
  a.others.foldl (fun seen e => (ModifiedEventGate.evaluate config seen e.1 e.2).2) seen

def Attempt.run (seen : LastSeen) (a : Attempt candidate) : Except Exn Directive × LastSeen :=
  (runStabilizeStage settleDelaySeconds a.input).run (ModifiedEventGate.callables config a.now)
    (a.seenBefore config seen)

def afterAttempts (seen : LastSeen) (attempts : List (Attempt candidate)) : LastSeen :=
  attempts.foldl (fun seen a => (a.run config settleDelaySeconds seen).2) seen

/-- Every attempt of the sequence ended RETRY with `settle_delay_not_elapsed`. -/
def AllUnsettled (seen : LastSeen) : List (Attempt candidate) → Prop
  | [] => True
  | a :: rest =>
    RetriedUnsettled settleDelaySeconds a.input (a.run config settleDelaySeconds seen).1 ∧
      AllUnsettled (a.run config settleDelaySeconds seen).2 rest

theorem Attempt.seenBefore_eq (a : Attempt candidate) (seen : LastSeen) :
    a.seenBefore config seen candidate.identityToken = seen candidate.identityToken := by
  obtain ⟨others, state, now, hothers⟩ := a
  unfold Attempt.seenBefore
  simp only
  clear state now
  induction others generalizing seen with
  | nil => rfl
  | cons e rest ih =>
    rw [List.foldl_cons, ih _ (fun e' he => hothers e' (List.mem_cons_of_mem _ he))]
    exact ModifiedEventGate.evaluate_other config seen _ (hothers e (.head _))

/-- How an attempt ends: the stage or the gate raises, the gate drops a
duplicate, or it enters the attempt and leaves the rest to the stage. -/
theorem Attempt.run_cases (a : Attempt candidate) (seen : LastSeen) :
    (∃ e, (a.run config settleDelaySeconds seen).1 = .error e ∧
      (settleDelaySeconds < 0 ∨ candidate.identityToken = "" ∨
        ∃ last, seen candidate.identityToken = some last ∧ a.now < last)) ∨
    (RejectedDuplicate a.input (a.run config settleDelaySeconds seen).1 ∧
      ∃ last, seen candidate.identityToken = some last ∧
        a.now - last < config.windowSeconds) ∨
    ¬settleDelaySeconds < 0 ∧ candidate.identityToken ≠ "" ∧
      (∀ last, seen candidate.identityToken = some last →
        config.windowSeconds ≤ a.now - last) ∧
      (a.run config settleDelaySeconds seen).1 =
        .ok (stabilized settleDelaySeconds a.input candidate a.now "allow") ∧
      (a.run config settleDelaySeconds seen).2 candidate.identityToken = some a.now := by
  have hseen := a.seenBefore_eq config seen
  unfold Attempt.run
  generalize a.seenBefore config seen = before at *
  by_cases hsettle : settleDelaySeconds < 0
  · obtain ⟨e, he⟩ := stabilize_negative settleDelaySeconds a.input
      (ModifiedEventGate.callables config a.now) before hsettle
    exact .inl ⟨e, by rw [he], .inl hsettle⟩
  have hgate : ModifiedEventGate.callables config a.now
      (.modifiedEventGate candidate.identityToken a.now) before =
        (((ModifiedEventGate.evaluate config before candidate.identityToken a.now).1.map
            fun r => (GateResult.result r).decision?),
          (ModifiedEventGate.evaluate config before candidate.identityToken a.now).2) := rfl
  rw [← hseen]
  unfold ModifiedEventGate.evaluate at hgate
  split at hgate
  · rename_i htoken
    exact .inl ⟨_, by rw [stabilize_raises settleDelaySeconds a.input hsettle rfl rfl hgate],
      .inr (.inl htoken)⟩
  · rename_i htoken
    split at hgate
    · rename_i hnone
      have hrun := stabilize_run settleDelaySeconds a.input hsettle rfl rfl hgate
      refine .inr (.inr ⟨hsettle, htoken, ?_, by rw [hrun]; rfl, ?_⟩)
      · rw [hnone]
        rintro _ ⟨⟩
      · rw [hrun]
        exact Function.update_self _ _ _
    · rename_i last hlast
      rw [hlast]
      split at hgate
      · rename_i hregressed
        exact .inl ⟨_, by rw [stabilize_raises settleDelaySeconds a.input hsettle rfl rfl hgate],
          .inr (.inr ⟨last, rfl, hregressed⟩)⟩
      · split at hgate
        · rename_i hwindow
          have hrun := stabilize_run settleDelaySeconds a.input hsettle rfl rfl hgate
          exact .inr (.inl ⟨by rw [hrun]; rfl, last, rfl, hwindow⟩)
        · rename_i hwindow
          have hrun := stabilize_run settleDelaySeconds a.input hsettle rfl rfl hgate
          refine .inr (.inr ⟨hsettle, htoken, ?_, by rw [hrun]; rfl, ?_⟩)
          · rintro _ ⟨⟩
            exact not_lt.mp hwindow
          · rw [hrun]
            exact Function.update_self _ _ _

/-- An attempt that was told to settle has been entered. -/
theorem Attempt.unsettled {a : Attempt candidate} {seen : LastSeen}
    (h : RetriedUnsettled settleDelaySeconds a.input (a.run config settleDelaySeconds seen).1) :
    ¬settleDelaySeconds < 0 ∧ candidate.identityToken ≠ "" ∧
      (a.run config settleDelaySeconds seen).2 candidate.identityToken = some a.now ∧
      ∃ m, candidate.modifiedAt = some m ∧ m ≤ a.now := by
  obtain ⟨age, hage⟩ := h
  rcases a.run_cases config settleDelaySeconds seen with ⟨e, he, -⟩ | ⟨hdup, -⟩ |
    ⟨hsettle, htoken, -, hrun, hseen⟩
  · rw [hage] at he
    cases he
  · unfold RejectedDuplicate at hdup
    rw [hage] at hdup
    cases congrArg (fun x => x.toOption.bind StageDirective.outcome) hdup
  · refine ⟨hsettle, htoken, hseen, ?_⟩
    rw [hrun] at hage
    rcases stabilized_allow_cases settleDelaySeconds a.input candidate a.now with
      ⟨hfailed, -⟩ | ⟨m, hm, hle, -⟩
    · have houtcome := congrArg (fun x => x.toOption.bind StageDirective.outcome) hage
      cases hfailed.symm.trans houtcome
    · exact ⟨m, hm, hle⟩

/-- The gate remembers the last of the attempts. -/
theorem afterAttempts_seen {earlier : List (Attempt candidate)} {seen : LastSeen}
    (h : AllUnsettled config settleDelaySeconds seen earlier) :
    afterAttempts config settleDelaySeconds seen earlier candidate.identityToken =
      (match earlier.getLast? with
        | some a => some a.now
        | none => seen candidate.identityToken) ∧
    ∀ a ∈ earlier.getLast?, ¬settleDelaySeconds < 0 ∧ candidate.identityToken ≠ "" ∧
      ∃ m, candidate.modifiedAt = some m ∧ m ≤ a.now := by
  induction earlier generalizing seen with
  | nil => exact ⟨rfl, by simp⟩
  | cons a rest ih =>
    obtain ⟨ha, hrest⟩ := h
    obtain ⟨hsettle, htoken, hseen, hm⟩ := Attempt.unsettled config settleDelaySeconds ha
    obtain ⟨hafter, hlast⟩ := ih hrest
    have hfold : afterAttempts config settleDelaySeconds seen (a :: rest) =
        afterAttempts config settleDelaySeconds (a.run config settleDelaySeconds seen).2 rest := rfl
    rw [hfold, hafter]
    cases rest with
    | nil => exact ⟨hseen, by simp [hsettle, htoken, hm]⟩
    | cons b rest =>
      rw [List.getLast?_cons_cons]
      refine ⟨?_, hlast⟩
      cases hb : (b :: rest).getLast? with
      | none => exact absurd (List.getLast?_eq_none_iff.mp hb) (List.cons_ne_nil b rest)
      | some c => rfl

/-- The next attempt at a candidate that has only been told to settle is
deferred again or continued, and never a duplicate, if and only if the debounce
window is over since the last attempt. Where there was none: if and only if the
stage has a settle delay and a token to work with, and a time not before the
candidate's. -/
theorem settled_iff (seen : LastSeen) (earlier : List (Attempt candidate))
    (next : Attempt candidate) (hnew : seen candidate.identityToken = none)
    (hordered : ((earlier ++ [next]).map (·.now)).Pairwise (· ≤ ·))
    (hunsettled : AllUnsettled config settleDelaySeconds seen earlier) :
    (¬RejectedDuplicate next.input (next.run config settleDelaySeconds
        (afterAttempts config settleDelaySeconds seen earlier)).1 ∧
      ∃ m, candidate.modifiedAt = some m ∧
        ((next.now - m < settleDelaySeconds ∧ RetriedUnsettled settleDelaySeconds next.input
            (next.run config settleDelaySeconds
              (afterAttempts config settleDelaySeconds seen earlier)).1) ∨
          (settleDelaySeconds ≤ next.now - m ∧ ContinuedReady next.input
            (next.run config settleDelaySeconds
              (afterAttempts config settleDelaySeconds seen earlier)).1))) ↔
    match earlier.getLast? with
    | some previous => config.windowSeconds ≤ next.now - previous.now
    | none => 0 ≤ settleDelaySeconds ∧ candidate.identityToken ≠ "" ∧
        ∃ m, candidate.modifiedAt = some m ∧ m ≤ next.now := by
  obtain ⟨hafter, hlast⟩ := afterAttempts_seen config settleDelaySeconds hunsettled
  rcases next.run_cases config settleDelaySeconds
    (afterAttempts config settleDelaySeconds seen earlier) with ⟨e, he, hwhy⟩ |
      ⟨hdup, last, hseen, hwindow⟩ | ⟨hsettle, htoken, hwindow, hrun, -⟩
  · refine iff_of_false ?_ ?_
    · rw [he]
      rintro ⟨-, m, -, ⟨-, _, h⟩ | ⟨-, h⟩⟩ <;> cases h
    · rw [hafter] at hwhy
      split
      · rename_i previous hprevious
        obtain ⟨hsettle, htoken, -⟩ := hlast previous hprevious
        have hle := le_next hordered hprevious
        rcases hwhy with h | h | ⟨last, h, hlt⟩
        · exact absurd h hsettle
        · exact absurd h htoken
        · rw [hprevious] at h
          cases h
          exact absurd hlt (not_lt.mpr hle)
      · rename_i hnone
        rw [hnone, hnew] at hwhy
        rintro ⟨hsettle, htoken, -⟩
        rcases hwhy with h | h | ⟨last, h, -⟩
        · exact absurd hsettle (not_le.mpr h)
        · exact htoken h
        · cases h
  · rw [hafter] at hseen
    refine iff_of_false (fun h => h.1 hdup) ?_
    split
    · rename_i previous hprevious
      rw [hprevious] at hseen
      cases hseen
      exact not_le.mpr hwindow
    · rename_i hnone
      rw [hnone, hnew] at hseen
      cases hseen
  · rw [hrun]
    rw [hafter] at hwindow
    have hduplicate : ¬RejectedDuplicate next.input
        (.ok (stabilized settleDelaySeconds next.input candidate next.now "allow")) := fun h =>
      stabilized_allow_outcome settleDelaySeconds next.input candidate next.now
        (congrArg (fun x => x.toOption.bind StageDirective.outcome) h)
    rcases stabilized_allow_cases settleDelaySeconds next.input candidate next.now with
      ⟨hfailed, hm⟩ | ⟨m, hm, hle, hage⟩
    · refine iff_of_false ?_ ?_
      · rintro ⟨-, m, -, ⟨-, age, h⟩ | ⟨-, h⟩⟩
        · cases hfailed.symm.trans (congrArg (fun x => x.toOption.bind StageDirective.outcome) h)
        · cases hfailed.symm.trans (congrArg (fun x => x.toOption.bind StageDirective.outcome) h)
      · split
        · rename_i previous hprevious
          obtain ⟨-, -, m, hmodified, hle⟩ := hlast previous hprevious
          have hnext := hle.trans (le_next hordered hprevious)
          exact absurd (hm m hmodified) (not_lt.mpr hnext)
        · rintro ⟨-, -, m, hmodified, hle⟩
          exact absurd (hm m hmodified) (not_lt.mpr hle)
    · refine iff_of_true ⟨hduplicate, m, hm, hage⟩ ?_
      split
      · rename_i previous hprevious
        rw [hprevious] at hwindow
        exact hwindow _ rfl
      · exact ⟨not_lt.mp hsettle, htoken, m, hm, hle⟩

end

section
attribute [local instance] Interpreter.ascii

def attemptAt (now : Seconds) : Attempt unsettled where
  others := []
  state := { event := Dict.empty }
  now
  others_ok := by simp

def tenSeconds : ModifiedEventGateConfig where
  windowSeconds := 10
  windowSeconds_ok := by decide +kernel

theorem attemptAt_one : RetriedUnsettled 60 (attemptAt 1).input
    ((attemptAt 1).run tenSeconds 60 fun _ => none).1 := by
  rcases (attemptAt 1).run_cases tenSeconds 60 (fun _ => none) with ⟨-, -, h | h | ⟨_, ⟨⟩, -⟩⟩ |
    ⟨-, _, ⟨⟩, -⟩ | ⟨-, -, -, hrun, -⟩
  · exact absurd h (by decide +kernel)
  · exact absurd h (by decide +kernel)
  · rw [hrun]
    rcases stabilized_allow_cases 60 (attemptAt 1).input unsettled 1 with
      ⟨-, h⟩ | ⟨m, hm, -, h | h⟩
    · exact absurd (h 0 rfl) (by decide +kernel)
    · exact h.2
    · cases hm
      exact absurd h.1 (by decide +kernel)

theorem afterOne_seen :
    afterAttempts tenSeconds 60 (fun _ => none) [attemptAt 1] unsettled.identityToken = some 1 :=
  have h : AllUnsettled tenSeconds 60 (fun _ => none) [attemptAt 1] := ⟨attemptAt_one, trivial⟩
  (afterAttempts_seen tenSeconds 60 h).1

/-- Twenty seconds later the debounce window is over, and the settle delay is not. -/
theorem settled_iff_deferred :
    ¬RejectedDuplicate (attemptAt 21).input ((attemptAt 21).run tenSeconds 60
        (afterAttempts tenSeconds 60 (fun _ => none) [attemptAt 1])).1 ∧
      ∃ m, unsettled.modifiedAt = some m ∧
        ((21 - m < 60 ∧ RetriedUnsettled 60 (attemptAt 21).input ((attemptAt 21).run tenSeconds 60
            (afterAttempts tenSeconds 60 (fun _ => none) [attemptAt 1])).1) ∨
          (60 ≤ 21 - m ∧ ContinuedReady (attemptAt 21).input ((attemptAt 21).run tenSeconds 60
            (afterAttempts tenSeconds 60 (fun _ => none) [attemptAt 1])).1)) :=
  (settled_iff tenSeconds 60 (fun _ => none) [attemptAt 1] (attemptAt 21) rfl (by decide +kernel)
    ⟨attemptAt_one, trivial⟩).mpr (by decide +kernel : (10 : Seconds) ≤ 21 - 1)

/-- Four seconds later the candidate is rejected as its own duplicate. -/
theorem ownDuplicate :
    AllUnsettled tenSeconds 60 (fun _ => none) [attemptAt 1] ∧
      RejectedDuplicate (attemptAt 5).input ((attemptAt 5).run tenSeconds 60
        (afterAttempts tenSeconds 60 (fun _ => none) [attemptAt 1])).1 := by
  refine ⟨⟨attemptAt_one, trivial⟩, ?_⟩
  rcases (attemptAt 5).run_cases tenSeconds 60 (afterAttempts tenSeconds 60 (fun _ => none)
    [attemptAt 1]) with ⟨-, -, h | h | ⟨last, hlast, h⟩⟩ | ⟨h, -⟩ | ⟨-, -, h, -⟩
  · exact absurd h (by decide +kernel)
  · exact absurd h (by decide +kernel)
  · rw [afterOne_seen] at hlast
    cases hlast
    exact absurd h (by decide +kernel)
  · exact h
  · exact absurd (h 1 afterOne_seen) (by decide +kernel)

end

end DpostV2.Runtime
