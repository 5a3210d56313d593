import Mathlib.Tactic.Linarith
import DpostV2.Runtime.Session

/-!
# Runs of the session manager

`SessionManager` with its clock and its callbacks, and any sequence of calls to it.
`session_runs`: what holds in every state that calls lead to, what every further call
does, and that a hard timeout stays one until the session ends. It asks that the
exceptions of callbacks can be printed, and that a zone gives the times of a session one
offset: without the one a call raises and has set the state, without the other times
that were compared one after another are not in order.
-/

namespace DpostV2.Runtime

structure SessionTransitionResult where
  previousState : SessionState DateTime
  nextState : SessionState DateTime
  reasonCode : String
  warnings : List String := []
  deriving DecidableEq

structure SessionManager where
  policy : SessionPolicy

inductive SessionCall where
  | startSession (sessionId : Value) (startedAt : Option DateTime)
  | recordActivity (sessionId : Value) (eventTime : Option DateTime)
  | stopSession (sessionId : Value) (eventTime : Option DateTime)
  | abortSession (sessionId : Value) (eventTime : Option DateTime) (reasonCode : Value)
  | evaluateTimeouts (now : Option DateTime)

def SessionCall.time : SessionCall → Option DateTime
  | .startSession _ t | .recordActivity _ t | .stopSession _ t | .abortSession _ t _
  | .evaluateTimeouts t => t

/-- A call, with what `clock.now()` and the transition callbacks do if it comes to them. -/
structure ClockedCall where
  call : SessionCall
  clock : Except Exn DateTime
  callbacks : SessionTransitionResult → List (Except Raised Unit) := fun _ => []

inductive SessionAnswer where
  | transition (result : SessionTransitionResult)
  | evaluation (evaluation : TimeoutEvaluation)
  deriving DecidableEq

/-- `_resolve_time`. -/
def resolveTime (value : Option DateTime) (clock : Except Exn DateTime) : Except Exn DateTime :=
  match value with
  | some t => .ok t
  | none => clock

def ClockedCall.time (clocked : ClockedCall) : Except Exn DateTime :=
  resolveTime clocked.call.time clocked.clock

/-- An id that is no string is refused as an empty one is. -/
def sessionIdText : Value → String
  | .str s => s
  | _ => ""

/-- The loop over the callbacks; the text of an exception may raise in its turn. -/
def callbackWarnings : List (Except Raised Unit) → Except Exn (List String)
  | [] => .ok []
  | .ok () :: rest => callbackWarnings rest
  | .error e :: rest => do
    let text ← e.str
    let warnings ← callbackWarnings rest
    return ("transition callback failed: " ++ text) :: warnings

/-- `_apply_transition`: the state is set before the callbacks are called. -/
def applyTransition (callbacks : SessionTransitionResult → List (Except Raised Unit))
    (previous nextState : SessionState DateTime) (reasonCode : String) :
    Except Exn SessionAnswer × SessionState DateTime :=
  let pending : SessionTransitionResult := { previousState := previous, nextState, reasonCode }
  ((callbackWarnings (callbacks pending)).map fun warnings => .transition { pending with warnings },
    nextState)

/-- A call that raises before `_apply_transition` leaves the state. -/
def orUnchanged (callbacks : SessionTransitionResult → List (Except Raised Unit))
    (state : SessionState DateTime) (next : Except Exn (SessionState DateTime × String)) :
    Except Exn SessionAnswer × SessionState DateTime :=
  match next with
  | .ok (nextState, reasonCode) => applyTransition callbacks state nextState reasonCode
  | .error e => (.error e, state)

namespace SessionManager
variable [Interpreter] (manager : SessionManager)

def step (state : SessionState DateTime) (clocked : ClockedCall) :
    Except Exn SessionAnswer × SessionState DateTime :=
  match clocked.call with
  | .startSession sessionId _ =>
    match state.startable (sessionIdText sessionId) with
    | .ok (_, some same) =>
      (.ok (.transition { previousState := same, nextState := same,
                          reasonCode := "idempotent_start" }), state)
    | .ok (normalizedId, none) =>
      orUnchanged clocked.callbacks state (clocked.time.map fun eventTime =>
        (.started normalizedId eventTime, "started"))
    | .error e => (.error e, state)
  | .recordActivity sessionId _ => orUnchanged clocked.callbacks state do
      let active ← state.requireActive (sessionIdText sessionId)
      let observedAt ← clocked.time
      return (← active.withActivity observedAt, "activity_recorded")
  | .stopSession sessionId _ => orUnchanged clocked.callbacks state do
      let active ← state.requireActive (sessionIdText sessionId)
      let observedAt ← clocked.time
      return (← active.ended .completed observedAt "stopped", "stopped")
  | .abortSession sessionId _ reasonCode => orUnchanged clocked.callbacks state do
      let active ← state.requireActive (sessionIdText sessionId)
      let observedAt ← clocked.time
      return (← active.ended .aborted observedAt (pyStr reasonCode), pyStr reasonCode)
  | .evaluateTimeouts _ =>
    (if state.kind ≠ .active then .ok (.evaluation SessionState.notStarted)
      else do
        let currentTime ← clocked.time
        return .evaluation (← state.timeouts manager.policy currentTime), state)

/-- The state after calls from a state. -/
def runFrom (state : SessionState DateTime) : List ClockedCall → SessionState DateTime
  | [] => state
  | clocked :: rest => runFrom (manager.step state clocked).2 rest

def after (calls : List ClockedCall) : SessionState DateTime := manager.runFrom .initial calls

end SessionManager

-- ---------------------------------------------------------------------------
-- One call
-- ---------------------------------------------------------------------------

def endedKinds : List SessionStateKind := [.completed, .aborted]

/-- `a >= b`, where the two can be compared. -/
def NotBefore (a b : DateTime) : Prop := DateTime.less a b = .ok false

/-- What a call at a time can make of a state. -/
inductive SessionState.Becomes (state : SessionState DateTime) (time : Except Exn DateTime) :
    SessionState DateTime → Prop
  | same : Becomes state time state
  | started (inactive : state.kind = .inactive) (sessionId : String) (t : DateTime)
      (resolved : time = .ok t) (named : sessionId ≠ "") : Becomes state time (.started sessionId t)
  | active (active : state.kind = .active) (t : DateTime) (resolved : time = .ok t)
      (later : ∀ last ∈ state.lastActivityAt, NotBefore t last) :
      Becomes state time { state with lastActivityAt := some t }
  | ended (active : state.kind = .active) (kind : SessionStateKind) (ending : kind ∈ endedKinds)
      (t : DateTime) (later : ∀ last ∈ state.lastActivityAt, NotBefore t last)
      (reasonCode : String) :
      Becomes state time
        { kind, sessionId := state.sessionId, startedAt := state.startedAt,
          lastActivityAt := state.lastActivityAt, endedAt := some t, reasonCode := some reasonCode }

/-- The exceptions that callbacks raise in the call can be printed. -/
def ClockedCall.Printed (clocked : ClockedCall) : Prop :=
  ∀ pending e, .error e ∈ clocked.callbacks pending → e.broken = none

section
variable [Interpreter] {manager : SessionManager} {state state' : SessionState DateTime}
  {clocked : ClockedCall}

omit [Interpreter] in
theorem ensureMonotonic_ok {current : DateTime} {baseline : Option DateTime}
    (h : ensureMonotonic current baseline = .ok ()) :
      ∀ last ∈ baseline, NotBefore current last := by
  rintro last ⟨⟩
  obtain ⟨older, hless, h⟩ := except_bind_ok.mp h
  cases older with
  | false => exact hless
  | true => cases h

omit [Interpreter] in
theorem normalizeSessionId_ok {value normalizedId : String}
    (h : normalizeSessionId value = .ok normalizedId) : normalizedId ≠ "" := by
  unfold normalizeSessionId at h
  split at h
  · cases h
  · rename_i hblank
    cases h
    simpa [blank] using hblank

theorem startable_new {sessionId normalizedId : String}
    (h : state.startable sessionId = .ok (normalizedId, none)) :
    state.kind = .inactive ∧ normalizedId ≠ "" := by
  unfold SessionState.startable at h
  obtain ⟨id, hid, h⟩ := except_bind_ok.mp h
  split at h
  · split at h
    · cases h
    · cases h
  · split at h
    · cases h
    · rename_i hkind
      cases h
      exact ⟨not_not.mp hkind, normalizeSessionId_ok hid⟩

theorem requireActive_same {sessionId : String} {active : SessionState DateTime}
    (h : state.requireActive sessionId = .ok active) : active = state ∧ state.kind = .active := by
  unfold SessionState.requireActive at h
  split at h
  · cases h
  · split at h
    · cases h
    · rename_i hkind
      obtain ⟨id, -, h⟩ := except_bind_ok.mp h
      split at h
      · cases h
      · cases h
        exact ⟨rfl, not_not.mp hkind⟩

omit [Interpreter] in
theorem callbackWarnings_ok {answers : List (Except Raised Unit)}
    (h : ∀ e, .error e ∈ answers → e.broken = none) :
      ∃ warnings, callbackWarnings answers = .ok warnings := by
  induction answers with
  | nil => exact ⟨[], rfl⟩
  | cons answer rest ih =>
    obtain ⟨warnings, hrest⟩ := ih fun e he => h e (List.mem_cons_of_mem _ he)
    cases answer with
    | ok u => exact ⟨warnings, hrest⟩
    | error e =>
      have hstr : e.str = .ok e.exn.message := Raised.str_ok.mpr ⟨h e List.mem_cons_self, rfl⟩
      refine ⟨("transition callback failed: " ++ e.exn.message) :: warnings, ?_⟩
      simp only [callbackWarnings, hstr, hrest]
      rfl

omit [Interpreter] in
/-- A transition is told to the callbacks once it is made. -/
theorem orUnchanged_becomes (clocked : ClockedCall) {time : Except Exn DateTime}
    {next : Except Exn (SessionState DateTime × String)}
    (h : ∀ nextState reasonCode, next = .ok (nextState, reasonCode) →
      state.Becomes time nextState) :
    state.Becomes time (orUnchanged clocked.callbacks state next).2 := by
  cases next with
  | error e => exact .same
  | ok r => exact h _ _ rfl

omit [Interpreter] in
theorem orUnchanged_raised {next : Except Exn (SessionState DateTime × String)}
    (hprinted : clocked.Printed) (e : Exn)
    (h : (orUnchanged clocked.callbacks state next).1 = .error e) :
    (orUnchanged clocked.callbacks state next).2 = state := by
  cases next with
  | error e => rfl
  | ok r =>
    obtain ⟨nextState, reasonCode⟩ := r
    obtain ⟨warnings, hwarnings⟩ := callbackWarnings_ok fun e he =>
      hprinted { previousState := state, nextState, reasonCode } e he
    simp only [orUnchanged, applyTransition, hwarnings] at h
    cases h

theorem ended_becomes {sessionId reasonCode : String} {time : Except Exn DateTime}
    {kind : SessionStateKind} (hkind : kind ∈ endedKinds) (nextState : SessionState DateTime)
    (reason : String)
    (h : (do
      let active ← state.requireActive sessionId
      let observedAt ← time
      return (← active.ended kind observedAt reasonCode, reasonCode)) =
        Except.ok (nextState, reason)) :
    state.Becomes time nextState := by
  obtain ⟨active, hactive, htime⟩ := except_bind_ok.mp h
  obtain ⟨rfl, hkind'⟩ := requireActive_same hactive
  obtain ⟨observedAt, -, hrest⟩ := except_bind_ok.mp htime
  obtain ⟨next, hnext, hpure⟩ := except_bind_ok.mp hrest
  cases hpure
  obtain ⟨_, hmonotonic, hnext⟩ := except_bind_ok.mp hnext
  cases hnext
  exact .ended hkind' kind hkind observedAt (ensureMonotonic_ok hmonotonic) reasonCode

theorem step_becomes (manager : SessionManager) (state : SessionState DateTime)
    (clocked : ClockedCall) : state.Becomes clocked.time (manager.step state clocked).2 := by
  obtain ⟨call, clock, callbacks⟩ := clocked
  cases call with
  | startSession sessionId startedAt =>
    unfold SessionManager.step
    dsimp only
    split
    · exact .same
    · rename_i normalizedId hstartable
      refine orUnchanged_becomes ⟨.startSession sessionId startedAt, clock, callbacks⟩
        fun nextState reasonCode hnext => ?_
      obtain ⟨hinactive, hnamed⟩ := startable_new hstartable
      cases ht : ClockedCall.time ⟨.startSession sessionId startedAt, clock, callbacks⟩ with
      | error e =>
        rw [ht] at hnext
        cases hnext
      | ok t =>
        rw [ht] at hnext
        cases hnext
        exact .started hinactive normalizedId t rfl hnamed
    · exact .same
  | recordActivity sessionId eventTime =>
    refine orUnchanged_becomes _ fun nextState reasonCode hnext => ?_
    obtain ⟨active, hactive, htime⟩ := except_bind_ok.mp hnext
    obtain ⟨rfl, hkind⟩ := requireActive_same hactive
    obtain ⟨observedAt, hresolved, hrest⟩ := except_bind_ok.mp htime
    obtain ⟨next, hactivity, hpure⟩ := except_bind_ok.mp hrest
    cases hpure
    obtain ⟨_, hmonotonic, hactivity⟩ := except_bind_ok.mp hactivity
    cases hactivity
    exact .active hkind observedAt hresolved (ensureMonotonic_ok hmonotonic)
  | stopSession sessionId eventTime => exact orUnchanged_becomes _ (ended_becomes (by decide))
  | abortSession sessionId eventTime reasonCode =>
    exact orUnchanged_becomes _ (ended_becomes (by decide))
  | evaluateTimeouts now => exact .same

theorem step_raised (manager : SessionManager) (state : SessionState DateTime)
    (hprinted : clocked.Printed) (e : Exn) (h : (manager.step state clocked).1 = .error e) :
    (manager.step state clocked).2 = state := by
  obtain ⟨call, clock, callbacks⟩ := clocked
  cases call with
  | startSession sessionId startedAt =>
    unfold SessionManager.step at h ⊢
    dsimp only at h ⊢
    cases hstartable : state.startable (sessionIdText sessionId) with
    | error e => rfl
    | ok started =>
      obtain ⟨normalizedId, same⟩ := started
      cases same with
      | some same => rfl
      | none =>
        rw [hstartable] at h
        exact orUnchanged_raised hprinted e h
  | recordActivity sessionId eventTime => exact orUnchanged_raised hprinted e h
  | stopSession sessionId eventTime => exact orUnchanged_raised hprinted e h
  | abortSession sessionId eventTime reasonCode => exact orUnchanged_raised hprinted e h
  | evaluateTimeouts now => rfl

-- ---------------------------------------------------------------------------
-- Every state
-- ---------------------------------------------------------------------------

structure SessionState.Sound (state : SessionState DateTime) : Prop where
  kinds : state.kind ∈ [.inactive, .active, .completed, .aborted]
  inactive : state.kind = .inactive → state.lastActivityAt = none
  active : state.kind = .active → ∃ sessionId startedAt lastActivityAt,
    state.sessionId = some sessionId ∧ sessionId ≠ "" ∧ state.startedAt = some startedAt ∧
      state.lastActivityAt = some lastActivityAt ∧ NotBefore lastActivityAt startedAt
  ended : state.kind ∈ endedKinds → ∃ lastActivityAt endedAt,
    state.lastActivityAt = some lastActivityAt ∧ state.endedAt = some endedAt ∧
      NotBefore endedAt lastActivityAt

/-- A time that agrees with those of the session. -/
def SessionState.Agrees (state : SessionState DateTime) (t : DateTime) : Prop :=
  (∀ s ∈ state.startedAt, DateTime.Agree t s) ∧ ∀ s ∈ state.lastActivityAt, DateTime.Agree t s

/-- What is asked of a call in a state. -/
structure Ordinary (state : SessionState DateTime) (clocked : ClockedCall) : Prop where
  printed : clocked.Printed
  agrees : ∀ t, clocked.time = .ok t → state.Agrees t

/-- All calls of a run are ordinary where they are made. -/
def OrdinaryRun (manager : SessionManager) (state : SessionState DateTime) :
    List ClockedCall → Prop
  | [] => True
  | clocked :: rest =>
    Ordinary state clocked ∧ OrdinaryRun manager (manager.step state clocked).2 rest

/-- What the steps keep: the order of the times needs that they agree. -/
structure SessionState.Held (state : SessionState DateTime) : Prop where
  sound : state.Sound
  agree : ∀ last ∈ state.lastActivityAt, ∀ s ∈ state.startedAt, DateTime.Agree last s

omit [Interpreter] in
theorem SessionState.Becomes.sound {time : Except Exn DateTime} (h : state.Becomes time state')
    (hagrees : ∀ t, time = .ok t → state.Agrees t) (hs : state.Held) : state'.Sound := by
  cases h with
  | same => exact hs.sound
  | started _ sessionId t _ named =>
    exact ⟨by simp [SessionState.started], nofun, fun _ => ⟨sessionId, t, t, rfl, named, rfl, rfl,
      DateTime.less_self t⟩, by simp [SessionState.started, endedKinds]⟩
  | active hactive t resolved later =>
    obtain ⟨sessionId, startedAt, last, hid, hnamed, hstarted, hlast, hle⟩ :=
      hs.sound.active hactive
    obtain ⟨hstart, hactivity⟩ := hagrees t resolved
    have horder : NotBefore t startedAt :=
      DateTime.less_trans (hactivity last hlast) (hs.agree last hlast startedAt hstarted)
        (hstart startedAt hstarted) (later last hlast) hle
    refine ⟨hs.sound.kinds, fun hkind => ?_,
      fun _ => ⟨sessionId, startedAt, t, hid, hnamed, hstarted, rfl, horder⟩, fun hkind => ?_⟩
    · simp [hactive] at hkind
    · simp [hactive, endedKinds] at hkind
  | ended hactive kind ending t later reasonCode =>
    obtain ⟨sessionId, startedAt, last, -, -, -, hlast, -⟩ := hs.sound.active hactive
    simp only [endedKinds, List.mem_cons, List.not_mem_nil, or_false] at ending
    refine ⟨?_, ?_, ?_, fun _ => ⟨last, t, hlast, rfl, later last hlast⟩⟩
    · rcases ending with rfl | rfl <;> simp
    · rcases ending with rfl | rfl <;> nofun
    · rcases ending with rfl | rfl <;> nofun

omit [Interpreter] in
theorem SessionState.Becomes.held {time : Except Exn DateTime} (h : state.Becomes time state')
    (hagrees : ∀ t, time = .ok t → state.Agrees t) (hs : state.Held) : state'.Held := by
  refine ⟨h.sound hagrees hs, ?_⟩
  cases h with
  | same => exact hs.agree
  | started _ sessionId t _ named =>
    rintro last ⟨⟩ s ⟨⟩
    exact .refl t
  | active hactive t resolved later =>
    rintro last ⟨⟩
    exact (hagrees t resolved).1
  | ended => exact hs.agree

omit [Interpreter] in
/-- A session that has ended stays as it is. -/
theorem SessionState.Becomes.ended_same {time : Except Exn DateTime} (h : state.Becomes time state')
    (hended : state.kind ∈ endedKinds) : state' = state := by
  cases h with
  | same => rfl
  | started inactive => simp [inactive, endedKinds] at hended
  | active active => simp [active, endedKinds] at hended
  | ended active => simp [active, endedKinds] at hended

omit [Interpreter] in
theorem SessionState.Becomes.activity {time : Except Exn DateTime} (h : state.Becomes time state')
    (hs : state.Sound) :
    ∀ last ∈ state.lastActivityAt, ∃ last' ∈ state'.lastActivityAt, NotBefore last' last := by
  intro last hlast
  cases h with
  | same => exact ⟨last, hlast, DateTime.less_self last⟩
  | started inactive =>
    rw [hs.inactive inactive] at hlast
    cases hlast
  | active _ t _ later => exact ⟨t, rfl, later last hlast⟩
  | ended => exact ⟨last, hlast, DateTime.less_self last⟩

omit [Interpreter] in
/-- Until it ends, a session keeps its start. -/
theorem SessionState.Becomes.running {time : Except Exn DateTime} (h : state.Becomes time state')
    (hactive : state.kind = .active) :
    state'.kind ∈ endedKinds ∨ state'.kind = .active ∧ state'.startedAt = state.startedAt := by
  cases h with
  | same => exact .inr ⟨hactive, rfl⟩
  | started inactive => simp [inactive] at hactive
  | active => exact .inr ⟨hactive, rfl⟩
  | ended _ kind ending => exact .inl ending

theorem runFrom_held {calls : List ClockedCall} (hrun : OrdinaryRun manager state calls)
    (hs : state.Held) : (manager.runFrom state calls).Held := by
  induction calls generalizing state with
  | nil => exact hs
  | cons clocked rest ih =>
    exact ih hrun.2 ((step_becomes manager state clocked).held hrun.1.agrees hs)

omit [Interpreter] in
theorem initial_held : (SessionState.initial : SessionState DateTime).Held :=
  ⟨⟨by simp [SessionState.initial], fun _ => rfl, nofun, nofun⟩, nofun⟩

theorem runFrom_ended {calls : List ClockedCall} (hended : state.kind ∈ endedKinds) :
    manager.runFrom state calls = state := by
  induction calls with
  | nil => rfl
  | cons clocked rest ih =>
    change manager.runFrom (manager.step state clocked).2 rest = state
    rw [(step_becomes manager state clocked).ended_same hended]
    exact ih

theorem runFrom_running (more : List ClockedCall) (h : state.kind = .active) :
    (manager.runFrom state more).kind ∈ endedKinds ∨
      (manager.runFrom state more).kind = .active ∧
        (manager.runFrom state more).startedAt = state.startedAt := by
  induction more generalizing state with
  | nil => exact .inr ⟨h, rfl⟩
  | cons clocked rest ih =>
    rcases (step_becomes manager state clocked).running h with hended | ⟨hactive, hstarted⟩
    · refine .inl ?_
      change (manager.runFrom (manager.step state clocked).2 rest).kind ∈ endedKinds
      rw [runFrom_ended hended]
      exact hended
    · rw [← hstarted]
      exact ih hactive

-- ---------------------------------------------------------------------------
-- Timeouts
-- ---------------------------------------------------------------------------

omit [Interpreter] in
theorem timeouts_ok {policy : SessionPolicy} {t : DateTime} {evaluation : TimeoutEvaluation}
    (h : state.timeouts policy t = .ok evaluation) :
    evaluation.outcome = .hardTimeout ↔ policy.maxRuntimeSeconds.any
      (· ≤ max 0 (Timeline.elapsed t (state.startedAt.getD t))) = true := by
  obtain ⟨_, -, hrest⟩ := except_bind_ok.mp h
  obtain ⟨_, -, hpure⟩ := except_bind_ok.mp hrest
  cases hpure
  dsimp only
  split
  · rename_i hmax
    exact ⟨fun _ => hmax, fun _ => rfl⟩
  · rename_i hmax
    refine ⟨fun houtcome => ?_, fun h => absurd h hmax⟩
    split at houtcome <;> cases houtcome

/-- The call evaluates the timeouts at a time and returns. -/
structure Evaluates (manager : SessionManager) (state : SessionState DateTime)
    (clocked : ClockedCall) (t : DateTime) (evaluation : TimeoutEvaluation) : Prop where
  call : ∃ now, clocked.call = .evaluateTimeouts now
  time : clocked.time = .ok t
  answer : (manager.step state clocked).1 = .ok (.evaluation evaluation)

theorem evaluates_cases {t : DateTime} {evaluation : TimeoutEvaluation}
    (h : Evaluates manager state clocked t evaluation) :
    (state.kind ≠ .active ∧ evaluation = SessionState.notStarted) ∨
      (state.kind = .active ∧ state.timeouts manager.policy t = .ok evaluation) := by
  obtain ⟨⟨now, hcall⟩, htime, hstep⟩ := h
  simp only [SessionManager.step, hcall] at hstep
  split at hstep
  · rename_i hkind
    cases hstep
    exact .inl ⟨hkind, rfl⟩
  · rename_i hkind
    rw [htime] at hstep
    obtain ⟨_, ht, hrest⟩ := except_bind_ok.mp hstep
    cases ht
    obtain ⟨result, hresult, hpure⟩ := except_bind_ok.mp hrest
    cases hpure
    exact .inr ⟨not_not.mp hkind, hresult⟩

omit [Interpreter] in
/-- Of two times that agree the later one is at least as far from a third. -/
theorem elapsed_mono {t t' s : DateTime} (hts : DateTime.Agree t s) (hts' : DateTime.Agree t' s)
    (htt' : DateTime.Agree t' t) (hlater : NotBefore t' t) :
    Timeline.elapsed t s ≤ Timeline.elapsed t' s := by
  have hle : t.instant ≤ t'.instant := ((DateTime.less_of_agree htt').mp hlater).2
  change (DateTime.since t s : Seconds) / 1000000 ≤ (DateTime.since t' s : Seconds) / 1000000
  rw [DateTime.since_of_agree hts, DateTime.since_of_agree hts']
  have hcast : ((t.instant - s.instant : Int) : Seconds) ≤
    ((t'.instant - s.instant : Int) : Seconds) := by
    exact_mod_cast sub_le_sub_right hle _
  linarith

/-- What a call does to a state: nothing where it raises or only evaluates. -/
structure SessionCallKeeps (state : SessionState DateTime) (call : SessionCall)
    (answer : Except Exn SessionAnswer) (state' : SessionState DateTime) : Prop where
  ended : state.kind ∈ endedKinds → state' = state
  activity : ∀ last ∈ state.lastActivityAt, ∃ last' ∈ state'.lastActivityAt, NotBefore last' last
  raised : ∀ e, answer = .error e → state' = state
  evaluated : ∀ now, call = .evaluateTimeouts now → state' = state

/-- A hard timeout at `t` is one at every later time, up to the end of the session. -/
def StaysHard (manager : SessionManager) (state : SessionState DateTime) (t : DateTime) : Prop :=
  ∀ more clocked' t' evaluation', OrdinaryRun manager state more →
    Ordinary (manager.runFrom state more) clocked' → DateTime.Agree t' t → NotBefore t' t →
    (manager.runFrom state more).kind ∉ endedKinds →
    Evaluates manager (manager.runFrom state more) clocked' t' evaluation' →
    evaluation'.outcome = .hardTimeout

theorem session_runs (manager : SessionManager) (calls : List ClockedCall)
    (hrun : OrdinaryRun manager .initial calls) :
    (manager.after calls).Sound ∧
    ∀ clocked, Ordinary (manager.after calls) clocked →
      SessionCallKeeps (manager.after calls) clocked.call
        (manager.step (manager.after calls) clocked).1
          (manager.step (manager.after calls) clocked).2 ∧
      ∀ t evaluation, Evaluates manager (manager.after calls) clocked t evaluation →
        evaluation.outcome = .hardTimeout → StaysHard manager (manager.after calls) t := by
  have hheld : (manager.after calls).Held := runFrom_held hrun initial_held
  refine ⟨hheld.sound, fun clocked hordinary => ⟨?_, ?_⟩⟩
  · have hbecomes := step_becomes manager (manager.after calls) clocked
    refine ⟨hbecomes.ended_same, hbecomes.activity hheld.sound,
      step_raised manager _ hordinary.printed, ?_⟩
    rintro now hcall
    unfold SessionManager.step
    rw [hcall]
  · intro t evaluation hevaluates hhard more clocked' t' evaluation' hmore hordinary' hagree hlater
      hrunning hevaluates'
    rcases evaluates_cases hevaluates with ⟨-, rfl⟩ | ⟨hactive, htimeouts⟩
    · cases hhard
    rcases runFrom_running more hactive with hended | ⟨hactive', hstarted⟩
    · exact absurd hended hrunning
    rcases evaluates_cases hevaluates' with ⟨hinactive, -⟩ | ⟨-, htimeouts'⟩
    · exact absurd hactive' hinactive
    obtain ⟨_, startedAt, _, -, -, hstart, -, -⟩ := hheld.sound.active hactive
    have hstart' : (manager.runFrom (manager.after calls) more).startedAt = some startedAt :=
      hstarted.trans hstart
    have helapsed : Timeline.elapsed t startedAt ≤ Timeline.elapsed t' startedAt :=
      elapsed_mono ((hordinary.agrees t hevaluates.time).1 startedAt hstart)
        ((hordinary'.agrees t' hevaluates'.time).1 startedAt hstart') hagree hlater
    rw [timeouts_ok htimeouts, hstart, Option.any_eq_true] at hhard
    rw [timeouts_ok htimeouts', hstart', Option.any_eq_true]
    obtain ⟨limit, hlimit, hover⟩ := hhard
    refine ⟨limit, hlimit, ?_⟩
    simp only [Option.getD_some, decide_eq_true_eq] at hover ⊢
    exact hover.trans (max_le_max le_rfl helapsed)

end

-- ---------------------------------------------------------------------------
-- A session in a night with an hour twice
-- ---------------------------------------------------------------------------

section
attribute [local instance] Interpreter.ascii

/-- At most an hour. -/
def hourly : SessionManager where
  policy := { maxRuntimeSeconds := some 3600, max_nonneg := by simp }

def startedAt (t : DateTime) : ClockedCall :=
  { call := .startSession (.str " s1") (some t), clock := .error (valueError "no clock") }

def activeAt (t : DateTime) : ClockedCall :=
  { call := .recordActivity (.str "s1") (some t), clock := .error (valueError "no clock") }

def evaluatedAt (t : DateTime) : ClockedCall :=
  { call := .evaluateTimeouts none, clock := .ok t }

theorem printed_of_silent {call : SessionCall} {clock : Except Exn DateTime} :
    ClockedCall.Printed { call, clock } := by
  intro pending e he
  cases he

instance (state : SessionState DateTime) (t : DateTime) : Decidable (state.Agrees t) :=
  inferInstanceAs (Decidable (_ ∧ _))

/-- Started at noon, and active at half past two, the session has run its hour, and still has
after the clocks went back. -/
theorem session_runs_night :
    (hourly.after [startedAt dayBefore, activeAt halfPastTwo]).Sound ∧
    StaysHard hourly (hourly.after [startedAt dayBefore, activeAt halfPastTwo]) halfPastTwo := by
  have hfirst : Ordinary .initial (startedAt dayBefore) :=
    ⟨printed_of_silent, by rintro t ⟨⟩; exact ⟨nofun, nofun⟩⟩
  have hsecond : Ordinary (hourly.step .initial (startedAt dayBefore)).2 (activeAt halfPastTwo) :=
    ⟨printed_of_silent, by rintro t ⟨⟩; decide +kernel⟩
  have hthird : Ordinary (hourly.after [startedAt dayBefore, activeAt halfPastTwo])
      (evaluatedAt halfPastTwo) :=
    ⟨printed_of_silent, by rintro t ⟨⟩; decide +kernel⟩
  have hruns := session_runs hourly [startedAt dayBefore, activeAt halfPastTwo]
    ⟨hfirst, hsecond, trivial⟩
  exact ⟨hruns.1, (hruns.2 _ hthird).2 halfPastTwo
    { outcome := .hardTimeout, idleElapsedSeconds := 0, runtimeElapsedSeconds := 52200 }
    ⟨⟨none, rfl⟩, rfl, by decide +kernel⟩ rfl⟩

/-- A callback that raises an exception without a text. -/
def unprintable : SessionTransitionResult → List (Except Raised Unit) := fun _ =>
  [.error { exn := valueError "", broken := some (typeError "__str__ returned non-string") }]

/-- The last activity is before the start; and a call that raises has started the session. -/
theorem session_disordered :
    ¬(hourly.after [startedAt halfPastTwo, activeAt quarterPastOne, activeAt twentyPastTwo]).Sound ∧
    (∃ e, (hourly.step .initial { startedAt halfPastTwo with callbacks := unprintable }).1 =
      .error e) ∧
    (hourly.step .initial
      { startedAt halfPastTwo with callbacks := unprintable }).2 ≠ .initial := by
  refine ⟨fun hsound => ?_, ⟨_, rfl⟩, by decide +kernel⟩
  have hstate : hourly.after [startedAt halfPastTwo, activeAt quarterPastOne,
    activeAt twentyPastTwo] =
      { SessionState.started "s1" halfPastTwo with lastActivityAt := some twentyPastTwo } := by
    decide +kernel
  rw [hstate] at hsound
  obtain ⟨_, s, last, -, -, hs, hlast, hnotBefore⟩ := hsound.active rfl
  cases hs
  cases hlast
  have hbefore : DateTime.less twentyPastTwo halfPastTwo = .ok true := by decide +kernel
  cases hbefore.symm.trans hnotBefore

end

end DpostV2.Runtime
