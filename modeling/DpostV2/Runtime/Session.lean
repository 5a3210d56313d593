import DpostV2.Lib.DateTime

/-!
# The session state machine

`SessionManager`: a session is started, kept active, and stopped or aborted.
Each method is a function of the state and of the time it resolves; the
transition callbacks only watch, and what they raise becomes a warning that
nothing modelled reads. `evaluateTimeouts` compares the session with its
policy and changes nothing. Times are datetimes, or seconds where the clock of the
session is one in UTC.
-/

namespace DpostV2.Runtime

inductive SessionStateKind where
  | inactive
  | starting
  | active
  | stopping
  | aborted
  | completed
  deriving DecidableEq, Repr

def SessionStateKind.value : SessionStateKind → String
  | .inactive => "inactive"
  | .starting => "starting"
  | .active => "active"
  | .stopping => "stopping"
  | .aborted => "aborted"
  | .completed => "completed"

inductive TimeoutOutcome where
  | stillActive
  | softTimeout
  | hardTimeout
  | notStarted
  deriving DecidableEq, Repr

theorem unset_nonneg : ∀ t ∈ (none : Option Seconds), 0 ≤ t := nofun

/-- `__post_init__` leaves no negative timeout. -/
structure SessionPolicy where
  idleTimeoutSeconds : Option Seconds := none
  maxRuntimeSeconds : Option Seconds := none
  idle_nonneg : ∀ t ∈ idleTimeoutSeconds, 0 ≤ t := by exact unset_nonneg
  max_nonneg : ∀ t ∈ maxRuntimeSeconds, 0 ≤ t := by exact unset_nonneg

/-- What a session asks of two times: `a < b`, and `(a - b).total_seconds()`. -/
class Timeline (T : Type) where
  less : T → T → Except Exn Bool
  elapsed : T → T → Seconds

instance : Timeline Seconds where
  less a b := .ok (a < b)
  elapsed a b := a - b

instance : Timeline DateTime where
  less := DateTime.less
  elapsed a b := (DateTime.since a b : Seconds) / 1000000

structure SessionState (T : Type) where
  kind : SessionStateKind
  sessionId : Option String := none
  startedAt : Option T := none
  lastActivityAt : Option T := none
  endedAt : Option T := none
  reasonCode : Option String := none
  deriving DecidableEq, Repr

structure TimeoutEvaluation where
  outcome : TimeoutOutcome
  idleElapsedSeconds : Seconds
  runtimeElapsedSeconds : Seconds
  deriving DecidableEq

def sessionError (cls message : String) : Exn :=
  { mro := [cls, "SessionError", "RuntimeError", "Exception"], message }

def SessionState.initial {T : Type} : SessionState T := { kind := .inactive }

def normalizeSessionId (value : String) : Except Exn String :=
  if blank value then
    .error (sessionError "SessionTransitionError" "session_id must be a non-empty string")
  else .ok (strip value)

def clockRegression : Exn :=
  sessionError "SessionTimeSourceError"
    "Clock regression detected during session timeout evaluation."

def ensureMonotonic [Timeline T] (current : T) (baseline : Option T) : Except Exn Unit :=
  match baseline with
  | none => .ok ()
  | some baseline => do
    if ← Timeline.less current baseline then throw clockRegression

namespace SessionState
variable {T : Type} [Interpreter]

/-- What `start_session` checks before it asks for the time: `some` when there
is nothing left to do, the session being active already. -/
def startable (state : SessionState T) (sessionId : String) :
    Except Exn (String × Option (SessionState T)) := do
  let normalizedId ← normalizeSessionId sessionId
  if state.kind = .active then
    if state.sessionId = some normalizedId then return (normalizedId, some state)
    else throw (sessionError "SessionTransitionError" ("Cannot start " ++ pyRepr (.str normalizedId)
      ++ "; active session " ++ pyRepr (.str (state.sessionId.getD "")) ++ " exists."))
  else if state.kind ≠ .inactive then
    throw (sessionError "SessionTransitionError" ("Cannot start from state " ++
      pyRepr (.str state.kind.value) ++ "."))
  else return (normalizedId, none)

def started (normalizedId : String) (eventTime : T) : SessionState T :=
  { kind := .active, sessionId := some normalizedId, startedAt := some eventTime,
    lastActivityAt := some eventTime }

/-- `_require_active_session`. -/
def requireActive (state : SessionState T) (sessionId : String) : Except Exn (SessionState T) :=
  match state.sessionId with
  | none => .error (sessionError "SessionNotStartedError" "No active session is available.")
  | some activeId =>
    if state.kind ≠ .active then
      .error (sessionError "SessionNotStartedError" "No active session is available.")
    else do
      let normalizedId ← normalizeSessionId sessionId
      if activeId ≠ normalizedId then
        throw (sessionError "SessionTransitionError" ("Session id mismatch: expected " ++
          pyRepr (.str activeId) ++ ", received " ++ pyRepr (.str normalizedId) ++ "."))
      else return state

/-- `record_activity` from the time on. -/
def withActivity [Timeline T] (active : SessionState T) (observedAt : T) :
    Except Exn (SessionState T) := do
  ensureMonotonic observedAt active.lastActivityAt
  return { active with lastActivityAt := some observedAt }

/-- `stop_session` and `abort_session` from the time on. -/
def ended [Timeline T] (active : SessionState T) (kind : SessionStateKind) (observedAt : T)
    (reasonCode : String) : Except Exn (SessionState T) := do
  ensureMonotonic observedAt active.lastActivityAt
  return { kind, sessionId := active.sessionId, startedAt := active.startedAt,
           lastActivityAt := active.lastActivityAt, endedAt := some observedAt,
           reasonCode := some reasonCode }

/-- `evaluate_timeouts` of an active session from the time on. -/
def timeouts [Timeline T] (state : SessionState T) (policy : SessionPolicy) (currentTime : T) :
    Except Exn TimeoutEvaluation := do
  ensureMonotonic currentTime state.startedAt
  ensureMonotonic currentTime state.lastActivityAt
  let startedAt := state.startedAt.getD currentTime
  let lastActivityAt := state.lastActivityAt.getD startedAt
  let runtimeElapsed := max 0 (Timeline.elapsed currentTime startedAt)
  let idleElapsed := max 0 (Timeline.elapsed currentTime lastActivityAt)
  let outcome :=
    if policy.maxRuntimeSeconds.any (· ≤ runtimeElapsed) then TimeoutOutcome.hardTimeout
    else if policy.idleTimeoutSeconds.any (· ≤ idleElapsed) then .softTimeout
    else .stillActive
  return { outcome, idleElapsedSeconds := idleElapsed, runtimeElapsedSeconds := runtimeElapsed }

def notStarted : TimeoutEvaluation :=
  { outcome := .notStarted, idleElapsedSeconds := 0, runtimeElapsedSeconds := 0 }

end SessionState

end DpostV2.Runtime
