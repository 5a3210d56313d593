import Mathlib.Tactic.Linarith
import DpostV2.Lib.Assoc
import DpostV2.Lib.Python

/-!
# The gate for modified events

`ModifiedEventGate` of the watchdog answers whether a changed path is queued, remembers when it
last said yes and forgets that after a while. What it forgets is never missed: of two events of
one path that are queued the second comes after the cooldown, and every wanted event that does so
is queued (`gate_debounces`).
-/

namespace DpostV2.Watchdog

/-- The intervals of a gate. An entry is kept for as long as it can matter. -/
structure GateSettings where
  cooldownSeconds : Seconds
  pruneAfterSeconds : Seconds
  pruneIntervalSeconds : Seconds
  lasting : cooldownSeconds ≤ pruneAfterSeconds

/-- `_resolve_prune_after`. -/
def resolvePruneAfter (cooldownSeconds : Seconds) (pruneAfterSeconds : Option Seconds) : Seconds :=
  max (pruneAfterSeconds.getD (max (cooldownSeconds * 2) 60)) cooldownSeconds

/-- `_resolve_prune_interval`. -/
def resolvePruneInterval (cooldownSeconds pruneAfterSeconds : Seconds)
    (pruneIntervalSeconds : Option Seconds) : Seconds :=
  max (pruneIntervalSeconds.getD pruneAfterSeconds) cooldownSeconds

def GateSettings.resolve (cooldownSeconds : Seconds)
    (pruneAfterSeconds pruneIntervalSeconds : Option Seconds) : GateSettings where
  cooldownSeconds
  pruneAfterSeconds := resolvePruneAfter cooldownSeconds pruneAfterSeconds
  pruneIntervalSeconds := resolvePruneInterval cooldownSeconds
    (resolvePruneAfter cooldownSeconds pruneAfterSeconds) pruneIntervalSeconds
  lasting := le_max_right _ _

structure ModifiedEventGate where
  lastSeen : Assoc String Seconds
  nextPruneAt : Seconds

/-- A call of `should_queue`, with what it is told. -/
structure ModifiedEvent where
  isDir : Bool
  /-- For every matching device what comes of resolving its processor, and then of asking it. -/
  candidates : List (Except Exn (Except Exn Bool))
  /-- `str(path.resolve())`. -/
  key : Except Exn String
  now : Seconds

namespace ModifiedEventGate

variable (settings : GateSettings)

def new (now : Seconds) : ModifiedEventGate := ⟨.empty, now + settings.pruneIntervalSeconds⟩

def maybePrune (gate : ModifiedEventGate) (now : Seconds) : ModifiedEventGate :=
  if now < gate.nextPruneAt then gate
  else
    let gate := { gate with nextPruneAt := now + settings.pruneIntervalSeconds }
    let cutoff := now - settings.pruneAfterSeconds
    if cutoff ≤ 0 then gate
    else
      { gate with lastSeen := gate.lastSeen.filterValues fun seenAt => !decide (seenAt < cutoff) }

def allowModifiedEvent (gate : ModifiedEventGate) (key : String) (now : Seconds) :
    Bool × ModifiedEventGate :=
  let gate := gate.maybePrune settings now
  match gate.lastSeen.get? key with
  | some lastSeen =>
    if now - lastSeen < settings.cooldownSeconds then (false, gate)
    else (true, { gate with lastSeen := gate.lastSeen.set key now })
  | none => (true, { gate with lastSeen := gate.lastSeen.set key now })

/-- The loop over the candidates. Only the resolution of a processor is outside its `try`. -/
def checkCandidates (gate : ModifiedEventGate) (e : ModifiedEvent) :
    List (Except Exn (Except Exn Bool)) → Except Exn Bool × ModifiedEventGate
  | [] => (.ok false, gate)
  | .error exc :: _ => (.error exc, gate)
  | .ok (.ok true) :: rest =>
    match e.key with
    | .ok key =>
      let allowed := gate.allowModifiedEvent settings key e.now
      (.ok allowed.1, allowed.2)
    | .error _ => checkCandidates gate e rest
  | .ok (.ok false) :: rest => checkCandidates gate e rest
  | .ok (.error _) :: rest => checkCandidates gate e rest

def shouldQueue (gate : ModifiedEventGate) (e : ModifiedEvent) :
    Except Exn Bool × ModifiedEventGate :=
  if e.isDir then (.ok false, gate) else gate.checkCandidates settings e e.candidates

/-- The events in a row, each with its answer. -/
def answers (gate : ModifiedEventGate) : List ModifiedEvent → List (ModifiedEvent × Except Exn Bool)
  | [] => []
  | e :: events =>
    (e, (gate.shouldQueue settings e).1) :: answers (gate.shouldQueue settings e).2 events

def after (gate : ModifiedEventGate) (events : List ModifiedEvent) : ModifiedEventGate :=
  events.foldl (fun gate e => (gate.shouldQueue settings e).2) gate

end ModifiedEventGate

-- ---------------------------------------------------------------------------
-- What is asked of the gate
-- ---------------------------------------------------------------------------

/-- A candidate is found that wants the event. -/
def wantedBy : List (Except Exn (Except Exn Bool)) → Bool
  | [] => false
  | .error _ :: _ => false
  | .ok (.ok true) :: _ => true
  | .ok _ :: rest => wantedBy rest

/-- The event is asked for under this key. -/
def ModifiedEvent.Wanted (e : ModifiedEvent) (key : String) : Prop :=
  e.isDir = false ∧ wantedBy e.candidates = true ∧ e.key = .ok key

namespace ModifiedEventGate

variable {settings : GateSettings} {gate : ModifiedEventGate} {e : ModifiedEvent} {key : String}

theorem checkCandidates_wanted (hkey : e.key = .ok key)
    {candidates : List (Except Exn (Except Exn Bool))} (h : wantedBy candidates = true) :
    gate.checkCandidates settings e candidates =
      (.ok (gate.allowModifiedEvent settings key e.now).1,
        (gate.allowModifiedEvent settings key e.now).2) := by
  induction candidates with
  | nil => simp [wantedBy] at h
  | cons candidate candidates ih =>
    rcases candidate with exc | exc | _ | _
    · simp [wantedBy] at h
    · exact ih h
    · exact ih h
    · simp [checkCandidates, hkey]

/-- The gate is left as it is, and does not say yes. -/
theorem checkCandidates_unwanted {candidates : List (Except Exn (Except Exn Bool))}
    (h : wantedBy candidates = false ∨ ∃ exc, e.key = .error exc) :
    (gate.checkCandidates settings e candidates).2 = gate ∧
      (gate.checkCandidates settings e candidates).1 ≠ .ok true := by
  induction candidates with
  | nil => simp [checkCandidates]
  | cons candidate candidates ih =>
    rcases candidate with exc | exc | _ | _
    · simp [checkCandidates]
    · exact ih h
    · exact ih h
    · rcases h with h | ⟨exc, hkey⟩
      · simp [wantedBy] at h
      · simpa [checkCandidates, hkey] using ih (.inr ⟨exc, hkey⟩)

theorem shouldQueue_wanted (h : e.Wanted key) : gate.shouldQueue settings e =
    (.ok (gate.allowModifiedEvent settings key e.now).1,
      (gate.allowModifiedEvent settings key e.now).2) := by
  obtain ⟨hdir, hwanted, hkey⟩ := h
  simp [shouldQueue, hdir, checkCandidates_wanted hkey hwanted]

theorem shouldQueue_unwanted (h : ∀ key, ¬ e.Wanted key) :
    (gate.shouldQueue settings e).2 = gate ∧ (gate.shouldQueue settings e).1 ≠ .ok true := by
  unfold shouldQueue
  by_cases hdir : e.isDir = true
  · simp [hdir]
  · rw [if_neg hdir]
    refine checkCandidates_unwanted ?_
    by_cases hwanted : wantedBy e.candidates = true
    · cases hkey : e.key with
      | error exc => exact .inr ⟨exc, rfl⟩
      | ok key => exact absurd ⟨by simpa using hdir, hwanted, hkey⟩ (h key)
    · exact .inl (by simpa using hwanted)

-- ---------------------------------------------------------------------------
-- What the gate remembers
-- ---------------------------------------------------------------------------

/-- Of what was queued until a time the gate has forgotten only what is out of its cooldown. -/
structure Remembers (settings : GateSettings) (gate : ModifiedEventGate)
    (done : List (ModifiedEvent × Except Exn Bool)) (now : Seconds) : Prop where
  clock : ∀ x ∈ done, x.1.now ≤ now
  recent : ∀ x ∈ done, x.2 = .ok true → ∀ key, x.1.key = .ok key →
    x.1.now + settings.cooldownSeconds ≤ now ∨
      ∃ seenAt, gate.lastSeen.get? key = some seenAt ∧ x.1.now ≤ seenAt
  past : ∀ key seenAt, gate.lastSeen.get? key = some seenAt →
    ∃ x ∈ done, x.2 = .ok true ∧ x.1.key = .ok key ∧ x.1.now = seenAt

namespace Remembers

variable {done : List (ModifiedEvent × Except Exn Bool)} {now later : Seconds}

theorem mono (h : Remembers settings gate done now) (hle : now ≤ later) :
    Remembers settings gate done later where
  clock x hx := (h.clock x hx).trans hle
  recent x hx hyes key hkey := (h.recent x hx hyes key hkey).imp_left fun hout => hout.trans hle
  past := h.past

theorem maybePrune (h : Remembers settings gate done now) :
    Remembers settings (gate.maybePrune settings now) done now := by
  unfold ModifiedEventGate.maybePrune
  dsimp only
  split
  · exact h
  · split
    · exact ⟨h.clock, h.recent, h.past⟩
    · refine ⟨h.clock, fun x hx hyes key hkey => ?_, fun key seenAt hget => ?_⟩
      · rcases h.recent x hx hyes key hkey with hout | ⟨seenAt, hget, hle⟩
        · exact .inl hout
        · by_cases hstale : seenAt < now - settings.pruneAfterSeconds
          · have hlasting := settings.lasting
            exact .inl (by linarith)
          · exact .inr ⟨seenAt, by simp [Assoc.get?_filterValues, hget, hstale], hle⟩
      · rw [Assoc.get?_filterValues, Option.filter_eq_some_iff] at hget
        exact h.past key seenAt hget.1

/-- An event that is not queued changes nothing. -/
theorem skip (h : Remembers settings gate done now) {answer : Except Exn Bool}
    (hle : e.now ≤ now) (hno : answer ≠ .ok true) :
    Remembers settings gate (done ++ [(e, answer)]) now := by
  refine ⟨fun x hx => ?_, fun x hx hyes key hkey => ?_, fun key seenAt hget => ?_⟩
  · rcases List.mem_append.mp hx with hmem | hmem
    · exact h.clock x hmem
    · rw [List.mem_singleton.mp hmem]
      exact hle
  · rcases List.mem_append.mp hx with hmem | hmem
    · exact h.recent x hmem hyes key hkey
    · rw [List.mem_singleton.mp hmem] at hyes
      exact absurd hyes hno
  · obtain ⟨x, hx, hrest⟩ := h.past key seenAt hget
    exact ⟨x, List.mem_append_left _ hx, hrest⟩

/-- An event that is queued is remembered. -/
theorem queue (h : Remembers settings gate done e.now) (hkey : e.key = .ok key)
    (nextPruneAt : Seconds) :
    Remembers settings ⟨gate.lastSeen.set key e.now, nextPruneAt⟩
      (done ++ [(e, .ok true)]) e.now := by
  refine ⟨fun x hx => ?_, fun x hx hyes key' hkey' => ?_, fun key' seenAt hget => ?_⟩
  · rcases List.mem_append.mp hx with hmem | hmem
    · exact h.clock x hmem
    · rw [List.mem_singleton.mp hmem]
  · by_cases heq : key' = key
    · subst heq
      refine .inr ⟨e.now, by simp, ?_⟩
      rcases List.mem_append.mp hx with hmem | hmem
      · exact h.clock x hmem
      · rw [List.mem_singleton.mp hmem]
    · rcases List.mem_append.mp hx with hmem | hmem
      · simpa [Assoc.get?_set_of_ne heq] using h.recent x hmem hyes key' hkey'
      · rw [List.mem_singleton.mp hmem, hkey] at hkey'
        exact absurd (Except.ok.inj hkey').symm heq
  · by_cases heq : key' = key
    · subst heq
      simp only [Assoc.get?_set_self, Option.some.injEq] at hget
      exact ⟨(e, .ok true), by simp, rfl, hkey, hget⟩
    · rw [Assoc.get?_set_of_ne heq] at hget
      obtain ⟨x, hx, hrest⟩ := h.past key' seenAt hget
      exact ⟨x, List.mem_append_left _ hx, hrest⟩

end Remembers

/-- Everything that was queued under the key before is out of its cooldown. -/
def Cooled (settings : GateSettings) (done : List (ModifiedEvent × Except Exn Bool)) (key : String)
    (now : Seconds) : Prop :=
  ∀ x ∈ done, x.1.key = .ok key → x.2 = .ok true → settings.cooldownSeconds ≤ now - x.1.now

/-- One event: the answer, and what is remembered of it. -/
theorem allowModifiedEvent_spec {done : List (ModifiedEvent × Except Exn Bool)}
    (h : Remembers settings gate done e.now) (hkey : e.key = .ok key) :
    ((gate.allowModifiedEvent settings key e.now).1 = true ↔ Cooled settings done key e.now) ∧
      Remembers settings (gate.allowModifiedEvent settings key e.now).2
        (done ++ [(e, .ok (gate.allowModifiedEvent settings key e.now).1)]) e.now := by
  have hpruned := h.maybePrune
  unfold allowModifiedEvent
  generalize gate.maybePrune settings e.now = pruned at hpruned
  dsimp only
  cases hget : pruned.lastSeen.get? key with
  | none =>
    refine ⟨⟨fun _ x hx hxkey hyes => ?_, fun _ => rfl⟩, hpruned.queue hkey _⟩
    rcases hpruned.recent x hx hyes key hxkey with hout | ⟨seenAt, hsome, -⟩
    · linarith
    · rw [hget] at hsome
      cases hsome
  | some seenAt =>
    dsimp only
    by_cases hcool : e.now - seenAt < settings.cooldownSeconds
    · simp only [hcool, if_true]
      refine ⟨⟨fun hyes => absurd hyes Bool.false_ne_true, fun hcooled => ?_⟩,
        hpruned.skip le_rfl (by simp)⟩
      obtain ⟨x, hx, hyes, hxkey, hnow⟩ := hpruned.past key seenAt hget
      have hout := hcooled x hx hxkey hyes
      rw [hnow] at hout
      exact absurd hcool (not_lt.mpr hout)
    · simp only [hcool, if_false]
      refine ⟨⟨fun _ x hx hxkey hyes => ?_, fun _ => trivial⟩, hpruned.queue hkey _⟩
      rcases hpruned.recent x hx hyes key hxkey with hout | ⟨seenAt', hsome, hle⟩
      · linarith
      · rw [hget] at hsome
        cases hsome
        linarith

-- ---------------------------------------------------------------------------
-- Runs
-- ---------------------------------------------------------------------------

theorem answers_concat (gate : ModifiedEventGate) (events : List ModifiedEvent)
    (e : ModifiedEvent) :
    gate.answers settings (events ++ [e]) = gate.answers settings events ++
      [(e, ((gate.after settings events).shouldQueue settings e).1)] := by
  induction events generalizing gate with
  | nil => rfl
  | cons first events ih => simp [answers, after, ih]

theorem after_concat (gate : ModifiedEventGate) (events : List ModifiedEvent) (e : ModifiedEvent) :
    gate.after settings (events ++ [e]) =
      ((gate.after settings events).shouldQueue settings e).2 := by
  simp [after]

theorem shouldQueue_remembers {done : List (ModifiedEvent × Except Exn Bool)}
    (h : Remembers settings gate done e.now) :
    Remembers settings (gate.shouldQueue settings e).2
      (done ++ [(e, (gate.shouldQueue settings e).1)]) e.now := by
  by_cases hwanted : ∃ key, e.Wanted key
  · obtain ⟨key, hwanted⟩ := hwanted
    rw [shouldQueue_wanted hwanted]
    exact (allowModifiedEvent_spec h hwanted.2.2).2
  · obtain ⟨hgate, hno⟩ : (gate.shouldQueue settings e).2 = gate ∧
        (gate.shouldQueue settings e).1 ≠ .ok true := shouldQueue_unwanted (not_exists.mp hwanted)
    rw [hgate]
    exact h.skip le_rfl hno

theorem after_remembers (start : Seconds) {events : List ModifiedEvent}
    (hclock : events.Pairwise fun e e' => e.now ≤ e'.now) {now : Seconds}
    (hnow : ∀ e ∈ events, e.now ≤ now) :
    Remembers settings ((new settings start).after settings events)
      ((new settings start).answers settings events) now := by
  induction events using List.reverseRecOn generalizing now with
  | nil => exact ⟨by simp [answers], by simp [answers], by simp [after, new]⟩
  | append_singleton events e ih =>
    obtain ⟨hevents, -, hlast⟩ := List.pairwise_append.mp hclock
    have hbefore := ih hevents fun e' he' => hlast e' he' e List.mem_cons_self
    rw [answers_concat, after_concat]
    exact (shouldQueue_remembers hbefore).mono (hnow e (by simp))

/-- An event is queued exactly if it is wanted and nothing that was queued under its key is still
in its cooldown. -/
theorem gate_debounces (settings : GateSettings) (start : Seconds) (events : List ModifiedEvent)
    (e : ModifiedEvent) (hclock : (events ++ [e]).Pairwise fun e e' => e.now ≤ e'.now) :
    (((new settings start).after settings events).shouldQueue settings e).1 = .ok true ↔
      ∃ key, e.Wanted key ∧
        Cooled settings ((new settings start).answers settings events) key e.now := by
  obtain ⟨hevents, -, hlast⟩ := List.pairwise_append.mp hclock
  have h : Remembers settings ((new settings start).after settings events)
      ((new settings start).answers settings events) e.now :=
    after_remembers start hevents fun e' he' => hlast e' he' e List.mem_cons_self
  constructor
  · intro hyes
    by_cases hwanted : ∃ key, e.Wanted key
    · obtain ⟨key, hwanted⟩ := hwanted
      rw [shouldQueue_wanted hwanted] at hyes
      exact ⟨key, hwanted, (allowModifiedEvent_spec h hwanted.2.2).1.mp (Except.ok.inj hyes)⟩
    · exact absurd hyes (shouldQueue_unwanted (not_exists.mp hwanted)).2
  · rintro ⟨key, hwanted, hcooled⟩
    rw [shouldQueue_wanted hwanted]
    exact congrArg _ ((allowModifiedEvent_spec h hwanted.2.2).1.mpr hcooled)

def sampleSettings : GateSettings := .resolve 1 none none

def sampleEvent (now : Seconds) : ModifiedEvent where
  isDir := false
  candidates := [.ok (.ok false), .ok (.ok true)]
  key := .ok "/in/a.csv"
  now

/-- Half a second after a yes. -/
theorem gate_debounces_soon :
    (((new sampleSettings 0).after sampleSettings [sampleEvent 100]).shouldQueue sampleSettings
      (sampleEvent (201 / 2))).1 = .ok true ↔ ∃ key, (sampleEvent (201 / 2)).Wanted key ∧
        Cooled sampleSettings ((new sampleSettings 0).answers sampleSettings [sampleEvent 100]) key
          (sampleEvent (201 / 2)).now :=
  gate_debounces sampleSettings 0 [sampleEvent 100] (sampleEvent (201 / 2))
    (by norm_num [sampleEvent])

end ModifiedEventGate

end DpostV2.Watchdog
