import DpostV2.Runtime.Closing

/-!
# What a run counts

`run_accounts`: the counters of a run that returns are the numbers of the calls
and emissions they stand for, its lifecycle events open and close what it
emitted, and its session ends as its terminal reason says. `Tallied` is what
holds between any two calls; every part of the loop adds to it what the
counters of `run` are then raised by.
-/

namespace DpostV2.Runtime

open DpostV2.Ingestion (IngestionOutcomeKind)

def engineEvents (log : List AppStep) : List Dict :=
  log.filterMap fun
    | ⟨.process event _, _⟩ => some event
    | _ => none

def engineAnswers (log : List AppStep) : List (Except Exn IngestionOutcomeKind) :=
  log.filterMap fun
    | ⟨.process .., answer⟩ => some answer
    | _ => none

def failing : Except Exn IngestionOutcomeKind → Bool
  | .ok .rejected | .ok .failedTerminal => true
  | _ => false

def lifecycleKinds : List String := "runtime_started" :: terminalKinds

def terminalReasons : List String :=
  ["end_of_stream", "soft_timeout", "hard_timeout", "cancelled", "failed_terminal"]

/-- The terminal event and the kind of session a terminal reason stands for. -/
def terminalKind (reason : String) : String :=
  if reason = "end_of_stream" ∨ reason = "soft_timeout" then "runtime_completed"
  else if reason = "cancelled" then "runtime_cancelled" else "runtime_failed"

def closedKind (reason : String) : SessionStateKind :=
  if reason = "end_of_stream" ∨ reason = "soft_timeout" then .completed else .aborted

/-- Nothing comes after an outcome that stops the run. -/
def StopsAtFailure (settings : AppSettings)
    (answers : List (Except Exn IngestionOutcomeKind)) : Prop :=
  settings.stopOnFailure = true → ∀ before answer after,
    answers = before ++ answer :: after → failing answer = true → after = []

structure RunAccounts (settings : AppSettings) (result : RunResult) (session : SessionState Seconds)
    (log : List AppStep) : Prop where
  identified : ∀ event ∈ engineEvents log, ∃ eventId, extractEventId event = .ok eventId
  distinct : ((engineEvents log).map extractEventId).Nodup
  arrival : (engineEvents log).Sublist (polled log)
  processed : (engineAnswers log).length = result.processedCount
  announced : (emittedKinds log).count "runtime_event_processed" = result.processedCount
  skipped : (emittedKinds log).count "runtime_event_skipped" = result.skippedCount
  failed : (engineAnswers log).countP failing = result.failedCount
  lifecycle : ∃ middle, emittedKinds log =
      "runtime_started" :: middle ++ [terminalKind result.terminalReason] ∧
    ∀ kind ∈ middle, kind ∉ lifecycleKinds
  reason : result.terminalReason ∈ terminalReasons
  stops : StopsAtFailure settings (engineAnswers log)
  session : session.kind = closedKind result.terminalReason

-- ---------------------------------------------------------------------------
-- Tallies
-- ---------------------------------------------------------------------------

@[simp] theorem engineEvents_append :
    engineEvents (log ++ log') = engineEvents log ++ engineEvents log' :=
  List.filterMap_append

@[simp] theorem engineAnswers_append :
    engineAnswers (log ++ log') = engineAnswers log ++ engineAnswers log' := List.filterMap_append

section
variable {event : Dict} {x : Except Exn Unit} {polls : Except Exn (Option (List Dict))}

theorem engineEvents_emit : engineEvents (log ++ [⟨.emit event, x⟩]) = engineEvents log :=
  engineEvents_append.trans (List.append_nil _)

theorem engineAnswers_emit : engineAnswers (log ++ [⟨.emit event, x⟩]) = engineAnswers log :=
  engineAnswers_append.trans (List.append_nil _)

theorem polled_emit : polled (log ++ [⟨.emit event, x⟩]) = polled log :=
  polled_append.trans (List.append_nil _)

theorem engineEvents_eventSource :
    engineEvents (log ++ [⟨.eventSource, polls⟩]) = engineEvents log :=
  engineEvents_append.trans (List.append_nil _)

theorem engineAnswers_eventSource :
    engineAnswers (log ++ [⟨.eventSource, polls⟩]) = engineAnswers log :=
  engineAnswers_append.trans (List.append_nil _)

end

/-- What has been counted so far. An id is seen before its event is handed to the engine. -/
structure Tally where
  answers : List (Except Exn IngestionOutcomeKind)
  announced : Nat
  skipped : Nat
  handed : List String
  seen : List String

/-- The counters of `run` between two events. -/
structure Tally.Matches (tally : Tally) (counts : RunCounts) : Prop where
  processed : tally.answers.length = counts.processed
  announced : tally.announced = counts.processed
  skipped : tally.skipped = counts.skipped
  failed : tally.answers.countP failing = counts.failed
  handed : tally.handed = tally.seen

section
variable {W : Type}

structure Tallied (tally : Tally) (left : List Dict) (s : AppWorld W) : Prop where
  answers : engineAnswers s.log = tally.answers
  handed : ∀ event ∈ engineEvents s.log, ∃ eventId ∈ tally.handed,
    extractEventId event = .ok eventId
  seen : s.state.seenEventIds = tally.seen
  distinct : ((engineEvents s.log).map extractEventId).Nodup
  arrival : ∃ reached, polled s.log = reached ++ left ∧ (engineEvents s.log).Sublist reached
  announced : (emittedKinds s.log).count "runtime_event_processed" = tally.announced
  skipped : (emittedKinds s.log).count "runtime_event_skipped" = tally.skipped
  lifecycle : ∃ middle, emittedKinds s.log = "runtime_started" :: middle ∧
    ∀ kind ∈ middle, kind ∉ lifecycleKinds

variable {exec : (c : AppCall) → W → c.Res × W} {settings : AppSettings} {s : AppWorld W}
  {tally : Tally} {left : List Dict}

-- ---------------------------------------------------------------------------
-- Calls no counter stands for
-- ---------------------------------------------------------------------------

def Uncounted : AppCall → Prop
  | .process .. | .eventSource => False
  | .emit event => ∀ kind, textAt event "kind" = some kind →
      kind ∉ "runtime_event_processed" :: "runtime_event_skipped" :: lifecycleKinds
  | _ => True

theorem emittedKinds_uncounted {c : AppCall} {x : c.Res} (hc : Uncounted c) :
    ∀ kind ∈ emittedKinds [⟨c, x⟩],
      kind ∉ "runtime_event_processed" :: "runtime_event_skipped" :: lifecycleKinds := by
  cases c with
  | emit event =>
    intro kind hkind
    simp only [emittedKinds, List.mem_filterMap, List.mem_singleton] at hkind
    obtain ⟨_, rfl, hkind⟩ := hkind
    exact hc kind hkind
  | _ => simp [emittedKinds]

theorem uncounted_projections {c : AppCall} {x : c.Res} (hc : Uncounted c) :
    engineEvents [⟨c, x⟩] = [] ∧ engineAnswers [⟨c, x⟩] = [] ∧ polled [⟨c, x⟩] = [] := by
  cases c with
  | process => exact hc.elim
  | eventSource => exact hc.elim
  | _ => exact ⟨rfl, rfl, rfl⟩

theorem Tallied.snoc {c : AppCall} {x : c.Res} {w : W} (h : Tallied tally left s)
    (hc : Uncounted c) :
    Tallied tally left ⟨s.state, w, s.log ++ [⟨c, x⟩]⟩ := by
  obtain ⟨hevents, hanswers, hpolled⟩ := uncounted_projections (x := x) hc
  have hkinds := emittedKinds_uncounted (x := x) hc
  have hcount : ∀ kind ∈ ["runtime_event_processed", "runtime_event_skipped"],
      (emittedKinds (s.log ++ [⟨c, x⟩])).count kind = (emittedKinds s.log).count kind := by
    intro kind hkind
    have hzero : (emittedKinds [⟨c, x⟩]).count kind = 0 :=
      List.count_eq_zero.mpr fun hmem =>
        hkinds kind hmem (List.mem_append_left lifecycleKinds hkind)
    rw [emittedKinds_append, List.count_append, hzero, Nat.add_zero]
  obtain ⟨middle, hmiddle, hinner⟩ := h.lifecycle
  refine ⟨?_, ?_, h.seen, ?_, ?_, ?_, ?_, middle ++ emittedKinds [⟨c, x⟩], ?_, ?_⟩
  · simpa [hanswers] using h.answers
  · simpa [hevents] using h.handed
  · simpa [hevents] using h.distinct
  · simpa [hevents, hpolled] using h.arrival
  · exact (hcount _ (by simp)).trans h.announced
  · exact (hcount _ (by simp)).trans h.skipped
  · rw [emittedKinds_append, hmiddle]
    rfl
  · intro kind hkind
    rcases List.mem_append.mp hkind with hkind | hkind
    · exact hinner kind hkind
    · exact fun hlifecycle => hkinds kind hkind (by simp [hlifecycle])

theorem request_tallied {c : AppCall} (hc : Uncounted c) :
    Keeps (Tallied tally left) (request exec c) :=
  .call fun _ _ _ h => h.snoc hc

theorem Tallied.withSession {session : SessionState Seconds} (h : Tallied tally left s) :
    Tallied tally left { s with state := { s.state with session } } :=
  ⟨h.answers, h.handed, h.seen, h.distinct, h.arrival, h.announced, h.skipped, h.lifecycle⟩

theorem evaluateTimeouts_tallied : Keeps (Tallied tally left) (evaluateTimeouts exec settings) := by
  refine .bind .read fun state => ?_
  split
  · exact .pure _
  · exact .bind (request_tallied trivial) fun _ => .lift _

theorem buildProcessingContext_tallied {event : Dict} {eventId : String} :
    Keeps (Tallied tally left) (buildProcessingContext exec settings event eventId) := by
  refine .bind (.lift _) fun sourcePath => .bind (request_tallied trivial) fun now => ?_
  dsimp only
  split
  · exact .bind (.lift _) fun _ => .lift _
  · exact .raise _

theorem stopBeforeEvent_tallied (h : Tallied tally left s) :
    Triple (stopBeforeEvent exec settings) s
      (fun reason s' => Tallied tally left s' ∧ ∀ r, reason = some r → r ∈ terminalReasons)
      fun _ _ => True := by
  unfold stopBeforeEvent
  refine Keeps.andThen evaluateTimeouts_tallied h (fun _ _ _ => trivial) ?_
  intro timeoutState s₁ h₁
  split
  · exact .pure ⟨h₁, by rintro _ ⟨⟩; decide⟩
  · exact .pure ⟨h₁, by rintro _ ⟨⟩; decide⟩
  · refine Keeps.andThen (request_tallied trivial) h₁ (fun _ _ _ => trivial) ?_
    intro cancelled s₂ h₂
    split
    · exact .pure ⟨h₂, by rintro _ ⟨⟩; decide⟩
    · exact .pure ⟨h₂, by rintro _ ⟨⟩⟩

theorem nextEventBatch_tallied (h : Tallied tally [] s) :
    Triple (nextEventBatch exec settings) s (Tallied tally) fun _ _ => True := by
  have hpoll : ∀ s : AppWorld W, Tallied tally [] s → Triple (do
      return (← request exec .eventSource).getD []) s (Tallied tally) fun _ _ => True := by
    intro s h
    refine .bind (Q := fun polls => Tallied tally (polls.getD [])) (.call ?_ fun _ _ => trivial)
      fun _ _ h => .pure h
    intro polls w
    obtain ⟨reached, hpolled, hreached⟩ := h.arrival
    have hkinds : emittedKinds (s.log ++ [⟨.eventSource, .ok polls⟩]) = emittedKinds s.log := by
      rw [emittedKinds_append]
      exact List.append_nil _
    refine ⟨?_, ?_, h.seen, ?_, ⟨reached, ?_, ?_⟩, hkinds ▸ h.announced, hkinds ▸ h.skipped,
      hkinds ▸ h.lifecycle⟩
    · rw [engineAnswers_eventSource]
      exact h.answers
    · rw [engineEvents_eventSource]
      exact h.handed
    · rw [engineEvents_eventSource]
      exact h.distinct
    · rw [polled_append, hpolled, List.append_nil]
      exact congrArg (reached ++ ·) (List.append_nil _)
    · rw [engineEvents_eventSource]
      exact hreached
  unfold nextEventBatch
  split
  · exact hpoll s h
  · refine .bind (.read (R := fun _ s' => s = s') rfl) ?_
    rintro state _ rfl
    split
    · exact .pure h
    · refine .bind (Q := fun _ => Tallied tally []) (.write ?_) fun _ s₁ h₁ => hpoll s₁ h₁
      exact ⟨h.answers, h.handed, h.seen, h.distinct, h.arrival, h.announced, h.skipped,
        h.lifecycle⟩

variable [Interpreter]

theorem recordActivity_tallied : Keeps (Tallied tally left) (recordActivity exec settings) := by
  refine .bind .read fun state => .bind (.lift _) fun active => ?_
  refine .bind (request_tallied trivial) fun t => .bind (.lift _) fun next => ?_
  exact fun s h => .write h.withSession

theorem emitCanonicalOutcomeEvent_tallied {outcomeKind : IngestionOutcomeKind}
    {context : ProcessingContext} :
    Keeps (Tallied tally left) (emitCanonicalOutcomeEvent exec outcomeKind context) := by
  refine .bind (request_tallied trivial) fun t => request_tallied ?_
  intro kind hkind
  cases outcomeKind <;> cases hkind <;> decide

-- ---------------------------------------------------------------------------
-- One event, one batch, one run
-- ---------------------------------------------------------------------------

omit [Interpreter] in
theorem process_tallied {event : Dict} {context : Option ProcessingContext} {rest : List Dict}
    {eventId : String} (h : Tallied tally (event :: rest) s)
    (hid : extractEventId event = .ok eventId) (hnew : eventId ∉ tally.handed) :
    Triple (request exec (.process event context)) s
      (fun outcomeKind => Tallied { tally with
        answers := tally.answers ++ [.ok outcomeKind], handed := eventId :: tally.handed } rest)
      fun _ _ => True := by
  refine .call ?_ fun _ _ => trivial
  intro outcomeKind w
  obtain ⟨reached, hpolled, hreached⟩ := h.arrival
  have hkinds : emittedKinds (s.log ++ [⟨.process event context, .ok outcomeKind⟩]) =
      emittedKinds s.log := by
    rw [emittedKinds_append]
    exact List.append_nil _
  have hevents : engineEvents (s.log ++ [⟨.process event context, .ok outcomeKind⟩]) =
      engineEvents s.log ++ [event] := engineEvents_append
  refine ⟨?_, ?_, h.seen, ?_, ⟨reached ++ [event], ?_, ?_⟩, hkinds ▸ h.announced,
    hkinds ▸ h.skipped, hkinds ▸ h.lifecycle⟩
  · rw [engineAnswers_append, h.answers]
    rfl
  · rw [hevents]
    intro event' hevent'
    rcases List.mem_append.mp hevent' with hevent' | hevent'
    · obtain ⟨eventId', hmem, hid'⟩ := h.handed event' hevent'
      exact ⟨eventId', .tail _ hmem, hid'⟩
    · cases List.mem_singleton.mp hevent'
      exact ⟨eventId, .head _, hid⟩
  · rw [hevents, List.map_append, List.nodup_append]
    refine ⟨h.distinct, by simp, ?_⟩
    intro x hx y hy hxy
    obtain ⟨event', hevent', rfl⟩ := List.mem_map.mp hx
    obtain ⟨eventId', hmem, hid'⟩ := h.handed event' hevent'
    simp only [List.map_cons, List.map_nil, List.mem_singleton] at hy
    rw [hy, hid, hid'] at hxy
    cases hxy
    exact hnew hmem
  · rw [polled_append, hpolled]
    simp [polled, polledBy]
  · rw [hevents]
    exact hreached.append (List.Sublist.refl _)

theorem emitCounted_tallied {kind : String} {extra : List (String × Value)}
    (hn : (extra.map Prod.fst).Nodup) (hk : "kind" ∉ extra.map Prod.fst)
    (hkind : kind ∉ lifecycleKinds) (h : Tallied tally left s) :
    Triple (emit exec settings kind extra) s
      (fun _ => Tallied { tally with
        announced := tally.announced + (if kind = "runtime_event_processed" then 1 else 0)
        skipped := tally.skipped + (if kind = "runtime_event_skipped" then 1 else 0) } left)
      fun _ _ => True := by
  unfold emit
  refine Keeps.andThen (request_tallied trivial) h (fun _ _ _ => trivial) ?_
  intro t s₁ h₁
  refine .call ?_ fun _ _ => trivial
  intro _ w
  have hkinds : emittedKinds (s₁.log ++ [⟨.emit (runtimeEmission settings kind t extra), .ok ()⟩]) =
      emittedKinds s₁.log ++ [kind] := by
    rw [emittedKinds_append, emittedKinds_emit (textAt_runtimeEmission settings kind t hn hk)]
  obtain ⟨middle, hmiddle, hinner⟩ := h₁.lifecycle
  refine ⟨?_, ?_, h₁.seen, ?_, ?_, ?_, ?_, middle ++ [kind], ?_, ?_⟩
  · rw [engineAnswers_emit]
    exact h₁.answers
  · rw [engineEvents_emit]
    exact h₁.handed
  · rw [engineEvents_emit]
    exact h₁.distinct
  · rw [engineEvents_emit, polled_emit]
    exact h₁.arrival
  · rw [hkinds, List.count_append, h₁.announced, List.count_singleton]
    simp
  · rw [hkinds, List.count_append, h₁.skipped, List.count_singleton]
    simp
  · rw [hkinds, hmiddle]
    rfl
  · intro kind' hkind'
    rcases List.mem_append.mp hkind' with hkind' | hkind'
    · exact hinner kind' hkind'
    · cases List.mem_singleton.mp hkind'
      exact hkind

theorem processNewEvent_tallied {event : Dict} {rest : List Dict} {eventId : String}
    (h : Tallied tally (event :: rest) s) (hid : extractEventId event = .ok eventId)
    (hnew : eventId ∉ tally.handed) :
    Triple (processNewEvent exec settings event eventId) s
      (fun outcomeKind => Tallied
        { answers := tally.answers ++ [.ok outcomeKind], announced := tally.announced + 1,
          skipped := tally.skipped, handed := eventId :: tally.handed,
          seen := eventId :: tally.seen } rest)
      fun _ _ => True := by
  unfold processNewEvent
  refine .bind (Q := fun _ => Tallied { tally with seen := eventId :: tally.seen } (event :: rest))
    (.write ⟨h.answers, h.handed, congrArg _ h.seen, h.distinct, h.arrival, h.announced, h.skipped,
      h.lifecycle⟩) ?_
  intro _ s₁ h₁
  refine Keeps.andThen buildProcessingContext_tallied h₁ (fun _ _ _ => trivial) ?_
  intro processingContext s₂ h₂
  refine Keeps.andThen recordActivity_tallied h₂ (fun _ _ _ => trivial) ?_
  intro _ s₃ h₃
  refine .bind (process_tallied h₃ hid hnew) ?_
  intro outcomeKind s₄ h₄
  refine .bind (emitCounted_tallied (by simp) (by simp) (by decide) h₄) ?_
  intro _ s₅ h₅
  refine Keeps.andThen emitCanonicalOutcomeEvent_tallied h₅ (fun _ _ _ => trivial) ?_
  exact fun _ s₆ h₆ => .pure h₆

omit [Interpreter] in
/-- Nothing has failed that stops the run. -/
def Steady (settings : AppSettings) (answers : List (Except Exn IngestionOutcomeKind)) : Prop :=
  settings.stopOnFailure = true → ∀ answer ∈ answers, failing answer = false

omit [Interpreter] in
theorem Steady.stopsAtFailure {answers : List (Except Exn IngestionOutcomeKind)}
    (h : Steady settings answers) : StopsAtFailure settings answers := by
  rintro hstop before answer after rfl hfailing
  have hsteady := h hstop answer (by simp)
  rw [hfailing] at hsteady
  cases hsteady

omit [Interpreter] in
theorem Steady.append_stops {answers : List (Except Exn IngestionOutcomeKind)}
    {answer : Except Exn IngestionOutcomeKind} (h : Steady settings answers) :
    StopsAtFailure settings (answers ++ [answer]) := by
  intro hstop before failed after heq hfailing
  rcases List.append_eq_append_iff.mp heq with ⟨m, rfl, hm⟩ | ⟨m, rfl, hm⟩
  · cases m with
    | nil =>
      cases hm
      rfl
    | cons x m => simp at hm
  · cases m with
    | nil =>
      cases hm
      rfl
    | cons x m =>
      cases hm
      have hsteady := h hstop failed (by simp)
      rw [hfailing] at hsteady
      cases hsteady

/-- Where the run has got to between two events of a batch. -/
def Between (settings : AppSettings) (counts : RunCounts) (left : List Dict)
    (s : AppWorld W) : Prop :=
  ∃ tally, Tallied tally left s ∧ tally.Matches counts ∧ Steady settings tally.answers

/-- Where a batch, a turn or the loop has left the run. -/
def Reached (settings : AppSettings) (result : RunCounts × Option String) (s : AppWorld W) : Prop :=
  match result with
  | (counts, none) => Between settings counts [] s
  | (counts, some reason) => reason ∈ terminalReasons ∧ ∃ tally left, Tallied tally left s ∧
      tally.Matches counts ∧ StopsAtFailure settings tally.answers

omit [Interpreter] in
theorem Between.reached {counts : RunCounts} {reason : String} (h : Between settings counts left s)
    (hreason : reason ∈ terminalReasons) : Reached settings (counts, some reason) s := by
  obtain ⟨tally, htallied, hmatches, hsteady⟩ := h
  exact ⟨hreason, tally, left, htallied, hmatches, hsteady.stopsAtFailure⟩

theorem processEventBatch_reached {batch : List Dict} {counts : RunCounts}
    (h : Between settings counts batch s) :
    Triple (processEventBatch exec settings batch counts) s (Reached settings) fun _ _ => True := by
  induction batch generalizing counts s with
  | nil => exact .pure h
  | cons event rest ih =>
    obtain ⟨tally, htallied, hmatches, hsteady⟩ := h
    unfold processEventBatch
    refine .bind (stopBeforeEvent_tallied htallied) ?_
    rintro reason s₁ ⟨h₁, hreason⟩
    cases reason with
    | some reason => exact .pure (Between.reached ⟨tally, h₁, hmatches, hsteady⟩ (hreason _ rfl))
    | none =>
      refine .bind (.lift (Q := fun eventId s' => extractEventId event = .ok eventId ∧ s₁ = s')
        (fun _ hid => ⟨hid, rfl⟩) fun _ _ => trivial) ?_
      rintro eventId _ ⟨hid, rfl⟩
      refine .bind (.read (R := fun state s' => s₁.state = state ∧ s₁ = s') ⟨rfl, rfl⟩) ?_
      rintro _ _ ⟨rfl, rfl⟩
      split
      · unfold skipEvent
        refine .bind (emitCounted_tallied (by simp) (by simp) (by decide) h₁) ?_
        intro _ s₂ h₂
        -- The polled event that is skipped joins the ones reached.
        obtain ⟨reached, hpolled, hreached⟩ := h₂.arrival
        have hskipped : Tallied _ rest s₂ := ⟨h₂.answers, h₂.handed, h₂.seen, h₂.distinct,
          ⟨reached ++ [event], by simp [hpolled], hreached.trans (List.sublist_append_left _ _)⟩,
          h₂.announced, h₂.skipped, h₂.lifecycle⟩
        exact ih ⟨_, hskipped, ⟨hmatches.processed, by simp [hmatches.announced],
          by simp [hmatches.skipped], hmatches.failed, hmatches.handed⟩, hsteady⟩
      · rename_i hnew
        rw [h₁.seen, ← hmatches.handed] at hnew
        refine .bind (processNewEvent_tallied h₁ hid hnew) ?_
        intro outcomeKind s₂ h₂
        have hprocessed : (tally.answers ++ [Except.ok outcomeKind]).length =
          counts.processed + 1 := by
          simp [hmatches.processed]
        have hannounced : tally.announced + 1 = counts.processed + 1 := by rw [hmatches.announced]
        dsimp only
        split
        next hfailed =>
          have hfailing : failing (.ok outcomeKind) = true := by
            rcases hfailed with rfl | rfl <;> rfl
          have hcount : (tally.answers ++ [Except.ok outcomeKind]).countP failing =
            counts.failed + 1 := by
            simp [List.countP_append, hmatches.failed, hfailing]
          split
          · exact .pure ⟨by decide, _, rest, h₂, ⟨hprocessed, hannounced, hmatches.skipped, hcount,
              congrArg _ hmatches.handed⟩, hsteady.append_stops⟩
          next hgoes =>
            exact ih ⟨_, h₂, ⟨hprocessed, hannounced, hmatches.skipped, hcount,
              congrArg _ hmatches.handed⟩, fun hstop => absurd hstop hgoes⟩
        next hfailed =>
          have hfailing : failing (.ok outcomeKind) = false := by
            cases outcomeKind <;> first | rfl | simp at hfailed
          have hcount : (tally.answers ++ [Except.ok outcomeKind]).countP failing =
            counts.failed := by
            simp [List.countP_append, hmatches.failed, hfailing]
          refine ih ⟨_, h₂, ⟨hprocessed, hannounced, hmatches.skipped, hcount,
            congrArg _ hmatches.handed⟩, fun hstop answer hanswer => ?_⟩
          rcases List.mem_append.mp hanswer with hanswer | hanswer
          · exact hsteady hstop answer hanswer
          · rw [List.mem_singleton.mp hanswer, hfailing]

theorem pollOnce_reached {counts : RunCounts} (h : Between settings counts [] s) :
    Triple (pollOnce exec settings counts) s (Reached settings) fun _ _ => True := by
  obtain ⟨tally, htallied, hmatches, hsteady⟩ := h
  have hbetween : ∀ s' : AppWorld W, Tallied tally [] s' → Between settings counts [] s' :=
    fun s' h' => ⟨tally, h', hmatches, hsteady⟩
  unfold pollOnce
  refine Keeps.andThen evaluateTimeouts_tallied htallied (fun _ _ _ => trivial) ?_
  intro timeoutState s₁ h₁
  split
  · exact .pure ((hbetween s₁ h₁).reached (by decide))
  · exact .pure ((hbetween s₁ h₁).reached (by decide))
  · refine .bind (nextEventBatch_tallied h₁) ?_
    intro batch s₂ h₂
    split
    next hempty =>
      rw [List.isEmpty_iff.mp hempty] at h₂
      refine Keeps.andThen (request_tallied trivial) h₂ (fun _ _ _ => trivial) ?_
      intro cancelled s₃ h₃
      split
      · exact .pure ((hbetween s₃ h₃).reached (by decide))
      · split
        · exact .pure ((hbetween s₃ h₃).reached (by decide))
        · refine Keeps.andThen (request_tallied trivial) h₃ (fun _ _ _ => trivial) ?_
          exact fun _ s₄ h₄ => .pure (hbetween s₄ h₄)
    next =>
      refine .bind (processEventBatch_reached ⟨tally, h₂, hmatches, hsteady⟩) ?_
      rintro ⟨counts', reason⟩ s₃ h₃
      cases reason with
      | some reason => exact .pure h₃
      | none =>
        dsimp only
        split
        · exact .pure (Between.reached h₃ (by decide))
        · exact .pure h₃

theorem runLoop_reached {turns : Nat} {counts : RunCounts} (h : Between settings counts [] s) :
    Triple (runLoop exec settings turns counts) s (Reached settings) fun _ _ => True := by
  induction turns generalizing counts s with
  | zero => exact .pure h
  | succ turns ih =>
    unfold runLoop
    refine .bind (pollOnce_reached h) ?_
    rintro ⟨counts', reason⟩ s₁ h₁
    cases reason with
    | some reason => exact .pure h₁
    | none => exact ih h₁

-- ---------------------------------------------------------------------------
-- The end of a run
-- ---------------------------------------------------------------------------

omit [Interpreter] in
/-- Before the first emission. -/
structure Unstarted (s : AppWorld W) : Prop where
  kinds : emittedKinds s.log = []
  events : engineEvents s.log = []
  answers : engineAnswers s.log = []
  polled : polled s.log = []
  seen : s.state.seenEventIds = []

omit [Interpreter] in
theorem Unstarted.snoc {c : AppCall} {x : c.Res} {w : W} (h : Unstarted s)
    (hc : c = .sessionNow ∨ c = .now) : Unstarted ⟨s.state, w, s.log ++ [⟨c, x⟩]⟩ := by
  have hquiet : emittedKinds [⟨c, x⟩] = [] ∧ Uncounted c := by
    rcases hc with rfl | rfl
    · exact ⟨rfl, trivial⟩
    · exact ⟨rfl, trivial⟩
  obtain ⟨hevents, hanswers, hpolled⟩ := uncounted_projections (x := x) hquiet.2
  refine ⟨?_, ?_, ?_, ?_, h.seen⟩
  · rw [emittedKinds_append, h.kinds, hquiet.1, List.append_nil]
  · rw [engineEvents_append, h.events, hevents, List.append_nil]
  · rw [engineAnswers_append, h.answers, hanswers, List.append_nil]
  · rw [polled_append, h.polled, hpolled, List.append_nil]

theorem startSession_unstarted : Keeps Unstarted (startSession exec settings : AppM W Unit) := by
  refine .bind .read fun state => .bind (.lift _) fun (normalizedId, same) => ?_
  cases same with
  | some _ => exact .pure ()
  | none =>
    refine .bind (.call fun _ _ _ h => h.snoc (.inl rfl)) fun _ s h => ?_
    exact .write ⟨h.kinds, h.events, h.answers, h.polled, h.seen⟩

theorem emitStarted_between (h : Unstarted s) :
    Triple (emit exec settings "runtime_started") s (fun _ => Between settings {} [])
      fun _ _ => True := by
  unfold emit
  refine .bind (Q := fun _ => Unstarted)
    (.call (fun _ _ => h.snoc (.inr rfl)) fun _ _ => trivial) ?_
  intro t s₁ h₁
  refine .call (fun _ w => ?_) fun _ _ => trivial
  have hkinds : emittedKinds (s₁.log ++ [⟨.emit (runtimeEmission settings "runtime_started" t []),
      .ok ()⟩]) = ["runtime_started"] := by
    rw [emittedKinds_append, h₁.kinds,
      emittedKinds_emit (textAt_runtimeEmission settings "runtime_started" t (by simp) (by simp))]
    rfl
  have hevents : engineEvents (s₁.log ++ [⟨.emit (runtimeEmission settings "runtime_started" t []),
      .ok ()⟩]) = [] := by
    rw [engineEvents_append, h₁.events]
    rfl
  refine ⟨⟨[], 0, 0, [], []⟩, ⟨?_, ?_, h₁.seen, ?_, ⟨[], ?_, ?_⟩, ?_, ?_, [], hkinds, by simp⟩,
    ⟨rfl, rfl, rfl, rfl, rfl⟩, by simp [Steady]⟩
  · rw [engineAnswers_append, h₁.answers]
    rfl
  · simp [hevents]
  · simp [hevents]
  · rw [polled_append, h₁.polled]
    rfl
  · simp [hevents]
  · rw [hkinds]
    rfl
  · rw [hkinds]
    rfl

omit [Interpreter] in
theorem ended_kind {active next : SessionState Seconds} {kind : SessionStateKind} {t : Seconds}
    {reasonCode : String} (h : active.ended kind t reasonCode = .ok next) : next.kind = kind := by
  unfold SessionState.ended at h
  obtain ⟨_, -, h⟩ := except_bind_ok.mp h
  cases except_pure_ok.mp h
  rfl

theorem endSession_tallied {kind : SessionStateKind} {reasonCode : String}
    (h : Tallied tally left s) :
    Triple (endSession exec settings kind reasonCode) s
      (fun _ s' => Tallied tally left s' ∧ s'.state.session.kind = kind) fun _ _ => True := by
  unfold endSession
  refine Keeps.andThen .read h (fun _ _ _ => trivial) fun state s₁ h₁ => ?_
  refine Keeps.andThen (.lift _) h₁ (fun _ _ _ => trivial) fun active s₂ h₂ => ?_
  refine Keeps.andThen (request_tallied trivial) h₂ (fun _ _ _ => trivial) fun t s₃ h₃ => ?_
  refine .bind (Q := fun next s₄ => Tallied tally left s₄ ∧ next.kind = kind)
    (.lift (fun next hnext => ⟨h₃, ended_kind hnext⟩) fun _ _ => trivial) ?_
  rintro next s₄ ⟨h₄, hkind⟩
  exact .write ⟨h₄.withSession, hkind⟩

theorem closeSession_eq {reason : String} (h : reason ∈ terminalReasons) :
    closeSession exec settings reason = (do
      endSession exec settings (closedKind reason)
        (if closedKind reason = .completed then "stopped" else reason)
      emit exec settings (terminalKind reason) [("reason_code", .str reason)]) := by
  simp only [terminalReasons, List.mem_cons, List.not_mem_nil, or_false] at h
  rcases h with rfl | rfl | rfl | rfl | rfl <;> rfl

theorem closeSession_accounts {counts : RunCounts} {reason : String}
    (h : Reached settings (counts, some reason) s) :
    Triple (closeSession exec settings reason) s
      (fun _ s' => RunAccounts settings
        { processedCount := counts.processed, skippedCount := counts.skipped,
          failedCount := counts.failed, terminalReason := reason } s'.state.session s'.log)
      fun _ _ => True := by
  obtain ⟨hreason, tally, left, htallied, hmatches, hstops⟩ := h
  rw [closeSession_eq hreason]
  refine .bind (endSession_tallied htallied) ?_
  rintro _ s₁ ⟨h₁, hkind⟩
  unfold emit
  refine .bind (Q := fun _ s₂ => Tallied tally left s₂ ∧ s₂.state.session.kind = closedKind reason)
    (.call (fun _ _ => ⟨h₁.snoc trivial, hkind⟩) fun _ _ => trivial) ?_
  rintro t s₂ ⟨h₂, hkind₂⟩
  refine .call (fun _ w => ?_) fun _ _ => trivial
  have hkinds : emittedKinds (s₂.log ++ [⟨.emit (runtimeEmission settings (terminalKind reason) t
      [("reason_code", .str reason)]), .ok ()⟩]) = emittedKinds s₂.log ++
        [terminalKind reason] := by
    rw [emittedKinds_append,
      emittedKinds_emit (textAt_runtimeEmission settings (terminalKind reason) t (by simp)
        (by simp))]
  have hevents : engineEvents (s₂.log ++ [⟨.emit (runtimeEmission settings (terminalKind reason) t
      [("reason_code", .str reason)]), .ok ()⟩]) = engineEvents s₂.log := engineEvents_emit
  have hanswers : engineAnswers (s₂.log ++ [⟨.emit (runtimeEmission settings (terminalKind reason) t
      [("reason_code", .str reason)]), .ok ()⟩]) = tally.answers :=
    engineAnswers_emit.trans h₂.answers
  have hterminal : terminalKind reason ≠ "runtime_event_processed" ∧
      terminalKind reason ≠ "runtime_event_skipped" := by
    unfold terminalKind
    split
    · decide
    · split <;> decide
  obtain ⟨reached, hpolled, hreached⟩ := h₂.arrival
  obtain ⟨middle, hmiddle, hinner⟩ := h₂.lifecycle
  refine ⟨?_, ?_, ?_, ?_, ?_, ?_, ?_, ⟨middle, ?_, hinner⟩, hreason, ?_, hkind₂⟩
  · rw [hevents]
    intro event hevent
    obtain ⟨eventId, -, hid⟩ := h₂.handed event hevent
    exact ⟨eventId, hid⟩
  · rw [hevents]
    exact h₂.distinct
  · rw [hevents, polled_append, hpolled, List.append_assoc]
    exact hreached.trans (List.sublist_append_left _ _)
  · rw [hanswers]
    exact hmatches.processed
  · rw [hkinds, List.count_append, h₂.announced, hmatches.announced, List.count_singleton]
    simp [hterminal.1]
  · rw [hkinds, List.count_append, h₂.skipped, hmatches.skipped, List.count_singleton]
    simp [hterminal.2]
  · rw [hanswers]
    exact hmatches.failed
  · rw [hkinds, hmiddle]
  · rw [hanswers]
    exact hstops

theorem run_accounted (turns : Nat) (world : W) :
    Triple (run exec settings turns) ⟨{}, world, []⟩
      (fun x s' => ∀ result, x = some result → RunAccounts settings result s'.state.session s'.log)
      fun _ _ => True := by
  unfold run
  refine Keeps.andThen startSession_unstarted ⟨rfl, rfl, rfl, rfl, rfl⟩ (fun _ _ _ => trivial) ?_
  intro _ s₁ h₁
  refine .bind (emitStarted_between h₁) ?_
  intro _ s₂ h₂
  refine .bind (Q := fun y s' => ∀ r, y = .ok r → Reached settings r s') (.attempt
    ((runLoop_reached h₂).mono (fun r _ hr => by rintro _ ⟨⟩; exact hr)
      fun _ _ _ => by rintro _ ⟨⟩)) ?_
  rintro (e | ⟨counts, reason⟩) s₃ h₃
  · refine .bind (Q := fun _ _ => True) ((endSession_silent exec settings _ _ s₃).mono
      (fun _ _ _ => trivial) fun _ _ _ => trivial) fun _ s₄ _ => ?_
    exact .bind (Q := fun _ _ => True)
      ((emit_silent exec settings (by decide) (by simp) (by simp) s₄).mono
      (fun _ _ _ => trivial) fun _ _ _ => trivial) fun _ s₅ _ => .raise trivial
  · cases reason with
    | some reason =>
      refine .bind (closeSession_accounts (h₃ _ rfl)) fun _ s₄ h₄ => .pure ?_
      rintro _ ⟨⟩
      exact h₄
    | none => exact .pure (by rintro _ ⟨⟩)

end

theorem run_accounts [Interpreter] {W : Type} (exec : (c : AppCall) → W → c.Res × W)
    (settings : AppSettings) (turns : Nat) (world : W) (result : RunResult)
    (hreturned : ((run exec settings turns).run ⟨{}, world, []⟩).1 = .ok (some result)) :
    RunAccounts settings result ((run exec settings turns).run ⟨{}, world, []⟩).2.state.session
      ((run exec settings turns).run ⟨{}, world, []⟩).2.log := by
  rcases (run_accounted turns world).run with ⟨x, hx, h⟩ | ⟨e, he, -⟩
  · cases hx.symm.trans hreturned
    exact h result rfl
  · cases he.symm.trans hreturned

section
attribute [local instance] Interpreter.ascii

/-- A run of one poll with one event. -/
theorem deferring_accounts :
    RunAccounts { continuousSettings with loopMode := .oneshot }
      { processedCount := 1, skippedCount := 0, failedCount := 0,
        terminalReason := "end_of_stream" }
      ((run deferring { continuousSettings with loopMode := .oneshot } 1).run
        ⟨{}, 0, []⟩).2.state.session
      ((run deferring { continuousSettings with loopMode := .oneshot } 1).run ⟨{}, 0, []⟩).2.log :=
  run_accounts deferring _ 1 0 _ rfl

end

end DpostV2.Runtime
