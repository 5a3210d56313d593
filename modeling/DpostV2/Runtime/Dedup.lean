import DpostV2.Runtime.App

/-!
# Each event id once

`run_handled`: in every run, the events the loop reaches are handled in the
order they were polled in, an event whose id has not been reached before by
the engine and every other one by an emission that skips it. The outcome of
the first one plays no part.
-/

namespace DpostV2.Runtime

open DpostV2.Ingestion (IngestionOutcomeKind)

def textAt (d : Dict) (key : String) : Option String :=
  match d.get? key with
  | some (.str s) => some s
  | _ => none

/-- The id of the event a step handles, and whether the engine gets it. -/
def handledBy : AppStep → Option (String × Bool)
  | ⟨.process event _, _⟩ => (extractEventId event).toOption.map (·, true)
  | ⟨.emit event, _⟩ =>
    if textAt event "kind" = some "runtime_event_skipped" then
      (textAt event "event_id").map (·, false)
    else none
  | _ => none

theorem handledBy_process (h : extractEventId event = .ok eventId) :
    handledBy ⟨.process event context, r⟩ = some (eventId, true) := by
  have he : handledBy ⟨.process event context, r⟩ =
    (extractEventId event).toOption.map (·, true) := rfl
  rw [he, h]
  rfl

theorem handledBy_emit : handledBy ⟨.emit event, r⟩ =
    if textAt event "kind" = some "runtime_event_skipped" then
      (textAt event "event_id").map (·, false)
    else none := rfl

def handled (log : List AppStep) : List (String × Bool) := log.filterMap handledBy

def polledBy : AppStep → List Dict
  | ⟨.eventSource, .ok batch⟩ => batch.getD []
  | _ => []

def polled (log : List AppStep) : List Dict := log.flatMap polledBy

@[simp] theorem handled_append : handled (t ++ u) = handled t ++ handled u := List.filterMap_append

@[simp] theorem polled_append : polled (t ++ u) = polled t ++ polled u := List.flatMap_append

theorem handled_snoc (h : handledBy e = some x) : handled (t ++ [e]) = handled t ++ [x] := by
  simp [handled, h]

/-- The engine gets an event if and only if no event before it has its id. -/
def Decided (h : List (String × Bool)) : Prop :=
  ∀ h₁ eventId passed h₂, h = h₁ ++ (eventId, passed) :: h₂ →
    (passed = true ↔ eventId ∉ h₁.map Prod.fst)

theorem Decided.snoc (h : Decided l) (hp : passed = true ↔ eventId ∉ l.map Prod.fst) :
    Decided (l ++ [(eventId, passed)]) := by
  intro h₁ eventId' passed' h₂ heq
  rcases List.append_eq_append_iff.mp heq with ⟨m, rfl, hm⟩ | ⟨m, rfl, hm⟩
  · cases m with
    | nil =>
      cases hm
      simpa using hp
    | cons x m => simp at hm
  · cases m with
    | nil =>
      cases hm
      simpa using hp
    | cons x m =>
      cases hm
      exact h _ _ _ _ rfl

/-- The polled events the loop has handled, in order, with the ones left over. -/
def InOrder (log : List AppStep) (rest : List Dict) : Prop :=
  ∃ reached, polled log = reached ++ rest ∧
    reached.map extractEventId = (handled log).map fun h => .ok h.1

-- ---------------------------------------------------------------------------
-- Parts of the loop that handle nothing
-- ---------------------------------------------------------------------------

section
variable {W : Type}

abbrev AppWorld (W : Type) := Traced AppState W AppCall AppCall.Res

def Same (s s' : AppWorld W) : Prop :=
  handled s'.log = handled s.log ∧ polled s'.log = polled s.log ∧
    s'.state.seenEventIds = s.state.seenEventIds

theorem Same.refl (s : AppWorld W) : Same s s := ⟨rfl, rfl, rfl⟩

theorem Same.trans {s₁ s₂ s₃ : AppWorld W} (h : Same s₁ s₂) (h' : Same s₂ s₃) : Same s₁ s₃ :=
  ⟨h'.1.trans h.1, h'.2.1.trans h.2.1, h'.2.2.trans h.2.2⟩

def Silent (m : AppM W α) : Prop := ∀ s, Triple m s (fun _ => Same s) fun _ => Same s

namespace Silent

theorem pure (a : α) : Silent (Pure.pure a : AppM W α) := fun s => .pure (.refl s)

theorem raise (e : Exn) : Silent (Eff.raise e : AppM W α) := fun s => .raise (.refl s)

theorem lift (x : Except Exn α) : Silent (Eff.lift x : AppM W α) :=
  fun s => .lift (fun _ _ => .refl s) fun _ _ => .refl s

theorem read : Silent (Traced.read : AppM W AppState) := fun s => .read (.refl s)

theorem bind {m : AppM W α} {f : α → AppM W β} (hm : Silent m) (hf : ∀ a, Silent (f a)) :
    Silent (m >>= f) := by
  intro s
  refine Triple.bind (hm s) ?_
  intro a s' hs
  exact (hf a s').mono (fun _ _ h => hs.trans h) fun _ _ h => hs.trans h

/-- A silent part, and then the rest from a state that differs in nothing that matters. -/
theorem andThen {m : AppM W α} {f : α → AppM W β} {s : AppWorld W} {R : β → AppWorld W → Prop}
    {E : Exn → AppWorld W → Prop} (hm : Silent m) (herr : ∀ e s', Same s s' → E e s')
    (hok : ∀ a s', Same s s' → Triple (f a) s' R E) : Triple (m >>= f) s R E :=
  .bind ((hm s).mono (fun _ _ h => h) herr) hok

end Silent

variable (exec : (c : AppCall) → W → c.Res × W) (settings : AppSettings)

theorem request_silent {c : AppCall} (hh : ∀ r, handledBy ⟨c, r⟩ = none)
    (hp : ∀ r, polledBy ⟨c, r⟩ = []) : Silent (request exec c) := by
  intro s
  have hsame : Same s (s.answered exec c) := by
    refine ⟨?_, ?_, rfl⟩
    · simp [Traced.answered, handled, hh]
    · simp [Traced.answered, polled, hp]
  exact .perform (fun _ _ => hsame) fun _ _ => hsame

theorem setSession_silent (session : SessionState Seconds) :
    Silent (setSession session : AppM W Unit) :=
  fun _ => .write ⟨rfl, rfl, rfl⟩

theorem sessionNow_silent : Silent (request exec .sessionNow) :=
  request_silent exec (fun _ => rfl) fun _ => rfl

theorem evaluateTimeouts_silent : Silent (evaluateTimeouts exec settings) := by
  refine .bind .read fun state => ?_
  split
  · exact .pure _
  · exact .bind (sessionNow_silent exec) fun _ => .lift _

theorem buildProcessingContext_silent (event : Dict) (eventId : String) :
    Silent (buildProcessingContext exec settings event eventId) := by
  refine .bind (.lift _) fun sourcePath => ?_
  refine .bind (request_silent exec (fun _ => rfl) fun _ => rfl) fun now => ?_
  simp only
  split
  · exact .bind (.lift _) fun _ => .lift _
  · exact .raise _

variable [Interpreter]

theorem startSession_silent : Silent (startSession exec settings) := by
  refine .bind .read fun state => .bind (.lift _) fun (normalizedId, same) => ?_
  cases same with
  | some _ => exact .pure ()
  | none => exact .bind (sessionNow_silent exec) fun _ => setSession_silent _

theorem recordActivity_silent : Silent (recordActivity exec settings) :=
  .bind .read fun _ => .bind (.lift _) fun _ => .bind (sessionNow_silent exec) fun _ =>
    .bind (.lift _) fun _ => setSession_silent _

theorem endSession_silent (kind : SessionStateKind) (reasonCode : String) :
    Silent (endSession exec settings kind reasonCode) :=
  .bind .read fun _ => .bind (.lift _) fun _ => .bind (sessionNow_silent exec) fun _ =>
    .bind (.lift _) fun _ => setSession_silent _

theorem textAt_runtimeEmission (kind : String) (t : Seconds) {extra : List (String × Value)}
    (hn : (extra.map Prod.fst).Nodup) (hk : "kind" ∉ extra.map Prod.fst) :
    textAt (runtimeEmission settings kind t extra) "kind" = some kind := by
  unfold textAt runtimeEmission
  rw [Dict.get?_updateEntries _ hn, lookup_none_of_not_mem hk, Dict.get?_ofEntries (by simp)]
  rfl

theorem emit_silent {kind : String} (hkind : kind ≠ "runtime_event_skipped")
    {extra : List (String × Value)} (hn : (extra.map Prod.fst).Nodup)
    (hk : "kind" ∉ extra.map Prod.fst) : Silent (emit exec settings kind extra) := by
  refine .bind (request_silent exec (fun _ => rfl) fun _ => rfl) fun t => ?_
  refine request_silent exec (fun _ => ?_) fun _ => rfl
  rw [handledBy_emit, textAt_runtimeEmission settings kind t hn hk, if_neg (by simpa using hkind)]

theorem emitCanonicalOutcomeEvent_silent (outcomeKind : IngestionOutcomeKind)
    (context : ProcessingContext) :
      Silent (emitCanonicalOutcomeEvent exec outcomeKind context) := by
  refine .bind (request_silent exec (fun _ => rfl) fun _ => rfl) fun t => ?_
  refine request_silent exec (fun _ => ?_) fun _ => rfl
  cases outcomeKind <;> rfl

end

-- ---------------------------------------------------------------------------
-- One event, one batch, one run
-- ---------------------------------------------------------------------------

section
variable {W : Type}

/-- Between two events: the ids seen are the ids handled, and `left` is what
the last poll has left to do. -/
structure Handling (left : List Dict) (s : AppWorld W) : Prop where
  seen : ∀ eventId, eventId ∈ s.state.seenEventIds ↔ eventId ∈ (handled s.log).map Prod.fst
  decided : Decided (handled s.log)
  ordered : InOrder s.log left

/-- After an exception, which can have left an event half handled. -/
def Stopped (s : AppWorld W) : Prop := Decided (handled s.log) ∧ ∃ left, InOrder s.log left

theorem Handling.stopped {s : AppWorld W} (h : Handling left s) : Stopped s :=
  ⟨h.decided, left, h.ordered⟩

theorem Handling.same {s s' : AppWorld W} (h : Handling left s) (hs : Same s s') :
    Handling left s' := by
  obtain ⟨hh, hp, hseen⟩ := hs
  refine ⟨?_, ?_, ?_⟩
  · rw [hh, hseen]
    exact h.seen
  · rw [hh]
    exact h.decided
  · unfold InOrder
    rw [hh, hp]
    exact h.ordered

theorem Stopped.same {s s' : AppWorld W} (h : Stopped s) (hs : Same s s') : Stopped s' := by
  obtain ⟨hh, hp, -⟩ := hs
  unfold Stopped InOrder
  rw [hh, hp]
  exact h

theorem Handling.next {s s' : AppWorld W} {event : Dict} (passed : Bool)
    (h : Handling (event :: rest) s)
    (hid : extractEventId event = .ok eventId)
    (hh : handled s'.log = handled s.log ++ [(eventId, passed)]) (hp : polled s'.log = polled s.log)
    (hpassed : passed = true ↔ eventId ∉ s.state.seenEventIds)
    (hseen : ∀ i, i ∈ s'.state.seenEventIds ↔ i = eventId ∨ i ∈ s.state.seenEventIds) :
    Handling rest s' := by
  obtain ⟨reached, hpolled, hreached⟩ := h.ordered
  refine ⟨?_, ?_, reached ++ [event], ?_, ?_⟩
  · intro i
    rw [hseen, h.seen, hh]
    simp [or_comm]
  · rw [hh]
    refine h.decided.snoc ?_
    rw [hpassed, h.seen]
  · rw [hp, hpolled]
    simp
  · simp [hh, hreached, hid]

/-- The ways the loop stops before it reaches an event that was polled. -/
def stops : List String := ["hard_timeout", "soft_timeout", "cancelled", "failed_terminal"]

/-- Where a batch or a turn of the loop comes to. -/
def Followed (result : RunCounts × Option String) (s : AppWorld W) : Prop :=
  ∃ left, Handling left s ∧ (result.2 = none → left = []) ∧
    ∀ reason, result.2 = some reason → left = [] ∨ reason ∈ stops

theorem Followed.same {s s' : AppWorld W} (h : Followed result s) (hs : Same s s') :
    Followed result s' := by
  obtain ⟨left, h, hnone, hsome⟩ := h
  exact ⟨left, h.same hs, hnone, hsome⟩

/-- What a run has done with the events it polled. `left` are the events the
loop never came to. -/
structure RunHandled (x : Except Exn (Option RunResult)) (log : List AppStep) : Prop where
  decided : Decided (handled log)
  ordered : ∃ left, InOrder log left ∧ (x = .ok none → left = []) ∧
    ∀ result, x = .ok (some result) → left = [] ∨ result.terminalReason ∈ stops

theorem RunHandled.of_stopped {s : AppWorld W} (h : Stopped s) (e : Exn) :
    RunHandled (.error e) s.log := by
  obtain ⟨hd, left, ho⟩ := h
  exact ⟨hd, left, ho, by rintro ⟨⟩, by rintro _ ⟨⟩⟩

theorem RunHandled.of_followed {s : AppWorld W} (h : Followed (counts, some reason) s)
    (result : RunResult) (hr : result.terminalReason = reason) :
    RunHandled (.ok (some result)) s.log := by
  obtain ⟨left, h, -, hs⟩ := h
  refine ⟨h.decided, left, h.ordered, by rintro ⟨⟩, ?_⟩
  rintro _ ⟨⟩
  rw [hr]
  exact hs reason rfl

variable (exec : (c : AppCall) → W → c.Res × W) (settings : AppSettings)

theorem stopBeforeEvent_reason (s : AppWorld W) :
    Triple (stopBeforeEvent exec settings) s
      (fun reason s' => Same s s' ∧ ∀ r, reason = some r → r ∈ stops) fun _ => Same s := by
  unfold stopBeforeEvent
  refine (evaluateTimeouts_silent exec settings).andThen (fun _ _ hs => hs) ?_
  intro timeoutState s₁ hs₁
  have hstop : ∀ r, r ∈ stops → Same s s₁ ∧ ∀ r', some r = some r' → r' ∈ stops := by
    rintro r hr
    exact ⟨hs₁, by rintro _ ⟨⟩; exact hr⟩
  split
  · exact .pure (hstop _ (by decide))
  · exact .pure (hstop _ (by decide))
  · refine (request_silent exec (fun _ => rfl) fun _ => rfl).andThen (fun _ _ hs => hs₁.trans hs) ?_
    intro cancelled s₂ hs₂
    replace hs₂ := hs₁.trans hs₂
    split
    · exact .pure ⟨hs₂, by rintro _ ⟨⟩; decide⟩
    · exact .pure ⟨hs₂, by rintro _ ⟨⟩⟩

theorem nextEventBatch_polls {s : AppWorld W} (h : Handling [] s) :
    Triple (nextEventBatch exec settings) s Handling fun _ => Stopped := by
  have hpoll : ∀ s : AppWorld W, Handling [] s → Triple (do
      return (← request exec .eventSource).getD []) s Handling fun _ => Stopped := by
    intro s h
    have hh : handled (s.answered exec .eventSource).log = handled s.log := by
      rw [Traced.answered, handled_append]
      exact List.append_nil _
    have hp : polled (s.answered exec .eventSource).log =
        polled s.log ++ polledBy ⟨.eventSource, (exec .eventSource s.world).1⟩ := by
      rw [Traced.answered, polled_append]
      exact congrArg _ (List.append_nil _)
    refine .bind (Q := fun polls => Handling (polls.getD [])) (.perform ?_ ?_) fun _ _ h => .pure h
    · intro polls hr
      obtain ⟨reached, hpolled, hreached⟩ := h.ordered
      refine ⟨?_, ?_, reached, ?_, ?_⟩
      · rw [hh]
        exact h.seen
      · rw [hh]
        exact h.decided
      · rw [hp, hr, hpolled, List.append_nil]
        rfl
      · rw [hh]
        exact hreached
    · intro e hr
      refine (h.same ⟨hh, ?_, rfl⟩).stopped
      rw [hp, hr]
      exact List.append_nil _
  unfold nextEventBatch
  split
  · exact hpoll s h
  · refine .bind (.read (R := fun _ s' => s = s') rfl) ?_
    rintro state _ rfl
    split
    · exact .pure h
    · refine .bind (Q := fun _ => Handling []) (.write (h.same ⟨rfl, rfl, rfl⟩)) ?_
      rintro - s₁ h₁
      exact hpoll s₁ h₁

variable [Interpreter]

theorem processNewEvent_handles {s : AppWorld W} {event : Dict} (h : Handling (event :: rest) s)
    (hid : extractEventId event = .ok eventId) (hnew : eventId ∉ s.state.seenEventIds) :
    Triple (processNewEvent exec settings event eventId) s (fun _ => Handling rest)
      fun _ => Stopped := by
  unfold processNewEvent
  refine .bind (Q := fun _ s₁ => s₁.log = s.log ∧
    s₁.state.seenEventIds = eventId :: s.state.seenEventIds)
    (.write ⟨rfl, rfl⟩) ?_
  rintro - s₁ ⟨hlog₁, hseen₁⟩
  have hstop : ∀ s₂, Same s₁ s₂ → Stopped s₂ := by
    intro s₂ hs
    have h₁ : Stopped s₁ := by
      unfold Stopped
      rw [hlog₁]
      exact h.stopped
    exact h₁.same hs
  refine (buildProcessingContext_silent exec settings event eventId).andThen
    (fun _ => hstop) ?_
  intro processingContext s₂ hs₂
  refine (recordActivity_silent exec settings).andThen (fun _ s₃ hs => hstop s₃ (hs₂.trans hs)) ?_
  rintro - s₃ hs₃
  replace hs₃ := hs₂.trans hs₃
  have hnext : Handling rest (s₃.answered exec (.process event
      (if settings.engineAcceptsProcessingContext then some processingContext else none))) := by
    obtain ⟨hh, hp, hseen⟩ := hs₃
    refine h.next true hid ?_ ?_ (by simpa using hnew) ?_
    · rw [Traced.answered, handled_snoc (handledBy_process hid), hh, hlog₁]
    · rw [Traced.answered, polled_append, hp, hlog₁]
      simp [polled, polledBy]
    · intro i
      rw [Traced.answered, hseen, hseen₁, List.mem_cons]
  refine .bind (Q := fun _ => Handling rest)
    (.perform (fun _ _ => hnext) fun _ _ => hnext.stopped) ?_
  intro outcomeKind s₄ h₄
  refine (emit_silent exec settings (by decide) (by simp) (by simp)).andThen
    (fun _ _ hs => h₄.stopped.same hs) ?_
  rintro - s₅ hs₅
  have h₅ := h₄.same hs₅
  refine (emitCanonicalOutcomeEvent_silent exec outcomeKind processingContext).andThen
    (fun _ _ hs => h₅.stopped.same hs) ?_
  rintro - s₆ hs₆
  exact .pure (h₅.same hs₆)

theorem skipEvent_handles {s : AppWorld W} {event : Dict} (h : Handling (event :: rest) s)
    (hid : extractEventId event = .ok eventId) (hold : eventId ∈ s.state.seenEventIds) :
    Triple (skipEvent exec settings eventId) s (fun _ => Handling rest) fun _ => Stopped := by
  unfold skipEvent emit
  refine (request_silent exec (fun _ => rfl) fun _ => rfl).andThen
    (fun _ _ hs => h.stopped.same hs) ?_
  intro t s₁ ⟨hh, hp, hseen⟩
  have hnext : Handling rest (s₁.answered exec (.emit (runtimeEmission settings
      "runtime_event_skipped" t
      [("event_id", .str eventId), ("reason_code", .str "duplicate_event_id")]))) := by
    have hkind : textAt (runtimeEmission settings "runtime_event_skipped" t
        [("event_id", .str eventId), ("reason_code", .str "duplicate_event_id")]) "kind" =
          some "runtime_event_skipped" :=
      textAt_runtimeEmission settings _ t (by simp) (by simp)
    have hevent : textAt (runtimeEmission settings "runtime_event_skipped" t
        [("event_id", .str eventId), ("reason_code", .str "duplicate_event_id")]) "event_id" =
          some eventId := by
      unfold textAt runtimeEmission
      rw [Dict.get?_updateEntries _ (by simp)]
      rfl
    refine h.next false hid ?_ ?_ (by simpa using hold) ?_
    · have he : ∀ r, handledBy ⟨.emit (runtimeEmission settings "runtime_event_skipped" t
          [("event_id", .str eventId), ("reason_code", .str "duplicate_event_id")]), r⟩ =
            some (eventId, false) := by
        intro r
        rw [handledBy_emit, if_pos hkind, hevent]
        rfl
      rw [Traced.answered, handled_snoc (he _), hh]
    · rw [Traced.answered, polled_append, hp]
      simp [polled, polledBy]
    · intro i
      rw [Traced.answered, hseen]
      constructor
      · exact .inr
      · rintro (rfl | hi)
        · exact hold
        · exact hi
  exact .perform (fun _ _ => hnext) fun _ _ => hnext.stopped

theorem processEventBatch_follows (batch : List Dict) (counts : RunCounts) {s : AppWorld W}
    (h : Handling batch s) :
    Triple (processEventBatch exec settings batch counts) s Followed fun _ => Stopped := by
  induction batch generalizing counts s with
  | nil => exact .pure ⟨[], h, fun _ => rfl, by rintro _ ⟨⟩⟩
  | cons event rest ih =>
    unfold processEventBatch
    refine .bind ((stopBeforeEvent_reason exec settings s).mono (fun _ _ hs => hs)
      fun _ _ hs => h.stopped.same hs) ?_
    rintro reason s₁ ⟨hs₁, hreason⟩
    have h₁ := h.same hs₁
    cases reason with
    | some reason =>
      exact .pure ⟨_, h₁, by rintro ⟨⟩, by rintro _ ⟨⟩; exact .inr (hreason _ rfl)⟩
    | none =>
      refine .bind (.lift (Q := fun eventId s' => extractEventId event = .ok eventId ∧ s₁ = s')
        (fun _ hid => ⟨hid, rfl⟩) fun _ _ => h₁.stopped) ?_
      rintro eventId _ ⟨hid, rfl⟩
      refine .bind (.read (R := fun state s' => s₁.state = state ∧ s₁ = s') ⟨rfl, rfl⟩) ?_
      rintro _ _ ⟨rfl, rfl⟩
      split
      · rename_i hold
        refine .bind (skipEvent_handles exec settings h₁ hid hold) ?_
        rintro - s₂ h₂
        exact ih _ h₂
      · rename_i hnew
        refine .bind (processNewEvent_handles exec settings h₁ hid hnew) ?_
        rintro outcomeKind s₂ h₂
        simp only
        split
        · split
          · exact .pure ⟨_, h₂, by rintro ⟨⟩, by rintro _ ⟨⟩; exact .inr (by decide)⟩
          · exact ih _ h₂
        · exact ih _ h₂

theorem pollOnce_follows (counts : RunCounts) {s : AppWorld W} (h : Handling [] s) :
    Triple (pollOnce exec settings counts) s Followed fun _ => Stopped := by
  have hnil : ∀ (counts : RunCounts) (reason : Option String) (s : AppWorld W), Handling [] s →
      Followed (counts, reason) s := fun _ _ _ h => ⟨[], h, fun _ => rfl, fun _ _ => .inl rfl⟩
  unfold pollOnce
  refine (evaluateTimeouts_silent exec settings).andThen (fun _ _ hs => h.stopped.same hs) ?_
  intro timeoutState s₁ hs₁
  have h₁ := h.same hs₁
  split
  · exact .pure (hnil _ _ _ h₁)
  · exact .pure (hnil _ _ _ h₁)
  · refine .bind (nextEventBatch_polls exec settings h₁) ?_
    intro batch s₂ h₂
    split
    · rename_i hempty
      rw [List.isEmpty_iff.mp hempty] at h₂
      refine (request_silent exec (fun _ => rfl) fun _ => rfl).andThen
        (fun _ _ hs => h₂.stopped.same hs) ?_
      intro cancelled s₃ hs₃
      have h₃ := h₂.same hs₃
      split
      · exact .pure (hnil _ _ _ h₃)
      · split
        · exact .pure (hnil _ _ _ h₃)
        · refine (request_silent exec (fun _ => rfl) fun _ => rfl).andThen
            (fun _ _ hs => h₃.stopped.same hs) ?_
          intro _ s₄ hs₄
          exact .pure (hnil _ _ _ (h₃.same hs₄))
    · refine .bind (processEventBatch_follows exec settings batch counts h₂) ?_
      rintro ⟨counts, reason⟩ s₃ ⟨left, h₃, hnone, hsome⟩
      cases reason with
      | some reason => exact .pure ⟨left, h₃, hnone, hsome⟩
      | none =>
        cases hnone rfl
        simp only
        split <;> exact .pure (hnil _ _ _ h₃)

theorem runLoop_follows (turns : Nat) (counts : RunCounts) {s : AppWorld W} (h : Handling [] s) :
    Triple (runLoop exec settings turns counts) s Followed fun _ => Stopped := by
  induction turns generalizing counts s with
  | zero => exact .pure ⟨[], h, fun _ => rfl, fun _ _ => .inl rfl⟩
  | succ turns ih =>
    unfold runLoop
    refine .bind (pollOnce_follows exec settings counts h) ?_
    rintro ⟨counts, reason⟩ s₁ ⟨left, h₁, hnone, hsome⟩
    cases reason with
    | some reason => exact .pure ⟨left, h₁, hnone, hsome⟩
    | none =>
      cases hnone rfl
      exact ih counts h₁

theorem closeSession_silent (terminalReason : String) :
    Silent (closeSession exec settings terminalReason) := by
  unfold closeSession
  split
  · exact .bind (endSession_silent exec settings _ _) fun _ =>
      emit_silent exec settings (by decide) (by simp) (by simp)
  · split
    · exact .bind (endSession_silent exec settings _ _) fun _ =>
        emit_silent exec settings (by decide) (by simp) (by simp)
    · exact .bind (endSession_silent exec settings _ _) fun _ =>
        emit_silent exec settings (by decide) (by simp) (by simp)

theorem run_triple (turns : Nat) {s : AppWorld W} (h : Handling [] s) :
    Triple (run exec settings turns) s (fun x s' => RunHandled (.ok x) s'.log)
      fun e s' => RunHandled (.error e) s'.log := by
  have herr : ∀ {s s' : AppWorld W} {e : Exn}, Stopped s → Same s s' →
    RunHandled (.error e) s'.log :=
    fun h hs => .of_stopped (h.same hs) _
  unfold run
  refine (startSession_silent exec settings).andThen (fun _ _ hs => herr h.stopped hs) ?_
  rintro - s₁ hs₁
  have h₁ := h.same hs₁
  refine (emit_silent exec settings (by decide) (by simp) (by simp)).andThen
    (fun _ _ hs => herr h₁.stopped hs) ?_
  rintro - s₂ hs₂
  have h₂ := h₁.same hs₂
  refine .bind (Q := fun y s' => (∀ e, y = .error e → Stopped s') ∧ ∀ r, y = .ok r → Followed r s')
    (.attempt ((runLoop_follows exec settings turns {} h₂).mono ?_ ?_)) ?_
  · intro r s' hr
    exact ⟨by rintro _ ⟨⟩, by rintro _ ⟨⟩; exact hr⟩
  · intro e s' hs
    exact ⟨fun _ _ => hs, by rintro _ ⟨⟩⟩
  · rintro y s₃ ⟨hstop, hfollow⟩
    rcases y with e | ⟨counts, reason⟩
    · have h₃ := hstop e rfl
      refine (endSession_silent exec settings _ _).andThen (fun _ _ hs => herr h₃ hs) ?_
      rintro - s₄ hs₄
      have h₄ := h₃.same hs₄
      refine (emit_silent exec settings (by decide) (by simp) (by simp)).andThen
        (fun _ _ hs => herr h₄ hs) ?_
      rintro - s₅ hs₅
      exact .raise (.of_stopped (h₄.same hs₅) e)
    · have h₃ := hfollow _ rfl
      cases reason with
      | some reason =>
        have hstopped : Stopped s₃ := by
          obtain ⟨_, h, -⟩ := h₃
          exact h.stopped
        refine (closeSession_silent exec settings reason).andThen
          (fun _ _ hs => herr hstopped hs) ?_
        rintro - s₄ hs₄
        exact .pure (.of_followed (h₃.same hs₄) _ rfl)
      | none =>
        obtain ⟨left, h, hnone, -⟩ := h₃
        exact .pure ⟨h.decided, left, h.ordered, fun _ => hnone rfl, by rintro _ ⟨⟩⟩

/-- Whatever the world answers, a run gives each event id it reaches to the
engine the first time and skips it every other time, whatever the engine
returned. -/
theorem run_handled (turns : Nat) (world : W) :
    RunHandled ((run exec settings turns).run ⟨{}, world, []⟩).1
      ((run exec settings turns).run ⟨{}, world, []⟩).2.log := by
  have hinit : Handling [] (⟨{}, world, []⟩ : AppWorld W) :=
    ⟨fun _ => Iff.rfl, by rintro h₁ _ _ h₂ h; simp [handled] at h, [], rfl, rfl⟩
  rcases (run_triple exec settings turns hinit).run with ⟨x, hx, h⟩ | ⟨e, he, h⟩
  · rw [hx]
    exact h
  · rw [he]
    exact h

end

section
attribute [local instance] Interpreter.ascii

/-- Two polls report one event; the engine defers it. -/
def deferring : (c : AppCall) → Nat → c.Res × Nat
  | .sessionNow, n | .now, n | .systemNow, n => (.ok 0, n)
  | .eventSource, n => (.ok (if n < 2 then some [Dict.ofEntries
      [("event_id", .str "e1"), ("path", .str "/watch/a.tif")]] else none), n + 1)
  | .cancellationSignal, n => (.ok false, n)
  | .process .., n => (.ok .deferredRetry, n)
  | .emit _, n | .idleWait _, n => (.ok (), n)

def continuousSettings : AppSettings :=
  { policy := {}, sessionId := "s", traceId := "t", runtimeEventId := "t:runtime",
    runtimeTraceId := "t", loopMode := .continuous }

/-- What the engine returned, event by event. -/
def outcomes (log : List AppStep) : List (String × IngestionOutcomeKind) :=
  log.filterMap fun
    | ⟨.process event _, .ok kind⟩ => (extractEventId event).toOption.map (·, kind)
    | _ => none

/-- The loop goes on after two polls of a deferred event, and the engine got it once. -/
theorem deferredSkipped :
    ((run deferring continuousSettings 2).run ⟨{}, 0, []⟩).1.toOption = some none ∧
      (polled ((run deferring continuousSettings 2).run ⟨{}, 0, []⟩).2.log).length = 2 ∧
      outcomes ((run deferring continuousSettings 2).run ⟨{}, 0, []⟩).2.log =
        [("e1", .deferredRetry)] ∧
      handled ((run deferring continuousSettings 2).run ⟨{}, 0, []⟩).2.log =
        [("e1", true), ("e1", false)] := by
  refine ⟨rfl, ?_, ?_, ?_⟩ <;> decide +kernel

end

end DpostV2.Runtime
