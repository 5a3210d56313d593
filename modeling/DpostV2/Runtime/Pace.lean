import DpostV2.Runtime.Dedup

/-!
# Between two polls

The loop waits where a poll brought nothing, not where it did nothing. `no_spin_iff`: a run
works or waits between any two polls if and only if every poll it polls again after
brought nothing or brought an id that is new. What a run knows between two turns
is `Rested`, and what it knows within one is `Turning`.
-/

namespace DpostV2.Runtime

open DpostV2.Ingestion (IngestionOutcomeKind)

def IsPoll : AppStep → Prop
  | ⟨.eventSource, _⟩ => True
  | _ => False

/-- An event is passed to the engine, or the poll interval is waited for. -/
def Works (settings : AppSettings) : AppStep → Prop
  | ⟨.process .., _⟩ => True
  | ⟨.idleWait seconds, _⟩ => seconds = settings.pollIntervalSeconds
  | _ => False

abbrev PollAnswer := AppCall.Res .eventSource

def pollStep (answer : PollAnswer) : AppStep := ⟨.eventSource, answer⟩

/-- The log polls, and polls again after `middle`. -/
def PolledAgain (log before : List AppStep) (answer : PollAnswer) (middle : List AppStep) : Prop :=
  (∀ step ∈ middle, ¬ IsPoll step) ∧
    ∃ answer' after, log = before ++ pollStep answer :: middle ++ pollStep answer' :: after

def NoSpin (settings : AppSettings) (log : List AppStep) : Prop :=
  ∀ before answer middle, PolledAgain log before answer middle →
    ∃ step ∈ middle, Works settings step

def eventIds (events : List Dict) : List String :=
  events.filterMap fun event => (extractEventId event).toOption

/-- No event, or one with an id that neither the app has seen nor an earlier poll brought. -/
def Fresh (seen : List String) (before : List AppStep) (answer : PollAnswer) : Prop :=
  polledBy (pollStep answer) = [] ∨
    ∃ eventId ∈ eventIds (polledBy (pollStep answer)), eventId ∉ seen ∧
      eventId ∉ eventIds (polled before)

def FreshPolls (seen : List String) (log : List AppStep) : Prop :=
  ∀ before answer middle, PolledAgain log before answer middle → Fresh seen before answer

-- ---------------------------------------------------------------------------
-- Logs
-- ---------------------------------------------------------------------------

theorem last_poll_unique {before before' middle middle' : List AppStep}
    {answer answer' : PollAnswer}
    (hm : ∀ step ∈ middle, ¬ IsPoll step) (hm' : ∀ step ∈ middle', ¬ IsPoll step)
    (h : before ++ pollStep answer :: middle = before' ++ pollStep answer' :: middle') :
    before = before' ∧ answer = answer' ∧ middle = middle' := by
  rcases List.append_eq_append_iff.mp h with ⟨between, rfl, hrest⟩ | ⟨between, rfl, hrest⟩
  · cases between with
    | nil => simpa [pollStep] using hrest
    | cons step between =>
      obtain ⟨rfl, rfl⟩ := List.cons.inj hrest
      exact absurd trivial (hm (pollStep answer') (by simp))
  · cases between with
    | nil => simpa [pollStep, eq_comm] using hrest
    | cons step between =>
      obtain ⟨rfl, rfl⟩ := List.cons.inj hrest
      exact absurd trivial (hm' (pollStep answer) (by simp))

theorem PolledAgain.of_snoc {log before middle : List AppStep} {answer : PollAnswer}
    {step : AppStep} (h : PolledAgain (log ++ [step]) before answer middle) :
    PolledAgain log before answer middle ∨ IsPoll step ∧
      log = before ++ pollStep answer :: middle := by
  obtain ⟨hmiddle, answer', after, hlog⟩ := h
  induction after using List.reverseRecOn with
  | nil =>
    obtain ⟨hbefore, hstep⟩ := List.append_inj' hlog rfl
    cases hstep
    exact .inr ⟨trivial, hbefore⟩
  | append_singleton after last =>
    rw [← List.cons_append, ← List.append_assoc] at hlog
    exact .inl ⟨hmiddle, answer', after, (List.append_inj' hlog rfl).1⟩

theorem polled_quiet (middle : List AppStep) (h : ∀ step ∈ middle, ¬ IsPoll step) :
    polled middle = [] := by
  refine List.flatMap_eq_nil_iff.mpr fun step hstep => ?_
  obtain ⟨call, answer⟩ := step
  cases call with
  | eventSource => exact absurd trivial (h _ hstep)
  | _ => rfl

/-- What holds of a poll that is followed by another one. -/
def Paced (settings : AppSettings) (seen : List String) (log : List AppStep) : Prop :=
  ∀ before answer middle, PolledAgain log before answer middle →
    ((∃ step ∈ middle, Works settings step) ↔ Fresh seen before answer)

/-- And of the last one, once its turn is over. -/
def LastPaced (settings : AppSettings) (seen : List String) (log : List AppStep) : Prop :=
  ∀ before answer middle, log = before ++ pollStep answer :: middle →
    (∀ step ∈ middle, ¬ IsPoll step) →
      ((∃ step ∈ middle, Works settings step) ↔ Fresh seen before answer)

section
variable {settings : AppSettings} {seen : List String} {log : List AppStep} {step : AppStep}

theorem Paced.spin_iff (h : Paced settings seen log) : NoSpin settings log ↔ FreshPolls seen log :=
  forall₃_congr fun before answer middle => forall_congr' (h before answer middle)

theorem Paced.snoc (h : Paced settings seen log) (hstep : ¬ IsPoll step) :
    Paced settings seen (log ++ [step]) := by
  intro before answer middle hagain
  rcases hagain.of_snoc with hagain | ⟨hpoll, -⟩
  · exact h before answer middle hagain
  · exact absurd hpoll hstep

theorem Paced.poll (h : Paced settings seen log) (hlast : LastPaced settings seen log) :
    Paced settings seen (log ++ [step]) := by
  intro before answer middle hagain
  rcases hagain.of_snoc with hagain' | ⟨-, hlog⟩
  · exact h before answer middle hagain'
  · exact hlast before answer middle hlog hagain.1

theorem LastPaced.snoc (h : LastPaced settings seen log) (hstep : ¬ IsPoll step)
    (hworks : ¬ Works settings step) : LastPaced settings seen (log ++ [step]) := by
  intro before answer middle hlog hmiddle
  induction middle using List.reverseRecOn with
  | nil =>
    have hpoll : step = pollStep answer := by simpa using (List.append_inj' hlog rfl).2
    rw [hpoll] at hstep
    exact absurd trivial hstep
  | append_singleton middle last =>
    rw [← List.cons_append, ← List.append_assoc] at hlog
    obtain ⟨hbefore, hsame⟩ := List.append_inj' hlog rfl
    cases hsame
    have hiff := h before answer middle hbefore fun step hstep => hmiddle step (by simp [hstep])
    simpa [hworks] using hiff

/-- A turn that ends: its own poll is the last one. -/
theorem LastPaced.of_turn {base middle : List AppStep} {answer : PollAnswer}
    (hmiddle : ∀ step ∈ middle, ¬ IsPoll step)
    (h : (∃ step ∈ middle, Works settings step) ↔ Fresh seen base answer) :
    LastPaced settings seen (base ++ pollStep answer :: middle) := by
  intro before answer' middle' hlog hmiddle'
  obtain ⟨rfl, rfl, rfl⟩ := last_poll_unique hmiddle hmiddle' hlog
  exact h

end

-- ---------------------------------------------------------------------------
-- Turns
-- ---------------------------------------------------------------------------

section
variable {W : Type}

/-- Between two turns. -/
structure Rested (settings : AppSettings) (seen : List String) (s : AppWorld W) : Prop where
  paced : Paced settings seen s.log
  last : LastPaced settings seen s.log
  seen : ∀ eventId, eventId ∈ s.state.seenEventIds ↔
    eventId ∈ seen ∨ eventId ∈ eventIds (polled s.log)

/-- Since the poll of a turn: the ids seen by now, and whether there was work. -/
structure Turning (settings : AppSettings) (base : List AppStep) (answer : PollAnswer)
    (ids : List String) (worked : Prop) (s : AppWorld W) : Prop where
  log : ∃ middle, s.log = base ++ pollStep answer :: middle ∧ (∀ step ∈ middle, ¬ IsPoll step) ∧
    ((∃ step ∈ middle, Works settings step) ↔ worked)
  ids : s.state.seenEventIds = ids

/-- However the run goes on from here, it does not poll again. -/
def Leaving (settings : AppSettings) (seen : List String) (s : AppWorld W) : Prop :=
  Paced settings seen s.log

variable {exec : (c : AppCall) → W → c.Res × W} {settings : AppSettings} {seen ids : List String}
  {base : List AppStep} {answer : PollAnswer} {worked : Prop} {s : AppWorld W}

theorem Paced.turn {middle : List AppStep} (h : Paced settings seen base)
    (hlast : LastPaced settings seen base) (hmiddle : ∀ step ∈ middle, ¬ IsPoll step) :
    Paced settings seen (base ++ pollStep answer :: middle) := by
  induction middle using List.reverseRecOn with
  | nil => exact h.poll hlast
  | append_singleton middle step ih =>
    rw [← List.cons_append, ← List.append_assoc]
    exact (ih fun step hstep => hmiddle step (by simp [hstep])).snoc (hmiddle step (by simp))

/-- A call that is neither a poll nor work, and what else does not show. -/
structure Bystands (settings : AppSettings) (I : AppWorld W → Prop) : Prop where
  call : ∀ (s : AppWorld W) (c : AppCall) (x : c.Res) (w : W), ¬ IsPoll ⟨c, x⟩ →
    ¬ Works settings ⟨c, x⟩ → I s → I ⟨s.state, w, s.log ++ [⟨c, x⟩]⟩
  session : ∀ (s : AppWorld W) (session : SessionState Seconds), I s →
    I { s with state := { s.state with session } }

theorem rested_bystands : Bystands settings (W := W) (Rested settings seen) := by
  refine ⟨fun s c x w hpoll hworks h => ⟨h.paced.snoc hpoll, h.last.snoc hpoll hworks, ?_⟩,
    fun s session h => ⟨h.paced, h.last, h.seen⟩⟩
  intro eventId
  rw [h.seen, polled_append, polled_quiet [⟨c, x⟩] (by simpa using hpoll), List.append_nil]

theorem turning_bystands :
    Bystands settings (W := W) (Turning settings base answer ids worked) := by
  refine ⟨fun s c x w hpoll hworks h => ⟨?_, h.ids⟩, fun s session h => ⟨h.log, h.ids⟩⟩
  obtain ⟨middle, hlog, hmiddle, hworked⟩ := h.log
  refine ⟨middle ++ [⟨c, x⟩], by simp [hlog], ?_, ?_⟩
  · simpa [or_imp, forall_and] using ⟨hmiddle, hpoll⟩
  · simpa [hworks, or_and_right, exists_or] using hworked

theorem leaving_bystands : Bystands settings (W := W) (Leaving settings seen) :=
  ⟨fun _ _ _ _ hpoll _ h => h.snoc hpoll, fun _ _ h => h⟩

-- ---------------------------------------------------------------------------
-- Parts of the loop that are neither
-- ---------------------------------------------------------------------------

section
variable {I : AppWorld W → Prop}

def Plain (settings : AppSettings) (c : AppCall) : Prop :=
  ∀ x : c.Res, ¬ IsPoll ⟨c, x⟩ ∧ ¬ Works settings ⟨c, x⟩

namespace Bystands

theorem request {c : AppCall} (hI : Bystands settings I) (hc : Plain settings c) :
    Keeps I (request exec c) :=
  .call fun s x w h => hI.call s c x w (hc x).1 (hc x).2 h

theorem setSession (hI : Bystands settings I) (session : SessionState Seconds) :
    Keeps I (setSession session) :=
  fun s h => .write (hI.session s session h)

theorem sessionNow : Plain settings .sessionNow := fun _ => ⟨id, id⟩

theorem evaluateTimeouts (hI : Bystands settings I) : Keeps I (evaluateTimeouts exec settings) := by
  refine .bind .read fun state => ?_
  split
  · exact .pure _
  · exact .bind (hI.request sessionNow) fun _ => .lift _

theorem stopBeforeEvent (hI : Bystands settings I) : Keeps I (stopBeforeEvent exec settings) := by
  refine .bind hI.evaluateTimeouts fun timeoutState => ?_
  split
  · exact .pure _
  · exact .pure _
  · refine .bind (hI.request fun _ => ⟨id, id⟩) fun cancelled => ?_
    split <;> exact .pure _

variable [Interpreter]

theorem recordActivity (hI : Bystands settings I) : Keeps I (recordActivity exec settings) :=
  .bind .read fun _ => .bind (.lift _) fun _ => .bind (hI.request sessionNow) fun _ =>
    .bind (.lift _) fun next => hI.setSession next

theorem endSession (hI : Bystands settings I) (kind : SessionStateKind) (reasonCode : String) :
    Keeps I (endSession exec settings kind reasonCode) :=
  .bind .read fun _ => .bind (.lift _) fun _ => .bind (hI.request sessionNow) fun _ =>
    .bind (.lift _) fun next => hI.setSession next

theorem startSession (hI : Bystands settings I) : Keeps I (startSession exec settings) := by
  refine .bind .read fun state => .bind (.lift _) fun start => ?_
  obtain ⟨normalizedId, same⟩ := start
  cases same with
  | some _ => exact .pure _
  | none => exact .bind (hI.request sessionNow) fun _ => hI.setSession _

omit [Interpreter] in
theorem buildProcessingContext (hI : Bystands settings I) (event : Dict) (eventId : String) :
    Keeps I (buildProcessingContext exec settings event eventId) := by
  refine .bind (.lift _) fun sourcePath => .bind (hI.request fun _ => ⟨id, id⟩) fun now => ?_
  dsimp only
  split
  · exact .bind (.lift _) fun _ => .lift _
  · exact .raise _

theorem emit (hI : Bystands settings I) (kind : String) (extra : List (String × Value)) :
    Keeps I (emit exec settings kind extra) :=
  .bind (hI.request fun _ => ⟨id, id⟩) fun _ => hI.request fun _ => ⟨id, id⟩

theorem emitCanonicalOutcomeEvent (hI : Bystands settings I) (outcomeKind : IngestionOutcomeKind)
    (context : ProcessingContext) : Keeps I (emitCanonicalOutcomeEvent exec outcomeKind context) :=
  .bind (hI.request fun _ => ⟨id, id⟩) fun _ => hI.request fun _ => ⟨id, id⟩

theorem closeSession (hI : Bystands settings I) (terminalReason : String) :
    Keeps I (closeSession exec settings terminalReason) := by
  unfold Runtime.closeSession
  split
  · exact .bind (hI.endSession _ _) fun _ => hI.emit _ _
  · split
    · exact .bind (hI.endSession _ _) fun _ => hI.emit _ _
    · exact .bind (hI.endSession _ _) fun _ => hI.emit _ _

end Bystands

end

-- ---------------------------------------------------------------------------
-- A batch
-- ---------------------------------------------------------------------------

section
variable [Interpreter] {event : Dict} {eventId : String} {batch : List Dict} {counts : RunCounts}

omit [Interpreter] in
theorem Turning.leaving (h : Turning settings base answer ids worked s)
    (hbase : Paced settings seen base)
    (hlast : LastPaced settings seen base) : Leaving settings seen s := by
  obtain ⟨middle, hlog, hmiddle, -⟩ := h.log
  unfold Leaving
  rw [hlog]
  exact hbase.turn hlast hmiddle

theorem processNewEvent_turning (hbase : Paced settings seen base)
    (hlast : LastPaced settings seen base) (h : Turning settings base answer ids worked s) :
    Triple (processNewEvent exec settings event eventId) s
      (fun _ => Turning settings base answer (eventId :: ids) True)
      (fun _ => Leaving settings seen) := by
  refine .writeThen ?_
  have hseen : Turning settings base answer (eventId :: ids) worked
      { s with state := { s.state with seenEventIds := eventId :: s.state.seenEventIds } } :=
    ⟨h.log, by rw [h.ids]⟩
  refine Keeps.andThen (turning_bystands.buildProcessingContext event eventId) hseen
    (fun _ _ h => h.leaving hbase hlast) fun context s₁ h₁ => ?_
  refine Keeps.andThen turning_bystands.recordActivity h₁ (fun _ _ h => h.leaving hbase hlast)
    fun _ s₂ h₂ => ?_
  obtain ⟨middle, hlog, hmiddle, -⟩ := h₂.log
  have hprocess : ∀ (context : Option ProcessingContext) (x : Except Exn IngestionOutcomeKind)
      (w : W), Turning settings base answer (eventId :: ids) True
        ⟨s₂.state, w, s₂.log ++ [⟨.process event context, x⟩]⟩ :=
    fun context x w => ⟨⟨middle ++ [⟨.process event context, x⟩], by simp [hlog],
      by simpa [or_imp, forall_and] using ⟨hmiddle, id⟩,
      ⟨fun _ => trivial, fun _ => ⟨⟨.process event context, x⟩, by simp, trivial⟩⟩⟩, h₂.ids⟩
  refine .bind (Q := fun _ => Turning settings base answer (eventId :: ids) True)
    (.call (fun x w => hprocess _ (.ok x) w)
      fun e w => (hprocess _ (.error e) w).leaving hbase hlast) fun outcomeKind s₃ h₃ => ?_
  refine Keeps.andThen (turning_bystands.emit _ _) h₃ (fun _ _ h => h.leaving hbase hlast)
    fun _ s₄ h₄ => ?_
  exact Keeps.andThen (turning_bystands.emitCanonicalOutcomeEvent _ _) h₄
    (fun _ _ h => h.leaving hbase hlast) fun _ _ h => .pure h

/-- What a batch brings to the ids seen so far. -/
def Brought (ids : List String) (batch : List Dict) (ids' : List String) : Prop :=
  ∀ eventId, eventId ∈ ids' ↔ eventId ∈ ids ∨ eventId ∈ eventIds batch

omit [Interpreter] in
theorem eventIds_cons (h : extractEventId event = .ok eventId) :
    eventIds (event :: batch) = eventId :: eventIds batch := by
  simp [eventIds, h, Except.toOption]

omit [Interpreter] in
theorem eventIds_append {events : List Dict} :
    eventIds (events ++ batch) = eventIds events ++ eventIds batch := List.filterMap_append

theorem processEventBatch_turning (hbase : Paced settings seen base)
    (hlast : LastPaced settings seen base) (h : Turning settings base answer ids worked s) :
    Triple (processEventBatch exec settings batch counts) s
      (fun result s' => Leaving settings seen s' ∧ (result.2 = none →
        ∃ ids', Brought ids batch ids' ∧
          Turning settings base answer ids'
            (worked ∨ ∃ eventId ∈ eventIds batch, eventId ∉ ids) s'))
      (fun _ => Leaving settings seen) := by
  induction batch generalizing ids worked s counts with
  | nil => exact .pure ⟨h.leaving hbase hlast, fun _ => ⟨ids, by simp [Brought, eventIds],
      by simpa [eventIds] using h⟩⟩
  | cons event rest ih =>
    refine Keeps.andThen turning_bystands.stopBeforeEvent h (fun _ _ h => h.leaving hbase hlast)
      fun stop s₁ h₁ => ?_
    cases stop with
    | some reason => exact .pure ⟨h₁.leaving hbase hlast, nofun⟩
    | none =>
      dsimp only
      refine .bind (Q := fun eventId s' => extractEventId event = .ok eventId ∧
          Turning settings base answer ids worked s')
        (.lift (fun eventId hid => ⟨hid, h₁⟩) fun _ _ => h₁.leaving hbase hlast) ?_
      rintro eventId s₂ ⟨hid, h₂⟩
      refine .readThen ?_
      rw [h₂.ids]
      split
      · rename_i hseen
        refine Keeps.andThen (turning_bystands.emit _ _) h₂ (fun _ _ h => h.leaving hbase hlast)
          fun _ s₃ h₃ => (ih h₃).mono ?_ fun _ _ h => h
        rintro result s₄ ⟨hleaving, hnext⟩
        refine ⟨hleaving, fun hnone => ?_⟩
        obtain ⟨ids', hids, h₄⟩ := hnext hnone
        refine ⟨ids', ?_, ?_⟩
        · intro other
          rw [hids, eventIds_cons hid, List.mem_cons]
          constructor
          · rintro (h | h)
            · exact .inl h
            · exact .inr (.inr h)
          · rintro (h | rfl | h)
            · exact .inl h
            · exact .inl hseen
            · exact .inr h
        · simpa [eventIds_cons hid, hseen] using h₄
      · rename_i hnew
        refine .bind (processNewEvent_turning hbase hlast h₂) fun outcomeKind s₃ h₃ => ?_
        have hrest : ∀ counts, Triple (processEventBatch exec settings rest counts) s₃
            (fun result s' => Leaving settings seen s' ∧ (result.2 = none →
              ∃ ids', Brought ids (event :: rest) ids' ∧ Turning settings base answer ids'
                (worked ∨ ∃ other ∈ eventIds (event :: rest), other ∉ ids) s'))
            (fun _ => Leaving settings seen) := by
          intro counts
          refine (ih h₃).mono ?_ fun _ _ h => h
          rintro result s₄ ⟨hleaving, hnext⟩
          refine ⟨hleaving, fun hnone => ?_⟩
          obtain ⟨ids', hids, h₄⟩ := hnext hnone
          refine ⟨ids', ?_, ?_⟩
          · intro other
            rw [hids, eventIds_cons hid, List.mem_cons, List.mem_cons]
            tauto
          · simpa [eventIds_cons hid, hnew] using h₄
        split
        · split
          · exact .pure ⟨h₃.leaving hbase hlast, nofun⟩
          · exact hrest _
        · exact hrest _

-- ---------------------------------------------------------------------------
-- The loop
-- ---------------------------------------------------------------------------

omit [Interpreter] in
/-- A turn after which the loop goes on. -/
theorem Turning.rested (h : Turning settings base answer ids (Fresh seen base answer) s)
    (hbase : Paced settings seen base) (hlast : LastPaced settings seen base)
    (hids : ∀ eventId, eventId ∈ ids ↔
      eventId ∈ seen ∨ eventId ∈ eventIds (polled base ++ polledBy (pollStep answer))) :
    Rested settings seen s := by
  obtain ⟨middle, hlog, hmiddle, hworked⟩ := h.log
  refine ⟨h.leaving hbase hlast, ?_, ?_⟩
  · rw [hlog]
    exact .of_turn hmiddle hworked
  · intro eventId
    have hpolled : polled s.log = polled base ++ polledBy (pollStep answer) := by
      rw [hlog, polled_append, ← List.singleton_append, polled_append, polled_quiet _ hmiddle,
        List.append_nil]
      simp [polled]
    rw [h.ids, hids, hpolled]

theorem pollOnce_rested (hcontinuous : settings.loopMode = .continuous)
    (hcallable : settings.eventSourceCallable = true) (h : Rested settings seen s) :
    Triple (pollOnce exec settings counts) s
      (fun result s' => Leaving settings seen s' ∧ (result.2 = none → Rested settings seen s'))
      (fun _ => Leaving settings seen) := by
  refine Keeps.andThen rested_bystands.evaluateTimeouts h (fun _ _ h => h.paced)
    fun timeoutState s₁ h₁ => ?_
  dsimp only
  split
  · exact .pure ⟨h₁.paced, nofun⟩
  · exact .pure ⟨h₁.paced, nofun⟩
  · have hstart : ∀ (x : PollAnswer) (w : W), Turning settings s₁.log x s₁.state.seenEventIds False
        ⟨s₁.state, w, s₁.log ++ [pollStep x]⟩ := fun x w => ⟨⟨[], by simp⟩, rfl⟩
    refine .bind (Q := fun batch s' => ∃ x : PollAnswer, polledBy (pollStep x) = batch ∧
      Turning settings s₁.log x s₁.state.seenEventIds False s') ?_ ?_
    · simp only [nextEventBatch, hcallable, ↓reduceIte]
      exact .bind (Q := fun x s' => Turning settings s₁.log (.ok x) s₁.state.seenEventIds False s')
        (.call (fun x w => hstart (.ok x) w)
          fun e w => (hstart (.error e) w).leaving h₁.paced h₁.last)
        fun x s₂ h₂ => .pure ⟨.ok x, rfl, h₂⟩
    · rintro batch s₂ ⟨x, hbatch, h₂⟩
      cases hempty : batch.isEmpty with
      | true =>
        have hnothing : polledBy (pollStep x) = [] := by rw [hbatch, List.isEmpty_iff.mp hempty]
        refine Keeps.andThen (turning_bystands.request fun _ => ⟨id, id⟩) h₂
          (fun _ _ h => h.leaving h₁.paced h₁.last) fun cancelled s₃ h₃ => ?_
        split
        · exact .pure ⟨h₃.leaving h₁.paced h₁.last, nofun⟩
        · simp only [hcontinuous, reduceCtorEq, ↓reduceIte]
          have hwait : ∀ (x' : Except Exn Unit) (w : W),
              Turning settings s₁.log x s₁.state.seenEventIds (Fresh seen s₁.log x)
                ⟨s₃.state, w, s₃.log ++ [⟨.idleWait settings.pollIntervalSeconds, x'⟩]⟩ := by
            intro x' w
            obtain ⟨middle, hlog, hmiddle, -⟩ := h₃.log
            refine ⟨⟨middle ++ [⟨.idleWait settings.pollIntervalSeconds, x'⟩], by simp [hlog],
              by simpa [or_imp, forall_and] using ⟨hmiddle, id⟩,
              fun _ => .inl hnothing, fun _ =>
                ⟨⟨.idleWait settings.pollIntervalSeconds, x'⟩, by simp, rfl⟩⟩, h₃.ids⟩
          refine .bind (Q := fun _ => Rested settings seen) (.call (fun x' w => ?_) fun e w => ?_)
            fun _ _ h => .pure ⟨h.paced, fun _ => h⟩
          · refine (hwait (.ok x') w).rested h₁.paced h₁.last ?_
            intro eventId
            rw [hnothing, List.append_nil, h₁.seen]
          · exact (hwait (.error e) w).leaving h₁.paced h₁.last
      | false =>
        refine .bind (processEventBatch_turning h₁.paced h₁.last h₂) ?_
        rintro ⟨counts', reason⟩ s₃ ⟨hleaving, hnext⟩
        cases reason with
        | some reason => exact .pure ⟨hleaving, nofun⟩
        | none =>
          simp only [hcontinuous, reduceCtorEq, ↓reduceIte]
          refine .pure ⟨hleaving, fun _ => ?_⟩
          obtain ⟨ids', hids, h₃⟩ := hnext rfl
          have hworked : (False ∨ ∃ eventId ∈ eventIds batch, eventId ∉ s₁.state.seenEventIds) ↔
              Fresh seen s₁.log x := by
            have hne : batch ≠ [] := by simpa using hempty
            simp [Fresh, hbatch, hne, h₁.seen, not_or]
          rw [propext hworked] at h₃
          refine h₃.rested h₁.paced h₁.last fun eventId => ?_
          rw [hids, h₁.seen, hbatch, eventIds_append, List.mem_append, or_assoc]

variable (exec counts) in
theorem runLoop_paced (hcontinuous : settings.loopMode = .continuous)
    (hcallable : settings.eventSourceCallable = true) (turns : Nat) (h : Rested settings seen s) :
    Triple (runLoop exec settings turns counts) s (fun _ => Leaving settings seen)
      (fun _ => Leaving settings seen) := by
  induction turns generalizing counts s with
  | zero => exact .pure h.paced
  | succ turns ih =>
    refine .bind (pollOnce_rested hcontinuous hcallable h) ?_
    rintro ⟨counts', reason⟩ s₁ ⟨hleaving, hnext⟩
    cases reason with
    | some reason => exact .pure hleaving
    | none => exact ih _ (hnext rfl)

variable (exec) in
theorem run_paced (hcontinuous : settings.loopMode = .continuous)
    (hcallable : settings.eventSourceCallable = true) (turns : Nat) (h : Rested settings seen s) :
    Triple (run exec settings turns) s (fun _ => Leaving settings seen)
      (fun _ => Leaving settings seen) := by
  refine Keeps.andThen rested_bystands.startSession h (fun _ _ h => h.paced) fun _ s₁ h₁ => ?_
  refine Keeps.andThen (rested_bystands.emit _ _) h₁ (fun _ _ h => h.paced) fun _ s₂ h₂ => ?_
  have hloop := runLoop_paced exec {} hcontinuous hcallable turns h₂
  refine .bind (.attempt (R := fun _ => Leaving settings seen) hloop) ?_
  rintro (e | ⟨counts, reason⟩) s₃ h₃
  · refine Keeps.andThen (leaving_bystands.endSession _ _) h₃ (fun _ _ h => h) fun _ s₄ h₄ => ?_
    exact Keeps.andThen (leaving_bystands.emit _ _) h₄ (fun _ _ h => h) fun _ _ h => .raise h
  · cases reason with
    | some reason =>
      exact Keeps.andThen (leaving_bystands.closeSession _) h₃ (fun _ _ h => h) fun _ _ h => .pure h
    | none => exact .pure h₃

/-- The log of a run that starts in `state`, followed for `turns` turns. -/
def runLog (exec : (c : AppCall) → W → c.Res × W) (settings : AppSettings) (turns : Nat)
    (state : AppState) (w : W) : List AppStep :=
  ((run exec settings turns).run ⟨state, w, []⟩).2.log

theorem no_spin_iff (exec : (c : AppCall) → W → c.Res × W) (settings : AppSettings)
    (hcontinuous : settings.loopMode = .continuous)
    (hcallable : settings.eventSourceCallable = true) (turns : Nat) (state : AppState) (w : W) :
    NoSpin settings (runLog exec settings turns state w) ↔
      FreshPolls state.seenEventIds (runLog exec settings turns state w) := by
  have hstart : Rested settings state.seenEventIds (⟨state, w, []⟩ : AppWorld W) := by
    refine ⟨?_, ?_, fun eventId => by simp [polled, eventIds]⟩
    · rintro before answer middle ⟨-, answer', after, hlog⟩
      simp at hlog
    · intro before answer middle hlog
      simp at hlog
  rcases (run_paced exec hcontinuous hcallable turns hstart).run with
    ⟨result, -, hleaving⟩ | ⟨e, -, hleaving⟩
  · exact hleaving.spin_iff
  · exact hleaving.spin_iff

end

end

section
attribute [local instance] Interpreter.ascii

/-- A file that stays in the watched folder is found by every poll. -/
def lingering : Dict := Dict.ofEntries [("event_id", .str "a"), ("path", .str "/in/a.tif")]

def lingeringSource (c : AppCall) (w : Unit) : c.Res × Unit :=
  match c with
  | .sessionNow | .now | .systemNow => (.ok 0, w)
  | .eventSource => (.ok (some [lingering]), w)
  | .cancellationSignal => (.ok false, w)
  | .process .. => (.ok .deferredStage, w)
  | .emit _ | .idleWait _ => (.ok (), w)

def pollingSettings : AppSettings where
  policy := {}
  sessionId := "session"
  traceId := "trace"
  runtimeEventId := "trace:runtime"
  runtimeTraceId := "trace"
  loopMode := .continuous

theorem no_spin_iff_lingering :
    NoSpin pollingSettings (runLog lingeringSource pollingSettings 3 {} ()) ↔
      FreshPolls [] (runLog lingeringSource pollingSettings 3 {} ()) :=
  no_spin_iff lingeringSource pollingSettings rfl rfl 3 {} ()

def lingeringLog : List AppStep := runLog lingeringSource pollingSettings 3 {} ()

/-- The second poll finds the deferred file again, and the third one comes at once. -/
theorem lingering_spins :
    ¬ NoSpin pollingSettings (runLog lingeringSource pollingSettings 3 {} ()) := by
  intro h
  have hquiet : ∀ step ∈ (lingeringLog.drop 16).take 5, ¬ IsPoll step := by
    change ∀ step ∈ [_, _, _, _, _], ¬ IsPoll step
    simp [IsPoll]
  obtain ⟨step, hstep, hworks⟩ := h (lingeringLog.take 15) (.ok (some [lingering]))
    ((lingeringLog.drop 16).take 5) ⟨hquiet, .ok (some [lingering]), lingeringLog.drop 22, rfl⟩
  change step ∈ [_, _, _, _, _] at hstep
  simp only [List.mem_cons, List.not_mem_nil, or_false] at hstep
  rcases hstep with rfl | rfl | rfl | rfl | rfl <;> exact hworks

end

end DpostV2.Runtime
