import DpostV2.Runtime.App
import DpostV2.Runtime.Engine

/-!
# What an event has to be

The runtime loop and the resolve stage read one event mapping, each with its own
keys, defaults and types. `AppForm` is what the loop accepts, `StageForm` what
the stage makes a candidate of, and the two agree on an event that is in
`CommonForm` or in neither (`contracts_agree_iff`).
-/

namespace DpostV2.Runtime

open DpostV2.Ingestion

-- ---------------------------------------------------------------------------
-- The loop
-- ---------------------------------------------------------------------------

/-- A clock, and nothing else. -/
def clockAt (now : Seconds) : (c : AppCall) → Unit → c.Res × Unit
  | .now, w => (.ok now, w)
  | _, w => (.error (typeError "there is only a clock"), w)

/-- What the loop makes of an event before it hands it to the engine. -/
def acceptEvent (settings : AppSettings) (now : Seconds) (event : Dict) :
    Except Exn ProcessingContext := do
  let eventId ← extractEventId event
  ((buildProcessingContext (clockAt now) settings event eventId).run
    { state := {}, world := (), log := [] }).1

structure AppForm (settings : AppSettings) (event : Dict) : Prop where
  eventId : ∃ s, event.getNone "event_id" = .str s ∧ blank s = false
  path : ∃ p, getEither event "path" "source_path" .none = .str p ∧ blank p = false ∧
    Char.ofNat 0 ∉ (strip p).toList
  observedAt : event.get? "observed_at" = none ∨ ∃ t, event.get? "observed_at" = some (.datetime t)
  eventType : ∃ k, getEither event "event_type" "event_kind" (.str "created") = .str k ∧
    blank k = false
  traceId : blank settings.traceId = false

/-- What the loop hands to `for_candidate`. -/
def candidateEvent (sourcePath eventType eventId traceId : String) (observedAt : Seconds) : Dict :=
  Dict.ofEntries [("source_path", .str sourcePath), ("event_type", .str eventType),
    ("observed_at", .datetime observedAt), ("event_id", .str eventId), ("trace_id", .str traceId)]

/-- It objects to a NUL in the path, and to a trace id that is blank. -/
theorem forCandidate_cases {sourcePath eventType eventId traceId : String} {observedAt : Seconds}
    (runtimeEventId runtimeTraceId : Value) (hpath : blank sourcePath = false)
    (htype : blank eventType = false) (hid : blank eventId = false) :
    (Char.ofNat 0 ∉ (strip sourcePath).toList ∧ blank traceId = false ∧ ∃ context,
      ProcessingContext.forCandidate
        (candidateEvent sourcePath eventType eventId traceId observedAt)
        runtimeEventId runtimeTraceId = .ok context ∧ context.sourcePath = strip sourcePath) ∨
    ((Char.ofNat 0 ∈ (strip sourcePath).toList ∨ blank traceId = true) ∧ ∃ e,
      ProcessingContext.forCandidate
        (candidateEvent sourcePath eventType eventId traceId observedAt)
        runtimeEventId runtimeTraceId = .error e ∧ e.isInstance "ValueError" = true) := by
  have hget : ∀ k, (candidateEvent sourcePath eventType eventId traceId observedAt).get? k =
      List.lookup k [("source_path", .str sourcePath), ("event_type", .str eventType),
        ("observed_at", .datetime observedAt), ("event_id", .str eventId),
        ("trace_id", .str traceId)] :=
    fun k => Dict.get?_ofEntries (by simp) k
  have hstripped : blank (strip sourcePath) = false := by simpa [blank] using hpath
  have h₁ : (candidateEvent sourcePath eventType eventId traceId observedAt).getNone "source_path" =
      .str sourcePath := by rw [Dict.getNone, Dict.getD, hget]; rfl
  have h₂ : (candidateEvent sourcePath eventType eventId traceId observedAt).getNone "event_type" =
      .str eventType := by rw [Dict.getNone, Dict.getD, hget]; rfl
  have h₃ : (candidateEvent sourcePath eventType eventId traceId observedAt).getNone "observed_at" =
      .datetime observedAt := by rw [Dict.getNone, Dict.getD, hget]; rfl
  have h₄ : (candidateEvent sourcePath eventType eventId traceId observedAt).getNone "force_paths" =
      .none := by rw [Dict.getNone, Dict.getD, hget]; rfl
  have h₅ : (candidateEvent sourcePath eventType eventId traceId observedAt).getD "event_id"
      runtimeEventId = .str eventId := by rw [Dict.getD, hget]; rfl
  have h₆ : (candidateEvent sourcePath eventType eventId traceId observedAt).getD "trace_id"
      runtimeTraceId = .str traceId := by rw [Dict.getD, hget]; rfl
  generalize candidateEvent sourcePath eventType eventId traceId observedAt = event at *
  unfold ProcessingContext.forCandidate
  rw [h₁, asNonEmptyString_ok hpath]
  simp only [bind, Except.bind]
  by_cases hnul : Char.ofNat 0 ∈ (strip sourcePath).toList
  · have hv : validatePathToken (strip sourcePath) "source_path" =
        .error (invalidCandidateContext ("source_path" ++ " contains invalid token")) := by
      rw [validatePathToken, dif_pos hstripped, dif_pos (by rwa [strip_strip])]
    rw [hv]
    exact .inr ⟨.inl hnul, _, rfl, rfl⟩
  · have hv : validatePathToken (strip sourcePath) "source_path" =
        .ok ⟨strip (strip sourcePath), stripped_strip hstripped, by rwa [strip_strip]⟩ := by
      rw [validatePathToken, dif_pos hstripped, dif_neg (by rwa [strip_strip])]
    rw [hv, h₂, asNonEmptyString_ok htype, h₃, h₄]
    simp only [normalizeForcePaths, h₅, asNonEmptyString_ok hid, h₆]
    cases htrace : blank traceId with
    | true =>
      rw [asNonEmptyString_blank htrace]
      exact .inr ⟨.inr rfl, _, rfl, rfl⟩
    | false =>
      rw [asNonEmptyString_ok htrace]
      exact .inl ⟨hnul, rfl, _, rfl, strip_strip sourcePath⟩

theorem extractEventId_eq (event : Dict) :
    extractEventId event = (requireText (event.getNone "event_id")
      "event_id must be a non-empty string in runtime event payload").map strip := by
  unfold extractEventId requireText
  split
  · split <;> rfl
  · rfl

theorem requireText_cases (value : Value) (message : String) :
    (∃ s, value = .str s ∧ blank s = false ∧ requireText value message = .ok s) ∨
    (∀ s, value = .str s → blank s = true) ∧
      requireText value message = .error (valueError message) := by
  unfold requireText
  split
  · rename_i s
    split
    · rename_i h
      refine .inr ⟨?_, rfl⟩
      rintro _ ⟨⟩
      exact h
    · rename_i h
      exact .inl ⟨s, rfl, by simpa using h, rfl⟩
  · rename_i hstr
    exact .inr ⟨fun s h => absurd h (hstr s), rfl⟩

theorem buildProcessingContext_run (settings : AppSettings) (now : Seconds) (event : Dict)
    (eventId : String) (s : Traced AppState Unit AppCall AppCall.Res) :
    ((buildProcessingContext (clockAt now) settings event eventId).run s).1 = (do
      let sourcePath ← requireText (getEither event "path" "source_path" .none)
        "runtime event must include non-empty 'path' or 'source_path'"
      match event.getD "observed_at" (.datetime now) with
      | .datetime observedAt => do
        let eventType ← requireText (getEither event "event_type" "event_kind" (.str "created"))
          "runtime event must include non-empty event type"
        ProcessingContext.forCandidate
          (candidateEvent sourcePath eventType eventId settings.traceId observedAt)
          (.str settings.runtimeEventId) (.str settings.runtimeTraceId)
      | _ => .error (valueError "runtime event 'observed_at' must be datetime when provided")) := by
  unfold buildProcessingContext
  simp only [Eff.run_bind, Eff.run_lift]
  cases requireText (getEither event "path" "source_path" .none)
    "runtime event must include non-empty 'path' or 'source_path'" with
  | error e => rfl
  | ok sourcePath =>
    have hnow : (request (clockAt now) .now).run s = (.ok now, s.answered (clockAt now) .now) := rfl
    simp only [hnow, bind, Except.bind]
    cases event.getD "observed_at" (.datetime now) with
    | datetime observedAt =>
      cases requireText (getEither event "event_type" "event_kind" (.str "created"))
        "runtime event must include non-empty event type" <;> rfl
    | _ => rfl

theorem observedAt_cases (event : Dict) (now : Seconds) :
    (∃ t, event.getD "observed_at" (.datetime now) = .datetime t ∧
      (event.get? "observed_at" = none ∨ ∃ t, event.get? "observed_at" = some (.datetime t))) ∨
    (∀ t, event.getD "observed_at" (.datetime now) ≠ .datetime t) ∧
      ¬(event.get? "observed_at" = none ∨ ∃ t, event.get? "observed_at" = some (.datetime t)) := by
  rw [Dict.getD]
  cases event.get? "observed_at" with
  | none => exact .inl ⟨now, rfl, .inl rfl⟩
  | some v =>
    cases v with
    | datetime t => exact .inl ⟨t, rfl, .inr ⟨t, rfl⟩⟩
    | _ => exact .inr (by simp)

/-- The loop accepts an event in its form under its path, and raises
`ValueError` on any other. -/
theorem acceptEvent_cases (settings : AppSettings) (now : Seconds) (event : Dict) :
    (AppForm settings event ∧ ∃ context p, acceptEvent settings now event = .ok context ∧
      getEither event "path" "source_path" .none = .str p ∧ context.sourcePath = strip p) ∨
    (¬AppForm settings event ∧ ∃ e, acceptEvent settings now event = .error e ∧
      e.isInstance "ValueError" = true) := by
  unfold acceptEvent
  rw [extractEventId_eq]
  rcases requireText_cases (event.getNone "event_id")
    "event_id must be a non-empty string in runtime event payload" with
    ⟨id, hid, hidblank, hr⟩ | ⟨hno, hr⟩
  · rw [hr]
    simp only [Except.map, bind, Except.bind, buildProcessingContext_run]
    rcases requireText_cases (getEither event "path" "source_path" .none)
      "runtime event must include non-empty 'path' or 'source_path'" with
      ⟨p, hp, hpblank, hr⟩ | ⟨hno, hr⟩
    · rw [hr]
      simp only
      rcases observedAt_cases event now with ⟨t, ht, hobserved⟩ | ⟨hno, hnot⟩
      · rw [ht]
        simp only
        rcases requireText_cases (getEither event "event_type" "event_kind" (.str "created"))
          "runtime event must include non-empty event type" with ⟨k, hk, hkblank, hr⟩ | ⟨hno, hr⟩
        · rw [hr]
          have hidstrip : blank (strip id) = false := by simpa [blank] using hidblank
          rcases forCandidate_cases (.str settings.runtimeEventId) (.str settings.runtimeTraceId)
            hpblank hkblank hidstrip with
              ⟨hnul, htrace, context, hok, hpath⟩ | ⟨hwhy, e, he, hvalue⟩
          · exact .inl ⟨⟨⟨id, hid, hidblank⟩, ⟨p, hp, hpblank, hnul⟩, hobserved, ⟨k, hk, hkblank⟩,
              htrace⟩, context, p, hok, hp, hpath⟩
          · refine .inr ⟨fun h => ?_, e, he, hvalue⟩
            obtain ⟨p', hp', -, hnul⟩ := h.path
            rw [hp] at hp'
            cases hp'
            rcases hwhy with hwhy | hwhy
            · exact hnul hwhy
            · rw [h.traceId] at hwhy
              cases hwhy
        · rw [hr]
          refine .inr ⟨fun h => ?_, _, rfl, rfl⟩
          obtain ⟨s, hs, hblank⟩ := h.eventType
          rw [hno s hs] at hblank
          cases hblank
      · refine .inr ⟨fun h => hnot h.observedAt, ?_⟩
        cases hv : event.getD "observed_at" (.datetime now) with
        | datetime t => exact absurd hv (hno t)
        | _ => exact ⟨_, rfl, rfl⟩
    · rw [hr]
      refine .inr ⟨fun h => ?_, _, rfl, rfl⟩
      obtain ⟨s, hs, hblank, -⟩ := h.path
      rw [hno s hs] at hblank
      cases hblank
  · rw [hr]
    refine .inr ⟨fun h => ?_, _, rfl, rfl⟩
    obtain ⟨s, hs, hblank⟩ := h.eventId
    rw [hno s hs] at hblank
    cases hblank

-- ---------------------------------------------------------------------------
-- The stage
-- ---------------------------------------------------------------------------

theorem factsDict (size : Int) (modifiedAt : Seconds) (fingerprint : String) : ∃ facts,
    (Value.dict [("size", .int size), ("modified_at", .float modifiedAt),
      ("fingerprint", .str fingerprint)]).asDict? = some facts ∧
    facts.getNone "size" = .int size ∧ facts.getNone "modified_at" = .float modifiedAt ∧
    facts.getNone "fingerprint" = .str fingerprint := by
  refine ⟨_, rfl, ?_, ?_, ?_⟩ <;>
    · rw [Dict.getNone, Dict.getD, Dict.get?_ofEntries (by simp)]
      rfl

section
variable [Interpreter]

structure StageForm (event : Dict) : Prop where
  path : strip (pyStr (event.getD "path" (.str ""))) ≠ ""
  eventKind : Interpreter.lower (strip (pyStr (event.getD "event_kind" (.str "")))) ∈
    allowedEventKinds
  observedAt : ∃ q, pyFloat (event.getD "observed_at" (.float 0)) = .ok q

/-- File facts and a selected processor, and nothing else. -/
def resolveWith (facts : Value) (selection : ProcessorSelection) :
    (c : Call) → Unit → c.Res × Unit
  | .fsFacts _, w => (.ok facts, w)
  | .selectProcessor _, w => (.ok selection, w)
  | _, w => (.error (typeError "the stage has no such callable"), w)

/-- Whatever processor is selected, the stage goes on with a candidate for the path. -/
def Resolves (state : IngestionState) (facts : Value) (path : String) : Prop :=
  ∀ selection : ProcessorSelection, selection.descriptor.pluginId ≠ "" →
    selection.descriptor.processorKey ≠ "" → ∃ next candidate,
      ((runResolveStage state).run (resolveWith facts selection) ()).1 =
        .ok (.continueTo "stabilize" next) ∧
      next.candidate = some candidate ∧ candidate.sourcePath = (PurePath.parse path).str

theorem fromEvent_cases (event : Dict) {facts : Dict} {size : Int} {modifiedAt : Seconds}
    {fingerprint : String} (hsize : facts.getNone "size" = .int size)
    (hmodified : facts.getNone "modified_at" = .float modifiedAt)
    (hfingerprint : facts.getNone "fingerprint" = .str fingerprint) :
    (StageForm event ∧ ∃ candidate, Candidate.fromEvent event facts = .ok candidate ∧
      candidate.sourcePath = (PurePath.parse (strip (pyStr (event.getD "path" (.str ""))))).str) ∨
    (¬StageForm event ∧ ∃ e, Candidate.fromEvent event facts = .error e) := by
  unfold Candidate.fromEvent
  simp only
  by_cases hpath : strip (pyStr (event.getD "path" (.str ""))) = ""
  · rw [if_pos hpath]
    exact .inr ⟨fun h => h.path hpath, _, rfl⟩
  rw [if_neg hpath]
  by_cases hkind : Interpreter.lower (strip (pyStr (event.getD "event_kind" (.str "")))) ∈
    allowedEventKinds
  · rw [if_neg (not_not.mpr hkind)]
    cases hobserved : pyFloat (event.getD "observed_at" (.float 0)) with
    | error e =>
      refine .inr ⟨fun h => ?_, e, rfl⟩
      obtain ⟨q, hq⟩ := h.observedAt
      rw [hobserved] at hq
      cases hq
    | ok q =>
      simp only [hsize, hmodified, hfingerprint, bind, Except.bind, Value.toJson,
        Value.toJsonEntries, Option.bind_some, Option.map_some, unlessNone, pyInt, pyFloat,
          Except.map]
      refine .inl ⟨⟨hpath, hkind, q, hobserved⟩, ?_⟩
      refine ⟨_, except_pure_ok.mpr (Eq.refl _), ?_⟩
      dsimp only
  · rw [if_pos hkind]
    exact .inr ⟨fun h => hkind h.eventKind, _, rfl⟩

variable (state : IngestionState) (event : Dict) (factsPath : String) (size : Int)
  (modifiedAt : Seconds)

theorem resolve_run (facts : Dict) (value : Value) (hfacts : value.asDict? = some facts)
    (selection : ProcessorSelection) (hplugin : selection.descriptor.pluginId ≠ "")
    (hkey : selection.descriptor.processorKey ≠ "") :
    (∃ candidate next, Candidate.fromEvent state.event facts = .ok candidate ∧
      ((runResolveStage state).run (resolveWith value selection) ()).1 =
        .ok (.continueTo "stabilize" next) ∧
      next.candidate = some { candidate with
        pluginId := some selection.descriptor.pluginId,
        processorKey := some selection.descriptor.processorKey }) ∨
    ∃ e, Candidate.fromEvent state.event facts = .error e ∧ ∀ next,
      ((runResolveStage state).run (resolveWith value selection) ()).1 ≠
        .ok (.continueTo "stabilize" next) := by
  unfold runResolveStage
  simp only [tryCall, call, Prog.attempt, Prog.bind_act, Prog.bind_ok, Prog.run,
    resolveWith, hfacts]
  cases hevent : Candidate.fromEvent state.event facts with
  | error e =>
    refine .inr ⟨e, rfl, fun next => ?_⟩
    simp only
    split
    · intro h
      exact terminal_ne_continueTo (Except.ok.inj h)
    · rintro ⟨⟩
  | ok candidate =>
    have hresolved : candidate.withResolution selection.descriptor.pluginId
        selection.descriptor.processorKey = .ok { candidate with
          pluginId := some selection.descriptor.pluginId,
          processorKey := some selection.descriptor.processorKey } :=
      if_neg (by simp [hplugin, hkey])
    simp only [Prog.run, resolveWith, hresolved, Prog.lift, Prog.bind_ok]
    exact .inl ⟨candidate, _, rfl, rfl, rfl⟩

def anySelection : ProcessorSelection where
  processor := { pluginId := "p", hasPrepare := false, hasCanProcess := false, hasProcess := false }
  descriptor := { pluginId := "p", processorKey := "p", capabilityReason := "", cacheHit := false }

/-- The stage on the facts of a file: a candidate of an event in the stage's
form, and a rejection or an exception for any other. -/
theorem resolves_iff (path : String) :
    Resolves { state with event } (fileFacts factsPath size modifiedAt) path ↔
      StageForm event ∧
        (PurePath.parse (strip (pyStr (event.getD "path" (.str ""))))).str =
          (PurePath.parse path).str := by
  obtain ⟨facts, hfacts, hsize, hmodified, hfingerprint⟩ := factsDict size modifiedAt _
  have hrun := resolve_run { state with event } facts (fileFacts factsPath size modifiedAt) hfacts
  rcases fromEvent_cases event hsize hmodified hfingerprint with
    ⟨hstage, candidate, hok, hsource⟩ | ⟨hstage, e, he⟩
  · rw [← hsource]
    constructor
    · intro h
      refine ⟨hstage, ?_⟩
      obtain ⟨next, c, hcontinue, hc, hpath⟩ := h anySelection (by decide) (by decide)
      rcases hrun anySelection (by decide) (by decide) with
        ⟨c', next', hok', hnext, hc'⟩ | ⟨e, he, -⟩
      · rw [hok] at hok'
        cases hok'
        rw [hcontinue] at hnext
        cases hnext
        rw [hc] at hc'
        cases hc'
        exact hpath
      · rw [hok] at he
        cases he
    · rintro ⟨-, hpath⟩ selection hplugin hkey
      rcases hrun selection hplugin hkey with ⟨c', next', hok', hnext, hc'⟩ | ⟨e, he, -⟩
      · rw [hok] at hok'
        cases hok'
        exact ⟨next', _, hnext, hc', hpath⟩
      · rw [hok] at he
        cases he
  · refine iff_of_false (fun h => ?_) (fun h => hstage h.1)
    obtain ⟨next, -, hcontinue, -⟩ := h anySelection (by decide) (by decide)
    rcases hrun anySelection (by decide) (by decide) with ⟨c', -, hok, -⟩ | ⟨-, -, hnot⟩
    · rw [he] at hok
      cases hok
    · exact hnot next hcontinue

variable {event} in
/-- The stage takes the path from nowhere but `path`. -/
theorem StageForm.path_eq (h : StageForm event) {p : String}
    (hp : getEither event "path" "source_path" .none = .str p) :
      event.get? "path" = some (.str p) := by
  rw [getEither, Dict.getD] at hp
  cases hpath : event.get? "path" with
  | none =>
    refine absurd ?_ h.path
    rw [Dict.getD, hpath]
    rfl
  | some v =>
    rw [hpath] at hp
    exact congrArg some hp

structure CommonForm (settings : AppSettings) (event : Dict) : Prop where
  eventId : ∃ s, event.getNone "event_id" = .str s ∧ blank s = false
  path : ∃ p, event.get? "path" = some (.str p) ∧ blank p = false ∧
    Char.ofNat 0 ∉ (strip p).toList
  observedAt : event.get? "observed_at" = none
  eventKind : Interpreter.lower (strip (pyStr (event.getD "event_kind" (.str "")))) ∈
    allowedEventKinds
  eventType : ∃ k, getEither event "event_type" "event_kind" (.str "created") = .str k ∧
    blank k = false
  traceId : blank settings.traceId = false

theorem commonForm_iff (settings : AppSettings) :
    CommonForm settings event ↔ AppForm settings event ∧ StageForm event := by
  constructor
  · rintro ⟨hid, ⟨p, hp, hblank, hnul⟩, hobserved, hkind, htype, htrace⟩
    have hgetD : ∀ v, event.getD "path" v = .str p := fun v => by rw [Dict.getD, hp]; rfl
    refine ⟨⟨hid, ⟨p, hgetD _, hblank, hnul⟩, .inl hobserved, htype, htrace⟩, ?_, hkind, 0, ?_⟩
    · rw [hgetD]
      simpa [blank] using hblank
    · rw [Dict.getD, hobserved]
      rfl
  · rintro ⟨⟨hid, ⟨p, hp, hblank, hnul⟩, hobserved, htype, htrace⟩, hstage⟩
    refine ⟨hid, ⟨p, hstage.path_eq hp, hblank, hnul⟩, ?_, hstage.eventKind, htype, htrace⟩
    rcases hobserved with h | ⟨t, h⟩
    · exact h
    · obtain ⟨q, hq⟩ := hstage.observedAt
      rw [Dict.getD, h] at hq
      cases hq

/-- The loop and the stage agree on an event if and only if it is in the form
of both or in the form of neither. -/
theorem contracts_agree_iff (settings : AppSettings) (now : Seconds) :
    ((∀ context, acceptEvent settings now event = .ok context →
        Resolves { state with event } (fileFacts factsPath size modifiedAt) context.sourcePath) ∧
      ((∃ path, Resolves { state with event } (fileFacts factsPath size modifiedAt) path) →
        ∀ e, acceptEvent settings now event = .error e → e.isInstance "ValueError" = false)) ↔
    CommonForm settings event ∨ ¬AppForm settings event ∧ ¬StageForm event := by
  rw [commonForm_iff]
  simp only [resolves_iff]
  rcases acceptEvent_cases settings now event with
    ⟨happ, context, p, hok, hp, hpath⟩ | ⟨happ, e, he, hvalue⟩
  · rw [hok]
    constructor
    · rintro ⟨h, -⟩
      exact .inl ⟨happ, (h context rfl).1⟩
    · rintro (⟨-, hstage⟩ | ⟨h, -⟩)
      · constructor
        · rintro _ ⟨⟩
          rw [hpath, Dict.getD, hstage.path_eq hp]
          exact ⟨hstage, rfl⟩
        · rintro _ _ ⟨⟩
      · exact absurd happ h
  · rw [he]
    constructor
    · rintro ⟨-, h⟩
      refine .inr ⟨happ, fun hstage => ?_⟩
      rw [h ⟨_, hstage, rfl⟩ e rfl] at hvalue
      cases hvalue
    · rintro (⟨h, -⟩ | ⟨-, hstage⟩)
      · exact absurd h happ
      · constructor
        · rintro _ ⟨⟩
        · rintro ⟨_, h, _⟩
          exact absurd h hstage

end

section
attribute [local instance] Interpreter.ascii

def someApp : AppSettings where
  policy := {}
  sessionId := "s"
  traceId := "t"
  runtimeEventId := "t:runtime"
  runtimeTraceId := "t"

def observedEvent (observedAt : Value) : Dict :=
  Dict.ofEntries [("event_id", .str "e"), ("path", .str "/in/x.csv"),
    ("event_kind", .str "created"), ("observed_at", observedAt)]

/-- An event observed at a datetime is accepted by the loop, and the stage
raises on it; the stage resolves one observed at a number, and the loop raises. -/
theorem observedAtDisagrees :
    ((∃ context, acceptEvent someApp 0 (observedEvent (.datetime 0)) = .ok context) ∧
      ∀ path, ¬Resolves { event := observedEvent (.datetime 0) } (fileFacts "/in/x.csv" 1 0) path) ∧
    (∃ path, Resolves { event := observedEvent (.float 0) } (fileFacts "/in/x.csv" 1 0) path) ∧
      ∃ e, acceptEvent someApp 0 (observedEvent (.float 0)) = .error e ∧
        e.isInstance "ValueError" = true := by
  refine ⟨⟨⟨_, rfl⟩, fun path h => ?_⟩, ⟨_, (resolves_iff { event := Dict.empty } _ _ _ _ _).mpr
    ⟨⟨by decide +kernel, by decide +kernel, 0, rfl⟩, rfl⟩⟩, _, rfl, rfl⟩
  obtain ⟨q, hq⟩ := ((resolves_iff { event := Dict.empty } _ _ _ _ path).mp h).1.observedAt
  cases hq

end

end DpostV2.Runtime
