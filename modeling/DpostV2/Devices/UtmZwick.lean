import DpostV2.Devices.Template
import DpostV2.Ingestion.Candidate
import DpostV2.Lib.FileName
import DpostV2.Lib.Since
import Mathlib.Logic.Function.Basic

/-!
# UTM Zwick series

The processor of `utm_zwick` keeps the last `.zs2` of a series until an `.xlsx`
with its stem comes. `series_pairing` says, for every sequence of rounds, which
of them succeed and with which files.
-/

namespace DpostV2.Devices

namespace UtmZwick

/-- `validate_utm_zwick_settings` overrides both, whatever it is given. -/
def settings : DevicePluginSettings where
  pluginId := "utm_zwick"
  sourceExtensions := [".xlsx", ".zs2"]

structure SeriesState where
  seriesKey : String
  lastZs2Path : Option String := none
  sentinelXlsxPath : Option String := none

/-- The `_series` dictionary. -/
abbrev Series := String → Option SeriesState

inductive RoundOutcome where
  | prepareFailed (e : Exn)
  | deferred
  | processFailed (e : Exn)
  | processed (result : ProcessorResult)

structure Round where
  rawInput : Value
  outcome : RoundOutcome

theorem make_pair {path zs2 : String} (hpath : blank path = false ∧ strip path = path)
    (hzs2 : blank zs2 = false ∧ strip zs2 = zs2) :
    ∃ result, ProcessorResult.make path "xlsx" [.str zs2, .str path] = .ok result ∧
      result.finalPath = path ∧ result.datatype = "xlsx" ∧ result.forcePaths = [zs2, path] := by
  have hdatatype : blank "xlsx" = false := by decide +kernel
  refine ⟨⟨path, "xlsx", [zs2, path], hpath.1, hdatatype, ?_⟩, ?_, rfl, rfl, rfl⟩
  · have hne : ∀ p, blank p = false → p ≠ "" := by
      rintro p hp rfl
      revert hp
      decide +kernel
    intro p hp
    rcases List.mem_cons.mp hp with rfl | hp
    · exact ⟨hne _ hzs2.1, hzs2.2⟩
    · cases List.mem_singleton.mp hp
      exact ⟨hne _ hpath.1, hpath.2⟩
  · simp [ProcessorResult.make, stripForcePaths, hpath, hzs2, hdatatype, bind, Except.bind, pure,
      Except.pure]

section
variable [Interpreter]

def normalizeSourcePath (candidate : Value) : Except Exn (String × String) :=
  match candidate.asDict? with
  | none => .error (deviceError "DeviceProcessorFormatError" "raw_input must be a mapping")
  | some candidate =>
    match candidate.getNone "source_path" with
    | .str sourcePath =>
      if blank sourcePath then
        .error (deviceError "DeviceProcessorValidationError" "source_path is required")
      else
        let normalizedSourcePath := strip sourcePath
        let extension := Interpreter.lower (PurePath.parse normalizedSourcePath).suffix
        if extension ≠ "" ∧ extension ∉ settings.sourceExtensions then
          .error (deviceError "DeviceProcessorFormatError" ("unsupported extension " ++
            Interpreter.reprOf extension ++ " for " ++ settings.pluginId))
        else .ok (normalizedSourcePath, extension)
    | _ => .error (deviceError "DeviceProcessorValidationError" "source_path is required")

/-- `Path(source_path).stem`. -/
def seriesKeyOf (sourcePath : String) : String := (PurePath.parse sourcePath).stem

def preparedInput (sourcePath extension : String) (readyToProcess : Bool) : Dict :=
  Dict.ofEntries [("source_path", .str sourcePath), ("extension", .str extension),
    ("plugin_id", .str settings.pluginId), ("series_key", .str (seriesKeyOf sourcePath)),
    ("ready_to_process", .bool readyToProcess)]

def prepare (series : Series) (rawInput : Value) : Except Exn (Dict × Series) := do
  let (sourcePath, extension) ← normalizeSourcePath rawInput
  let seriesKey := seriesKeyOf sourcePath
  if extension = ".zs2" then
    let state := (series seriesKey).getD { seriesKey }
    return (preparedInput sourcePath extension false,
      Function.update series seriesKey (some { state with lastZs2Path := some sourcePath }))
  else
    match series seriesKey with
    | some state =>
      if state.lastZs2Path.isSome then
        return (preparedInput sourcePath extension true,
          Function.update series seriesKey
            (some { state with sentinelXlsxPath := some sourcePath }))
      else return (preparedInput sourcePath extension false, series)
    | none => return (preparedInput sourcePath extension false, series)

/-- `str(candidate.get("series_key", Path(source_path).stem))`. -/
def seriesKeyIn (candidate : Dict) (sourcePath : String) : String :=
  pyStr (candidate.getD "series_key" (.str (seriesKeyOf sourcePath)))

def canProcess (series : Series) (candidate : Dict) : Except Exn Bool := do
  let (sourcePath, extension) ← normalizeSourcePath (.dict candidate.entries)
  if extension ≠ ".xlsx" then return false
  else
    match candidate.get? "ready_to_process" with
    | some ready => return ready.truthy
    | none =>
      match series (seriesKeyIn candidate sourcePath) with
      | some state =>
        return state.lastZs2Path.isSome && state.sentinelXlsxPath == some sourcePath
      | none => return false

def noStagedPair (seriesKey : String) : Exn :=
  valueError ("No staged zs2/xlsx pair for series '" ++ seriesKey ++ "'")

def process (series : Series) (preparedInput : Dict) : Except Exn ProcessorResult × Series :=
  match normalizeSourcePath (.dict preparedInput.entries) with
  | .error e => (.error e, series)
  | .ok (sourcePath, extension) =>
    if extension ≠ ".xlsx" then
      (.error (valueError "utm_zwick staged series requires an xlsx finalizer"), series)
    else
      let seriesKey := seriesKeyIn preparedInput sourcePath
      match series seriesKey with
      | some { lastZs2Path := some lastZs2Path, sentinelXlsxPath, .. } =>
        if sentinelXlsxPath ≠ some sourcePath then (.error (noStagedPair seriesKey), series)
        else (ProcessorResult.make sourcePath "xlsx" [.str lastZs2Path, .str sourcePath],
          Function.update series seriesKey none)
      | _ => (.error (noStagedPair seriesKey), series)

/-- What `run_transform_stage` does with the processor for one input. -/
def playRound (series : Series) (rawInput : Value) : RoundOutcome × Series :=
  match prepare series rawInput with
  | .error e => (.prepareFailed e, series)
  | .ok (prepared, series) =>
    match canProcess series prepared with
    | .ok true =>
      match process series prepared with
      | (.ok result, series) => (.processed result, series)
      | (.error e, series) => (.processFailed e, series)
    | _ => (.deferred, series)

def playRounds : Series → List Value → List Round × Series
  | series, [] => ([], series)
  | series, rawInput :: rest =>
    let (outcome, series) := playRound series rawInput
    let (later, series) := playRounds series rest
    ({ rawInput, outcome } :: later, series)

-- ---------------------------------------------------------------------------
-- One round
-- ---------------------------------------------------------------------------

/-- The input is accepted as the path, with the extension. -/
def Accepted (rawInput : Value) (path extension stem : String) : Prop :=
  normalizeSourcePath rawInput = .ok (path, extension) ∧ seriesKeyOf path = stem

theorem normalizeSourcePath_ok {rawInput : Value} {path extension : String}
    (h : normalizeSourcePath rawInput = .ok (path, extension)) :
    blank path = false ∧ strip path = path ∧
      (extension = "" ∨ extension = ".xlsx" ∨ extension = ".zs2") ∧
      ∀ d : Dict, d.getNone "source_path" = .str path →
        normalizeSourcePath (.dict d.entries) = .ok (path, extension) := by
  unfold normalizeSourcePath at h
  split at h
  · cases h
  · split at h
    · rename_i sourcePath _
      split at h
      · cases h
      · rename_i hblank
        simp only at h
        split at h
        · cases h
        · rename_i hext
          simp only [Except.ok.injEq, Prod.mk.injEq] at h
          obtain ⟨rfl, rfl⟩ := h
          have hb : blank (strip sourcePath) = false := by
            simpa [blank, strip_strip] using hblank
          refine ⟨hb, strip_strip _, ?_, ?_⟩
          · by_cases hempty : Interpreter.lower (PurePath.parse (strip sourcePath)).suffix = ""
            · exact .inl hempty
            · rw [not_and, not_not] at hext
              exact .inr (by simpa [settings] using hext hempty)
          · intro d hd
            unfold normalizeSourcePath
            simp only [Value.asDict?, Dict.ofEntries_entries, hd, hb, strip_strip]
            rw [if_neg (by simp), if_neg hext]
    · cases h

theorem preparedInput_normalizes {rawInput : Value} {path extension : String} {ready : Bool}
    (h : normalizeSourcePath rawInput = .ok (path, extension)) :
    normalizeSourcePath (.dict (preparedInput path extension ready).entries) =
      .ok (path, extension) :=
  (normalizeSourcePath_ok h).2.2.2 _ (by
    simp [preparedInput, Dict.getNone, Dict.getD, Dict.get?_ofEntries])

theorem canProcess_prepared {rawInput : Value} {path extension : String} {ready : Bool}
    (series : Series) (h : normalizeSourcePath rawInput = .ok (path, extension)) :
    canProcess series (preparedInput path extension ready) =
      .ok (extension == ".xlsx" && ready) := by
  unfold canProcess
  rw [preparedInput_normalizes h]
  have hready : (preparedInput path extension ready).get? "ready_to_process" =
    some (.bool ready) := by
    simp [preparedInput, Dict.get?_ofEntries, List.lookup_cons]
  by_cases hext : extension = ".xlsx"
  · simp [hext, bind, Except.bind, hext ▸ hready, Value.truthy, pure, Except.pure]
  · simp [hext, bind, Except.bind, pure, Except.pure]

-- ---------------------------------------------------------------------------
-- What waits for a series
-- ---------------------------------------------------------------------------

/-- The `.zs2` that waits for the `.xlsx` of its stem. -/
abbrev Waiting := String → Option String

def Series.waiting (series : Series) : Waiting := fun stem =>
  (series stem).bind SeriesState.lastZs2Path

def outcomeOf (waiting : Waiting) (rawInput : Value) : RoundOutcome :=
  match normalizeSourcePath rawInput with
  | .error e => .prepareFailed e
  | .ok (path, extension) =>
    match if extension = ".xlsx" then waiting (seriesKeyOf path) else none with
    | none => .deferred
    | some zs2 =>
      match ProcessorResult.make path "xlsx" [.str zs2, .str path] with
      | .ok result => .processed result
      | .error e => .processFailed e

def waitingAfter (waiting : Waiting) (rawInput : Value) : Waiting :=
  match normalizeSourcePath rawInput with
  | .error _ => waiting
  | .ok (path, extension) =>
    if extension = ".zs2" then Function.update waiting (seriesKeyOf path) (some path)
    else if extension = ".xlsx" then Function.update waiting (seriesKeyOf path) none
    else waiting

section
variable {series : Series} {rawInput : Value} {path extension : String}

theorem prepare_zs2 (series : Series) (h : normalizeSourcePath rawInput = .ok (path, ".zs2")) :
    ∃ series', prepare series rawInput = .ok (preparedInput path ".zs2" false, series') ∧
      series'.waiting = Function.update series.waiting (seriesKeyOf path) (some path) := by
  unfold prepare
  rw [h]
  refine ⟨_, rfl, ?_⟩
  funext stem
  unfold Series.waiting
  by_cases hstem : stem = seriesKeyOf path
  · subst hstem
    simp
  · simp [hstem]

theorem prepare_other (series : Series) (h : normalizeSourcePath rawInput = .ok (path, extension))
    (hext : extension ≠ ".zs2") :
    ∃ series', prepare series rawInput = .ok
        (preparedInput path extension (series.waiting (seriesKeyOf path)).isSome, series') ∧
      series'.waiting = series.waiting ∧
      ∀ zs2, series.waiting (seriesKeyOf path) = some zs2 → ∃ state,
        series' (seriesKeyOf path) = some state ∧ state.lastZs2Path = some zs2 ∧
          state.sentinelXlsxPath = some path := by
  unfold prepare
  rw [h]
  simp only [bind, Except.bind, if_neg hext]
  cases hstate : series (seriesKeyOf path) with
  | none =>
    have hwaiting : series.waiting (seriesKeyOf path) = none := by simp [Series.waiting, hstate]
    rw [hwaiting]
    exact ⟨series, rfl, rfl, nofun⟩
  | some state =>
    have hwaiting : series.waiting (seriesKeyOf path) = state.lastZs2Path := by
      simp [Series.waiting, hstate]
    rw [hwaiting]
    cases hlast : state.lastZs2Path with
    | none =>
      refine ⟨series, ?_, rfl, nofun⟩
      simp [hlast, pure, Except.pure]
    | some zs2 =>
      refine ⟨Function.update series (seriesKeyOf path)
        (some { state with sentinelXlsxPath := some path }), ?_, ?_, ?_⟩
      · simp [hlast, pure, Except.pure]
      · funext stem
        unfold Series.waiting
        by_cases hstem : stem = seriesKeyOf path
        · subst hstem
          simp [hstate, hlast]
        · simp [hstem]
      · rintro _ ⟨⟩
        exact ⟨_, Function.update_self .., hlast, rfl⟩

theorem process_ready {state : SeriesState} {zs2 : String} {ready : Bool}
    (h : normalizeSourcePath rawInput = .ok (path, ".xlsx"))
    (hstate : series (seriesKeyOf path) = some state) (hlast : state.lastZs2Path = some zs2)
    (hsentinel : state.sentinelXlsxPath = some path) :
    process series (preparedInput path ".xlsx" ready) =
      (ProcessorResult.make path "xlsx" [.str zs2, .str path],
        Function.update series (seriesKeyOf path) none) := by
  have hkey : seriesKeyIn (preparedInput path ".xlsx" ready) path = seriesKeyOf path := by
    simp [seriesKeyIn, preparedInput, Dict.getD, Dict.get?_ofEntries, List.lookup_cons, pyStr]
  obtain ⟨_, _, _⟩ := state
  cases hlast
  cases hsentinel
  unfold process
  rw [preparedInput_normalizes h]
  simp [hkey, hstate]

end

/-- The processor does with its series what is done with what waits. -/
theorem playRound_refines (series : Series) (rawInput : Value) :
    (playRound series rawInput).1 = outcomeOf series.waiting rawInput ∧
      (playRound series rawInput).2.waiting = waitingAfter series.waiting rawInput := by
  unfold playRound outcomeOf waitingAfter
  cases h : normalizeSourcePath rawInput with
  | error e =>
    have hprepare : prepare series rawInput = .error e := by
      unfold prepare
      rw [h]
      rfl
    rw [hprepare]
    exact ⟨rfl, rfl⟩
  | ok accepted =>
    obtain ⟨path, extension⟩ := accepted
    by_cases hzs2 : extension = ".zs2"
    · subst hzs2
      obtain ⟨series', hprepare, hwaiting⟩ := prepare_zs2 series h
      rw [hprepare]
      simp only [canProcess_prepared series' h]
      exact ⟨rfl, hwaiting⟩
    · obtain ⟨series', hprepare, hwaiting, hready⟩ := prepare_other series h hzs2
      rw [hprepare]
      simp only [canProcess_prepared series' h, if_neg hzs2]
      by_cases hxlsx : extension = ".xlsx"
      · subst hxlsx
        simp only [beq_self_eq_true, Bool.true_and, if_pos]
        cases hzs : series.waiting (seriesKeyOf path) with
        | none =>
          refine ⟨rfl, ?_⟩
          rw [Function.update_eq_self_iff.mpr hzs.symm]
          exact hwaiting
        | some zs2 =>
          obtain ⟨state, hstate, hlast, hsentinel⟩ := hready zs2 hzs
          simp only [Option.isSome_some, process_ready h hstate hlast hsentinel]
          have hafter : Series.waiting (Function.update series' (seriesKeyOf path) none) =
              Function.update series.waiting (seriesKeyOf path) none := by
            rw [← hwaiting]
            funext stem
            unfold Series.waiting
            by_cases hstem : stem = seriesKeyOf path
            · subst hstem
              simp
            · simp [hstem]
          cases hmake : ProcessorResult.make path "xlsx" [.str zs2, .str path] with
          | ok result => simp only [hafter, and_self]
          | error e => simp only [hafter, and_self]
      · simp only [hxlsx, beq_eq_false_iff_ne.mpr hxlsx, Bool.false_and, if_false]
        exact ⟨trivial, hwaiting⟩

-- ---------------------------------------------------------------------------
-- Runs
-- ---------------------------------------------------------------------------

/-- The path of a round that prepared a `.zs2` of the stem. -/
def zs2Of (stem : String) (round : Round) : Option String :=
  match normalizeSourcePath round.rawInput with
  | .ok (path, extension) =>
    if extension = ".zs2" ∧ seriesKeyOf path = stem then some path else none
  | .error _ => none

def ofStem (stem : String) (rawInput : Value) : Bool :=
  match normalizeSourcePath rawInput with
  | .ok (path, _) => seriesKeyOf path == stem
  | .error _ => false

/-- The round has processed the series of the stem. -/
def finishes (stem : String) (round : Round) : Bool :=
  match round.outcome with
  | .processed _ => ofStem stem round.rawInput
  | _ => false

/-- Round `k` prepared the `.zs2` that waits for the stem when round `i` begins: the last one, and
none of the stem's rounds has succeeded since. -/
def Pending (history : List Round) (i k : Nat) (stem zs2 : String) : Prop :=
  LastSet (zs2Of stem) (finishes stem) history i k zs2

def noSeries : Series := fun _ => none

theorem playRounds_append (series : Series) (before after : List Value) :
    playRounds series (before ++ after) =
      ((playRounds series before).1 ++ (playRounds (playRounds series before).2 after).1,
        (playRounds (playRounds series before).2 after).2) := by
  induction before generalizing series with
  | nil => rfl
  | cons rawInput before ih => simp only [List.cons_append, playRounds, ih]

theorem zs2Of_ok {stem zs2 : String} {round : Round} (h : zs2Of stem round = some zs2) :
    blank zs2 = false ∧ strip zs2 = zs2 := by
  unfold zs2Of at h
  split at h
  · rename_i hn
    split at h
    · cases h
      obtain ⟨hblank, hstrip, -⟩ := normalizeSourcePath_ok hn
      exact ⟨hblank, hstrip⟩
    · cases h
  · cases h

/-- What an accepted input comes to, by its extension and what waits. -/
theorem outcomeOf_accepted {waiting : Waiting} {rawInput : Value} {path extension : String}
    (h : normalizeSourcePath rawInput = .ok (path, extension))
    (hwaiting : ∀ stem zs2, waiting stem = some zs2 → blank zs2 = false ∧ strip zs2 = zs2) :
    (∃ zs2 result, extension = ".xlsx" ∧ waiting (seriesKeyOf path) = some zs2 ∧
      outcomeOf waiting rawInput = .processed result ∧ result.finalPath = path ∧
      result.datatype = "xlsx" ∧ result.forcePaths = [zs2, path]) ∨
    ((extension = ".xlsx" → waiting (seriesKeyOf path) = none) ∧
      outcomeOf waiting rawInput = .deferred) := by
  unfold outcomeOf
  rw [h]
  by_cases hxlsx : extension = ".xlsx"
  · cases hzs2 : waiting (seriesKeyOf path) with
    | none => exact .inr ⟨fun _ => rfl, by simp [hzs2]⟩
    | some zs2 =>
      obtain ⟨hblank, hstrip, -⟩ := normalizeSourcePath_ok h
      obtain ⟨result, hmake, hresult⟩ := make_pair ⟨hblank, hstrip⟩ (hwaiting _ _ hzs2)
      refine .inl ⟨zs2, result, hxlsx, rfl, ?_, hresult⟩
      simp [hxlsx, hzs2, hmake]
  · exact .inr ⟨fun h => absurd h hxlsx, by simp [hxlsx]⟩

theorem held_ok {history : List Round} {stem zs2 : String}
    (h : held (zs2Of stem) (finishes stem) history = some zs2) :
    blank zs2 = false ∧ strip zs2 = zs2 := by
  obtain ⟨k, -, ⟨round, -, hround⟩, -⟩ := held_eq_some.mp h
  exact zs2Of_ok hround

/-- What waits by a history. -/
def waitingBy (history : List Round) : Waiting := fun stem =>
  held (zs2Of stem) (finishes stem) history

/-- What waits after a run is what its history says. -/
theorem waiting_playRounds (rawInputs : List Value) (stem : String) :
    (playRounds noSeries rawInputs).2.waiting stem =
      held (zs2Of stem) (finishes stem) (playRounds noSeries rawInputs).1 := by
  induction rawInputs using List.reverseRecOn generalizing stem with
  | nil => rfl
  | append_singleton rawInputs rawInput ih =>
    rw [playRounds_append]
    simp only [playRounds]
    obtain ⟨houtcome, hwaiting⟩ := playRound_refines (playRounds noSeries rawInputs).2 rawInput
    rw [held_snoc, ← ih, hwaiting, houtcome]
    unfold waitingAfter
    cases h : normalizeSourcePath rawInput with
    | error e => simp [zs2Of, finishes, h, outcomeOf]
    | ok accepted =>
      obtain ⟨path, extension⟩ := accepted
      have hok : ∀ stem zs2, (playRounds noSeries rawInputs).2.waiting stem = some zs2 →
          blank zs2 = false ∧ strip zs2 = zs2 := by
        intro stem zs2 hzs2
        rw [ih] at hzs2
        exact held_ok hzs2
      rcases outcomeOf_accepted h hok with ⟨zs2, result, rfl, hzs2, hproc, -⟩ | ⟨hnone, hdef⟩
      · rw [hproc]
        by_cases hstem : seriesKeyOf path = stem
        · simp [zs2Of, finishes, ofStem, h, hstem]
        · simp [zs2Of, finishes, ofStem, h, hstem, Ne.symm hstem]
      · rw [hdef]
        by_cases hzs2 : extension = ".zs2"
        · by_cases hstem : seriesKeyOf path = stem
          · simp [zs2Of, h, hzs2, hstem]
          · simp [zs2Of, finishes, h, hzs2, hstem, Ne.symm hstem]
        · by_cases hxlsx : extension = ".xlsx"
          · by_cases hstem : seriesKeyOf path = stem
            · simpa [zs2Of, finishes, h, hzs2, hxlsx, hstem] using (hstem ▸ hnone hxlsx).symm
            · simp [zs2Of, finishes, h, hxlsx, Ne.symm hstem]
          · simp [zs2Of, finishes, h, hzs2, hxlsx]

theorem playRounds_length (series : Series) (rawInputs : List Value) :
    (playRounds series rawInputs).1.length = rawInputs.length := by
  induction rawInputs generalizing series with
  | nil => rfl
  | cons rawInput rest ih => simp [playRounds, ih]

/-- A round of a run is played on what waits by the history before it. -/
theorem round_at {rawInputs : List Value} {i : Nat} {round : Round}
    (h : (playRounds noSeries rawInputs).1[i]? = some round) :
    ∃ before later, (playRounds noSeries rawInputs).1 = before ++ round :: later ∧
      before.length = i ∧
      round.outcome = outcomeOf (waitingBy before) round.rawInput := by
  obtain ⟨hi, hround⟩ := List.getElem?_eq_some_iff.mp h
  rw [playRounds_length] at hi
  have hsplit : rawInputs = rawInputs.take i ++ rawInputs[i] :: rawInputs.drop (i + 1) := by simp
  have hplay : (playRounds noSeries rawInputs).1 = (playRounds noSeries (rawInputs.take i)).1 ++
      { rawInput := rawInputs[i],
        outcome := (playRound (playRounds noSeries (rawInputs.take i)).2 rawInputs[i]).1 } ::
      (playRounds (playRound (playRounds noSeries (rawInputs.take i)).2 rawInputs[i]).2
        (rawInputs.drop (i + 1))).1 := by
    conv_lhs => rw [hsplit]
    rw [playRounds_append]
    simp only [playRounds]
  have hlength : (playRounds noSeries (rawInputs.take i)).1.length = i := by
    rw [playRounds_length, List.length_take]
    omega
  have hat : (playRounds noSeries rawInputs).1[i]? = some
      { rawInput := rawInputs[i],
        outcome := (playRound (playRounds noSeries (rawInputs.take i)).2 rawInputs[i]).1 } := by
    rw [hplay, List.getElem?_append_right (by omega), hlength]
    simp
  rw [h] at hat
  cases hat
  refine ⟨_, _, hplay, hlength, ?_⟩
  have hwaiting : (playRounds noSeries (rawInputs.take i)).2.waiting =
      waitingBy (playRounds noSeries (rawInputs.take i)).1 := funext (waiting_playRounds _)
  rw [← hwaiting]
  exact (playRound_refines _ _).1

/-- What a run's rounds come to, read off their history. -/
structure SeriesPaired (history : List Round) : Prop where
  succeeds : ∀ i round path stem, history[i]? = some round →
    Accepted round.rawInput path ".xlsx" stem →
    ((∃ result, round.outcome = .processed result) ↔ ∃ k zs2, Pending history i k stem zs2)
  files : ∀ i round result, history[i]? = some round → round.outcome = .processed result →
    ∃ path stem k zs2, Accepted round.rawInput path ".xlsx" stem ∧ Pending history i k stem zs2 ∧
      result.finalPath = path ∧ result.datatype = "xlsx" ∧ result.forcePaths = [zs2, path]
  usedOnce : ∀ i j k round round' stem stem' zs2 zs2', history[i]? = some round →
    history[j]? = some round' → finishes stem round = true → finishes stem' round' = true →
    Pending history i k stem zs2 → Pending history j k stem' zs2' → i = j

theorem waitingBy_ok {h : List Round} (stem zs2 : String) (hzs2 : waitingBy h stem = some zs2) :
    blank zs2 = false ∧ strip zs2 = zs2 :=
  held_ok hzs2

theorem pending_held (before later : List Round) (round : Round) {stem zs2 : String} :
    (∃ k, Pending (before ++ round :: later) before.length k stem zs2) ↔
      waitingBy before stem = some zs2 := by
  rw [waitingBy, held_eq_some]
  unfold Pending
  simp only [lastSet_append _ (Nat.le_refl _)]

theorem zs2Of_stem {stem stem' zs2 zs2' : String} {round : Round} (h : zs2Of stem round = some zs2)
    (h' : zs2Of stem' round = some zs2') : stem = stem' := by
  unfold zs2Of at h h'
  split at h
  · split at h
    · rename_i hn hstem
      simp only [hn] at h'
      split at h'
      · rename_i hstem'
        exact hstem.2.symm.trans hstem'.2
      · cases h'
    · cases h
  · cases h

theorem seriesPaired (rawInputs : List Value) : SeriesPaired (playRounds noSeries rawInputs).1 where
  succeeds := by
    rintro i round path _ hround ⟨hn, rfl⟩
    obtain ⟨before, later, hplay, rfl, houtcome⟩ := round_at hround
    rw [hplay, exists_comm]
    simp only [pending_held]
    rcases outcomeOf_accepted hn (waitingBy_ok (h := before)) with
      ⟨zs2, result, -, hzs2, hproc, -⟩ | ⟨hnone, hdef⟩
    · rw [houtcome, hproc]
      exact ⟨fun _ => ⟨zs2, hzs2⟩, fun _ => ⟨result, rfl⟩⟩
    · rw [houtcome, hdef, hnone rfl]
      simp
  files := by
    intro i round result hround hproc
    obtain ⟨before, later, hplay, rfl, houtcome⟩ := round_at hround
    rw [hproc] at houtcome
    cases hn : normalizeSourcePath round.rawInput with
    | error e => simp [outcomeOf, hn] at houtcome
    | ok accepted =>
      obtain ⟨path, extension⟩ := accepted
      rcases outcomeOf_accepted hn (waitingBy_ok (h := before)) with
        ⟨zs2, result', rfl, hzs2, hproc', hresult⟩ | ⟨-, hdef⟩
      · rw [hproc'] at houtcome
        cases houtcome
        obtain ⟨k, hpending⟩ := (pending_held before later round).mpr hzs2
        rw [← hplay] at hpending
        exact ⟨path, _, k, zs2, ⟨hn, rfl⟩, hpending, hresult⟩
      · rw [hdef] at houtcome
        cases houtcome
  usedOnce := by
    intro i j k round round' stem stem' zs2 zs2' hi hj hfi hfj hpi hpj
    obtain ⟨-, ⟨a, ha, hza⟩, -⟩ := id hpi
    obtain ⟨-, ⟨a', ha', hza'⟩, -⟩ := id hpj
    rw [ha] at ha'
    cases ha'
    cases zs2Of_stem hza hza'
    exact LastSet.unique hpi hpj hi hfi hj hfj

-- ---------------------------------------------------------------------------
-- Other stems
-- ---------------------------------------------------------------------------

section
variable {waiting waiting' : Waiting} {rawInput : Value} {stem : String}

theorem outcomeOf_congr (hstem : ofStem stem rawInput = true) (h : waiting stem = waiting' stem) :
    outcomeOf waiting rawInput = outcomeOf waiting' rawInput := by
  unfold ofStem at hstem
  unfold outcomeOf
  split at hstem
  · rename_i hn
    cases eq_of_beq hstem
    simp [hn, h]
  · cases hstem

theorem waitingAfter_congr (h : waiting stem = waiting' stem) :
    waitingAfter waiting rawInput stem = waitingAfter waiting' rawInput stem := by
  unfold waitingAfter
  cases normalizeSourcePath rawInput with
  | error e => exact h
  | ok accepted =>
    obtain ⟨path, extension⟩ := accepted
    dsimp only
    by_cases hstem : stem = seriesKeyOf path
    · subst hstem
      split
      · simp
      · split <;> simp [h]
    · split
      · simp [hstem, h]
      · split <;> simp [hstem, h]

theorem waitingAfter_other (hstem : ofStem stem rawInput = false) :
    waitingAfter waiting rawInput stem = waiting stem := by
  unfold ofStem at hstem
  unfold waitingAfter
  split at hstem
  · rename_i path extension hn
    have hne : stem ≠ seriesKeyOf path := (beq_eq_false_iff_ne.mp hstem).symm
    simp only [hn]
    split
    · simp [hne]
    · split <;> simp [hne]
  · rename_i hn
    simp [hn]

end

theorem filter_playRounds {series series' : Series} (rawInputs : List Value) {stem : String}
    (h : series.waiting stem = series'.waiting stem) :
    (playRounds series rawInputs).1.filter (fun round => ofStem stem round.rawInput) =
      (playRounds series' (rawInputs.filter (ofStem stem))).1 := by
  induction rawInputs generalizing series series' with
  | nil => rfl
  | cons rawInput rest ih =>
    obtain ⟨houtcome, hwaiting⟩ := playRound_refines series rawInput
    obtain ⟨houtcome', hwaiting'⟩ := playRound_refines series' rawInput
    cases hstem : ofStem stem rawInput with
    | true =>
      have hsame : (playRound series rawInput).2.waiting stem =
          (playRound series' rawInput).2.waiting stem := by
        rw [hwaiting, hwaiting']
        exact waitingAfter_congr h
      simp only [playRounds, List.filter_cons, hstem, if_true, ih hsame, houtcome, houtcome',
        outcomeOf_congr hstem h]
    | false =>
      have hsame : (playRound series rawInput).2.waiting stem = series'.waiting stem := by
        rw [hwaiting, waitingAfter_other hstem]
        exact h
      simp [playRounds, hstem, ih hsame]

/-- In every sequence of rounds an `.xlsx` is processed exactly when a `.zs2` of its stem waits,
with the last of them and no `.zs2` twice; and the rounds of a stem come to what they come to
without the others. -/
theorem series_pairing (rawInputs : List Value) :
    SeriesPaired (playRounds noSeries rawInputs).1 ∧
      ∀ stem, (playRounds noSeries rawInputs).1.filter (fun round => ofStem stem round.rawInput) =
        (playRounds noSeries (rawInputs.filter (ofStem stem))).1 :=
  ⟨seriesPaired rawInputs, fun _ => filter_playRounds rawInputs rfl⟩

end

end UtmZwick

end DpostV2.Devices
