import DpostV2.Startup.SettingsCache

/-!
# What becomes of a load

`load_startup_settings` without a cache returns a result exactly when nothing
but a `SettingsServiceError` is raised on the way. The schema leaves the retry
values, the naming prefix and the paths to `from_raw`, whose errors are of
another family; the fingerprint is taken before anything is checked.
-/

namespace DpostV2.Startup.Settings

-- ---------------------------------------------------------------------------
-- Normalized settings
-- ---------------------------------------------------------------------------

def IsAbsoluteText (s : String) : Prop := ∃ path : AbsolutePath, s = path.val.str

structure AbsolutePaths (paths : PathSettings) : Prop where
  root : IsAbsoluteText paths.root
  watch : IsAbsoluteText paths.watch
  dest : IsAbsoluteText paths.dest
  staging : IsAbsoluteText paths.staging

/-- A text that is there, without space around it. -/
def Stripped (s : String) : Prop := s ≠ "" ∧ strip s = s

section
variable [Interpreter]

/-- A text as `token` writes it. -/
def Lowered (s : String) : Prop := Stripped s ∧ Interpreter.lower s = s

structure NormalizedRuntime (runtime : RuntimeSettings) : Prop where
  mode : runtime.mode ∈ modes
  profile : ∀ profile, runtime.profile = some profile → Lowered profile
  loopMode : runtime.loopMode ∈ loopModes
  poll : 0 ≤ runtime.pollIntervalSeconds
  idle : ∀ q, runtime.idleTimeoutSeconds = some q → 0 ≤ q
  limit : ∀ q, runtime.maxRuntimeSeconds = some q → 0 ≤ q

structure Normalized (s : StartupSettings) : Prop where
  runtime : NormalizedRuntime s.runtime
  paths : AbsolutePaths s.paths
  prefixText : Stripped s.naming.prefixText
  policy : s.naming.policy ∈ namingPolicies
  retryLimit : 0 ≤ s.ingestion.retryLimit
  retryDelay : 0 ≤ s.ingestion.retryDelaySeconds
  sync : s.sync.backend ∈ syncBackends
  apiToken : ∀ apiToken, s.sync.apiToken = some apiToken → Stripped apiToken
  ui : s.ui.backend ∈ uiBackends
  pcName : ∀ name, s.plugins.pcName = some name → Lowered name
  devicePlugins : ∀ id ∈ s.plugins.devicePlugins, Lowered id

theorem normalizeOptionalString_stripped {v : Value} (h : normalizeOptionalString v = some s) :
    Stripped s := by
  unfold normalizeOptionalString at h
  split at h
  · cases h
  split at h
  · cases h
  next hb =>
  cases h
  exact ⟨by simpa [blank] using hb, strip_strip _⟩

theorem choice_mem {allowed : List String} (h : choice what allowed v = .ok s) : s ∈ allowed := by
  unfold choice at h
  split at h
  · next hm =>
    cases h
    simpa using hm
  · cases h

theorem normalizeMode_mem {v : Value} (h : normalizeMode v = .ok mode) : mode ∈ modes := by
  simp only [normalizeMode] at h
  split at h
  · next hm =>
    cases h
    simpa using hm
  · cases h

theorem normalizePaths_absolute {fs : FileSystem} {block : Dict}
    (h : normalizePaths fs block hint = .ok paths) : AbsolutePaths paths := by
  unfold normalizePaths at h
  split at h
  · cases h
  · simp only [except_bind_ok, except_pure_ok] at h
    obtain ⟨_, _, root, _, watch, _, dest, _, staging, _, rfl⟩ := h
    exact ⟨⟨root, rfl⟩, ⟨watch, rfl⟩, ⟨dest, rfl⟩, ⟨staging, rfl⟩⟩

/-- The retry values are numbers, and neither is negative. -/
def RetryValues (block : Dict) : Prop :=
  (∃ n, pyInt (block.getD "retry_limit" (.int 0)) = .ok n ∧ 0 ≤ n) ∧
    Measured (block.getD "retry_delay_seconds" (.float 0))

theorem normalizeRetryPolicy_ok {block : Dict} :
    normalizeRetryPolicy block = .ok ingestion ↔
      pyInt (block.getD "retry_limit" (.int 0)) = .ok ingestion.retryLimit ∧
      toFloat (block.getD "retry_delay_seconds" (.float 0)) = .ok ingestion.retryDelaySeconds ∧
      0 ≤ ingestion.retryLimit ∧ 0 ≤ ingestion.retryDelaySeconds := by
  simp only [normalizeRetryPolicy, except_bind_ok]
  constructor
  · rintro ⟨n, hn, q, hq, h⟩
    split at h
    · cases h
    split at h
    · cases h
    · next hn0 hq0 =>
      cases h
      exact ⟨hn, hq, not_lt.mp hn0, not_lt.mp hq0⟩
  · rintro ⟨hn, hq, hn0, hq0⟩
    refine ⟨_, hn, _, hq, ?_⟩
    simp only [not_lt.mpr hn0, not_lt.mpr hq0, if_false]
    rfl

theorem normalizeOptionalFloat_nonneg {v : Value} (h : normalizeOptionalFloat v name = .ok w) :
    ∀ q, w = some q → 0 ≤ q := by
  unfold normalizeOptionalFloat at h
  split at h
  · cases h
    simp
  · simp only [except_bind_ok] at h
    obtain ⟨r, _, h⟩ := h
    split at h
    · cases h
    · next hr =>
      cases h
      rintro q ⟨⟩
      exact not_lt.mp hr

section
variable [LawfulLower]

theorem strip_token (v : Value) : strip (token v) = token v := by
  rw [token, LawfulLower.strip_lower, strip_strip]

theorem lower_token (v : Value) : Interpreter.lower (token v) = token v :=
  LawfulLower.lower_lower _

theorem token_token (v : Value) : token (.str (token v)) = token v := by
  rw [token, pyStr_str, strip_token, lower_token]

theorem Stripped.lowered (h : Stripped s) : Lowered (Interpreter.lower s) :=
  ⟨⟨fun he => h.1 ((LawfulLower.lower_eq_empty s).mp he), by rw [LawfulLower.strip_lower, h.2]⟩,
    LawfulLower.lower_lower s⟩

theorem normalizeProfile_lowered {v : Value} (h : normalizeProfile v = some s) : Lowered s := by
  obtain ⟨text, ht, rfl⟩ := Option.map_eq_some_iff.mp h
  exact (normalizeOptionalString_stripped ht).lowered

theorem policyTokens_lowered {ids : List Value} (h : policyTokens ids = .ok ws) :
    ∀ w ∈ ws, Lowered w := by
  induction ids generalizing ws with
  | nil => cases h; simp
  | cons v ids ih =>
    unfold policyTokens at h
    split at h
    · cases h
    next text ht =>
    simp only [except_bind_ok, except_pure_ok] at h
    obtain ⟨ws, hw, rfl⟩ := h
    intro w hm
    rcases List.mem_cons.mp hm with rfl | hm
    · exact (normalizeOptionalString_stripped ht).lowered
    · exact ih hw w hm

theorem runtimeSettings_normalized {block : Dict}
    (h : runtimeSettings mode profile block = .ok runtime) : NormalizedRuntime runtime := by
  simp only [runtimeSettings, except_bind_ok] at h
  obtain ⟨mode, hm, h⟩ := h
  split at h
  · cases h
  next hloop =>
  obtain ⟨poll, _, h⟩ := except_bind_ok.mp h
  split at h
  · cases h
  next hpoll =>
  simp only [except_bind_ok, except_pure_ok] at h
  obtain ⟨idle, hidle, limit, hlimit, rfl⟩ := h
  exact {
    mode := normalizeMode_mem hm
    profile := by
      intro s hs
      obtain ⟨_, _, hs⟩ := Option.bind_eq_some_iff.mp hs
      exact normalizeProfile_lowered hs
    loopMode := by simpa using hloop
    poll := not_lt.mp hpoll
    idle := normalizeOptionalFloat_nonneg hidle
    limit := normalizeOptionalFloat_nonneg hlimit }

/-- What `from_raw` builds is normalized, whatever it was given. -/
theorem fromRaw_normalized {fs : FileSystem} {payload : Payload}
    (h : fromRaw fs payload hint fingerprint = .ok s) : Normalized s := by
  obtain ⟨_, paths, ingestion, policy, ui, sync, runtime, ids, plugins, -, hpaths, hi, hp, hpol,
    hui, hsync, hr, -, hplug, rfl⟩ := fromRaw_ok.mp h
  simp only [pluginPolicySettings, except_bind_ok, except_pure_ok] at hplug
  obtain ⟨ws, hws, rfl⟩ := hplug
  obtain ⟨-, -, hlimit, hdelay⟩ := normalizeRetryPolicy_ok.mp hi
  exact {
    runtime := runtimeSettings_normalized hr
    paths := normalizePaths_absolute hpaths
    prefixText := ⟨hp, strip_strip _⟩
    policy := choice_mem hpol
    retryLimit := hlimit
    retryDelay := hdelay
    sync := choice_mem hsync
    apiToken := fun _ => normalizeOptionalString_stripped
    ui := choice_mem hui
    pcName := by
      intro name hn
      obtain ⟨_, _, hn⟩ := Option.bind_eq_some_iff.mp hn
      exact normalizeProfile_lowered hn
    devicePlugins := policyTokens_lowered hws }

-- ---------------------------------------------------------------------------
-- What from_raw asks beyond the schema
-- ---------------------------------------------------------------------------

omit [Interpreter] [LawfulLower] in
theorem getD_of_field {p : Payload} (h : p.field b key = v) (hv : v ≠ .none) (default : Value) :
    (p.blocks b).getD key default = v := by
  subst h
  unfold Payload.field Dict.getNone Dict.getD at *
  cases hk : (p.blocks b).get? key with
  | none => simp [hk] at hv
  | some w => rfl

theorem TokenOf.choice (h : TokenOf allowed v) (what : String) :
    ∃ t, choice what allowed v = .ok t := by
  obtain ⟨raw, rfl, hm⟩ := h
  exact ⟨token raw, by simp [Settings.choice, token_token, hm]⟩

theorem normalizeMode_token {raw : Value} (h : token raw ∈ modes) :
    normalizeMode (.str (token raw)) = .ok (token raw) := by
  have hne : token raw ≠ "" := by
    intro he
    simp [he, modes] at h
  simp [normalizeMode, Value.orElse, Value.truthy, hne, token_token, h]

theorem normalizeOptionalString_token {raw : Value} (h : token raw ≠ "") :
    normalizeOptionalString (.str (token raw)) = some (token raw) := by
  simp [normalizeOptionalString, blank, strip_token, h]

omit [LawfulLower] in
theorem OptionalSeconds.normalized {v : Value} (h : OptionalSeconds v) (name : String) :
    ∃ w, normalizeOptionalFloat v name = .ok w := by
  rcases h with rfl | ⟨q, rfl, h0⟩
  · exact ⟨none, rfl⟩
  · refine ⟨some q, ?_⟩
    simp [normalizeOptionalFloat, toFloat, pyFloat, bind, Except.bind, not_lt.mpr h0, pure,
      Except.pure]

theorem Validated.runtimeSettings {p : Payload} (h : Validated p) (profile : Option String) :
    ∃ mode runtime, normalizeMode (p.mode.getD .none) = .ok mode ∧
      runtimeSettings mode profile (p.blocks .runtime) = .ok runtime := by
  obtain ⟨v, hmode, raw, rfl, hraw⟩ := h.mode
  obtain ⟨rawLoop, hloop, hrawLoop⟩ := h.loopMode
  obtain ⟨poll, hpoll, h0⟩ := h.poll
  obtain ⟨idle, hidle⟩ := h.idle.normalized "runtime.idle_timeout_seconds"
  obtain ⟨limit, hlimit⟩ := h.limit.normalized "runtime.max_runtime_seconds"
  have hne : token rawLoop ≠ "" := by
    intro he
    simp [he, loopModes] at hrawLoop
  refine ⟨token raw, ?_⟩
  simp only [hmode, Option.getD_some, normalizeMode_token hraw, true_and]
  simp only [Settings.runtimeSettings, normalizeMode_token hraw,
    getD_of_field hloop (by simp), getD_of_field hpoll (by simp), normalizeOptionalString_token hne,
    Option.getD_some, lower_token, List.contains_iff_mem.mpr hrawLoop, toFloat, pyFloat, bind,
    Except.bind, Bool.not_true, Bool.false_eq_true, if_false, not_lt.mpr h0]
  unfold Payload.field at hidle hlimit
  rw [hidle, hlimit]
  exact ⟨_, rfl⟩

omit [LawfulLower] in
theorem hashable_tokens (ids : List Value) :
    hashable (.tuple (ids.map fun v => .str (token v))) = true := by
  simp only [hashable]
  induction ids with
  | nil => rfl
  | cons id ids ih => simp [hashableAll, hashable, ih]

theorem policyTokens_tokens {ids : List Value} (h : ∀ v ∈ ids, token v ≠ "") :
    policyTokens (ids.map fun v => .str (token v)) = .ok (ids.map token) := by
  induction ids with
  | nil => rfl
  | cons v ids ih =>
    have hv := normalizeOptionalString_token (h v (by simp))
    have hids := ih fun w hw => h w (List.mem_cons_of_mem _ hw)
    simp [policyTokens, hv, hids, lower_token, bind, Except.bind, pure, Except.pure]

theorem Validated.plugins {p : Payload} (h : Validated p) (pcName : Option String) :
    ∃ ids plugins, normalizeDevicePluginIds
        ((p.blocks .plugins).getD "device_plugins" (.tuple [])) = .ok ids ∧
      pluginPolicySettings pcName ids = .ok plugins := by
  obtain ⟨raw, hids, hraw⟩ := h.devicePlugins
  have hmap : (raw.map token).map Value.str = raw.map fun v => .str (token v) := by simp
  refine ⟨raw.map token, ?_⟩
  rw [getD_of_field hids (by simp)]
  simp only [normalizeDevicePluginIds, hashable_tokens, policyTokens_tokens hraw,
    pluginPolicySettings, hmap, bind, Except.bind, Bool.not_true, Bool.false_eq_true, if_false,
    true_and]
  exact ⟨_, rfl⟩

/-- Of a payload the schema accepts `from_raw` still asks that its paths
resolve, and that the retry values and the prefix are right. -/
theorem Validated.fromRaw {p : Payload} (h : Validated p) (fs : FileSystem)
    (hint : Option PurePath) (fingerprint : Option String) :
    (∃ s, fromRaw fs p hint fingerprint = .ok s) ↔
      (∃ paths, normalizePaths fs (p.blocks .paths) hint = .ok paths) ∧
        RetryValues (p.blocks .ingestion) ∧
        blank (pyStr ((p.blocks .naming).getD "prefix" (.str ""))) = false := by
  constructor
  · rintro ⟨s, hs⟩
    obtain ⟨_, paths, ingestion, _, _, _, _, _, _, -, hpaths, hi, hp, -⟩ := fromRaw_ok.mp hs
    obtain ⟨hn, hq, hn0, hq0⟩ := normalizeRetryPolicy_ok.mp hi
    exact ⟨⟨paths, hpaths⟩, ⟨⟨_, hn, hn0⟩, ⟨_, hq, hq0⟩⟩, by simpa [blank] using hp⟩
  · rintro ⟨⟨paths, hpaths⟩, ⟨⟨n, hn, hn0⟩, ⟨q, hq, hq0⟩⟩, hp⟩
    obtain ⟨mode, runtime, hmode, hr⟩ := h.runtimeSettings (normalizeProfile p.profile)
    obtain ⟨ids, plugins, hids, hplug⟩ := h.plugins
      (normalizeOptionalString ((p.blocks .plugins).getNone "pc_name"))
    have hui := getD_of_field (v := p.field .ui "backend") rfl
      (by obtain ⟨_, he, -⟩ := h.ui; simp [he]) (.str "")
    have hsync := getD_of_field (v := p.field .sync "backend") rfl
      (by obtain ⟨_, he, -⟩ := h.sync; simp [he]) (.str "")
    have hpol := getD_of_field (v := p.field .naming "policy") rfl
      (by obtain ⟨_, he, -⟩ := h.policy; simp [he]) (.str "")
    obtain ⟨ui, hui'⟩ := h.ui.choice "ui backend"
    obtain ⟨sync, hsync'⟩ := h.sync.choice "sync backend"
    obtain ⟨policy, hpol'⟩ := h.policy.choice "naming policy"
    exact ⟨_, fromRaw_ok.mpr ⟨mode, paths, ⟨n, q⟩, policy, ui, sync, runtime, ids, plugins, hmode,
      hpaths, normalizeRetryPolicy_ok.mpr ⟨hn, hq, hn0, hq0⟩, by simpa [blank] using hp,
      hpol ▸ hpol', hui ▸ hui', hsync ▸ hsync', hr, hids, hplug, rfl⟩⟩

end

-- ---------------------------------------------------------------------------
-- Whose exceptions leave a load
-- ---------------------------------------------------------------------------

end

/-- What `load_startup_settings` turns into a failure result. -/
def Service (e : Exn) : Prop := e.isInstance "SettingsServiceError" = true

def Foreign (e : Exn) : Prop := e.isInstance "SettingsServiceError" = false

theorem serviceError_service (cls message : String) : Service (serviceError cls message) := by
  simp [Service, serviceError, Exn.isInstance]

theorem lift_foreign (x : Except Fault α) : RaisesIn Foreign (Fault.lift x) := by
  cases x with
  | ok a => exact .ok a
  | error fault => exact .error fault.foreign

theorem normalizationError_foreign (message : String) : Foreign (normalizationError message) := by
  simp [Foreign, normalizationError, settingsError, Exn.isInstance]

theorem rangeError_foreign (message : String) : Foreign (rangeError message) := by
  simp [Foreign, rangeError, settingsError, Exn.isInstance]

section
variable [Interpreter]

theorem pyInt_foreign (v : Value) : RaisesIn Foreign (pyInt v) := by
  unfold pyInt
  split
  · exact .ok _
  · exact .ok _
  · exact .ok _
  · split
    · exact .ok _
    · exact .error (by simp [Foreign, valueError, Exn.isInstance])
  · exact .error (by simp [Foreign, typeError, Exn.isInstance])

theorem toFloat_foreign (v : Value) : RaisesIn Foreign (toFloat v) := by
  unfold toFloat
  split
  · split
    · exact .error (by simp [Foreign, overflowError, Exn.isInstance])
    · exact .ok _
  unfold pyFloat
  split
  · exact .ok _
  · exact .ok _
  · exact .ok _
  · split
    · exact .ok _
    · exact .error (by simp [Foreign, valueError, Exn.isInstance])
  · exact .error (by simp [Foreign, typeError, Exn.isInstance])

theorem normalizeMode_foreign (v : Value) : RaisesIn Foreign (normalizeMode v) := by
  unfold normalizeMode
  dsimp only
  split
  · exact .ok _
  · exact .error (normalizationError_foreign _)

theorem normalizePaths_foreign (fs : FileSystem) (block : Dict) (hint : Option PurePath) :
    RaisesIn Foreign (normalizePaths fs block hint) := by
  unfold normalizePaths
  split
  · exact .error (by simp [Foreign, pathError, settingsError, Exn.isInstance])
  refine .bind ?_ fun _ _ => ?_
  · unfold rootBase
    split <;> exact lift_foreign _
  refine (lift_foreign _).bind fun _ _ => (lift_foreign _).bind fun _ _ => ?_
  exact (lift_foreign _).bind fun _ _ => (lift_foreign _).bind fun _ _ => .ok _

theorem normalizeRetryPolicy_foreign (block : Dict) :
    RaisesIn Foreign (normalizeRetryPolicy block) := by
  refine (pyInt_foreign _).bind fun _ _ => (toFloat_foreign _).bind fun _ _ => ?_
  split
  · exact .error (rangeError_foreign _)
  split
  · exact .error (rangeError_foreign _)
  · exact .ok _

theorem choice_foreign (what : String) (allowed : List String) (v : Value) :
    RaisesIn Foreign (choice what allowed v) := by
  unfold choice
  split
  · exact .ok _
  · exact .error (normalizationError_foreign _)

theorem normalizeOptionalFloat_foreign (v : Value) (name : String) :
    RaisesIn Foreign (normalizeOptionalFloat v name) := by
  unfold normalizeOptionalFloat
  split
  · exact .ok _
  · refine (toFloat_foreign _).bind fun _ _ => ?_
    split
    · exact .error (rangeError_foreign _)
    · exact .ok _

theorem runtimeSettings_foreign (mode : String) (profile : Option String) (block : Dict) :
    RaisesIn Foreign (runtimeSettings mode profile block) := by
  refine (normalizeMode_foreign _).bind fun _ _ => ?_
  dsimp only
  split
  · exact .error (normalizationError_foreign _)
  refine (toFloat_foreign _).bind fun _ _ => ?_
  split
  · exact .error (rangeError_foreign _)
  refine (normalizeOptionalFloat_foreign _ _).bind fun _ _ => ?_
  exact (normalizeOptionalFloat_foreign _ _).bind fun _ _ => .ok _

theorem policyTokens_foreign (ids : List Value) : RaisesIn Foreign (policyTokens ids) := by
  induction ids with
  | nil => exact .ok _
  | cons v ids ih =>
    unfold policyTokens
    split
    · exact .error (normalizationError_foreign _)
    · exact ih.bind fun _ _ => .ok _

theorem normalizeDevicePluginIds_foreign (v : Value) :
    RaisesIn Foreign (normalizeDevicePluginIds v) := by
  unfold normalizeDevicePluginIds
  split
  · exact .error (by simp [Foreign, typeError, Exn.isInstance])
  split
  · exact .ok _
  · exact .ok _
  · exact policyTokens_foreign _
  · exact policyTokens_foreign _
  · exact .error (normalizationError_foreign _)

/-- `from_raw` raises nothing the service catches. -/
theorem fromRaw_foreign (fs : FileSystem) (p : Payload) (hint : Option PurePath)
    (fingerprint : Option String) : RaisesIn Foreign (fromRaw fs p hint fingerprint) := by
  refine (normalizeMode_foreign _).bind fun _ _ => ?_
  refine (normalizePaths_foreign _ _ _).bind fun _ _ => ?_
  refine (normalizeRetryPolicy_foreign _).bind fun _ _ => ?_
  dsimp only
  split
  · exact .error (by simp [Foreign, shapeError, settingsError, Exn.isInstance])
  refine (choice_foreign _ _ _).bind fun _ _ => (choice_foreign _ _ _).bind fun _ _ => ?_
  refine (choice_foreign _ _ _).bind fun _ _ => (runtimeSettings_foreign _ _ _).bind fun _ _ => ?_
  refine (normalizeDevicePluginIds_foreign _).bind fun _ _ => ?_
  exact ((policyTokens_foreign _).bind fun _ _ => .ok _).bind fun _ _ => .ok _

theorem resolveSettingsRootHint_foreign (fs : FileSystem) (request : SettingsRequest)
    (hint : Option PurePath) : RaisesIn Foreign (resolveSettingsRootHint fs request hint) := by
  unfold resolveSettingsRootHint
  split
  · exact .ok _
  · exact (lift_foreign _).bind fun _ _ => .ok _

mutual
theorem deepMergeEntry_service (sourceName pathPrefix key : String)
    (target : List (String × Value)) (provenance : Dict) : (v : Value) →
    RaisesIn Service (deepMergeEntry sourceName pathPrefix key target provenance v)
  | .dict incoming => by
    unfold deepMergeEntry
    split
    · exact (deepMerge_service _ _ _ _ incoming).bind fun _ _ => .ok _
    · exact .error (serviceError_service _ _)
    · exact .ok _
  | .none | .bool _ | .int _ | .float _ | .str _ | .datetime _ | .list _ | .tuple _
  | .object _ _ => by
    unfold deepMergeEntry
    split
    · exact .error (serviceError_service _ _)
    · exact .ok _
theorem deepMerge_service (sourceName pathPrefix : String) (target : List (String × Value))
    (provenance : Dict) : (entries : List (String × Value)) →
    RaisesIn Service (deepMerge sourceName pathPrefix target provenance entries)
  | [] => .ok _
  | (key, v) :: rest => by
    unfold deepMerge
    refine (deepMergeEntry_service _ _ key _ _ v).bind fun _ _ => ?_
    exact deepMerge_service _ _ _ _ rest
end

theorem mergeSources_service (payloads : Payloads) : RaisesIn Service (mergeSources payloads) :=
  .foldlM (fun _ _ => deepMerge_service _ _ _ _ _) _ _

theorem resolveSource_service (sources : Sources) (name : String) :
    RaisesIn Service (resolveSource sources name) := by
  unfold resolveSource
  cases (sources.lookup name).getD (.value (.dict [])) with
  | value v => cases v <;> first | exact .ok _ | exact .error (serviceError_service _ _)
  | callable answer =>
    cases answer with
    | error _ => exact .error (serviceError_service _ _)
    | ok v => cases v <;> first | exact .ok _ | exact .error (serviceError_service _ _)

-- ---------------------------------------------------------------------------
-- Every bad input a failure result
-- ---------------------------------------------------------------------------

/-- The merged payload is valid: the schema and `from_raw` both accept it. -/
def Valid (c : Call) : Prop :=
  ∃ payload hint s, c.payload = .ok payload ∧
    resolveSettingsRootHint c.around.toFileSystem c.request c.rootHint = .ok hint ∧
    fromRaw c.around.toFileSystem payload hint none = .ok s

/-- The load returns, with normalized settings when the payload is valid and
with a failure when it is not. -/
def Reported (digest : Value → String) (c : Call) : Prop :=
  ∃ result, (c.load digest none).1 = .ok result ∧
    (Valid c → result.isSuccess = true ∧ ∃ s, result.settings = some s ∧ Normalized s) ∧
    (¬ Valid c → result.isSuccess = false ∧ result.settings = none ∧ result.failure.isSome = true)

/-- No source is given, so that the config file is read. -/
def Call.readsConfig (c : Call) : Prop :=
  (c.sources.getD []).isEmpty = true ∧ c.request.settingsSources = none

/-- The retry values and the prefix are right, and the paths resolve. -/
structure Acceptable (c : Call) (payload : Payload) : Prop where
  places : ∃ paths, c.places payload = .ok paths
  retry : RetryValues (payload.blocks .ingestion)
  prefixText : blank (pyStr ((payload.blocks .naming).getD "prefix" (.str ""))) = false

/-- The input stays clear of what nothing catches. -/
structure Orderly (c : Call) : Prop where
  config : c.readsConfig → ∀ path, configFilePath c.request.configPath c.rootHint = some path →
    ∀ fault, c.around.configFile path ≠ .raises fault
  written : ∀ payloads, c.payloads = .ok payloads →
    ∃ json, (canonicalPayloads payloads).toJson = some json ∧ writable json = true
  seconds : ∀ payloads merged payload, c.payloads = .ok payloads →
    mergeSources payloads = .ok merged → templated (Dict.ofEntries merged.1) = .ok payload →
    ¬ Oversized payload
  accepted : ∀ payload, c.payload = .ok payload → Acceptable c payload

omit [Interpreter] in
theorem serialized_ok {v : Value} : (∃ json, serialized v = .ok json) ↔
    ∃ json, v.toJson = some json ∧ writable json = true := by
  unfold serialized
  cases v.toJson with
  | none => simp
  | some json => cases hw : writable json <;> simp [hw]

omit [Interpreter] in
theorem serialized_foreign (v : Value) : RaisesIn Foreign (serialized v) := by
  unfold serialized
  split
  · exact .error (by simp [Foreign, typeError, Exn.isInstance])
  split
  · exact .ok _
  · exact .error (by simp [Foreign, valueError, Exn.isInstance])

omit [Interpreter] in
/-- What raises nothing of the service raises nothing at all where only that may be raised. -/
theorem service_of_foreign {x : Except Exn α} (h : RaisesIn Foreign x) :
    RaisesIn Service x ↔ ∃ a, x = .ok a := by
  cases x with
  | ok a => exact ⟨fun _ => ⟨a, rfl⟩, fun _ => .ok a⟩
  | error e =>
    have he : e.isInstance "SettingsServiceError" = false := h e rfl
    refine ⟨fun hs => ?_, fun ⟨a, ha⟩ => nomatch ha⟩
    have hs : e.isInstance "SettingsServiceError" = true := hs e rfl
    simp [he] at hs

theorem loadFileConfig_service {around : Surroundings} {configPath : Value}
    {hint : Option PurePath} : RaisesIn Service (loadFileConfig around configPath hint) ↔
      ∀ path, configFilePath configPath hint = some path →
        ∀ fault, around.configFile path ≠ .raises fault := by
  unfold loadFileConfig
  cases configFilePath configPath hint with
  | none => exact ⟨fun _ _ h => (nomatch h), fun _ => .ok _⟩
  | some path =>
    simp only [Option.some.injEq, forall_eq']
    cases hfile : around.configFile path with
    | raises fault =>
      refine ⟨fun h => ?_, fun h => absurd rfl (h fault)⟩
      have hs : fault.exn.isInstance "SettingsServiceError" = true := h _ rfl
      simp [fault.foreign] at hs
    | payload v =>
      refine ⟨fun _ _ h => (nomatch h), fun _ => ?_⟩
      cases v <;> first | exact .ok _ | exact .error (serviceError_service _ _)
    | _ => exact ⟨fun _ _ h => (nomatch h), fun _ => .error (serviceError_service _ _)⟩

/-- What the sources raise is the service's own, or the config file's. -/
theorem payloads_service {c : Call} : RaisesIn Service c.payloads ↔
    (c.readsConfig → ∀ path, configFilePath c.request.configPath c.rootHint = some path →
      ∀ fault, c.around.configFile path ≠ .raises fault) := by
  have hrest : ∀ sources, RaisesIn Service (do
      let defaults ← resolveSource sources "defaults"
      let file ← resolveSource sources "file"
      let environment ← resolveSource sources "environment"
      let cli ← resolveSource sources "cli"
      return ({ defaults, file, environment, cli } : Payloads)) := by
    intro sources
    refine (resolveSource_service _ _).bind fun _ _ =>
      (resolveSource_service _ _).bind fun _ _ => ?_
    exact (resolveSource_service _ _).bind fun _ _ =>
      (resolveSource_service _ _).bind fun _ _ => .ok _
  unfold Call.payloads resolveSources Call.readsConfig
  dsimp only
  cases hgiven : (c.sources.getD []).isEmpty with
  | false => exact ⟨fun _ h => by simp at h, fun _ => hrest _⟩
  | true =>
    cases hsettings : c.request.settingsSources with
    | some sources =>
      simp only [defaultSourcesFromRequest, hsettings]
      exact ⟨fun _ h => by simp at h, fun _ => hrest _⟩
    | none =>
      simp only [defaultSourcesFromRequest, hsettings, if_true, and_self, forall_const]
      rw [RaisesIn.bind_iff, RaisesIn.bind_iff, loadFileConfig_service]
      exact ⟨fun h => h.1.1, fun h => ⟨⟨h, fun _ _ => .ok _⟩, fun _ _ => hrest _⟩⟩

theorem validatedPayload_service {entries : List (String × Value)} :
    RaisesIn Service (validatedPayload entries) ↔
      ∀ p, templated (Dict.ofEntries entries) = .ok p → ¬ Oversized p := by
  constructor
  · intro h p hp hover
    have hs := h (overflowError "int too large to convert to float") (by
      simp [validatedPayload, hover.validateRawSettings hp, overflowError, Exn.isInstance])
    simp [Service, overflowError, Exn.isInstance] at hs
  · intro h
    have hschema := validateRawSettings_raises.mpr h
    unfold validatedPayload
    cases hv : validateRawSettings (Dict.ofEntries entries) with
    | ok payload => exact .ok _
    | error raised =>
      have hr : raised.exn.isInstance "SettingsSchemaError" = true := hschema raised hv
      simp only [hr, if_true]
      exact .error (serviceError_service _ _)

omit [Interpreter] in
theorem handled_ok {e : Exn} : (∃ result, handled e = .ok result) ↔ Service e := by
  unfold handled Service
  split <;> simp [*]

/-- The result of a load without a cache, from the settings it builds. -/
theorem Call.load_none_result (digest : Value → String) (c : Call) :
    match c.settings digest with
    | .ok s => ∃ result, (c.load digest none).1 = .ok result ∧ result.isSuccess = true ∧
        result.settings = some s
    | .error e => (c.load digest none).1 = handled e := by
  unfold Call.load loadStartupSettings Call.settings Call.payloads
  cases resolveSources c.around c.request c.sources c.rootHint with
  | error e => rfl
  | ok payloads =>
    cases hf : computeFingerprint digest payloads with
    | error e => simp [hf, bind, Except.bind]
    | ok fingerprint =>
      cases hb : buildSettings c.around c.request c.rootHint payloads fingerprint with
      | error e => simp [hf, hb, bind, Except.bind, checkedCache, cachedSettings]
      | ok built =>
        simp [hf, hb, bind, Except.bind, checkedCache, cachedSettings, pure, Except.pure]

theorem Call.load_returns (digest : Value → String) (c : Call) :
    (∃ result, (c.load digest none).1 = .ok result) ↔ RaisesIn Service (c.settings digest) := by
  have hload := c.load_none_result digest
  cases hs : c.settings digest with
  | ok s =>
    rw [hs] at hload
    obtain ⟨result, hr, -⟩ := hload
    exact ⟨fun _ => .ok s, fun _ => ⟨result, hr⟩⟩
  | error e =>
    rw [hs] at hload
    rw [hload, handled_ok]
    exact ⟨fun h => .error h, fun h => h e rfl⟩

theorem validatedPayload_ok {entries : List (String × Value)}
    (h : validatedPayload entries = .ok payload) : Validated payload := by
  unfold validatedPayload at h
  split at h
  · next hv =>
    cases h
    exact validateRawSettings_ok hv
  · split at h <;> cases h

omit [Interpreter] in
theorem computeFingerprint_foreign (digest : Value → String) (payloads : Payloads) :
    RaisesIn Foreign (computeFingerprint digest payloads) :=
  (serialized_foreign _).bind fun _ _ => .ok _

theorem Call.payload_ok {c : Call} : c.payload = .ok p ↔ ∃ given merged,
    c.payloads = .ok given ∧ mergeSources given = .ok merged ∧
      validatedPayload merged.1 = .ok p := by
  simp only [Call.payload, except_bind_ok]
  constructor
  · rintro ⟨given, hp, merged, hm, hv⟩
    exact ⟨given, merged, hp, hm, hv⟩
  · rintro ⟨given, merged, hp, hm, hv⟩
    exact ⟨given, hp, merged, hm, hv⟩

theorem Call.payload_validated {c : Call} (h : c.payload = .ok p) : Validated p := by
  obtain ⟨_, _, _, _, hv⟩ := Call.payload_ok.mp h
  exact validatedPayload_ok hv

section
variable [LawfulLower]

/-- An acceptable payload gives settings whatever the fingerprint. -/
theorem Acceptable.fromRaw {c : Call} (h : Acceptable c payload) (hv : Validated payload)
    (fingerprint : Option String) : ∃ hint s,
      resolveSettingsRootHint c.around.toFileSystem c.request c.rootHint = .ok hint ∧
      fromRaw c.around.toFileSystem payload hint fingerprint = .ok s := by
  obtain ⟨paths, hpl⟩ := h.places
  obtain ⟨hint, hh, hpaths⟩ := except_bind_ok.mp hpl
  obtain ⟨s, hs⟩ := (hv.fromRaw c.around.toFileSystem hint fingerprint).mpr
    ⟨⟨paths, hpaths⟩, h.retry, h.prefixText⟩
  exact ⟨hint, s, hh, hs⟩

theorem acceptable_iff {c : Call} (hv : Validated payload) (fingerprint : Option String) :
    Acceptable c payload ↔ ∃ hint s,
      resolveSettingsRootHint c.around.toFileSystem c.request c.rootHint = .ok hint ∧
      fromRaw c.around.toFileSystem payload hint fingerprint = .ok s := by
  refine ⟨fun h => h.fromRaw hv fingerprint, ?_⟩
  rintro ⟨hint, s, hh, hs⟩
  obtain ⟨⟨paths, hpaths⟩, hr, hp⟩ := (hv.fromRaw _ hint fingerprint).mp ⟨s, hs⟩
  exact ⟨⟨paths, except_bind_ok.mpr ⟨hint, hh, hpaths⟩⟩, hr, hp⟩

theorem Orderly.settings {c : Call} (h : Orderly c) (digest : Value → String) :
    RaisesIn Service (c.settings digest) := by
  refine .bind (payloads_service.mpr h.config) fun payloads hp => ?_
  refine .bind ?_ fun fingerprint _ => .bind ?_ fun _ _ => .ok _
  · obtain ⟨json, hj⟩ := serialized_ok.mpr (h.written payloads hp)
    rw [computeFingerprint_ok.mpr ⟨json, hj, rfl⟩]
    exact .ok _
  · refine .bind (mergeSources_service payloads) fun merged hm => ?_
    refine .bind (validatedPayload_service.mpr fun p => h.seconds payloads merged p hp hm) ?_
    intro payload hv
    have hpay : c.payload = .ok payload := Call.payload_ok.mpr ⟨payloads, merged, hp, hm, hv⟩
    obtain ⟨hint, s, hh, hs⟩ :=
      (h.accepted payload hpay).fromRaw (validatedPayload_ok hv) (some fingerprint)
    simp only [hh, hs, bind, Except.bind]
    exact .ok _

theorem orderly_of_settings {digest : Value → String} {c : Call}
    (h : RaisesIn Service (c.settings digest)) : Orderly c := by
  obtain ⟨hsources, h⟩ := RaisesIn.bind_iff.mp h
  have hdigest : ∀ payloads, c.payloads = .ok payloads → ∃ fingerprint,
      computeFingerprint digest payloads = .ok fingerprint :=
    fun payloads hp => (service_of_foreign (computeFingerprint_foreign _ _)).mp
      (RaisesIn.bind_iff.mp (h payloads hp)).1
  have hbuild : ∀ payloads fingerprint, c.payloads = .ok payloads →
      computeFingerprint digest payloads = .ok fingerprint →
      RaisesIn Service (buildSettings c.around c.request c.rootHint payloads fingerprint) :=
    fun payloads fingerprint hp hf =>
      (RaisesIn.bind_iff.mp ((RaisesIn.bind_iff.mp (h payloads hp)).2 fingerprint hf)).1
  refine ⟨payloads_service.mp hsources, ?_, ?_, ?_⟩
  · intro payloads hp
    obtain ⟨fingerprint, hf⟩ := hdigest payloads hp
    obtain ⟨json, hj, -⟩ := computeFingerprint_ok.mp hf
    exact serialized_ok.mp ⟨json, hj⟩
  · intro payloads merged payload hp hm
    obtain ⟨fingerprint, hf⟩ := hdigest payloads hp
    have hb := (RaisesIn.bind_iff.mp (hbuild payloads fingerprint hp hf)).2 merged hm
    exact validatedPayload_service.mp (RaisesIn.bind_iff.mp hb).1 payload
  · intro payload hpay
    obtain ⟨payloads, merged, hp, hm, hv⟩ := Call.payload_ok.mp hpay
    obtain ⟨fingerprint, hf⟩ := hdigest payloads hp
    have hb := (RaisesIn.bind_iff.mp (hbuild payloads fingerprint hp hf)).2 merged hm
    have hb := (RaisesIn.bind_iff.mp hb).2 payload hv
    obtain ⟨hhint, hb⟩ := RaisesIn.bind_iff.mp hb
    obtain ⟨hint, hh⟩ := (service_of_foreign (resolveSettingsRootHint_foreign _ _ _)).mp hhint
    obtain ⟨s, hs⟩ := (service_of_foreign (fromRaw_foreign _ _ _ _)).mp
      (RaisesIn.bind_iff.mp (hb hint hh)).1
    exact (acceptable_iff (validatedPayload_ok hv) (some fingerprint)).mpr ⟨hint, s, hh, hs⟩

/-- Of an orderly input the settings are built exactly when it is valid. -/
theorem Orderly.valid_iff {c : Call} (h : Orderly c) (digest : Value → String) :
    Valid c ↔ ∃ s, c.settings digest = .ok s := by
  constructor
  · rintro ⟨payload, hint, s, hpay, hh, hraw⟩
    obtain ⟨payloads, merged, hp, hm, hv⟩ := Call.payload_ok.mp hpay
    obtain ⟨json, hj⟩ := serialized_ok.mpr (h.written payloads hp)
    obtain ⟨hint', s', hh', hs'⟩ :=
      (h.accepted payload hpay).fromRaw (validatedPayload_ok hv) (some (digest json))
    exact ⟨s', Call.settings_ok.mpr
      ⟨json, payload, hint', except_bind_ok.mpr ⟨payloads, hp, hj⟩, hpay, hh', hs'⟩⟩
  · rintro ⟨s, hs⟩
    obtain ⟨json, payload, hint, -, hpay, hh, hraw⟩ := Call.settings_ok.mp hs
    obtain ⟨hint', s', hh', hs'⟩ :=
      (h.accepted payload hpay).fromRaw (Call.payload_validated hpay) none
    exact ⟨payload, hint', s', hpay, hh', hs'⟩

/-- A load reports what becomes of it exactly for orderly inputs. -/
theorem reported_iff (digest : Value → String) (c : Call) : Reported digest c ↔ Orderly c := by
  constructor
  · rintro ⟨result, hr, -⟩
    exact orderly_of_settings ((c.load_returns digest).mp ⟨result, hr⟩)
  · intro h
    have hload := c.load_none_result digest
    have hvalid := h.valid_iff digest
    cases hs : c.settings digest with
    | ok s =>
      rw [hs] at hload
      obtain ⟨result, hr, hsucc, hset⟩ := hload
      obtain ⟨_, _, _, -, -, -, hraw⟩ := Call.settings_ok.mp hs
      refine ⟨result, hr, fun _ => ⟨hsucc, s, hset, fromRaw_normalized hraw⟩, fun hn => ?_⟩
      exact absurd (hvalid.mpr ⟨s, hs⟩) hn
    | error e =>
      rw [hs] at hload
      have he : e.isInstance "SettingsServiceError" = true := h.settings digest e hs
      simp only [handled, he, if_true] at hload
      refine ⟨_, hload, fun hv => ?_, fun _ => ⟨rfl, rfl, rfl⟩⟩
      obtain ⟨s, hs'⟩ := hvalid.mp hv
      simp [hs] at hs'

end

end

/-- The same settings with a retry limit below zero. -/
def negativeRetry : Call where
  around := plainSurroundings
  request := { mode := .str "headless" }
  rootHint := some (.parse "/a")
  sources := some [("cli", .value (.dict [("mode", .str "headless"),
    ("paths", .dict [("root", .str "data")]), ("ingestion", .dict [("retry_limit", .int (-1))])]))]

section
attribute [local instance] Interpreter.ascii

theorem reported_headless :
    Reported Interpreter.jsonDigest (headlessFrom "/a") ↔ Orderly (headlessFrom "/a") :=
  have := lawful_ascii
  reported_iff Interpreter.jsonDigest (headlessFrom "/a")

/-- The schema lets it pass, and `from_raw` raises past the service. -/
theorem negativeRetry_raises :
    (∃ payload, negativeRetry.payload = .ok payload) ∧
      ¬ Reported Interpreter.jsonDigest negativeRetry := by
  constructor
  · have hok : negativeRetry.payload.toOption.isSome = true := by decide +kernel
    cases hp : negativeRetry.payload with
    | ok payload => exact ⟨payload, rfl⟩
    | error e => simp [hp, Except.toOption] at hok
  · rintro ⟨result, hr, -⟩
    have hfail : (negativeRetry.load Interpreter.jsonDigest none).1.toOption.isSome = false := by
      decide +kernel
    simp [hr, Except.toOption] at hfail

end

end DpostV2.Startup.Settings
