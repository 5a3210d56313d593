import DpostV2.Startup.SettingsService

/-!
# The settings cache

A run of `load_startup_settings` over one shared cache, against the same calls
without a cache. The fingerprint is of the four sources only; the settings also
rest on where the call resolves its paths, and on what JSON does not show of a
value. `transparent` says when the cache answers as no cache would.
-/

namespace DpostV2.Startup.Settings

/-- The arguments of a load and what it finds around it. -/
structure Call where
  around : Surroundings
  request : SettingsRequest
  rootHint : Option PurePath := none
  sources : Option Sources := none

section
variable [Interpreter]

namespace Call

def payloads (c : Call) : Except Exn Payloads :=
  resolveSources c.around c.request c.sources c.rootHint

def sourceText (c : Call) : Except Exn Value := do
  let payloads ← c.payloads
  serialized (canonicalPayloads payloads)

def payload (c : Call) : Except Exn Payload := do
  let payloads ← c.payloads
  let merged ← mergeSources payloads
  validatedPayload merged.1

/-- Where the paths of a payload lead from here. -/
def places (c : Call) (payload : Payload) : Except Exn PathSettings := do
  let hint ← resolveSettingsRootHint c.around.toFileSystem c.request c.rootHint
  normalizePaths c.around.toFileSystem (payload.blocks .paths) hint

def settings (digest : Value → String) (c : Call) : Except Exn StartupSettings := do
  let payloads ← c.payloads
  let fingerprint ← computeFingerprint digest payloads
  let built ← buildSettings c.around c.request c.rootHint payloads fingerprint
  return built.1

def load (digest : Value → String) (c : Call) (cache : Option SettingsCache) :
    Except Exn SettingsLoadResult × Option SettingsCache :=
  loadStartupSettings digest c.around c.request c.rootHint c.sources cache

end Call

def answer (result : Except Exn SettingsLoadResult) : Except Exn (Bool × Option StartupSettings) :=
  result.map fun result => (result.isSuccess, result.settings)

/-- The answers of the calls, one after the other on one cache. -/
def run (digest : Value → String) : List Call → SettingsCache →
    List (Except Exn (Bool × Option StartupSettings))
  | [], _ => []
  | c :: calls, cache =>
    answer (c.load digest (some cache)).1 ::
      run digest calls (((c.load digest (some cache)).2).getD {})

/-- Every call answers as it would without a cache. -/
def Transparent (digest : Value → String) (calls : List Call) : Prop :=
  run digest calls {} = calls.map fun c => answer (c.load digest none).1

-- ---------------------------------------------------------------------------
-- When the cache cannot be told
-- ---------------------------------------------------------------------------

def NoCollision (digest : Value → String) (calls : List Call) : Prop :=
  ∀ c ∈ calls, ∀ c' ∈ calls, ∀ json json', c.sourceText = .ok json → c'.sourceText = .ok json' →
    digest json = digest json' → json = json'

def SameSources (w c : Call) : Prop := ∃ json, w.sourceText = .ok json ∧ c.sourceText = .ok json

/-- One payload, and the paths it names lead to the same places. -/
structure Alike (w c : Call) : Prop where
  payload : c.payload = w.payload
  places : ∀ payload, w.payload = .ok payload → c.places payload = w.places payload

def loads (digest : Value → String) (c : Call) : Bool :=
  match c.settings digest with
  | .ok _ => true
  | .error _ => false

/-- Each call with the sources of the last one that loaded is like it. -/
def Undisturbed (digest : Value → String) : Option Call → List Call → Prop
  | _, [] => True
  | last, c :: calls =>
    (∀ w ∈ last, SameSources w c → Alike w c) ∧
      Undisturbed digest (if loads digest c then some c else last) calls

theorem Alike.refl (c : Call) : Alike c c := ⟨rfl, fun _ _ => rfl⟩

-- ---------------------------------------------------------------------------
-- One call
-- ---------------------------------------------------------------------------

omit [Interpreter] in
theorem computeFingerprint_ok {digest : Value → String} {payloads : Payloads} :
    computeFingerprint digest payloads = .ok fingerprint ↔
      ∃ json, serialized (canonicalPayloads payloads) = .ok json ∧ digest json = fingerprint := by
  simp only [computeFingerprint, except_bind_ok, except_pure_ok]

theorem Call.settings_ok {digest : Value → String} {c : Call} :
    c.settings digest = .ok s ↔ ∃ json payload hint, c.sourceText = .ok json ∧
      c.payload = .ok payload ∧
      resolveSettingsRootHint c.around.toFileSystem c.request c.rootHint = .ok hint ∧
      fromRaw c.around.toFileSystem payload hint (some (digest json)) = .ok s := by
  simp only [Call.settings, buildSettings, except_bind_ok, except_pure_ok, computeFingerprint_ok,
    Call.sourceText, Call.payload]
  constructor
  · rintro ⟨payloads, hp, _, ⟨json, hj, rfl⟩, _,
      ⟨merged, hm, payload, hv, hint, hh, s', hs, rfl⟩, rfl⟩
    exact ⟨json, payload, hint, ⟨payloads, hp, hj⟩, ⟨payloads, hp, merged, hm, hv⟩, hh, hs⟩
  · rintro ⟨json, payload, hint, ⟨payloads, hp, hj⟩, ⟨payloads', hp', merged, hm, hv⟩, hh, hs⟩
    obtain rfl := Except.ok.inj (hp.symm.trans hp')
    exact ⟨payloads, hp, _, ⟨json, hj, rfl⟩, _,
      ⟨merged, hm, payload, hv, hint, hh, s, hs, rfl⟩, rfl⟩

theorem Call.load_none {digest : Value → String} (c : Call) :
    answer (c.load digest none).1 = match c.settings digest with
      | .ok s => .ok (true, some s)
      | .error e => answer (handled e) := by
  unfold Call.load loadStartupSettings Call.settings Call.payloads
  cases resolveSources c.around c.request c.sources c.rootHint with
  | error e => rfl
  | ok payloads =>
    cases hf : computeFingerprint digest payloads with
    | error e => simp [hf, bind, Except.bind]
    | ok fingerprint =>
      cases hb : buildSettings c.around c.request c.rootHint payloads fingerprint with
      | error e => simp [hf, hb, bind, Except.bind, checkedCache, cachedSettings]
      | ok built =>
        simp [hf, hb, bind, Except.bind, checkedCache, cachedSettings, answer, Except.map, pure,
          Except.pure]

/-- Sources that cannot be read or written out end the call before the cache is looked at. -/
theorem Call.load_unread (digest : Value → String) {c : Call} (h : c.sourceText = .error e)
    (cache : Option SettingsCache) :
    c.load digest cache = (handled e, cache) ∧ c.settings digest = .error e := by
  unfold Call.sourceText Call.payloads at h
  unfold Call.load loadStartupSettings Call.settings Call.payloads
  cases hp : resolveSources c.around c.request c.sources c.rootHint with
  | error e' =>
    obtain rfl : e' = e := by simpa [hp, bind, Except.bind] using h
    exact ⟨rfl, rfl⟩
  | ok payloads =>
    have hs : serialized (canonicalPayloads payloads) = .error e := by
      simpa [hp, bind, Except.bind] using h
    simp [computeFingerprint, hs, bind, Except.bind]

theorem Call.load_hit {digest : Value → String} {c : Call} {cache : SettingsCache}
    (hj : c.sourceText = .ok json) (hc : checkedCache (some cache) = (some cache, none))
    (hs : cachedSettings (some cache) (digest json) = some s) :
    answer (c.load digest (some cache)).1 = .ok (true, some s) ∧
      (c.load digest (some cache)).2 = some cache := by
  obtain ⟨payloads, hp, hj⟩ := except_bind_ok.mp hj
  have hf : computeFingerprint digest payloads = .ok (digest json) :=
    computeFingerprint_ok.mpr ⟨json, hj, rfl⟩
  unfold Call.payloads at hp
  simp [Call.load, loadStartupSettings, hp, hf, hc, hs, answer, Except.map]

/-- A miss answers as no cache would, and what it loads is stored. -/
theorem Call.load_miss {digest : Value → String} {c : Call} {cache : SettingsCache}
    (hj : c.sourceText = .ok json) (hc : checkedCache (some cache) = (some cache, none))
    (hs : cachedSettings (some cache) (digest json) = none) :
    answer (c.load digest (some cache)).1 = answer (c.load digest none).1 ∧
      match c.settings digest with
      | .ok s => ∃ diagnostics, (c.load digest (some cache)).2 = some { entry := some {
          fingerprint := digest json, settings := some s, diagnostics
          settingsFingerprint := some (digest json) } }
      | .error _ => (c.load digest (some cache)).2 = some cache := by
  obtain ⟨payloads, hp, hj⟩ := except_bind_ok.mp hj
  have hf : computeFingerprint digest payloads = .ok (digest json) :=
    computeFingerprint_ok.mpr ⟨json, hj, rfl⟩
  rw [Call.load_none]
  simp only [Call.settings, hp, hf, bind, Except.bind]
  unfold Call.payloads at hp
  cases hb : buildSettings c.around c.request c.rootHint payloads (digest json) with
  | error e => simp [Call.load, loadStartupSettings, hp, hf, hc, hs, hb]
  | ok built =>
    have hfp : built.1.sourceFingerprint = some (digest json) := by
      simp only [buildSettings, except_bind_ok, except_pure_ok] at hb
      obtain ⟨_, _, _, _, _, _, s, hs, rfl⟩ := hb
      exact fromRaw_fingerprint hs
    simp [Call.load, loadStartupSettings, hp, hf, hc, hs, hb, answer, Except.map, pure, Except.pure,
      hfp]

-- ---------------------------------------------------------------------------
-- A run of calls
-- ---------------------------------------------------------------------------

/-- The entry is the settings of the last call that loaded. -/
def Holds (digest : Value → String) (last : Option Call) (cache : SettingsCache) : Prop :=
  match last with
  | none => cache.entry = none
  | some w => ∃ json s diagnostics, w.sourceText = .ok json ∧ w.settings digest = .ok s ∧
      cache.entry = some {
        fingerprint := digest json, settings := some s, diagnostics
        settingsFingerprint := some (digest json) }

theorem Holds.init {digest : Value → String} : Holds digest none {} := rfl

theorem Holds.checked {digest : Value → String} {cache : SettingsCache}
    (h : Holds digest last cache) : checkedCache (some cache) = (some cache, none) := by
  obtain ⟨entry⟩ := cache
  cases last with
  | none =>
    obtain rfl : entry = none := h
    rfl
  | some w =>
    obtain ⟨json, s, diagnostics, -, -, he⟩ := h
    obtain rfl := he
    simp [checkedCache, detectCacheDesync]

theorem Alike.settings {digest : Value → String} {w c : Call} (h : Alike w c)
    (hj : w.sourceText = .ok json) (hj' : c.sourceText = .ok json)
    (hs : w.settings digest = .ok s) : c.settings digest = .ok s := by
  obtain ⟨json', payload, hint, hjw, hp, hh, hs⟩ := Call.settings_ok.mp hs
  obtain rfl := Except.ok.inj (hj.symm.trans hjw)
  obtain ⟨_, paths, _, _, _, _, _, _, _, -, hpaths, -⟩ := fromRaw_ok.mp hs
  have hw : w.places payload = .ok paths := by
    simpa [Call.places, hh, bind, Except.bind] using hpaths
  have hc : c.places payload = .ok paths := (h.places payload hp).trans hw
  obtain ⟨hint', hh', hpaths'⟩ := except_bind_ok.mp hc
  refine Call.settings_ok.mpr ⟨json, payload, hint', hj', h.payload.trans hp, hh', ?_⟩
  rw [fromRaw_places (hpaths'.trans hpaths.symm), hs]

/-- One call: it answers as it would without a cache, and the cache goes on
holding what the last call that loaded has built. -/
theorem Holds.step {digest : Value → String} {c : Call} {cache : SettingsCache}
    (h : Holds digest last cache)
    (hdig : ∀ w ∈ last, ∀ json json', w.sourceText = .ok json → c.sourceText = .ok json' →
      digest json = digest json' → json = json')
    (halike : ∀ w ∈ last, SameSources w c → Alike w c) :
    answer (c.load digest (some cache)).1 = answer (c.load digest none).1 ∧
      ∃ cache', (c.load digest (some cache)).2 = some cache' ∧
        Holds digest (if loads digest c then some c else last) cache' := by
  cases hj : c.sourceText with
  | error e =>
    obtain ⟨hload, hset⟩ := Call.load_unread digest hj (some cache)
    obtain ⟨hload', -⟩ := Call.load_unread digest hj none
    rw [hload, hload']
    exact ⟨rfl, cache, rfl, by simpa [loads, hset] using h⟩
  | ok json =>
    cases hs : cachedSettings (some cache) (digest json) with
    | none =>
      obtain ⟨hans, hcache⟩ := Call.load_miss hj h.checked hs
      refine ⟨hans, ?_⟩
      cases hset : c.settings digest with
      | error e =>
        rw [hset] at hcache
        exact ⟨cache, hcache, by simpa [loads, hset] using h⟩
      | ok s =>
        rw [hset] at hcache
        obtain ⟨diagnostics, hcache⟩ := hcache
        refine ⟨_, hcache, ?_⟩
        simp only [loads, hset, if_true]
        exact ⟨json, s, diagnostics, hj, hset, rfl⟩
    | some s =>
      obtain ⟨hans, hcache⟩ := Call.load_hit hj h.checked hs
      -- a hit is on the entry of a call with the same sources
      have hentry : Holds digest (some c) cache := by
        obtain ⟨entry⟩ := cache
        cases last with
        | none =>
          obtain rfl : entry = none := h
          simp [cachedSettings] at hs
        | some w =>
          obtain ⟨json', s', diagnostics, hjw, hsw, he⟩ := h
          obtain rfl := he
          simp only [cachedSettings] at hs
          split at hs
          · next hfp =>
            obtain rfl := hdig w rfl json' json hjw hj hfp
            have hset := (halike w rfl ⟨json', hjw, hj⟩).settings hjw hj hsw
            exact ⟨json', s', diagnostics, hj, hset, rfl⟩
          · cases hs
      have hset : c.settings digest = .ok s := by
        obtain ⟨entry⟩ := cache
        obtain ⟨json', s', _, hj', hset, he⟩ := hentry
        obtain rfl := Except.ok.inj (hj.symm.trans hj')
        obtain rfl := he
        obtain rfl : s' = s := by simpa [cachedSettings] using hs
        exact hset
      rw [Call.load_none, hset, hans]
      refine ⟨rfl, cache, hcache, ?_⟩
      simpa only [loads, hset, if_true] using hentry

theorem Holds.run {digest : Value → String} {calls : List Call} {cache : SettingsCache}
    (h : Holds digest last cache) (hdig : NoCollision digest (last.toList ++ calls))
    (hun : Undisturbed digest last calls) :
    run digest calls cache = calls.map fun c => answer (c.load digest none).1 := by
  induction calls generalizing last cache with
  | nil => rfl
  | cons c calls ih =>
    obtain ⟨halike, hun⟩ := hun
    have hcol : ∀ w ∈ last, ∀ json json', w.sourceText = .ok json → c.sourceText = .ok json' →
        digest json = digest json' → json = json' :=
      fun w hw => hdig w (by simp [Option.mem_toList.mpr hw]) c (by simp)
    obtain ⟨hans, cache', hcache, hnext⟩ := h.step hcol halike
    have hrest : NoCollision digest
      ((if loads digest c then some c else last).toList ++ calls) := by
      intro a ha b hb
      refine hdig a ?_ b ?_
      · split at ha <;> simp at ha ⊢ <;> tauto
      · split at hb <;> simp at hb ⊢ <;> tauto
    rw [Settings.run, List.map_cons, hans, hcache, Option.getD_some, ih hnext hrest hun]

/-- With a hash that tells the sources apart, every call on the shared cache
answers as it would without one, as long as each call with the sources of the
last one that loaded has its payload and finds its paths at the same places. -/
theorem transparent (digest : Value → String) (calls : List Call)
    (hdig : NoCollision digest calls) (hun : Undisturbed digest none calls) :
    Transparent digest calls :=
  Holds.init.run hdig hun

end

-- ---------------------------------------------------------------------------
-- Two working directories
-- ---------------------------------------------------------------------------

/-- A file system without links, and nothing in the environment. -/
def plainSurroundings : Surroundings where
  cwd := .ok ⟨.parse "/", by decide⟩
  resolve path :=
    if h : path.root ≠ .relative then .ok ⟨path, h⟩
    else .error ⟨valueError "no working directory", by decide⟩
  environ _ := none
  configFile _ := .missing

def headlessSources : Sources :=
  [("cli", .value (.dict [("mode", .str "headless"), ("paths", .dict [("root", .str "data")])]))]

def headlessFrom (root : String) : Call where
  around := plainSurroundings
  request := { mode := .str "headless" }
  rootHint := some (.parse root)
  sources := some headlessSources

section
attribute [local instance] Interpreter.ascii

theorem headlessFrom_payloads (root : String) : (headlessFrom root).payloads =
    .ok { defaults := [], file := [], environment := [], cli :=
      [("mode", .str "headless"), ("paths", .dict [("root", .str "data")])] } := rfl

theorem headlessFrom_sourceText (root : String) : (headlessFrom root).sourceText =
    serialized (canonicalPayloads { defaults := [], file := [], environment := [], cli :=
      [("mode", .str "headless"), ("paths", .dict [("root", .str "data")])] }) := by
  rw [Call.sourceText, headlessFrom_payloads]
  rfl

theorem transparent_headless :
    Transparent Interpreter.jsonDigest [headlessFrom "/a", headlessFrom "/a"] := by
  refine transparent _ _ ?_ ?_
  · intro c hc c' hc' json json' hj hj' _
    obtain rfl : c = headlessFrom "/a" := by simpa using hc
    obtain rfl : c' = headlessFrom "/a" := by simpa using hc'
    exact Except.ok.inj (hj.symm.trans hj')
  · refine ⟨by simp, ?_, trivial⟩
    intro w hw _
    obtain rfl : w = headlessFrom "/a" := by
      split at hw <;> simp_all
    exact .refl _

def rootOfAnswer (answer : Except Exn (Bool × Option StartupSettings)) : Option String :=
  match answer with
  | .ok (_, some s) => some s.paths.root
  | _ => none

/-- Two calls with the same sources: the second gets the root of the first. -/
theorem headless_not_transparent :
    NoCollision Interpreter.jsonDigest [headlessFrom "/a", headlessFrom "/b"] ∧
      ¬ Transparent Interpreter.jsonDigest [headlessFrom "/a", headlessFrom "/b"] := by
  constructor
  · intro c hc c' hc' json json' hj hj' _
    simp only [List.mem_cons, List.not_mem_nil, or_false] at hc hc'
    rcases hc with rfl | rfl <;> rcases hc' with rfl | rfl <;>
      (rw [headlessFrom_sourceText] at hj hj'; exact Except.ok.inj (hj.symm.trans hj'))
  · intro h
    have hcached : (run Interpreter.jsonDigest [headlessFrom "/a", headlessFrom "/b"] {}).map
        rootOfAnswer = [some "/a/data", some "/a/data"] := by decide +kernel
    have hfresh : rootOfAnswer (answer ((headlessFrom "/b").load Interpreter.jsonDigest none).1) =
        some "/b/data" := by decide +kernel
    rw [h, List.map_map] at hcached
    simp [hfresh] at hcached

end

end DpostV2.Startup.Settings
