import DpostV2.Lib.Float
import DpostV2.Lib.Lower
import DpostV2.Lib.Raises
import Mathlib.Logic.Function.Basic

/-!
# The settings schema

`validate_raw_settings`: aliases, the template, required fields, tokens, enums
and the one cross-field constraint. The payload is the template's shape: a mode
that may still be missing, a profile, and one dict for each block. Everything
the schema refuses it refuses with an issue; the one other exception that can
leave it is the `OverflowError` of `float()`.
-/

namespace DpostV2

-- ---------------------------------------------------------------------------
-- Equality and conversion of values
-- ---------------------------------------------------------------------------

def Value.number? : Value → Option Seconds
  | .bool b => some (if b then 1 else 0)
  | .int i => some i
  | .float q => some q
  | _ => Option.none

mutual
/-- `value == other`. -/
def Value.pyEq : Value → Value → Bool
  | .none, .none => true
  | .str s, .str t => s == t
  | .datetime s, .datetime t => s == t
  | .list xs, .list ys => Value.pyEqList xs ys
  | .tuple xs, .tuple ys => Value.pyEqList xs ys
  | .dict es, .dict fs => es.length == fs.length && Value.pyEqEntries es fs
  | .object n t, .object n' t' => n == n' && t == t'
  | v, w => match v.number?, w.number? with
    | some q, some r => q == r
    | _, _ => false
def Value.pyEqList : List Value → List Value → Bool
  | [], [] => true
  | v :: vs, w :: ws => v.pyEq w && Value.pyEqList vs ws
  | _, _ => false
def Value.pyEqEntries : List (String × Value) → List (String × Value) → Bool
  | [], _ => true
  | (k, v) :: es, fs => (match fs.lookup k with
    | some w => v.pyEq w
    | Option.none => false) && Value.pyEqEntries es fs
end

/-- `value or other`. -/
def Value.orElse (v w : Value) : Value := if v.truthy then v else w

/-- `d.pop(key)`. -/
def Dict.pop (d : Dict) (k : String) : Dict where
  entries := d.entries.filter fun e => e.1 != k
  nodup := d.nodup.sublist ((List.filter_sublist).map Prod.fst)

section
variable [Interpreter]

/-- `float(value)`, of an integer that no float is near to as well. -/
def toFloat : Value → Except Exn Seconds
  | .int i =>
    if floatLimit ≤ i.natAbs then .error (overflowError "int too large to convert to float")
    else .ok i
  | v => pyFloat v

end

/-- `float()`, and whether what it gives is `< 0`. -/
class FloatRuntime where
  float : Value → Except Exn Value
  isNegative : Value → Bool
  float_float : ∀ v r, float v = .ok r → float r = .ok r

/-- Finite floats only. -/
@[reducible] def FloatRuntime.finite [Interpreter] : FloatRuntime where
  float v := (toFloat v).map .float
  isNegative v := match v with
    | .float q => q < 0
    | _ => false
  float_float v r h := by
    cases hv : toFloat v with
    | error e => simp [hv, Except.map] at h
    | ok q =>
      obtain rfl : Value.float q = r := by simpa [hv, Except.map] using h
      rfl

namespace Startup.Settings

-- ---------------------------------------------------------------------------
-- Issues
-- ---------------------------------------------------------------------------

structure SettingsSchemaIssue where
  code : String
  path : String
  message : String
  hint : Option String
  deriving DecidableEq, Repr

/-- What leaves the schema: an exception, with its issues where it is the schema's own. -/
structure SchemaRaised where
  exn : Exn
  issues : List SettingsSchemaIssue := []

def schemaError (cls message : String) (issue : SettingsSchemaIssue) : SchemaRaised where
  exn := { mro := [cls, "SettingsSchemaError", "ValueError", "Exception"], message }
  issues := [issue]

abbrev valueIssue := schemaError "SettingsSchemaValueError"

def missingField (path message hint : String) : SchemaRaised :=
  schemaError "SettingsSchemaMissingFieldError" "Missing required startup field."
    { code := "missing_field", path, message, hint := some hint }

-- ---------------------------------------------------------------------------
-- The payload
-- ---------------------------------------------------------------------------

inductive Block where
  | runtime
  | paths
  | ui
  | sync
  | ingestion
  | naming
  | plugins
  deriving DecidableEq, Repr

namespace Block

def name : Block → String
  | runtime => "runtime"
  | paths => "paths"
  | ui => "ui"
  | sync => "sync"
  | ingestion => "ingestion"
  | naming => "naming"
  | plugins => "plugins"

def all : List Block := [runtime, paths, ui, sync, ingestion, naming, plugins]

def template : Block → Dict
  | runtime => .ofEntries [("loop_mode", .str "oneshot"), ("poll_interval_seconds", .float 1),
      ("idle_timeout_seconds", .none), ("max_runtime_seconds", .none)]
  | paths => .ofEntries [("root", .none), ("watch", .str "incoming"), ("dest", .str "processed"),
      ("staging", .str "tmp")]
  | ui => .ofEntries [("backend", .str "headless")]
  | sync => .ofEntries [("backend", .str "noop"), ("api_token", .none)]
  | ingestion => .ofEntries [("retry_limit", .int 3), ("retry_delay_seconds", .float 1)]
  | naming => .ofEntries [("prefix", .str "DPOST"), ("policy", .str "prefix_only")]
  | plugins => .ofEntries [("pc_name", .none), ("device_plugins", .tuple [])]

end Block

/-- A payload over `_CANONICAL_TEMPLATE`. -/
structure Payload where
  mode : Option Value := none
  profile : Value := .none
  blocks : Block → Dict := Block.template

namespace Payload

def field (p : Payload) (b : Block) (key : String) : Value := (p.blocks b).getNone key

def setField (p : Payload) (b : Block) (key : String) (v : Value) : Payload :=
  { p with blocks := Function.update p.blocks b ((p.blocks b).set key v) }

end Payload

-- ---------------------------------------------------------------------------
-- Aliases
-- ---------------------------------------------------------------------------

def aliasToCanonical : List (String × List String) :=
  [("runtime_mode", ["mode"]), ("runtime_profile", ["profile"]),
    ("ui_backend", ["ui", "backend"]), ("sync_backend", ["sync", "backend"])]

/-- `_get_path`; `none` where `_path_exists` is false. -/
def getPath? : Value → List String → Option Value
  | v, [] => some v
  | .dict entries, part :: parts => (entries.lookup part).bind fun v => getPath? v parts
  | _, _ => none

/-- `_set_path`: a part that is no `dict` is replaced by one, a mapping in `foreign` too. -/
def setPath (foreign : List String) (entries : List (String × Value)) :
    List String → Value → List (String × Value)
  | [], _ => entries
  | [part], v => setEntry part v entries
  | part :: parts, v =>
    let below := match entries.lookup part with
      | some (.dict below) => if foreign.contains part then [] else below
      | _ => []
    setEntry part (.dict (setPath [] below parts v)) entries

section
variable [Interpreter]

/-- `str(value).strip().lower()`. -/
def token (v : Value) : String := Interpreter.lower (strip (pyStr v))

def aliasCollision (entry : String × List String) : SchemaRaised :=
  schemaError "SettingsSchemaAliasError" "Conflicting startup settings aliases detected."
    { code := "alias_collision"
      path := entry.1
      message := "Alias field " ++ Interpreter.reprOf entry.1 ++
        " conflicts with canonical field " ++
        Interpreter.reprOf (".".intercalate entry.2) ++ "."
      hint := some "Use canonical field names only." }

def normalizeAlias (foreign : List String) (canonical : Dict) (entry : String × List String) :
    Except SchemaRaised Dict :=
  match canonical.get? entry.1 with
  | none => .ok canonical
  | some aliasValue =>
    let canonical := canonical.pop entry.1
    match getPath? (.dict canonical.entries) entry.2 with
    | some canonicalValue =>
      if canonicalValue.pyEq aliasValue then .ok canonical else .error (aliasCollision entry)
    | none => .ok (Dict.ofEntries (setPath foreign canonical.entries entry.2 aliasValue))

def normalizeAliases (foreign : List String) (raw : Dict) : Except SchemaRaised Dict :=
  aliasToCanonical.foldlM (normalizeAlias foreign) raw

-- ---------------------------------------------------------------------------
-- The template
-- ---------------------------------------------------------------------------

def mergeNestedDict (block : Block) (merged : Dict) :
    List (String × Value) → Except SchemaRaised Dict
  | [] => .ok merged
  | (key, value) :: rest =>
    if merged.contains key then mergeNestedDict block (merged.set key value) rest
    else .error (valueIssue "Unknown nested startup settings field."
      { code := "unknown_field"
        path := block.name ++ "." ++ key
        message := "Unknown nested field " ++ Interpreter.reprOf key ++ " under " ++
          Interpreter.reprOf block.name ++ "."
        hint := some "Remove unknown keys or update schema owner." })

/-- One top-level field over the template. -/
def mergeField (merged : Payload) (key : String) (value : Value) : Except SchemaRaised Payload :=
  if key = "mode" then .ok { merged with mode := some value }
  else if key = "profile" then .ok { merged with profile := value }
  else match Block.all.find? fun block => block.name == key with
    | none => .error (valueIssue "Unknown startup settings field."
        { code := "unknown_field"
          path := key
          message := "Unknown startup settings field: " ++ Interpreter.reprOf key ++ "."
          hint := some "Remove unknown keys or update schema owner." })
    | some block => match value with
      | .dict override => do
        let nested ← mergeNestedDict block (merged.blocks block) override
        return { merged with blocks := Function.update merged.blocks block nested }
      | _ => .error (valueIssue "Invalid nested settings type."
          { code := "invalid_type"
            path := key
            message := "Expected mapping at " ++ Interpreter.reprOf key ++ "."
            hint := some "Provide nested fields as a dictionary." })

def mergeWithTemplate (raw : Dict) : Except SchemaRaised Payload :=
  raw.entries.foldlM (fun merged entry => mergeField merged entry.1 entry.2) {}

-- ---------------------------------------------------------------------------
-- Required fields and tokens
-- ---------------------------------------------------------------------------

def validateRequiredFields (payload : Payload) : Except SchemaRaised Unit :=
  match payload.mode with
  | none => .error (missingField "mode" "Required startup field 'mode' is missing."
      "Set mode to 'headless' or 'desktop'.")
  | some _ =>
    if blank (pyStr ((payload.field .paths "root").orElse (.str ""))) then
      .error (missingField "paths.root" "Required startup field 'paths.root' is missing."
        "Provide a root directory in paths.root.")
    else .ok ()

def coerceNonNegativeFloat [FloatRuntime] (value : Value) (path : String) :
    Except SchemaRaised Value :=
  match FloatRuntime.float value with
  | .error e =>
    if e.isInstance "TypeError" || e.isInstance "ValueError" then
      .error (valueIssue "Invalid startup settings field type."
        { code := "invalid_type", path, message := path ++ " must be numeric."
          hint := some "Provide a numeric seconds value." })
    else .error { exn := e }
  | .ok normalized =>
    if FloatRuntime.isNegative normalized then
      .error (valueIssue "Invalid startup settings field value."
        { code := "invalid_value", path, message := path ++ " must be >= 0."
          hint := some "Use a non-negative seconds value." })
    else .ok normalized

def coerceOptionalNonNegativeFloat [FloatRuntime] (value : Value) (path : String) :
    Except SchemaRaised Value :=
  match value with
  | .none => .ok .none
  | value => coerceNonNegativeFloat value path

def normalizePluginIds : List Value → Except SchemaRaised (List Value)
  | [] => .ok []
  | pluginId :: rest =>
    if token pluginId == "" then
      .error (valueIssue "Invalid startup settings field value."
        { code := "invalid_value", path := "plugins.device_plugins"
          message := "plugins.device_plugins entries must be non-empty strings."
          hint := some "Remove empty plugin ids from plugins.device_plugins." })
    else do
      let normalized ← normalizePluginIds rest
      return .str (token pluginId) :: normalized

def normalizeDevicePlugins : Value → Except SchemaRaised (List Value)
  | .none => .ok []
  | .str "" => .ok []
  | .tuple pluginIds | .list pluginIds => normalizePluginIds pluginIds
  | _ => .error (valueIssue "Invalid startup settings field type."
      { code := "invalid_type", path := "plugins.device_plugins"
        message := "plugins.device_plugins must be a sequence of plugin ids."
        hint := some "Provide plugins.device_plugins as a list or tuple of strings." })

/-- `None`, or the token of the value. -/
def optionalToken : Value → Value
  | .none => .none
  | v => .str (token v)

/-- The token of a PC name; an empty one is no name. -/
def pcNameToken : Value → Value
  | .none => .none
  | v => if token v == "" then .none else .str (token v)

/-- The token of a field of a block. -/
def normalizeToken (p : Payload) (b : Block) (key : String) : Payload :=
  p.setField b key (.str (token (p.field b key)))

def normalizeTokens [FloatRuntime] (payload : Payload) : Except SchemaRaised Payload := do
  let p : Payload := { payload with
    mode := payload.mode.map fun mode => .str (token mode)
    profile := optionalToken payload.profile }
  let p := normalizeToken p .runtime "loop_mode"
  let poll ← coerceNonNegativeFloat (p.field .runtime "poll_interval_seconds")
    "runtime.poll_interval_seconds"
  let p := p.setField .runtime "poll_interval_seconds" poll
  let idle ← coerceOptionalNonNegativeFloat (p.field .runtime "idle_timeout_seconds")
    "runtime.idle_timeout_seconds"
  let p := p.setField .runtime "idle_timeout_seconds" idle
  let limit ← coerceOptionalNonNegativeFloat (p.field .runtime "max_runtime_seconds")
    "runtime.max_runtime_seconds"
  let p := p.setField .runtime "max_runtime_seconds" limit
  let p := normalizeToken p .ui "backend"
  let p := normalizeToken p .sync "backend"
  let p := normalizeToken p .naming "policy"
  let p := p.setField .plugins "pc_name" (pcNameToken (p.field .plugins "pc_name"))
  let pluginIds ← normalizeDevicePlugins (p.field .plugins "device_plugins")
  return p.setField .plugins "device_plugins" (.tuple pluginIds)

-- ---------------------------------------------------------------------------
-- Enums and the constraint
-- ---------------------------------------------------------------------------

/-- A value of the enum at `path`. -/
def validateEnum (path : String) (allowed : List String) (value : Value) :
    Except SchemaRaised Unit :=
  let accepted := match value with
    | .str s => allowed.contains s
    | _ => false
  if accepted then .ok ()
  else .error (valueIssue "Invalid startup enum value."
    { code := "invalid_enum", path
      message := "Unsupported value " ++ pyRepr value ++ " at " ++ Interpreter.reprOf path ++
        ". Allowed values: " ++ ", ".intercalate (allowed.mergeSort (· ≤ ·)) ++ "."
      hint := some "Use one of the allowed enum values." })

def modes : List String := ["headless", "desktop"]
def loopModes : List String := ["oneshot", "continuous"]
def uiBackends : List String := ["headless", "desktop"]
def syncBackends : List String := ["noop", "kadi"]
def namingPolicies : List String := ["prefix_only", "prefix_date"]

def validateEnums (payload : Payload) : Except SchemaRaised Unit := do
  validateEnum "mode" modes (payload.mode.getD .none)
  validateEnum "runtime.loop_mode" loopModes (payload.field .runtime "loop_mode")
  validateEnum "ui.backend" uiBackends (payload.field .ui "backend")
  validateEnum "sync.backend" syncBackends (payload.field .sync "backend")
  validateEnum "naming.policy" namingPolicies (payload.field .naming "policy")

def validateConstraints (payload : Payload) : Except SchemaRaised Unit :=
  if (payload.mode.getD .none).pyEq (.str "desktop") &&
      !(payload.field .ui "backend").pyEq (.str "desktop") then
    .error (schemaError "SettingsSchemaConstraintError"
      "Cross-field startup settings constraint violation."
      { code := "constraint_violation", path := "ui.backend"
        message := "Desktop mode requires desktop UI backend."
        hint := some "Set ui.backend='desktop' for desktop mode." })
  else .ok ()

/-- What the schema does with the fields it has merged. -/
def finish [FloatRuntime] (merged : Payload) : Except SchemaRaised Payload := do
  validateRequiredFields merged
  let merged ← normalizeTokens merged
  validateEnums merged
  validateConstraints merged
  return merged

/-- `validate_raw_settings`; the fields in `foreign` hold a mapping that is no `dict`. -/
def validateMapping [FloatRuntime] (foreign : List String) (raw : Dict) :
    Except SchemaRaised Payload := do
  let canonical ← normalizeAliases foreign raw
  let merged ← mergeWithTemplate canonical
  finish merged

attribute [local instance] FloatRuntime.finite in
/-- `validate_raw_settings` of dicts, with finite floats. -/
def validateRawSettings (raw : Dict) : Except SchemaRaised Payload := validateMapping [] raw

end

-- ---------------------------------------------------------------------------
-- What the schema accepts
-- ---------------------------------------------------------------------------

theorem field_setField (p : Payload) (b b' : Block) (key key' : String) (v : Value) :
    (p.setField b key v).field b' key' = if b' = b ∧ key' = key then v else p.field b' key' := by
  by_cases hb : b' = b
  · subst hb
    by_cases hk : key' = key <;>
      simp [Payload.setField, Payload.field, Dict.getNone, Dict.getD, hk]
  · simp [Payload.setField, Payload.field, Function.update, hb]

@[simp] theorem mode_setField (p : Payload) (b : Block) (key : String) (v : Value) :
    (p.setField b key v).mode = p.mode := rfl

@[simp] theorem profile_setField (p : Payload) (b : Block) (key : String) (v : Value) :
    (p.setField b key v).profile = p.profile := rfl

theorem coerceNonNegativeFloat_ok [FloatRuntime] {v r : Value} {path : String} :
    coerceNonNegativeFloat v path = .ok r ↔
      FloatRuntime.float v = .ok r ∧ FloatRuntime.isNegative r = false := by
  unfold coerceNonNegativeFloat
  cases FloatRuntime.float v with
  | error e =>
    dsimp only
    split <;> simp
  | ok q =>
    dsimp only
    by_cases hnegative : FloatRuntime.isNegative q = true
    · rw [if_pos hnegative]
      constructor
      · intro h
        cases h
      · rintro ⟨heq, hr⟩
        rw [← Except.ok.inj heq, hnegative] at hr
        cases hr
    · rw [if_neg hnegative]
      constructor
      · intro h
        obtain rfl := Except.ok.inj h
        exact ⟨rfl, Bool.eq_false_iff.mpr hnegative⟩
      · rintro ⟨heq, -⟩
        rw [Except.ok.inj heq]

theorem coerceOptionalNonNegativeFloat_ok [FloatRuntime] {v r : Value} {path : String} :
    coerceOptionalNonNegativeFloat v path = .ok r ↔
      (v = .none ∧ r = .none) ∨ v ≠ .none ∧
        FloatRuntime.float v = .ok r ∧ FloatRuntime.isNegative r = false := by
  cases v with
  | none =>
    constructor
    · intro h
      exact .inl ⟨rfl, (Except.ok.inj h).symm⟩
    · rintro (⟨-, rfl⟩ | ⟨hne, -⟩)
      · rfl
      · exact absurd rfl hne
  | _ => simp [coerceOptionalNonNegativeFloat, coerceNonNegativeFloat_ok]

section
variable [Interpreter]
attribute [local instance] FloatRuntime.finite

/-- A number of seconds that is not negative. -/
def Measured (v : Value) : Prop := ∃ q, toFloat v = .ok q ∧ 0 ≤ q

theorem finite_float (v : Value) : FloatRuntime.float v = (toFloat v).map .float := rfl

theorem finite_ok {v r : Value} :
    (FloatRuntime.float v = .ok r ∧ FloatRuntime.isNegative r = false) ↔
      ∃ q, toFloat v = .ok q ∧ 0 ≤ q ∧ r = .float q := by
  rw [finite_float]
  cases toFloat v with
  | error e => simp [Except.map]
  | ok q =>
    simp only [Except.map, Except.ok.injEq, exists_eq_left']
    constructor
    · rintro ⟨rfl, hr⟩
      exact ⟨not_lt.mp (by simpa [FloatRuntime.isNegative] using hr), rfl⟩
    · rintro ⟨h0, rfl⟩
      exact ⟨rfl, by simpa [FloatRuntime.isNegative] using h0⟩

theorem coerceSeconds_ok {v w : Value} {path : String} :
    coerceNonNegativeFloat v path = .ok w ↔ ∃ q, toFloat v = .ok q ∧ 0 ≤ q ∧ w = .float q :=
  coerceNonNegativeFloat_ok.trans finite_ok

theorem coerceOptionalSeconds_ok {v w : Value} {path : String} :
    coerceOptionalNonNegativeFloat v path = .ok w ↔
      (v = .none ∧ w = .none) ∨ ∃ q, toFloat v = .ok q ∧ 0 ≤ q ∧ w = .float q := by
  rw [coerceOptionalNonNegativeFloat_ok, finite_ok]
  cases v with
  | none => simp [toFloat, pyFloat]
  | _ => simp

theorem normalizePluginIds_ok {ids : List Value} (h : normalizePluginIds ids = .ok ws) :
    ws = ids.map (fun v => .str (token v)) ∧ ∀ v ∈ ids, token v ≠ "" := by
  induction ids generalizing ws with
  | nil => cases h; simp
  | cons v ids ih =>
    unfold normalizePluginIds at h
    split at h
    · cases h
    next hv =>
    simp only [except_bind_ok, except_pure_ok] at h
    obtain ⟨ws, hw, rfl⟩ := h
    obtain ⟨rfl, hids⟩ := ih hw
    refine ⟨rfl, ?_⟩
    intro w hm
    rcases List.mem_cons.mp hm with rfl | hm
    · simpa using hv
    · exact hids w hm

theorem normalizeDevicePlugins_ok {v : Value} (h : normalizeDevicePlugins v = .ok ws) :
    ∃ ids : List Value, ws = ids.map (fun v => .str (token v)) ∧ ∀ v ∈ ids, token v ≠ "" := by
  unfold normalizeDevicePlugins at h
  split at h
  · cases h; exact ⟨[], by simp⟩
  · cases h; exact ⟨[], by simp⟩
  · exact ⟨_, normalizePluginIds_ok h⟩
  · exact ⟨_, normalizePluginIds_ok h⟩
  · cases h

theorem validateEnum_ok {allowed : List String} :
    validateEnum path allowed v = .ok u ↔ ∃ s, v = .str s ∧ s ∈ allowed := by
  unfold validateEnum
  cases v <;> simp

/-- A token of one of the enums. -/
def TokenOf (allowed : List String) (v : Value) : Prop :=
  ∃ raw, v = .str (token raw) ∧ token raw ∈ allowed

/-- `None`, or seconds as a float. -/
def OptionalSeconds (v : Value) : Prop := v = .none ∨ ∃ q, v = .float q ∧ 0 ≤ q

/-- What holds of a payload the schema accepts. -/
structure Validated (p : Payload) : Prop where
  mode : ∃ v, p.mode = some v ∧ TokenOf modes v
  root : blank (pyStr ((p.field .paths "root").orElse (.str ""))) = false
  loopMode : TokenOf loopModes (p.field .runtime "loop_mode")
  poll : ∃ q, p.field .runtime "poll_interval_seconds" = .float q ∧ 0 ≤ q
  idle : OptionalSeconds (p.field .runtime "idle_timeout_seconds")
  limit : OptionalSeconds (p.field .runtime "max_runtime_seconds")
  ui : TokenOf uiBackends (p.field .ui "backend")
  sync : TokenOf syncBackends (p.field .sync "backend")
  policy : TokenOf namingPolicies (p.field .naming "policy")
  devicePlugins : ∃ ids : List Value, p.field .plugins "device_plugins" =
    .tuple (ids.map fun v => .str (token v)) ∧ ∀ v ∈ ids, token v ≠ ""

/-- A payload after its tokens are normalized. -/
structure Tokenized (p p' : Payload) : Prop where
  mode : p'.mode = p.mode.map fun v => .str (token v)
  root : p'.field .paths "root" = p.field .paths "root"
  loopMode : p'.field .runtime "loop_mode" = .str (token (p.field .runtime "loop_mode"))
  poll : ∃ q, p'.field .runtime "poll_interval_seconds" = .float q ∧ 0 ≤ q
  idle : OptionalSeconds (p'.field .runtime "idle_timeout_seconds")
  limit : OptionalSeconds (p'.field .runtime "max_runtime_seconds")
  ui : p'.field .ui "backend" = .str (token (p.field .ui "backend"))
  sync : p'.field .sync "backend" = .str (token (p.field .sync "backend"))
  policy : p'.field .naming "policy" = .str (token (p.field .naming "policy"))
  devicePlugins : ∃ ids : List Value, p'.field .plugins "device_plugins" =
    .tuple (ids.map fun v => .str (token v)) ∧ ∀ v ∈ ids, token v ≠ ""

theorem OptionalSeconds.coerced {v : Value} (h : coerceOptionalNonNegativeFloat v path = .ok w) :
    OptionalSeconds w := by
  rcases coerceOptionalSeconds_ok.mp h with ⟨-, rfl⟩ | ⟨q, -, h0, rfl⟩
  · exact .inl rfl
  · exact .inr ⟨q, rfl, h0⟩

theorem normalizeTokens_ok {p p' : Payload} (h : normalizeTokens p = .ok p') : Tokenized p p' := by
  simp only [normalizeTokens, normalizeToken, except_bind_ok, except_pure_ok] at h
  obtain ⟨poll, hpoll, idle, hidle, limit, hlimit, ids, hids, rfl⟩ := h
  obtain ⟨q, -, h0, rfl⟩ := coerceSeconds_ok.mp hpoll
  obtain ⟨raw, rfl, hraw⟩ := normalizeDevicePlugins_ok hids
  exact {
    mode := rfl
    root := by simp [field_setField]; rfl
    loopMode := by simp [field_setField]; rfl
    poll := ⟨q, by simp [field_setField], h0⟩
    idle := by simpa [field_setField] using OptionalSeconds.coerced hidle
    limit := by simpa [field_setField] using OptionalSeconds.coerced hlimit
    ui := by simp [field_setField]; rfl
    sync := by simp [field_setField]; rfl
    policy := by simp [field_setField]; rfl
    devicePlugins := ⟨raw, by simp [field_setField], hraw⟩ }

/-- What the schema looks at before it normalizes tokens. -/
def templated (raw : Dict) : Except SchemaRaised Payload := do
  let canonical ← normalizeAliases [] raw
  let merged ← mergeWithTemplate canonical
  validateRequiredFields merged
  return merged

theorem validateRawSettings_eq (raw : Dict) : validateRawSettings raw = (do
    let merged ← templated raw
    let merged ← normalizeTokens merged
    validateEnums merged
    validateConstraints merged
    return merged) := by
  simp [validateRawSettings, validateMapping, finish, templated]

theorem validateRequiredFields_ok {p : Payload} (h : validateRequiredFields p = .ok u) :
    (∃ v, p.mode = some v) ∧
      blank (pyStr ((p.field .paths "root").orElse (.str ""))) = false := by
  unfold validateRequiredFields at h
  cases hm : p.mode with
  | none => simp [hm] at h
  | some v =>
    cases hb : blank (pyStr ((p.field .paths "root").orElse (.str ""))) with
    | false => exact ⟨⟨v, rfl⟩, rfl⟩
    | true => simp [hm, hb] at h

theorem TokenOf.of_enum {raw v : Value} (h : validateEnum path allowed v = .ok u)
    (hv : v = .str (token raw)) : TokenOf allowed v := by
  obtain ⟨s, hs, hm⟩ := validateEnum_ok.mp h
  obtain rfl : s = token raw := by simpa [hv] using hs.symm
  exact ⟨raw, hv, hm⟩

theorem validateRawSettings_ok {raw : Dict} (h : validateRawSettings raw = .ok p') :
    Validated p' := by
  rw [validateRawSettings_eq] at h
  simp only [except_bind_ok, except_pure_ok, templated] at h
  obtain ⟨p, ⟨_, _, _, _, _, hreq, rfl⟩, p', htok, _, henum, _, _, rfl⟩ := h
  obtain ⟨⟨v, hv⟩, hroot⟩ := validateRequiredFields_ok hreq
  simp only [validateEnums, except_bind_ok] at henum
  obtain ⟨_, hmode, _, hloop, _, hui, _, hsync, hpolicy⟩ := henum
  have ht := normalizeTokens_ok htok
  have hmode' : p'.mode = some (.str (token v)) := by simp [ht.mode, hv]
  rw [hmode'] at hmode
  exact {
    mode := ⟨_, hmode', .of_enum hmode rfl⟩
    root := by rw [ht.root]; exact hroot
    loopMode := .of_enum hloop ht.loopMode
    poll := ht.poll
    idle := ht.idle
    limit := ht.limit
    ui := .of_enum hui ht.ui
    sync := .of_enum hsync ht.sync
    policy := .of_enum hpolicy ht.policy
    devicePlugins := ht.devicePlugins }

-- ---------------------------------------------------------------------------
-- What the schema raises
-- ---------------------------------------------------------------------------

def IsSchema (raised : SchemaRaised) : Prop :=
  raised.exn.isInstance "SettingsSchemaError" = true

omit [Interpreter] in
theorem schemaError_isSchema (cls message : String) (issue : SettingsSchemaIssue) :
    IsSchema (schemaError cls message issue) := by
  simp [IsSchema, schemaError, Exn.isInstance]

/-- An integer no float is near to. -/
def FarOff (v : Value) : Prop := ∃ i : Int, v = .int i ∧ floatLimit ≤ i.natAbs

/-- The first of the three lengths of time that is none is too large an integer. -/
def Oversized (p : Payload) : Prop :=
  FarOff (p.field .runtime "poll_interval_seconds") ∨
    Measured (p.field .runtime "poll_interval_seconds") ∧
      (FarOff (p.field .runtime "idle_timeout_seconds") ∨
        (p.field .runtime "idle_timeout_seconds" = .none ∨
          Measured (p.field .runtime "idle_timeout_seconds")) ∧
        FarOff (p.field .runtime "max_runtime_seconds"))

theorem pyFloat_raises (v : Value) :
    RaisesIn (fun e => e.isInstance "TypeError" = true ∨ e.isInstance "ValueError" = true)
      (pyFloat v) := by
  unfold pyFloat
  split
  · exact .ok _
  · exact .ok _
  · exact .ok _
  · split
    · exact .ok _
    · exact .error (.inr (by simp [valueError, Exn.isInstance]))
  · exact .error (.inl (by simp [typeError, Exn.isInstance]))

theorem toFloat_raises {v : Value} (h : ¬ FarOff v) :
    RaisesIn (fun e => e.isInstance "TypeError" = true ∨ e.isInstance "ValueError" = true)
      (toFloat v) := by
  unfold DpostV2.toFloat
  split
  · next i =>
    have hi : ¬ floatLimit ≤ i.natAbs := fun hi => h ⟨i, rfl, hi⟩
    simp only [hi, if_false]
    exact .ok _
  · exact pyFloat_raises _

theorem FarOff.toFloat {v : Value} (h : FarOff v) :
    toFloat v = .error (overflowError "int too large to convert to float") := by
  obtain ⟨i, rfl, hi⟩ := h
  simp only [DpostV2.toFloat, hi, if_true]

theorem coerceNonNegativeFloat_raises {v : Value} (h : ¬ FarOff v) (path : String) :
    RaisesIn IsSchema (coerceNonNegativeFloat v path) := by
  unfold coerceNonNegativeFloat
  rw [finite_float]
  cases hv : DpostV2.toFloat v with
  | error e =>
    have he := toFloat_raises h e hv
    simp only [Except.map, Bool.or_eq_true, he, if_true]
    exact .error (schemaError_isSchema ..)
  | ok q =>
    simp only [Except.map]
    split
    · exact .error (schemaError_isSchema ..)
    · exact .ok _

theorem FarOff.coerce {v : Value} (h : FarOff v) (path : String) :
    coerceNonNegativeFloat v path =
      .error { exn := overflowError "int too large to convert to float" } := by
  simp [coerceNonNegativeFloat, finite_float, h.toFloat, Except.map, overflowError, Exn.isInstance]

theorem coerceOptionalNonNegativeFloat_raises {v : Value} (h : ¬ FarOff v) (path : String) :
    RaisesIn IsSchema (coerceOptionalNonNegativeFloat v path) := by
  unfold coerceOptionalNonNegativeFloat
  split
  · exact .ok _
  · exact coerceNonNegativeFloat_raises h path

theorem FarOff.coerceOptional {v : Value} (h : FarOff v) (path : String) :
    coerceOptionalNonNegativeFloat v path =
      .error { exn := overflowError "int too large to convert to float" } := by
  obtain ⟨i, rfl, hi⟩ := h
  exact FarOff.coerce ⟨i, rfl, hi⟩ path

theorem normalizePluginIds_raises (ids : List Value) :
    RaisesIn IsSchema (normalizePluginIds ids) := by
  induction ids with
  | nil => exact .ok _
  | cons v ids ih =>
    unfold normalizePluginIds
    split
    · exact .error (schemaError_isSchema ..)
    · exact ih.bind fun _ _ => .ok _

theorem normalizeDevicePlugins_raises (v : Value) :
    RaisesIn IsSchema (normalizeDevicePlugins v) := by
  unfold normalizeDevicePlugins
  split
  · exact .ok _
  · exact .ok _
  · exact normalizePluginIds_raises _
  · exact normalizePluginIds_raises _
  · exact .error (schemaError_isSchema ..)

omit [Interpreter] in
theorem field_tokens (p : Payload) (mode : Option Value) (profile : Value) (b : Block)
    (key : String) : ({ p with mode, profile } : Payload).field b key = p.field b key := rfl

/-- Short of an oversized length of time the schema raises its own errors only. -/
theorem normalizeTokens_raises {p : Payload} (h : ¬ Oversized p) :
    RaisesIn IsSchema (normalizeTokens p) := by
  simp only [Oversized, not_or, not_and] at h
  obtain ⟨hpoll, h⟩ := h
  refine .bind (coerceNonNegativeFloat_raises ?_ _) fun poll hq => ?_
  · simpa [normalizeToken, field_setField, field_tokens] using hpoll
  replace hq : Measured (p.field .runtime "poll_interval_seconds") := by
    obtain ⟨q, hq, h0, -⟩ := coerceSeconds_ok.mp hq
    simp only [normalizeToken, field_setField, field_tokens] at hq
    exact ⟨q, by simpa using hq, h0⟩
  obtain ⟨hidle, h⟩ := h hq
  refine .bind (coerceOptionalNonNegativeFloat_raises ?_ _) fun idle hi => ?_
  · simpa [normalizeToken, field_setField, field_tokens] using hidle
  replace hi : p.field .runtime "idle_timeout_seconds" = .none ∨
      Measured (p.field .runtime "idle_timeout_seconds") := by
    have := coerceOptionalSeconds_ok.mp hi
    simp only [normalizeToken, field_setField, field_tokens] at this
    rcases this with ⟨hn, -⟩ | ⟨q, hq, h0, -⟩
    · exact .inl (by simpa using hn)
    · exact .inr ⟨q, by simpa using hq, h0⟩
  refine .bind (coerceOptionalNonNegativeFloat_raises ?_ _) fun limit _ => ?_
  · simpa [normalizeToken, field_setField, field_tokens] using h hi
  exact .bind (normalizeDevicePlugins_raises _) fun _ _ => .ok _

theorem Oversized.normalizeTokens {p : Payload} (h : Oversized p) :
    normalizeTokens p = .error { exn := overflowError "int too large to convert to float" } := by
  unfold Settings.normalizeTokens
  simp only [normalizeToken, field_setField, field_tokens, and_false, and_true, if_false,
    String.reduceEq, reduceCtorEq]
  rcases h with hpoll | ⟨⟨q, hq, h0⟩, h⟩
  · rw [hpoll.coerce]
    rfl
  rw [coerceSeconds_ok.mpr ⟨q, hq, h0, rfl⟩]
  rcases h with hidle | ⟨hidle, hlimit⟩
  · simp only [bind, Except.bind]
    rw [hidle.coerceOptional]
  · have hok : ∃ w, coerceOptionalNonNegativeFloat (p.field .runtime "idle_timeout_seconds")
        "runtime.idle_timeout_seconds" = .ok w := by
      rcases hidle with hn | ⟨r, hr, hr0⟩
      · exact ⟨.none, coerceOptionalSeconds_ok.mpr (.inl ⟨hn, rfl⟩)⟩
      · exact ⟨.float r, coerceOptionalSeconds_ok.mpr (.inr ⟨r, hr, hr0, rfl⟩)⟩
    obtain ⟨w, hw⟩ := hok
    simp only [bind, Except.bind, hw]
    rw [hlimit.coerceOptional]

theorem normalizeAlias_raises (foreign : List String) (canonical : Dict)
    (entry : String × List String) :
    RaisesIn IsSchema (normalizeAlias foreign canonical entry) := by
  unfold normalizeAlias
  split
  · exact .ok _
  dsimp only
  split
  · split
    · exact .ok _
    · exact .error (schemaError_isSchema ..)
  · exact .ok _

theorem mergeNestedDict_raises (block : Block) (merged : Dict) (entries : List (String × Value)) :
    RaisesIn IsSchema (mergeNestedDict block merged entries) := by
  induction entries generalizing merged with
  | nil => exact .ok _
  | cons entry entries ih =>
    unfold mergeNestedDict
    split
    · exact ih _
    · exact .error (schemaError_isSchema ..)

theorem mergeField_raises (merged : Payload) (key : String) (value : Value) :
    RaisesIn IsSchema (mergeField merged key value) := by
  unfold mergeField
  split
  · exact .ok _
  split
  · exact .ok _
  split
  · exact .error (schemaError_isSchema ..)
  split
  · exact (mergeNestedDict_raises _ _ _).bind fun _ _ => .ok _
  · exact .error (schemaError_isSchema ..)

theorem validateRequiredFields_raises (p : Payload) :
    RaisesIn IsSchema (validateRequiredFields p) := by
  unfold validateRequiredFields
  split
  · exact .error (schemaError_isSchema ..)
  split
  · exact .error (schemaError_isSchema ..)
  · exact .ok _

theorem templated_raises (raw : Dict) : RaisesIn IsSchema (templated raw) := by
  refine .bind (.foldlM (normalizeAlias_raises []) _ _) fun _ _ => ?_
  refine .bind (.foldlM (fun _ _ => mergeField_raises _ _ _) _ _) fun _ _ => ?_
  exact (validateRequiredFields_raises _).bind fun _ _ => .ok _

theorem validateEnum_raises (path : String) (allowed : List String) (v : Value) :
    RaisesIn IsSchema (validateEnum path allowed v) := by
  unfold validateEnum
  dsimp only
  split
  · split
    · exact .ok _
    · exact .error (schemaError_isSchema ..)
  · exact .error (schemaError_isSchema ..)

theorem validateEnums_raises (p : Payload) : RaisesIn IsSchema (validateEnums p) := by
  refine (validateEnum_raises _ _ _).bind fun _ _ => ?_
  refine (validateEnum_raises _ _ _).bind fun _ _ => ?_
  refine (validateEnum_raises _ _ _).bind fun _ _ => ?_
  exact (validateEnum_raises _ _ _).bind fun _ _ => validateEnum_raises _ _ _

omit [Interpreter] in
theorem validateConstraints_raises (p : Payload) : RaisesIn IsSchema (validateConstraints p) := by
  unfold validateConstraints
  split
  · exact .error (schemaError_isSchema ..)
  · exact .ok _

theorem Oversized.validateRawSettings {raw : Dict} {p : Payload} (h : Oversized p)
    (hp : templated raw = .ok p) :
    validateRawSettings raw =
      .error { exn := overflowError "int too large to convert to float" } := by
  simp [validateRawSettings_eq, hp, h.normalizeTokens, bind, Except.bind]

/-- The schema raises its own errors only, unless a length of time is oversized. -/
theorem validateRawSettings_raises {raw : Dict} :
    RaisesIn IsSchema (validateRawSettings raw) ↔
      ∀ p, templated raw = .ok p → ¬ Oversized p := by
  constructor
  · intro h p hp hover
    have hs := h _ (hover.validateRawSettings hp)
    simp [IsSchema, overflowError, Exn.isInstance] at hs
  · intro h
    rw [validateRawSettings_eq]
    refine .bind (templated_raises raw) fun p hp => .bind (normalizeTokens_raises (h p hp)) ?_
    intro p' _
    refine (validateEnums_raises p').bind fun _ _ => ?_
    exact (validateConstraints_raises p').bind fun _ _ => .ok _

end

end Startup.Settings

end DpostV2
