import DpostV2.Lib.Raises
import DpostV2.Plugins.Selection

/-!
# The plugin contract

`validate_plugin_contract` over the exports of a module, with
`_coerce_metadata`, `_coerce_capabilities` and the records they build. A hook is
foreign code: each of its calls returns some object or raises some exception, and
`str()` of what it hands over may raise as well.

`Accepted` says what the contract asks of the exports and `Raises` which
exceptions of foreign code the validation lets through. `inspect_ok` and
`inspect_error` read the code's outcomes as these.
-/

namespace DpostV2.Plugins

def contractError (message : String) : Exn :=
  { mro := ["PluginContractError", "ValueError", "Exception"], message }

def invalidProcessorError (message : String) : Exn :=
  { mro := ["InvalidProcessorError", "PluginContractError", "ValueError", "Exception"], message }

def ensure (b : Bool) (message : String) : Except Raised Unit :=
  if b then .ok () else .error { exn := contractError message }

theorem ensure_ok : ensure b message = .ok u ↔ b = true := by
  cases b
  · exact ⟨fun h => (nomatch h), fun h => (nomatch h)⟩
  · exact ⟨fun _ => rfl, fun _ => rfl⟩

-- ---------------------------------------------------------------------------
-- What hooks return
-- ---------------------------------------------------------------------------

def PluginFamily.text : PluginFamily → String
  | .device => "device"
  | .pc => "pc"

def PluginFamily.ofText (s : String) : Option PluginFamily :=
  if s = "device" then some .device
  else if s = "pc" then some .pc
  else none

structure PluginCapabilities where
  canProcess : Bool
  supportsPreprocess : Bool
  supportsBatch : Bool
  supportsSync : Bool
  deriving DecidableEq, Repr

structure PluginMetadata where
  pluginId : String
  family : PluginFamily
  version : String
  contractVersion : String
  supportedProfiles : List String
  named : blank pluginId = false
  versioned : blank version = false
  contracted : blank contractVersion = false
  profiled : ∀ profile ∈ supportedProfiles, blank profile = false ∧ strip profile = profile

/-- What a key of a returned mapping holds. -/
inductive Entry where
  | value (v : Value)
  | unprintable (e : Raised)

/-- An object of foreign code, as far as the validation looks at it. -/
inductive Obj where
  | metadata (metadata : PluginMetadata)
  | capabilities (capabilities : PluginCapabilities)
  | mapping (entries : List (String × Entry))
  | processor
  | other

/-- `isinstance(instance, ProcessorContract)`. -/
def Obj.isProcessor : Obj → Bool
  | .processor => true
  | _ => false

inductive Export where
  | data
  /-- What each call of it comes to, the first call first. -/
  | hook (call : Nat → Except Raised Obj)

abbrev Exports := String → Option Export

def Exports.Callable (exports : Exports) (name : String) : Prop :=
  ∃ call, exports name = some (.hook call)

def requireCallable (exports : Exports) (name : String) : Except Raised Unit :=
  match exports name with
  | some (.hook _) => .ok ()
  | _ => .error { exn := contractError ("missing required plugin export: " ++ name) }

/-- The `n`-th call of an export. -/
def Exports.call (exports : Exports) (name : String) (n : Nat) : Except Raised Obj :=
  match exports name with
  | some (.hook call) => call n
  | some .data => .error { exn := typeError "object is not callable" }
  | none => .error { exn := { mro := ["KeyError", "LookupError", "Exception"], message := name } }

theorem requireCallable_ok {exports : Exports} {name : String} :
    requireCallable exports name = .ok u ↔ exports.Callable name := by
  unfold requireCallable Exports.Callable
  split
  · next call h => simp [h]
  · next h =>
    simp only [reduceCtorEq, false_iff, not_exists]
    exact fun call hc => h call hc

-- ---------------------------------------------------------------------------
-- The records built from mappings
-- ---------------------------------------------------------------------------

def Entry.isBool : Option Entry → Option Bool
  | some (.value (.bool b)) => some b
  | _ => none

/-- One flag of `PluginCapabilities.__post_init__`. -/
def flag (entries : List (String × Entry)) (field : String) : Except Raised Bool :=
  match Entry.isBool (entries.lookup field) with
  | some b => .ok b
  | none => .error { exn := contractError (field ++ " must be a bool") }

def coerceCapabilities : Obj → Except Raised PluginCapabilities
  | .capabilities capabilities => .ok capabilities
  | .mapping entries => do
    let canProcess ← flag entries "can_process"
    let supportsPreprocess ← flag entries "supports_preprocess"
    let supportsBatch ← flag entries "supports_batch"
    let supportsSync ← flag entries "supports_sync"
    return { canProcess, supportsPreprocess, supportsBatch, supportsSync }
  | _ => .error { exn := contractError "capabilities() must return PluginCapabilities or mapping" }

/-- The entries of `supported_profiles`, absent ones read as an empty tuple. -/
def profileEntries (entries : List (String × Entry)) : Option (List Value) :=
  match entries.lookup "supported_profiles" with
  | none => some []
  | some (.value (.tuple profiles)) | some (.value (.list profiles)) => some profiles
  | _ => none

abbrev Profiles :=
  { profiles : List String // ∀ profile ∈ profiles, blank profile = false ∧
    strip profile = profile }

def normalizeProfiles : List Value → Except Raised Profiles
  | [] => .ok ⟨[], by simp⟩
  | .str s :: rest =>
    if h : blank s then .error
      { exn := contractError "supported profile entries must be non-empty" }
    else do
      let profiles ← normalizeProfiles rest
      return ⟨strip s :: profiles.val, by
        intro profile hp
        rcases List.mem_cons.mp hp with rfl | hp
        · exact ⟨by simpa [blank] using h, strip_strip s⟩
        · exact profiles.property profile hp⟩
  | _ :: _ => .error { exn := contractError "supported profile entries must be non-empty" }

/-- `PluginMetadata.__post_init__`. -/
def pluginMetadata (pluginId family version contractVersion : String) (profiles : List Value) :
    Except Raised PluginMetadata :=
  if hid : blank pluginId
    then .error { exn := contractError "plugin_id must be a non-empty string" }
  else match PluginFamily.ofText family with
    | none => .error { exn := contractError "family must be 'device' or 'pc'" }
    | some family =>
      if hv : blank version
        then .error { exn := contractError "version must be a non-empty string" }
      else if hc : blank contractVersion then
        .error { exn := contractError "contract_version must be a non-empty string" }
      else do
        let profiles ← normalizeProfiles profiles
        return {
          pluginId, family, version, contractVersion
          supportedProfiles := profiles.val
          named := nonblank hid
          versioned := nonblank hv
          contracted := nonblank hc
          profiled := profiles.property }

section
variable [Interpreter]

def Entry.str : Entry → Except Raised String
  | .value v => .ok (pyStr v)
  | .unprintable e => .error e

/-- `str(value.get(field, ""))`. -/
def textEntry (entries : List (String × Entry)) (field : String) : Except Raised String :=
  match entries.lookup field with
  | some entry => entry.str
  | none => .ok ""

def metadataOfMapping (entries : List (String × Entry)) (profiles : List Value) :
    Except Raised PluginMetadata := do
  let pluginId ← textEntry entries "plugin_id"
  let family ← textEntry entries "family"
  let version ← textEntry entries "version"
  let contractVersion ← textEntry entries "contract_version"
  pluginMetadata pluginId family version contractVersion profiles

def coerceMetadata : Obj → Except Raised PluginMetadata
  | .metadata metadata => .ok metadata
  | .mapping entries =>
    match profileEntries entries with
    | none => .error { exn := contractError "supported_profiles must be a sequence" }
    | some profiles => metadataOfMapping entries profiles
  | _ => .error { exn := contractError "metadata() must return PluginMetadata or mapping" }

end

-- ---------------------------------------------------------------------------
-- The validation
-- ---------------------------------------------------------------------------

/-- `PLUGIN_CONTRACT_VERSION` is 2.0.0, and its major part what counts. -/
def isContractVersionCompatible (declaredVersion : String) : Bool :=
  declaredVersion.toList.contains '.' && declaredVersion.toList.takeWhile (· != '.') == "2".toList

def validateCapabilityCombinations (metadata : PluginMetadata) (capabilities : PluginCapabilities) :
    Except Raised Unit := do
  ensure (!capabilities.supportsPreprocess || capabilities.canProcess)
    "supports_preprocess requires can_process=True capability"
  ensure (!capabilities.supportsBatch || capabilities.canProcess)
    "supports_batch requires can_process=True capability"
  match metadata.family with
  | .device =>
    ensure capabilities.canProcess "device plugins must declare can_process=True capability"
  | .pc => ensure capabilities.supportsSync "pc plugins must declare supports_sync=True capability"

/-- The trial call of `create_processor`, whose exceptions are all mapped. -/
def tryProcessor (exports : Exports) : Except Raised Unit :=
  match exports.call "create_processor" 0 with
  | .error _ => .error
      { exn := invalidProcessorError "device create_processor failed during contract validation" }
  | .ok processorInstance =>
    if processorInstance.isProcessor then .ok ()
    else .error
      { exn := invalidProcessorError
          "create_processor returned object that does not satisfy ProcessorContract" }

def validateFamilyExports (exports : Exports) : PluginFamily → Except Raised Unit
  | .device => do
    requireCallable exports "create_processor"
    requireCallable exports "validate_settings"
    tryProcessor exports
  | .pc => do
    requireCallable exports "create_sync_adapter"
    requireCallable exports "prepare_sync_payload"

section
variable [Interpreter]

def validatePluginContract (exports : Exports) : Except Raised PluginMetadata := do
  requireCallable exports "metadata"
  requireCallable exports "capabilities"
  let metadataValue ← exports.call "metadata" 0
  let capabilitiesValue ← exports.call "capabilities" 0
  let metadata ← coerceMetadata metadataValue
  let capabilities ← coerceCapabilities capabilitiesValue
  ensure (isContractVersionCompatible metadata.contractVersion)
    ("incompatible contract_version: " ++ metadata.contractVersion)
  validateCapabilityCombinations metadata capabilities
  validateFamilyExports exports metadata.family
  ensure (!capabilities.canProcess || (exports "create_processor").isSome)
    "can_process=True requires create_processor export"
  return metadata

/-- The `try` block of the discovery loop. -/
def inspect (exports : Exports) : Except Raised (PluginMetadata × PluginCapabilities) := do
  let metadata ← validatePluginContract exports
  let capabilitiesValue ← exports.call "capabilities" 1
  let capabilities ← coerceCapabilities capabilitiesValue
  return (metadata, capabilities)

end

-- ---------------------------------------------------------------------------
-- What the contract asks for
-- ---------------------------------------------------------------------------

structure Consistent (family : PluginFamily) (capabilities : PluginCapabilities) : Prop where
  preprocess : capabilities.supportsPreprocess = true → capabilities.canProcess = true
  batch : capabilities.supportsBatch = true → capabilities.canProcess = true
  device : family = .device → capabilities.canProcess = true
  pc : family = .pc → capabilities.supportsSync = true

structure Equipped (exports : Exports) (family : PluginFamily) (capabilities : PluginCapabilities) :
    Prop where
  device : family = .device → exports.Callable "create_processor" ∧
    exports.Callable "validate_settings" ∧ exports.call "create_processor" 0 = .ok .processor
  pc : family = .pc → exports.Callable "create_sync_adapter" ∧
    exports.Callable "prepare_sync_payload"
  processor : capabilities.canProcess = true → (exports "create_processor").isSome = true

section
variable [Interpreter]

/-- The exports keep the contract: what they declare, in the order they are asked. -/
structure Accepted (exports : Exports) (metadata : PluginMetadata) : Prop where
  callable : exports.Callable "metadata" ∧ exports.Callable "capabilities"
  declared : ∃ value, exports.call "metadata" 0 = .ok value ∧ coerceMetadata value = .ok metadata
  compatible : isContractVersionCompatible metadata.contractVersion = true
  capable : ∃ value capabilities, exports.call "capabilities" 0 = .ok value ∧
    coerceCapabilities value = .ok capabilities ∧ Consistent metadata.family capabilities ∧
    Equipped exports metadata.family capabilities

/-- The plugin contract is kept, and the capabilities are there when asked for again. -/
def Declares (exports : Exports) (metadata : PluginMetadata) (capabilities : PluginCapabilities) :
    Prop :=
  Accepted exports metadata ∧
    ∃ value, exports.call "capabilities" 1 = .ok value ∧ coerceCapabilities value = .ok capabilities

omit [Interpreter] in
theorem validateCapabilityCombinations_ok {metadata : PluginMetadata} :
    validateCapabilityCombinations metadata capabilities = .ok u ↔
      Consistent metadata.family capabilities := by
  simp only [validateCapabilityCombinations, except_bind_ok, ensure_ok]
  constructor
  · rintro ⟨_, hpre, _, hbatch, h⟩
    refine ⟨?_, ?_, ?_, ?_⟩
    · intro h; simpa [h] using hpre
    · intro h; simpa [h] using hbatch
    · intro hf; simpa [hf, ensure_ok] using h
    · intro hf; simpa [hf, ensure_ok] using h
  · intro h
    refine ⟨(), ?_, (), ?_, ?_⟩
    · cases hc : capabilities.supportsPreprocess
      · rfl
      · simp [h.preprocess hc]
    · cases hc : capabilities.supportsBatch
      · rfl
      · simp [h.batch hc]
    · cases hf : metadata.family with
      | device => exact ensure_ok.mpr (h.device hf)
      | pc => exact ensure_ok.mpr (h.pc hf)

omit [Interpreter] in
theorem tryProcessor_ok {exports : Exports} :
    tryProcessor exports = .ok u ↔ exports.call "create_processor" 0 = .ok .processor := by
  unfold tryProcessor
  split
  · next h => simp [h]
  · next processorInstance h => cases processorInstance <;> simp [h, Obj.isProcessor]

omit [Interpreter] in
theorem validateFamilyExports_ok {exports : Exports} :
    validateFamilyExports exports family = .ok u ↔
      (family = .device → exports.Callable "create_processor" ∧
        exports.Callable "validate_settings" ∧
        exports.call "create_processor" 0 = .ok .processor) ∧
      (family = .pc → exports.Callable "create_sync_adapter" ∧
        exports.Callable "prepare_sync_payload") := by
  cases family with
  | device => simp [validateFamilyExports, except_bind_ok, requireCallable_ok, tryProcessor_ok]
  | pc => simp [validateFamilyExports, except_bind_ok, requireCallable_ok]

theorem validatePluginContract_ok {exports : Exports} {metadata : PluginMetadata} :
    validatePluginContract exports = .ok metadata ↔ Accepted exports metadata := by
  simp only [validatePluginContract, except_bind_ok, except_pure_ok, requireCallable_ok, ensure_ok,
    validateCapabilityCombinations_ok, validateFamilyExports_ok]
  constructor
  · rintro ⟨_, hm, _, hc, _, hmv, cv, hcv, m, hmeta, c, hcap, _, hv, _, hcons, _, hfam, _,
      hproc, rfl⟩
    refine ⟨⟨hm, hc⟩, ⟨_, hmv, hmeta⟩, hv, cv, c, hcv, hcap, hcons, hfam.1, hfam.2, ?_⟩
    intro h
    simpa [h] using hproc
  · rintro ⟨⟨hm, hc⟩, ⟨_, hmv, hmeta⟩, hv, cv, c, hcv, hcap, hcons, hequip⟩
    refine ⟨(), hm, (), hc, _, hmv, cv, hcv, metadata, hmeta, c, hcap, (), hv, (), hcons, (),
      ⟨hequip.device, hequip.pc⟩, (), ?_, rfl⟩
    cases hp : c.canProcess
    · rfl
    · simp [hequip.processor hp]

theorem inspect_ok {exports : Exports} {metadata : PluginMetadata}
    {capabilities : PluginCapabilities} :
    inspect exports = .ok (metadata, capabilities) ↔ Declares exports metadata capabilities := by
  simp only [inspect, except_bind_ok, except_pure_ok, validatePluginContract_ok, Declares]
  constructor
  · rintro ⟨m, hm, value, hv, c, hc, heq⟩
    obtain ⟨rfl, rfl⟩ := Prod.mk.inj heq
    exact ⟨hm, value, hv, hc⟩
  · rintro ⟨hm, value, hv, hc⟩
    exact ⟨metadata, hm, value, hv, capabilities, hc, rfl⟩

-- ---------------------------------------------------------------------------
-- What the validation raises
-- ---------------------------------------------------------------------------

/-- What `str()` of an entry raises. -/
def broken (entries : List (String × Entry)) (field : String) : Option Raised :=
  match entries.lookup field with
  | some (.unprintable e) => some e
  | _ => none

/-- The first of the four texts `metadata()` has to hold that raises. -/
def firstBroken (entries : List (String × Entry)) : Option Raised :=
  ["plugin_id", "family", "version", "contract_version"].findSome? (broken entries)

/-- The exceptions of foreign code the `try` block meets. -/
inductive Raises (exports : Exports) (e : Raised) : Prop where
  | metadata (hm : exports.Callable "metadata") (hc : exports.Callable "capabilities")
      (h : exports.call "metadata" 0 = .error e)
  | capabilities (hm : exports.Callable "metadata") (hc : exports.Callable "capabilities")
      (hv : exports.call "metadata" 0 = .ok value) (h : exports.call "capabilities" 0 = .error e)
  | text (hm : exports.Callable "metadata") (hc : exports.Callable "capabilities")
      (hv : exports.call "metadata" 0 = .ok (.mapping entries))
      (hcv : exports.call "capabilities" 0 = .ok value)
      (hp : profileEntries entries = some profiles) (h : firstBroken entries = some e)
  | again (ha : Accepted exports metadata) (h : exports.call "capabilities" 1 = .error e)

end

/-- A refusal of the contract itself. -/
def Refusal (e : Raised) : Prop :=
  e.exn.isInstance "PluginContractError" = true ∧ e.broken = none

theorem contractError_refusal (message : String) : Refusal { exn := contractError message } :=
  ⟨by simp [contractError, Exn.isInstance], rfl⟩

theorem invalidProcessorError_refusal (message : String) :
    Refusal { exn := invalidProcessorError message } :=
  ⟨by simp [invalidProcessorError, Exn.isInstance], rfl⟩

theorem ensure_refuses (b : Bool) (message : String) : RaisesIn Refusal (ensure b message) := by
  cases b
  · exact .error (contractError_refusal _)
  · exact .ok _

theorem requireCallable_refuses (exports : Exports) (name : String) :
    RaisesIn Refusal (requireCallable exports name) := by
  unfold requireCallable
  split
  · exact .ok _
  · exact .error (contractError_refusal _)

theorem flag_refuses (entries : List (String × Entry)) (field : String) :
    RaisesIn Refusal (flag entries field) := by
  unfold flag
  split
  · exact .ok _
  · exact .error (contractError_refusal _)

theorem coerceCapabilities_refuses (value : Obj) : RaisesIn Refusal (coerceCapabilities value) := by
  cases value with
  | capabilities capabilities => exact .ok _
  | mapping entries =>
    refine (flag_refuses entries _).bind fun _ _ => (flag_refuses entries _).bind fun _ _ => ?_
    exact (flag_refuses entries _).bind fun _ _ => (flag_refuses entries _).bind fun _ _ => .ok _
  | metadata _ | processor | other => exact .error (contractError_refusal _)

theorem normalizeProfiles_refuses (profiles : List Value) :
    RaisesIn Refusal (normalizeProfiles profiles) := by
  induction profiles with
  | nil => exact .ok _
  | cons profile rest ih =>
    cases profile with
    | str s =>
      unfold normalizeProfiles
      split
      · exact .error (contractError_refusal _)
      · exact ih.bind fun _ _ => .ok _
    | _ => exact .error (contractError_refusal _)

theorem pluginMetadata_refuses (pluginId family version contractVersion : String)
    (profiles : List Value) :
    RaisesIn Refusal (pluginMetadata pluginId family version contractVersion profiles) := by
  unfold pluginMetadata
  split
  · exact .error (contractError_refusal _)
  split
  · exact .error (contractError_refusal _)
  split
  · exact .error (contractError_refusal _)
  split
  · exact .error (contractError_refusal _)
  exact (normalizeProfiles_refuses profiles).bind fun _ _ => .ok _

theorem validateCapabilityCombinations_refuses (metadata : PluginMetadata)
    (capabilities : PluginCapabilities) :
    RaisesIn Refusal (validateCapabilityCombinations metadata capabilities) := by
  refine (ensure_refuses _ _).bind fun _ _ => (ensure_refuses _ _).bind fun _ _ => ?_
  cases metadata.family <;> exact ensure_refuses _ _

theorem tryProcessor_refuses (exports : Exports) : RaisesIn Refusal (tryProcessor exports) := by
  unfold tryProcessor
  split
  · exact .error (invalidProcessorError_refusal _)
  split
  · exact .ok _
  · exact .error (invalidProcessorError_refusal _)

theorem validateFamilyExports_refuses (exports : Exports) (family : PluginFamily) :
    RaisesIn Refusal (validateFamilyExports exports family) := by
  cases family with
  | device =>
    refine (requireCallable_refuses exports _).bind fun _ _ => ?_
    exact (requireCallable_refuses exports _).bind fun _ _ => tryProcessor_refuses exports
  | pc =>
    exact (requireCallable_refuses exports _).bind fun _ _ => requireCallable_refuses exports _

section
variable [Interpreter]

theorem textEntry_error {entries : List (String × Entry)} {field : String} :
    textEntry entries field = .error e ↔ broken entries field = some e := by
  unfold textEntry broken
  cases entries.lookup field with
  | none => simp
  | some entry => cases entry <;> simp [Entry.str]

theorem textEntry_ok {entries : List (String × Entry)} {field : String}
    (h : broken entries field = none) : ∃ text, textEntry entries field = .ok text := by
  unfold textEntry
  unfold broken at h
  cases hl : entries.lookup field with
  | none => exact ⟨_, rfl⟩
  | some entry =>
    cases entry with
    | value v => exact ⟨_, rfl⟩
    | unprintable e => simp [hl] at h

theorem textEntry_broken {entries : List (String × Entry)} {field : String}
    (h : textEntry entries field = .ok text) : broken entries field = none := by
  cases hb : broken entries field with
  | none => rfl
  | some e => exact absurd (h ▸ textEntry_error.mpr hb) (by simp)

theorem metadataOfMapping_raises (entries : List (String × Entry)) (profiles : List Value) :
    RaisesIn (fun e => Refusal e ∨ firstBroken entries = some e)
      (metadataOfMapping entries profiles) := by
  refine .bind (fun e h => .inr ?_) fun _ hid => ?_
  · simp [firstBroken, textEntry_error.mp h]
  refine .bind (fun e h => .inr ?_) fun _ hfam => ?_
  · simp [firstBroken, textEntry_broken hid, textEntry_error.mp h]
  refine .bind (fun e h => .inr ?_) fun _ hver => ?_
  · simp [firstBroken, textEntry_broken hid, textEntry_broken hfam, textEntry_error.mp h]
  refine .bind (fun e h => .inr ?_) fun _ _ => ?_
  · simp [firstBroken, textEntry_broken hid, textEntry_broken hfam, textEntry_broken hver,
      textEntry_error.mp h]
  exact (pluginMetadata_refuses _ _ _ _ _).mono fun e => .inl

theorem metadataOfMapping_broken {entries : List (String × Entry)}
    (h : firstBroken entries = some e) (profiles : List Value) :
    metadataOfMapping entries profiles = .error e := by
  simp only [firstBroken, List.findSome?_cons, List.findSome?_nil] at h
  unfold metadataOfMapping
  cases hid : broken entries "plugin_id" with
  | some e' =>
    obtain rfl : e' = e := by simpa [hid] using h
    rw [textEntry_error.mpr hid]
    rfl
  | none =>
  obtain ⟨pluginId, hid'⟩ := textEntry_ok hid
  rw [hid']
  cases hfam : broken entries "family" with
  | some e' =>
    obtain rfl : e' = e := by simpa [hid, hfam] using h
    rw [textEntry_error.mpr hfam]
    rfl
  | none =>
  obtain ⟨family, hfam'⟩ := textEntry_ok hfam
  rw [hfam']
  cases hver : broken entries "version" with
  | some e' =>
    obtain rfl : e' = e := by simpa [hid, hfam, hver] using h
    rw [textEntry_error.mpr hver]
    rfl
  | none =>
  obtain ⟨version, hver'⟩ := textEntry_ok hver
  have hcon : broken entries "contract_version" = some e := by
    cases hcon : broken entries "contract_version" with
    | none => simp [hid, hfam, hver, hcon] at h
    | some e' => simpa [hid, hfam, hver, hcon] using h
  rw [hver', textEntry_error.mpr hcon]
  rfl

theorem coerceMetadata_raises (value : Obj) :
    RaisesIn (fun e => Refusal e ∨ ∃ entries profiles, value = .mapping entries ∧
      profileEntries entries = some profiles ∧ firstBroken entries = some e)
      (coerceMetadata value) := by
  cases value with
  | metadata metadata => exact .ok _
  | mapping entries =>
    simp only [coerceMetadata]
    split
    · exact .error (Or.inl (contractError_refusal _))
    · next profiles hp =>
      refine (metadataOfMapping_raises entries profiles).mono fun e he => he.imp_right fun he => ?_
      exact ⟨entries, profiles, rfl, hp, he⟩
  | capabilities _ | processor | other => exact .error (Or.inl (contractError_refusal _))

/-- What leaves the `try` block is a refusal of the contract or comes from foreign code. -/
theorem inspect_raises (exports : Exports) :
    RaisesIn (fun e => Refusal e ∨ Raises exports e) (inspect exports) := by
  refine .bind ?_ fun metadata ha => .bind ?_ fun value _ => .bind ?_ fun _ _ => .ok _
  · refine .bind ((requireCallable_refuses _ _).mono fun _ => .inl) fun _ hm => ?_
    refine .bind ((requireCallable_refuses _ _).mono fun _ => .inl) fun _ hc => ?_
    replace hm := requireCallable_ok.mp hm
    replace hc := requireCallable_ok.mp hc
    refine .bind (fun e h => .inr (.metadata hm hc h)) fun value hv => ?_
    refine .bind (fun e h => .inr (.capabilities hm hc hv h)) fun _ hcv => ?_
    refine .bind ((coerceMetadata_raises value).mono ?_) fun metadata _ => ?_
    · rintro e (h | ⟨entries, profiles, rfl, hp, h⟩)
      · exact .inl h
      · exact .inr (.text hm hc hv hcv hp h)
    refine .mono (.bind (coerceCapabilities_refuses _) fun _ _ => ?_) fun _ => .inl
    refine (ensure_refuses _ _).bind fun _ _ => ?_
    refine (validateCapabilityCombinations_refuses _ _).bind fun _ _ => ?_
    refine (validateFamilyExports_refuses _ _).bind fun _ _ => ?_
    exact (ensure_refuses _ _).bind fun _ _ => .ok _
  · exact fun e h => .inr (.again (validatePluginContract_ok.mp ha) h)
  · exact (coerceCapabilities_refuses value).mono fun _ => .inl

theorem Raises.inspect {exports : Exports} (h : Raises exports e) : inspect exports = .error e := by
  cases h with
  | metadata hm hc h =>
    have hm := requireCallable_ok (u := ()) |>.mpr hm
    have hc := requireCallable_ok (u := ()) |>.mpr hc
    simp [Plugins.inspect, validatePluginContract, hm, hc, h, bind, Except.bind]
  | capabilities hm hc hv h =>
    have hm := requireCallable_ok (u := ()) |>.mpr hm
    have hc := requireCallable_ok (u := ()) |>.mpr hc
    simp [Plugins.inspect, validatePluginContract, hm, hc, hv, h, bind, Except.bind]
  | text hm hc hv hcv hp h =>
    have hm := requireCallable_ok (u := ()) |>.mpr hm
    have hc := requireCallable_ok (u := ()) |>.mpr hc
    simp [Plugins.inspect, validatePluginContract, hm, hc, hv, hcv, bind, Except.bind,
      coerceMetadata, hp, metadataOfMapping_broken h]
  | again ha h =>
    simp [Plugins.inspect, validatePluginContract_ok.mpr ha, h, bind, Except.bind]

end

end DpostV2.Plugins
