import DpostV2.Lib.PurePath

/-!
# The ingestion candidate

`Candidate` and the steps that enrich it, and the processor result. What
`Candidate.from_event` reads of an event and of the file facts is raw; a
built candidate is typed, its identity a digest and so without blanks, and
its payload is always JSON (`toPayload_ok`).
-/

namespace DpostV2

section
variable [Interpreter]

def candidateError (cls message : String) : Exn :=
  { mro := [cls, "CandidateError", "ValueError", "Exception"], message }

structure Candidate where
  identityToken : String
  sourcePath : String
  eventKind : String
  observedAt : Seconds
  size : Option Int := none
  modifiedAt : Option Seconds := none
  fingerprint : Option String := none
  pluginId : Option String := none
  processorKey : Option String := none
  targetPath : Option String := none
  routeTokens : Option (List (String × String)) := none
  recordId : Option String := none
  persistedPath : Option String := none
  identityToken_ok : Unspaced identityToken

def allowedEventKinds : List String := ["created", "modified", "moved", "manual"]

/-- `convert(value) if value is not None else None`. -/
def unlessNone (convert : Value → Except Exn α) : Value → Except Exn (Option α)
  | .none => .ok none
  | v => (convert v).map some

def Candidate.fromEvent (event fsFacts : Dict) : Except Exn Candidate := do
  let rawPath := strip (pyStr (event.getD "path" (.str "")))
  if rawPath = "" then
    throw (candidateError "CandidatePathError" "Candidate source path must be non-empty.")
  else do
  let normalizedPath := (PurePath.parse rawPath).str
  let eventKind := Interpreter.lower (strip (pyStr (event.getD "event_kind" (.str ""))))
  if eventKind ∉ allowedEventKinds then
    throw (candidateError "CandidateEventTypeError"
      ("Unsupported candidate event kind: '" ++ eventKind ++ "'."))
  else do
  let observedAt ← pyFloat (event.getD "observed_at" (.float 0))
  let size := fsFacts.getNone "size"
  let modifiedAt := fsFacts.getNone "modified_at"
  let fingerprint := fsFacts.getNone "fingerprint"
  let identityPayload := Value.dict [("path", .str normalizedPath), ("event_kind", .str eventKind),
    ("observed_at", .float observedAt), ("size", size), ("modified_at", modifiedAt),
    ("fingerprint", fingerprint)]
  match identityPayload.toJson with
  | none => throw (typeError "Object is not JSON serializable")
  | some _ => do
    let size ← unlessNone pyInt size
    let modifiedAt ← unlessNone pyFloat modifiedAt
    let fingerprint ← unlessNone (fun v => .ok (pyStr v)) fingerprint
    return { identityToken := Interpreter.jsonDigest identityPayload, sourcePath := normalizedPath,
             eventKind, observedAt, size, modifiedAt, fingerprint,
             identityToken_ok := (Interpreter.jsonDigest_hex _).unspaced }

def Candidate.withResolution (c : Candidate) (pluginId processorKey : String) :
    Except Exn Candidate :=
  if pluginId = "" ∨ processorKey = "" then
    .error (candidateError "CandidateTransitionError"
      "Resolve enrichment requires plugin_id and processor_key.")
  else .ok { c with pluginId := some pluginId, processorKey := some processorKey }

def Candidate.withRoute (c : Candidate) (targetPath : String)
    (routeTokens : List (String × String)) : Except Exn Candidate :=
  if c.pluginId.isNone ∨ c.processorKey.isNone then
    .error (candidateError "CandidateTransitionError"
      "Route enrichment requires resolution to be present first.")
  else if blank targetPath then
    .error (candidateError "CandidateTransitionError" "Route enrichment requires target_path.")
  else .ok { c with targetPath := some (normalizePath targetPath), routeTokens := some routeTokens }

def Candidate.withPersistResult (c : Candidate) (recordId persistedPath : String) :
    Except Exn Candidate :=
  if c.targetPath.isNone then
    .error (candidateError "CandidateTransitionError"
      "Persist enrichment requires a routed target_path first.")
  else if recordId = "" then
    .error (candidateError "CandidateTransitionError" "Persist enrichment requires record_id.")
  else .ok { c with recordId := some recordId, persistedPath := some (normalizePath persistedPath) }

/-- `None` or the converted field. -/
def optional (convert : α → Value) : Option α → Value
  | none => .none
  | some a => convert a

def Candidate.payloadEntries (c : Candidate) : List (String × Value) :=
  [("identity_token", .str c.identityToken), ("source_path", .str c.sourcePath),
    ("event_kind", .str c.eventKind), ("observed_at", .float c.observedAt),
    ("size", optional .int c.size), ("modified_at", optional .float c.modifiedAt),
    ("fingerprint", optional .str c.fingerprint), ("plugin_id", optional .str c.pluginId),
    ("processor_key", optional .str c.processorKey), ("target_path", optional .str c.targetPath),
    ("route_tokens", .dict ((c.routeTokens.getD []).map fun (k, v) => (k, .str v))),
    ("record_id", optional .str c.recordId), ("persisted_path", optional .str c.persistedPath)]

def Candidate.payload (c : Candidate) : Dict :=
  { entries := c.payloadEntries, nodup := by simp [Candidate.payloadEntries] }

def Candidate.toPayload (c : Candidate) : Except Exn Dict :=
  match (Value.dict c.payload.entries).toJson with
  | none => .error (candidateError "CandidateSerializationError" "Object is not JSON serializable")
  | some _ => .ok c.payload

end

theorem optional_toJson {convert : α → Value} (h : ∀ a, ((convert a).toJson).isSome)
    (x : Option α) : ((optional convert x).toJson).isSome := by
  cases x with
  | none => rfl
  | some a => exact h a

theorem Candidate.payload_toJson (c : Candidate) :
    ((Value.dict c.payload.entries).toJson).isSome := by
  have htokens : (Value.toJson
    (.dict ((c.routeTokens.getD []).map fun (k, v) => (k, .str v)))).isSome := by
    rw [Value.toJson, Option.isSome_map]
    apply toJsonEntries_isSome
    simp only [List.mem_map, Prod.exists, forall_exists_index, and_imp]
    rintro _ k v _ rfl
    rfl
  rw [Value.toJson, Option.isSome_map]
  apply toJsonEntries_isSome
  simp only [Candidate.payload, Candidate.payloadEntries, List.mem_cons, List.not_mem_nil, or_false,
    forall_eq_or_imp, forall_eq]
  refine ⟨rfl, rfl, rfl, rfl, ?_, ?_, ?_, ?_, ?_, ?_, htokens, ?_, ?_⟩ <;>
    exact optional_toJson (fun _ => rfl) _

theorem Candidate.toPayload_ok (c : Candidate) : c.toPayload = .ok c.payload := by
  obtain ⟨j, hj⟩ := Option.isSome_iff_exists.mp c.payload_toJson
  simp [Candidate.toPayload, hj]

-- ---------------------------------------------------------------------------
-- Processor results
-- ---------------------------------------------------------------------------

def invalidProcessor (message : String) : Exn :=
  { mro := ["InvalidProcessorError", "PluginContractError", "ValueError", "Exception"], message }

/-- `ProcessorResult`: what its `__post_init__` lets through. -/
structure ProcessorResult where
  finalPath : String
  datatype : String
  forcePaths : List String
  finalPath_ok : blank finalPath = false
  datatype_ok : blank datatype = false
  forcePaths_ok : ∀ p ∈ forcePaths, p ≠ "" ∧ strip p = p
  deriving DecidableEq

/-- The loop over `force_paths` of `__post_init__`. -/
def stripForcePaths : List Value → Except Exn { ps : List String // ∀ p ∈ ps, p ≠ "" ∧ strip p = p }
  | [] => .ok ⟨[], by simp⟩
  | .str path :: rest =>
    if h : blank path = true then .error (invalidProcessor "force_paths entries must be non-empty")
    else do
      let ⟨ps, hps⟩ ← stripForcePaths rest
      return ⟨strip path :: ps, by
        intro p hp
        rcases List.mem_cons.mp hp with rfl | hp
        · exact ⟨by simpa [blank] using h, strip_strip path⟩
        · exact hps p hp⟩
  | _ :: _ => .error (invalidProcessor "force_paths entries must be non-empty")

/-- `ProcessorResult(final_path=.., datatype=.., force_paths=..)`. -/
def ProcessorResult.make (finalPath datatype : String) (forcePaths : List Value) :
    Except Exn ProcessorResult :=
  if hf : blank finalPath = true then
    .error (invalidProcessor "processor result final_path must be non-empty")
  else if hd : blank datatype = true then
    .error (invalidProcessor "processor result datatype must be non-empty")
  else do
    let ⟨ps, hps⟩ ← stripForcePaths forcePaths
    return { finalPath, datatype, forcePaths := ps, finalPath_ok := nonblank hf,
             datatype_ok := nonblank hd, forcePaths_ok := hps }

/-- What a processor hands back: the dataclass itself, or anything else. -/
inductive ProcessorOutput where
  | result (r : ProcessorResult)
  | value (v : Value)

def validateProcessorResult [Interpreter] : ProcessorOutput → Except Exn ProcessorResult
  | .result r => .ok r
  | .value v =>
    match v.asDict? with
    | none => .error (invalidProcessor
        "processor result must be ProcessorResult or mapping payload")
    | some result =>
      match result.getD "force_paths" (.tuple []) with
      | .list forcePaths | .tuple forcePaths =>
        ProcessorResult.make (pyStr (result.getD "final_path" (.str "")))
          (pyStr (result.getD "datatype" (.str ""))) forcePaths
      | _ => .error (invalidProcessor "force_paths must be tuple/list of strings")

theorem stripForcePaths_strs {paths : List String}
    {ps : { l : List String // ∀ p ∈ l, p ≠ "" ∧ strip p = p }}
    (h : stripForcePaths (paths.map .str) = .ok ps) : ps.1 = paths.map strip := by
  induction paths generalizing ps with
  | nil => cases h; rfl
  | cons path paths ih =>
    rw [List.map_cons, stripForcePaths] at h
    split at h
    · cases h
    · obtain ⟨qs, hqs, h⟩ := except_bind_ok.mp h
      cases h
      simp [ih hqs]

end DpostV2
