import DpostV2.Lib.Python

/-!
# Processing contexts

`ProcessingContext` as `for_candidate` builds it: its texts are stripped and
not empty, and its paths hold no NUL. The retry, failure and route
fields keep their defaults in everything modelled and are left out.
-/

namespace DpostV2

/-- What `_as_non_empty_string` gives back. -/
def Stripped (s : String) : Prop := s ≠ "" ∧ strip s = s

theorem stripped_strip {s : String} (h : blank s = false) : Stripped (strip s) :=
  ⟨by simpa [blank] using h, strip_strip s⟩

theorem Stripped.not_blank {s : String} (h : Stripped s) : blank s = false := by
  unfold blank
  rw [h.2]
  simpa using h.1

/-- A path token: stripped, and without NUL. -/
def PathToken (s : String) : Prop := Stripped s ∧ Char.ofNat 0 ∉ s.toList

instance : DecidablePred Stripped := fun _ => inferInstanceAs (Decidable (_ ∧ _))

instance : DecidablePred PathToken := fun _ => inferInstanceAs (Decidable (_ ∧ _))

structure ProcessingContext where
  sourcePath : String
  eventType : String
  observedAt : Seconds
  eventId : String
  traceId : String
  forcePaths : List String
  sourcePath_ok : PathToken sourcePath
  eventType_ok : Stripped eventType
  eventId_ok : Stripped eventId
  traceId_ok : Stripped traceId
  forcePaths_ok : ∀ f ∈ forcePaths, PathToken f

def contextError (cls : List String) (message : String) : Exn :=
  { mro := cls ++ ["ContextValidationError", "ValueError", "Exception"], message }

def invalidCandidateContext (message : String) : Exn :=
  contextError ["InvalidCandidateContextError"] message

/-- `_as_non_empty_string`. -/
def asNonEmptyString (value : Value) (fieldName : String) :
    Except Exn { s : String // Stripped s } :=
  match value with
  | .str s =>
    if h : blank s = false then .ok ⟨strip s, stripped_strip h⟩
    else .error (contextError [] (fieldName ++ " must be a non-empty string"))
  | _ => .error (contextError [] (fieldName ++ " must be a non-empty string"))

theorem asNonEmptyString_ok {s : String} (h : blank s = false) (fieldName : String) :
    asNonEmptyString (.str s) fieldName = .ok ⟨strip s, stripped_strip h⟩ := by
  simp [asNonEmptyString, h]

theorem asNonEmptyString_blank {s : String} (h : blank s = true) (fieldName : String) :
    asNonEmptyString (.str s) fieldName =
      .error (contextError [] (fieldName ++ " must be a non-empty string")) := by
  simp [asNonEmptyString, h]

/-- `_validate_path_token`. -/
def validatePathToken (path fieldName : String) : Except Exn { s : String // PathToken s } :=
  if h : blank path = false then
    if hn : Char.ofNat 0 ∈ (strip path).toList then
      .error (invalidCandidateContext (fieldName ++ " contains invalid token"))
    else .ok ⟨strip path, stripped_strip h, hn⟩
  else .error (invalidCandidateContext (fieldName ++ " must be non-empty"))

def normalizeForcePath : Value → Except Exn { s : String // PathToken s }
  | .str s => validatePathToken s "force_paths entry"
  | _ => .error (invalidCandidateContext "force_paths entries must be strings")

/-- `_normalize_force_paths`. -/
def normalizeForcePaths : Value → Except Exn (List { s : String // PathToken s })
  | .none => .ok []
  | .str s => do return [← normalizeForcePath (.str s)]
  | .tuple xs | .list xs => xs.mapM normalizeForcePath
  | _ => .error (invalidCandidateContext "force_paths must be a sequence of paths")

/-- `ProcessingContext.for_candidate`, with the event and trace id of the runtime context. -/
def ProcessingContext.forCandidate (candidateEvent : Dict) (runtimeEventId runtimeTraceId : Value) :
    Except Exn ProcessingContext := do
  let sourcePath ← asNonEmptyString (candidateEvent.getNone "source_path") "source_path"
  let sourcePath ← validatePathToken sourcePath.val "source_path"
  let eventType ← asNonEmptyString (candidateEvent.getNone "event_type") "event_type"
  match candidateEvent.getNone "observed_at" with
  | .datetime observedAt => do
    let forcePaths ← normalizeForcePaths (candidateEvent.getNone "force_paths")
    let eventId ← asNonEmptyString (candidateEvent.getD "event_id" runtimeEventId) "event_id"
    let traceId ← asNonEmptyString (candidateEvent.getD "trace_id" runtimeTraceId) "trace_id"
    return { sourcePath := sourcePath.val, eventType := eventType.val, observedAt,
             eventId := eventId.val, traceId := traceId.val, forcePaths := forcePaths.map (·.val),
             sourcePath_ok := sourcePath.property, eventType_ok := eventType.property,
             eventId_ok := eventId.property, traceId_ok := traceId.property,
             forcePaths_ok := by
              rintro _ hf
              obtain ⟨f, -, rfl⟩ := List.mem_map.mp hf
              exact f.property }
  | _ => throw (invalidCandidateContext "observed_at must be a datetime")

end DpostV2
