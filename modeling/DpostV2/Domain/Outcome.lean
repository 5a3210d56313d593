import DpostV2.Lib.Float

/-!
# The processing outcome and its wire formats

A `ProcessingOutcome` carries that its constructor accepts it. There are two ways back to one: from
the dict of `to_dict`, whose values may be anything, and from the tokens of a classification.
`wire_round_trip`: both invert what is written, and what a dict is read as is read again.
-/

namespace DpostV2.Domain

-- ---------------------------------------------------------------------------
-- Errors
-- ---------------------------------------------------------------------------

def processingError (cls message : String) : Exn :=
  { mro := [cls, "ProcessingModelError", "ValueError", "Exception"], message }

abbrev statusError := processingError "ProcessingStatusError"
abbrev consistencyError := processingError "ProcessingOutcomeConsistencyError"
abbrev metadataError := processingError "ProcessingOutcomeMetadataError"
abbrev namespaceError := processingError "ProcessingReasonNamespaceError"

def keyError (key : String) : Exn :=
  { mro := ["KeyError", "LookupError", "Exception"], message := key }

-- ---------------------------------------------------------------------------
-- Status and reason
-- ---------------------------------------------------------------------------

inductive ProcessingStatus where
  | success
  | rejected
  | failed
  | retry
  deriving DecidableEq, Repr

namespace ProcessingStatus

def value : ProcessingStatus → String
  | success => "success"
  | rejected => "rejected"
  | failed => "failed"
  | retry => "retry"

def all : List ProcessingStatus := [success, rejected, failed, retry]

/-- `ProcessingStatus(token)`. -/
def ofToken? (token : String) : Option ProcessingStatus :=
  all.find? fun status => status.value == token

@[simp] theorem ofToken?_value (status : ProcessingStatus) :
    ofToken? status.value = some status := by
  cases status <;> decide

end ProcessingStatus

def coerceStatus (statusToken : String) : Except Exn ProcessingStatus :=
  match ProcessingStatus.ofToken? statusToken with
  | some status => .ok status
  | none => .error (statusError ("Unknown processing status '" ++ statusToken ++ "'."))

@[simp] theorem coerceStatus_value (status : ProcessingStatus) :
    coerceStatus status.value = .ok status := by
  simp [coerceStatus]

def allowedReasonNamespaces : List String :=
  ["success", "validation", "failure", "retry", "processing", "error"]

/-- `ProcessingReason.__post_init__`. -/
def reasonPostInit (reasonNamespace code : String) : Except Exn Unit :=
  if reasonNamespace ∉ allowedReasonNamespaces then
    .error (namespaceError ("Unknown reason namespace '" ++ reasonNamespace ++ "'."))
  else if code = "" then .error (consistencyError "Reason code must be non-empty.")
  else .ok ()

structure ProcessingReason where
  reasonNamespace : String
  code : String
  accepted : reasonPostInit reasonNamespace code = .ok ()

namespace ProcessingReason

def make (reasonNamespace code : String) : Except Exn ProcessingReason :=
  match h : reasonPostInit reasonNamespace code with
  | .ok () => .ok ⟨reasonNamespace, code, h⟩
  | .error e => .error e

def token (reason : ProcessingReason) : String := reason.reasonNamespace ++ "." ++ reason.code

@[simp] theorem make_self (reason : ProcessingReason) :
    make reason.reasonNamespace reason.code = .ok reason := by
  unfold make
  split
  · rfl
  · next h => rw [reason.accepted] at h; cases h

theorem namespace_allowed (reason : ProcessingReason) :
    reason.reasonNamespace ∈ allowedReasonNamespaces := by
  by_contra h
  have := reason.accepted
  simp [reasonPostInit, h] at this

/-- No namespace has a dot in it. -/
theorem namespace_undotted (reason : ProcessingReason) : '.' ∉ reason.reasonNamespace.toList := by
  have hall : ∀ name ∈ allowedReasonNamespaces, '.' ∉ name.toList := by decide
  exact hall _ reason.namespace_allowed

end ProcessingReason

-- ---------------------------------------------------------------------------
-- The outcome
-- ---------------------------------------------------------------------------

/-- A number of seconds as it was given. -/
inductive Delay where
  | int (n : Int)
  | float (x : PyFloat)
  deriving DecidableEq, Repr

/-- The number it is, whatever its class. -/
def Delay.number : Delay → PyFloat
  | .int n => .finite n
  | .float x => x

theorem map_number_float (delay : Option Delay) :
    (delay.map fun d => Delay.float d.number).map Delay.number = delay.map Delay.number := by
  cases delay <;> rfl

/-- The retry part of `ProcessingOutcome.__post_init__`. -/
def retryPostInit (status : ProcessingStatus) (retryDelaySeconds : Option Delay)
    (retryAttempt : Option Int) : Except Exn Unit :=
  match status, retryDelaySeconds, retryAttempt with
  | .retry, some delay, some attempt =>
    if delay.number.isNegative then
      .error (metadataError "retry_delay_seconds must be >= 0 for retry outcomes.")
    else if attempt < 0 then
      .error (metadataError "retry_attempt must be >= 0 for retry outcomes.")
    else .ok ()
  | .retry, _, _ =>
    .error (metadataError "Retry outcomes require retry_delay_seconds and retry_attempt.")
  | _, none, none => .ok ()
  | _, _, _ => .error (metadataError "Non-retry outcomes must not include retry metadata.")

/-- `ProcessingOutcome.__post_init__`. -/
def outcomePostInit (candidateId : String) (status : ProcessingStatus) (reason : ProcessingReason)
    (retryDelaySeconds : Option Delay) (retryAttempt : Option Int) : Except Exn Unit := do
  if candidateId = "" then throw (metadataError "candidate_id must be non-empty.")
  retryPostInit status retryDelaySeconds retryAttempt
  if status = .success ∧ reason.reasonNamespace ∈ ["failure", "error", "retry"] then
    throw (consistencyError "Success outcome cannot use failure/error/retry reason namespace.")

/-- A dict of texts. -/
structure Metadata where
  dict : Dict
  texts : ∀ e ∈ dict.entries, ∃ s, e.2 = .str s

namespace Metadata

/-- `{key: value for key, value in items}`. -/
def ofItems (items : List (String × String)) : Metadata where
  dict := .ofEntries (items.map fun item => (item.1, .str item.2))
  texts e he := by
    obtain ⟨item, -, rfl⟩ := List.mem_map.mp (Dict.mem_ofEntries he)
    exact ⟨item.2, rfl⟩

/-- `metadata.get(key, "")`. -/
def getText (metadata : Metadata) (key : String) : String :=
  match metadata.dict.get? key with
  | some (.str s) => s
  | _ => ""

end Metadata

structure ProcessingOutcome where
  candidateId : String
  status : ProcessingStatus
  reason : ProcessingReason
  retryDelaySeconds : Option Delay
  retryAttempt : Option Int
  metadata : Metadata
  accepted : outcomePostInit candidateId status reason retryDelaySeconds retryAttempt = .ok ()

namespace ProcessingOutcome

def make (candidateId : String) (status : ProcessingStatus) (reason : ProcessingReason)
    (retryDelaySeconds : Option Delay) (retryAttempt : Option Int) (metadata : Metadata) :
    Except Exn ProcessingOutcome :=
  match h : outcomePostInit candidateId status reason retryDelaySeconds retryAttempt with
  | .ok () => .ok ⟨candidateId, status, reason, retryDelaySeconds, retryAttempt, metadata, h⟩
  | .error e => .error e

/-- `self == other`: an integer and a float are compared as numbers, and a float is equal to
itself. -/
structure Equals (o o' : ProcessingOutcome) : Prop where
  candidateId : o.candidateId = o'.candidateId
  status : o.status = o'.status
  reason : o.reason = o'.reason
  retryDelaySeconds : o.retryDelaySeconds.map Delay.number = o'.retryDelaySeconds.map Delay.number
  retryAttempt : o.retryAttempt = o'.retryAttempt
  metadata : o.metadata = o'.metadata

theorem make_ok {candidateId : String} {status : ProcessingStatus} {reason : ProcessingReason}
    {delay : Option Delay} {attempt : Option Int} {metadata : Metadata} {o : ProcessingOutcome} :
    make candidateId status reason delay attempt metadata = .ok o ↔
      o.candidateId = candidateId ∧ o.status = status ∧ o.reason = reason ∧
        o.retryDelaySeconds = delay ∧ o.retryAttempt = attempt ∧ o.metadata = metadata := by
  constructor
  · intro h
    unfold make at h
    split at h
    · cases h
      exact ⟨rfl, rfl, rfl, rfl, rfl, rfl⟩
    · cases h
  · rintro ⟨rfl, rfl, rfl, rfl, rfl, rfl⟩
    unfold make
    split
    · rfl
    · next h => rw [o.accepted] at h; cases h

@[simp] theorem make_self (o : ProcessingOutcome) :
    make o.candidateId o.status o.reason o.retryDelaySeconds o.retryAttempt o.metadata = .ok o :=
  make_ok.mpr ⟨rfl, rfl, rfl, rfl, rfl, rfl⟩

end ProcessingOutcome

-- ---------------------------------------------------------------------------
-- Values on the wire
-- ---------------------------------------------------------------------------

/-- A value of any other class, by what a decoder asks of it; `items` are the texts of the keys and
values of the dict it makes. -/
structure WireObject where
  text : Except Exn String
  asFloat : Except Exn PyFloat
  asInt : Except Exn Int
  items : Except Exn (List (String × String))

inductive WireValue where
  | none
  | int (n : Int)
  | float (x : PyFloat)
  | str (s : String)
  | dict (d : Dict)
  | object (o : WireObject)

/-- The doubles of the runtime. -/
class Doubles where
  /-- `float()` of a text; `none` where it raises `ValueError`. -/
  parse : String → Option PyFloat
  /-- The double nearest to an integer. -/
  nearest : Int → Seconds

/-- A payload answers `payload.get(key)`, with `none` where the key is missing. -/
abbrev WirePayload := String → Option WireValue

/-- `payload[key]`. -/
def WirePayload.item (payload : WirePayload) (key : String) : Except Exn WireValue :=
  match payload key with
  | some v => .ok v
  | Option.none => .error (keyError key)

/-- `payload.get(key)`. -/
def WirePayload.getNone (payload : WirePayload) (key : String) : WireValue :=
  (payload key).getD .none

namespace WireValue

section
variable [Interpreter] [Doubles]

/-- `str(value)`. -/
def text : WireValue → Except Exn String
  | .none => .ok (pyStr .none)
  | .int n => .ok (pyStr (.int n))
  | .float (.finite q) => .ok (pyStr (.float q))
  | .float (.inf negative) => .ok (if negative then "-inf" else "inf")
  | .float .nan => .ok "nan"
  | .str s => .ok s
  | .dict d => .ok (pyStr (.dict d.entries))
  | .object o => o.text

/-- `float(value)`. -/
def toFloat : WireValue → Except Exn PyFloat
  | .int n =>
    if n.natAbs < floatLimit then .ok (.finite (Doubles.nearest n))
    else .error (overflowError "int too large to convert to float")
  | .float x => .ok x
  | .str s => match Doubles.parse s with
    | some x => .ok x
    | Option.none => .error (valueError "could not convert string to float")
  | .none | .dict _ => .error (typeError "float() argument must be a string or a real number")
  | .object o => o.asFloat

/-- `int(value)`. -/
def toInt : WireValue → Except Exn Int
  | .int n => .ok n
  | .float x => x.toInt
  | .str s => match Interpreter.parseInt s with
    | some n => .ok n
    | Option.none => .error (valueError "invalid literal for int() with base 10")
  | .none | .dict _ =>
    .error (typeError "int() argument must be a string, a bytes-like object or a real number")
  | .object o => o.asInt

/-- `{str(k): str(v) for k, v in dict(value).items()}`. -/
def toMetadata : WireValue → Except Exn Metadata
  | .dict d => .ok (.ofItems (d.entries.map fun e => (e.1, pyStr e.2)))
  | .str "" => .ok (.ofItems [])
  | .str _ =>
    .error (valueError "dictionary update sequence element #0 has length 1; 2 is required")
  | .object o => o.items.map .ofItems
  | .none | .int _ | .float _ => .error (typeError "object is not iterable")

end

/-- `f(value) if value is not None else None`. -/
def optional (f : WireValue → Except Exn α) : WireValue → Except Exn (Option α)
  | .none => .ok Option.none
  | v => (f v).map some

end WireValue

def Delay.wire : Delay → WireValue
  | .int n => .int n
  | .float x => .float x

/-- No digit is lost in a float. -/
def Delay.Representable [Doubles] : Delay → Prop
  | .int n => n.natAbs < floatLimit ∧ Doubles.nearest n = n
  | .float _ => True

-- ---------------------------------------------------------------------------
-- Encoding and decoding
-- ---------------------------------------------------------------------------

def ProcessingOutcome.toDict (o : ProcessingOutcome) : WirePayload := fun key =>
  [("candidate_id", .str o.candidateId), ("status", .str o.status.value),
    ("reason_namespace", .str o.reason.reasonNamespace), ("reason_code", .str o.reason.code),
    ("retry_delay_seconds", (o.retryDelaySeconds.map Delay.wire).getD .none),
    ("retry_attempt", (o.retryAttempt.map WireValue.int).getD .none),
    ("metadata", WireValue.dict o.metadata.dict)].lookup key

section
variable [Interpreter] [Doubles]

def outcomeFromDict (payload : WirePayload) : Except Exn ProcessingOutcome := do
  let status ← coerceStatus (← (← payload.item "status").text)
  let candidateId ← (← payload.item "candidate_id").text
  let reasonNamespace ← (← payload.item "reason_namespace").text
  let code ← (← payload.item "reason_code").text
  let reason ← ProcessingReason.make reasonNamespace code
  let delay ← (payload.getNone "retry_delay_seconds").optional WireValue.toFloat
  let attempt ← (payload.getNone "retry_attempt").optional WireValue.toInt
  let metadata ← ((payload "metadata").getD (.dict .empty)).toMetadata
  ProcessingOutcome.make candidateId status reason (delay.map .float) attempt metadata

end

/-- A text before and after its first dot; `none` where it has no dot. -/
def splitDot (text : String) : Option (String × String) :=
  match text.toList.dropWhile (· ≠ '.') with
  | [] => none
  | _ :: code => some (String.ofList (text.toList.takeWhile (· ≠ '.')), String.ofList code)

def outcomeFromClassification (candidateId statusToken reasonToken : String)
    (retryDelaySeconds : Option Delay) (retryAttempt : Option Int) (metadata : Metadata) :
    Except Exn ProcessingOutcome := do
  let status ← coerceStatus statusToken
  match splitDot reasonToken with
  | none => throw (consistencyError
      "reason_token must contain namespace and code separated by '.'.")
  | some (reasonNamespace, code) =>
    let reason ← ProcessingReason.make reasonNamespace code
    ProcessingOutcome.make candidateId status reason retryDelaySeconds retryAttempt metadata

-- ---------------------------------------------------------------------------
-- Round trips
-- ---------------------------------------------------------------------------

section
variable [Interpreter] [Doubles]

omit [Doubles] in
@[simp] theorem Metadata.ofItems_self (metadata : Metadata) :
    Metadata.ofItems (metadata.dict.entries.map fun e => (e.1, pyStr e.2)) = metadata := by
  obtain ⟨dict, texts⟩ := metadata
  have hself : dict.entries.map (fun e => (e.1, Value.str (pyStr e.2))) = dict.entries := by
    conv_rhs => rw [← List.map_id dict.entries]
    refine List.map_congr_left fun e he => ?_
    obtain ⟨s, hs⟩ := texts e he
    obtain ⟨key, value⟩ := e
    subst hs
    rfl
  simp only [ofItems, List.map_map, Function.comp_def, hself, Dict.ofEntries_entries]

omit [Interpreter] in
/-- What a delay is written as is read as the float of its number. -/
theorem toFloat_wire {delay : Delay} (h : delay.Representable) :
    delay.wire.toFloat = .ok delay.number := by
  cases delay with
  | int n => simp [Delay.wire, WireValue.toFloat, Delay.number, h.1, h.2]
  | float x => rfl

omit [Interpreter] in
theorem optional_delay {delay : Option Delay} (h : ∀ d ∈ delay, d.Representable) :
    ((delay.map Delay.wire).getD .none).optional WireValue.toFloat =
      .ok (delay.map Delay.number) := by
  cases delay with
  | none => rfl
  | some d =>
    have hd := toFloat_wire (h d rfl)
    cases d <;> simp_all [Delay.wire, WireValue.optional, Except.map]

omit [Doubles] in
theorem optional_attempt (attempt : Option Int) :
    ((attempt.map WireValue.int).getD .none).optional WireValue.toInt = .ok attempt := by
  cases attempt <;> rfl

omit [Interpreter] [Doubles] in
/-- A constructor that accepts a delay accepts the float of its number. -/
theorem outcomePostInit_number (candidateId : String) (status : ProcessingStatus)
    (reason : ProcessingReason) (delay : Option Delay) (attempt : Option Int) :
    outcomePostInit candidateId status reason (delay.map fun d => .float d.number) attempt =
      outcomePostInit candidateId status reason delay attempt := by
  cases status <;> cases delay <;> cases attempt <;> rfl

variable {o : ProcessingOutcome}

theorem fromDict_toDict_eq (h : ∀ d ∈ o.retryDelaySeconds, d.Representable) :
    outcomeFromDict o.toDict = ProcessingOutcome.make o.candidateId o.status o.reason
      (o.retryDelaySeconds.map fun d => .float d.number) o.retryAttempt o.metadata := by
  have hdelay := optional_delay h
  have hattempt := optional_attempt o.retryAttempt
  unfold outcomeFromDict
  have hstatus : o.toDict.item "status" = .ok (.str o.status.value) := rfl
  have hid : o.toDict.item "candidate_id" = .ok (.str o.candidateId) := rfl
  have hnamespace : o.toDict.item "reason_namespace" = .ok (.str o.reason.reasonNamespace) := rfl
  have hcode : o.toDict.item "reason_code" = .ok (.str o.reason.code) := rfl
  have hwait : o.toDict.getNone "retry_delay_seconds" =
    (o.retryDelaySeconds.map Delay.wire).getD .none := rfl
  have hcount : o.toDict.getNone "retry_attempt" =
    (o.retryAttempt.map WireValue.int).getD .none := rfl
  have hmetadata : (o.toDict "metadata").getD (.dict .empty) = .dict o.metadata.dict := rfl
  simp only [hstatus, hid, hnamespace, hcode, hwait, hcount, hmetadata, hdelay, hattempt,
    WireValue.text, WireValue.toMetadata, bind, Except.bind, coerceStatus_value,
    ProcessingReason.make_self, Metadata.ofItems_self, Option.map_map, Function.comp_def]

/-- What is written to a dict is read back from it. -/
theorem fromDict_toDict (h : ∀ d ∈ o.retryDelaySeconds, d.Representable) :
    ∃ o', outcomeFromDict o.toDict = .ok o' ∧ o'.Equals o := by
  have haccepted := (outcomePostInit_number o.candidateId o.status o.reason o.retryDelaySeconds
    o.retryAttempt).trans o.accepted
  refine ⟨⟨_, _, _, _, _, o.metadata, haccepted⟩, ?_, ?_⟩
  · rw [fromDict_toDict_eq h, ProcessingOutcome.make_ok]
    exact ⟨rfl, rfl, rfl, rfl, rfl, rfl⟩
  · exact ⟨rfl, rfl, rfl, map_number_float _, rfl, rfl⟩

/-- An outcome read from a dict waits for a float. -/
theorem delay_of_fromDict {payload : WirePayload} (h : outcomeFromDict payload = .ok o) :
    ∃ delay : Option PyFloat, o.retryDelaySeconds = delay.map .float := by
  simp only [outcomeFromDict, except_bind_ok] at h
  obtain ⟨_, -, _, -, _, -, _, -, _, -, _, -, _, -, _, -, _, -, _, -, delay, -, _, -, _, -,
    hmake⟩ := h
  exact ⟨delay, (ProcessingOutcome.make_ok.mp hmake).2.2.2.1⟩

theorem fromDict_stable {payload : WirePayload} (h : outcomeFromDict payload = .ok o) :
    outcomeFromDict o.toDict = .ok o := by
  obtain ⟨delay, hdelay⟩ := delay_of_fromDict h
  have hrepresentable : ∀ d ∈ o.retryDelaySeconds, d.Representable := by
    rw [hdelay]
    intro d hd
    obtain ⟨x, -, rfl⟩ := Option.map_eq_some_iff.mp hd
    exact trivial
  rw [fromDict_toDict_eq hrepresentable, ProcessingOutcome.make_ok]
  refine ⟨rfl, rfl, rfl, ?_, rfl, rfl⟩
  rw [hdelay]
  simp [Function.comp_def, Delay.number]

end

/-- A text without a dot is split off what follows it. -/
theorem splitDot_dotted {left right : String} (h : '.' ∉ left.toList) :
    splitDot (left ++ "." ++ right) = some (left, right) := by
  have hleft : ∀ c ∈ left.toList, decide (c ≠ '.') = true := by
    intro c hc
    exact decide_eq_true fun heq => h (heq ▸ hc)
  have htext : (left ++ "." ++ right).toList = left.toList ++ '.' :: right.toList := by
    simp [String.toList_append]
  unfold splitDot
  rw [htext, List.dropWhile_append_of_pos hleft, List.takeWhile_append_of_pos hleft]
  simp

theorem outcomeFromClassification_token (o : ProcessingOutcome) :
    outcomeFromClassification o.candidateId o.status.value o.reason.token o.retryDelaySeconds
      o.retryAttempt o.metadata = .ok o := by
  simp [outcomeFromClassification, ProcessingReason.token,
    splitDot_dotted o.reason.namespace_undotted, bind, Except.bind]

section
variable [Interpreter] [Doubles]

/-- Both decoders invert the encoder, and what is decoded once stays as it is. -/
theorem wire_round_trip :
    (∀ o : ProcessingOutcome, (∀ d ∈ o.retryDelaySeconds, d.Representable) →
      (∃ o', outcomeFromDict o.toDict = .ok o' ∧ o'.Equals o) ∧
        outcomeFromClassification o.candidateId o.status.value o.reason.token o.retryDelaySeconds
          o.retryAttempt o.metadata = .ok o) ∧
      ∀ payload o, outcomeFromDict payload = .ok o → outcomeFromDict o.toDict = .ok o :=
  ⟨fun o h => ⟨fromDict_toDict h, outcomeFromClassification_token o⟩,
    fun _ _ h => fromDict_stable h⟩

end

/-- A retry after five seconds, for a reason with a dot in its code. -/
def sampleRetry : ProcessingOutcome where
  candidateId := "cand-1"
  status := .retry
  reason := ⟨"retry", "disk.full", rfl⟩
  retryDelaySeconds := some (.int 5)
  retryAttempt := some 1
  metadata := .ofItems [("profile", "prod")]
  accepted := rfl

/-- Doubles without rounding. -/
@[reducible] def Doubles.exact : Doubles where
  parse s := s.toInt?.map fun n => .finite n
  nearest n := n

section
attribute [local instance] Interpreter.ascii Doubles.exact

theorem wire_round_trip_retry :
    (∃ o', outcomeFromDict sampleRetry.toDict = .ok o' ∧ o'.Equals sampleRetry) ∧
      outcomeFromClassification "cand-1" "retry" "retry.disk.full" (some (.int 5)) (some 1)
        sampleRetry.metadata = .ok sampleRetry :=
  wire_round_trip.1 sampleRetry fun d hd => by
    obtain rfl : Delay.int 5 = d := Option.some.inj hd
    exact ⟨by decide +kernel, rfl⟩

end

end DpostV2.Domain
