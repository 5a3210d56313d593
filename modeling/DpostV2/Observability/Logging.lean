import DpostV2.Lib.DateTime
import DpostV2.Lib.Float
import DpostV2.Lib.Items

/-!
# The structured logger

`emit` normalizes a payload and redacts it, in two recursions: the first descends into mappings and
into sequences, the second into mappings only. `redaction_noninterfering_iff` says which payloads
keep their secrets.
-/

namespace DpostV2.Logging

open Items

-- ---------------------------------------------------------------------------
-- Payloads
-- ---------------------------------------------------------------------------

/-- What a payload holds. The items of a mapping carry `str(key)`, so one key may come twice; an
object is anything else, by `repr(type(value))`. -/
inductive LogValue where
  | none
  | bool (b : Bool)
  | int (n : Int)
  | float (x : PyFloat)
  | str (s : String)
  | datetime (d : DateTime)
  | mapping (items : List (String × LogValue))
  | list (xs : List LogValue)
  | tuple (xs : List LogValue)
  | object (typeRepr : String)

mutual
def LogValue.depth : LogValue → Nat
  | .mapping items => LogValue.depthItems items + 1
  | .list xs | .tuple xs => LogValue.depthList xs + 1
  | _ => 0
def LogValue.depthItems : List (String × LogValue) → Nat
  | [] => 0
  | (_, v) :: items => max (LogValue.depth v) (LogValue.depthItems items)
def LogValue.depthList : List LogValue → Nat
  | [] => 0
  | v :: vs => max (LogValue.depth v) (LogValue.depthList vs)
end

theorem depthItems_le {items : List (String × LogValue)} {n : Nat} :
    LogValue.depthItems items ≤ n ↔ ∀ e ∈ items, e.2.depth ≤ n := by
  induction items with
  | nil => simp [LogValue.depthItems]
  | cons e items ih => simp [LogValue.depthItems, ih]

theorem depthList_le {xs : List LogValue} {n : Nat} :
    LogValue.depthList xs ≤ n ↔ ∀ v ∈ xs, v.depth ≤ n := by
  induction xs with
  | nil => simp [LogValue.depthList]
  | cons v xs ih => simp [LogValue.depthList, ih]

-- ---------------------------------------------------------------------------
-- Normalization
-- ---------------------------------------------------------------------------

def loggingSerializationError (message : String) : Exn :=
  { mro := ["LoggingSerializationError", "LoggingError", "RuntimeError", "Exception"], message }

def loggingConfigError (message : String) : Exn :=
  { mro := ["LoggingConfigError", "LoggingError", "RuntimeError", "Exception"], message }

mutual
def normalizePrimitive : LogValue → Except Exn LogValue
  | .none => .ok .none
  | .bool b => .ok (.bool b)
  | .int n => .ok (.int n)
  | .float x => .ok (.float x)
  | .str s => .ok (.str s)
  | .datetime d => .ok (.str d.isoformat)
  | .mapping items => do return .mapping (comprehend (← normalizeItems items))
  | .list xs | .tuple xs => do return .list (← normalizeList xs)
  | .object typeRepr =>
    .error (loggingSerializationError ("unsupported payload type: " ++ typeRepr))
def normalizeItems : List (String × LogValue) → Except Exn (List (String × LogValue))
  | [] => .ok []
  | (k, v) :: items => do return (k, ← normalizePrimitive v) :: (← normalizeItems items)
def normalizeList : List LogValue → Except Exn (List LogValue)
  | [] => .ok []
  | v :: vs => do return (← normalizePrimitive v) :: (← normalizeList vs)
end

def normalizeMapping : LogValue → Except Exn (List (String × LogValue))
  | .mapping items => do return comprehend (← normalizeItems items)
  | _ => .error (loggingSerializationError "payload must be a mapping")

theorem normalizeItems_ok {items items' : List (String × LogValue)} :
    normalizeItems items = .ok items' ↔
      List.Forall₂ (fun e e' => e.1 = e'.1 ∧ normalizePrimitive e.2 = .ok e'.2) items items' := by
  induction items generalizing items' with
  | nil => simp [normalizeItems, eq_comm]
  | cons e items ih =>
    obtain ⟨k, v⟩ := e
    simp only [normalizeItems, except_bind_ok, except_pure_ok, List.forall₂_cons_left_iff, ih]
    constructor
    · rintro ⟨w, hw, rest, hrest, rfl⟩
      exact ⟨(k, w), rest, ⟨rfl, hw⟩, hrest, rfl⟩
    · rintro ⟨⟨_, w⟩, rest, ⟨rfl, hw⟩, hrest, rfl⟩
      exact ⟨w, hw, rest, hrest, rfl⟩

theorem normalizeList_ok {xs ys : List LogValue} :
    normalizeList xs = .ok ys ↔ List.Forall₂ (fun v w => normalizePrimitive v = .ok w) xs ys := by
  induction xs generalizing ys with
  | nil => simp [normalizeList, eq_comm]
  | cons v xs ih =>
    simp only [normalizeList, except_bind_ok, except_pure_ok, List.forall₂_cons_left_iff, ih]
    constructor
    · rintro ⟨w, hw, rest, hrest, rfl⟩
      exact ⟨w, rest, hw, hrest, rfl⟩
    · rintro ⟨w, rest, hw, hrest, rfl⟩
      exact ⟨w, hw, rest, hrest, rfl⟩

theorem normalizePrimitive_mapping {items : List (String × LogValue)} {w : LogValue} :
    normalizePrimitive (.mapping items) = .ok w ↔
      ∃ normalized, normalizeItems items = .ok normalized ∧
        .mapping (comprehend normalized) = w := by
  cases h : normalizeItems items <;>
    simp [normalizePrimitive, h, bind, Except.bind, pure, Except.pure]

theorem normalizePrimitive_list {xs : List LogValue} {w : LogValue} :
    normalizePrimitive (.list xs) = .ok w ↔ ∃ ys, normalizeList xs = .ok ys ∧ .list ys = w := by
  cases h : normalizeList xs <;> simp [normalizePrimitive, h, bind, Except.bind, pure, Except.pure]

theorem normalizePrimitive_tuple {xs : List LogValue} :
    normalizePrimitive (.tuple xs) = normalizePrimitive (.list xs) := by
  simp only [normalizePrimitive]

theorem normalizeMapping_ok {payload : LogValue} {items : List (String × LogValue)} :
    normalizeMapping payload = .ok items ↔ normalizePrimitive payload = .ok (.mapping items) := by
  cases payload with
  | mapping raw =>
    rw [normalizePrimitive_mapping, normalizeMapping, except_bind_ok]
    simp only [except_pure_ok, LogValue.mapping.injEq]
  | list xs => simp [normalizePrimitive_list, normalizeMapping]
  | tuple xs => simp [normalizePrimitive_tuple, normalizePrimitive_list, normalizeMapping]
  | _ => simp [normalizePrimitive, normalizeMapping]

theorem depth_lt_mapping {items : List (String × LogValue)} {e : String × LogValue}
    (he : e ∈ items) : e.2.depth < (LogValue.mapping items).depth :=
  Nat.lt_succ_of_le (depthItems_le.mp le_rfl e he)

theorem depth_lt_list {xs : List LogValue} {v : LogValue} (hv : v ∈ xs) :
    v.depth < (LogValue.list xs).depth :=
  Nat.lt_succ_of_le (depthList_le.mp le_rfl v hv)

/-- What holds of a value when it holds of every value nested less deep holds of all. -/
theorem depth_induction {P : LogValue → Prop}
    (step : ∀ v, (∀ w : LogValue, w.depth < v.depth → P w) → P v) (v : LogValue) : P v := by
  induction hn : v.depth using Nat.strongRecOn generalizing v with
  | ind n ih => exact step v fun w hw => ih w.depth (hn ▸ hw) w rfl

/-- Normalization nests no deeper. -/
theorem normalizePrimitive_depth (v : LogValue) :
    ∀ {w : LogValue}, normalizePrimitive v = .ok w → w.depth ≤ v.depth := by
  induction v using depth_induction with
  | step v ih =>
    have hlist (xs : List LogValue) (hxs : ∀ x ∈ xs, x.depth < v.depth) {w : LogValue}
        (h : normalizePrimitive (.list xs) = .ok w) : w.depth ≤ (LogValue.list xs).depth := by
      obtain ⟨ys, hys, rfl⟩ := normalizePrimitive_list.mp h
      refine Nat.succ_le_succ (depthList_le.mpr fun y hy => ?_)
      obtain ⟨x, hx, hxy⟩ := forall₂_mem_right (normalizeList_ok.mp hys) hy
      exact (ih x (hxs x hx) hxy).trans (depthList_le.mp le_rfl x hx)
    intro w h
    cases v with
    | mapping items =>
      obtain ⟨normalized, hnormalized, rfl⟩ := normalizePrimitive_mapping.mp h
      refine Nat.succ_le_succ (depthItems_le.mpr fun e he => ?_)
      obtain ⟨e', he', -, hvalue⟩ :=
        forall₂_mem_right (normalizeItems_ok.mp hnormalized) (comprehend_subset _ he)
      exact (ih e'.2 (depth_lt_mapping he') hvalue).trans (depthItems_le.mp le_rfl e' he')
    | list xs => exact hlist xs (fun x hx => depth_lt_list hx) h
    | tuple xs => exact hlist xs (fun x hx => depth_lt_list hx) (normalizePrimitive_tuple ▸ h)
    | object typeRepr => simp [normalizePrimitive] at h
    | _ =>
      cases h
      simp [LogValue.depth]

/-- A normalized value is normalized already. -/
theorem normalizePrimitive_idem (v : LogValue) :
    ∀ {w : LogValue}, normalizePrimitive v = .ok w → normalizePrimitive w = .ok w := by
  induction v using depth_induction with
  | step v ih =>
    have hlist (xs : List LogValue) (hxs : ∀ x ∈ xs, x.depth < v.depth) {w : LogValue}
        (h : normalizePrimitive (.list xs) = .ok w) : normalizePrimitive w = .ok w := by
      obtain ⟨ys, hys, rfl⟩ := normalizePrimitive_list.mp h
      refine normalizePrimitive_list.mpr ⟨ys, normalizeList_ok.mpr ?_, rfl⟩
      rw [List.forall₂_same]
      intro y hy
      obtain ⟨x, hx, hxy⟩ := forall₂_mem_right (normalizeList_ok.mp hys) hy
      exact ih x (hxs x hx) hxy
    intro w h
    cases v with
    | mapping items =>
      obtain ⟨normalized, hnormalized, rfl⟩ := normalizePrimitive_mapping.mp h
      refine normalizePrimitive_mapping.mpr ⟨comprehend normalized, normalizeItems_ok.mpr ?_, ?_⟩
      · rw [List.forall₂_same]
        intro e he
        obtain ⟨e', he', -, hvalue⟩ :=
          forall₂_mem_right (normalizeItems_ok.mp hnormalized) (comprehend_subset _ he)
        exact ⟨rfl, ih e'.2 (depth_lt_mapping he') hvalue⟩
      · rw [comprehend_comprehend]
    | list xs => exact hlist xs (fun x hx => depth_lt_list hx) h
    | tuple xs => exact hlist xs (fun x hx => depth_lt_list hx) (normalizePrimitive_tuple ▸ h)
    | object typeRepr => simp [normalizePrimitive] at h
    | _ =>
      cases h
      rfl

theorem normalizeMapping_idem {payload : LogValue} {items : List (String × LogValue)}
    (h : normalizeMapping payload = .ok items) {e : String × LogValue} (he : e ∈ items) :
    normalizePrimitive e.2 = .ok e.2 := by
  have hidem := normalizePrimitive_idem payload (normalizeMapping_ok.mp h)
  obtain ⟨normalized, hnormalized, heq⟩ := normalizePrimitive_mapping.mp hidem
  have hmem : e ∈ normalized := by
    apply comprehend_subset
    rw [LogValue.mapping.inj heq]
    exact he
  obtain ⟨e', he', -, hvalue⟩ := forall₂_mem_right (normalizeItems_ok.mp hnormalized) hmem
  exact normalizePrimitive_idem e'.2 hvalue

theorem normalizeMapping_depth {payload : LogValue} {items : List (String × LogValue)}
    (h : normalizeMapping payload = .ok items) {e : String × LogValue} (he : e ∈ items) :
    e.2.depth < payload.depth :=
  (depth_lt_mapping he).trans_le (normalizePrimitive_depth payload (normalizeMapping_ok.mp h))

-- ---------------------------------------------------------------------------
-- Redaction
-- ---------------------------------------------------------------------------

theorem mapM_ok {f : α → Except ε β} {g : α → β} {l : List α} (h : ∀ a ∈ l, f a = .ok (g a)) :
    l.mapM f = .ok (l.map g) := by
  induction l with
  | nil => rfl
  | cons a l ih =>
    rw [List.mapM_cons, h a List.mem_cons_self, ih fun b hb => h b (List.mem_cons_of_mem _ hb)]
    rfl

section
variable [Interpreter]

/-- `key.lower() in redacted_fields`. -/
def isRedacted (redactedFields : List String) (key : String) : Bool :=
  (redactedFields.map fun name => Interpreter.lower (strip name)).contains (Interpreter.lower key)

def redactedText : LogValue := .str "***REDACTED***"

def redactMapping (redactedFields : List String) (payload : LogValue) :
    Except Exn (List (String × LogValue)) :=
  match _h : normalizeMapping payload with
  | .error e => .error e
  | .ok normalized => normalized.attach.mapM fun e =>
    if isRedacted redactedFields e.1.1 then .ok (e.1.1, redactedText)
    else match _hv : e.1.2 with
      | .mapping nested => do
        return (e.1.1, .mapping (← redactMapping redactedFields (.mapping nested)))
      | value => .ok (e.1.1, value)
termination_by payload.depth
decreasing_by
  rw [← _hv]
  exact normalizeMapping_depth _h e.2

mutual
/-- What the redaction makes of a normalized value. -/
def redactNested (redactedFields : List String) : LogValue → LogValue
  | .mapping items => .mapping (redactItems redactedFields items)
  | v => v
def redactItems (redactedFields : List String) :
    List (String × LogValue) → List (String × LogValue)
  | [] => []
  | (k, v) :: items =>
    (k, if isRedacted redactedFields k then redactedText else redactNested redactedFields v) ::
      redactItems redactedFields items
end

theorem redactItems_map (redactedFields : List String) (items : List (String × LogValue)) :
    redactItems redactedFields items = items.map fun e =>
      (e.1, if isRedacted redactedFields e.1 then redactedText
        else redactNested redactedFields e.2) := by
  induction items with
  | nil => simp [redactItems]
  | cons e items ih => simp [redactItems, ih]

theorem redactNested_of_ne {redactedFields : List String} {v : LogValue}
    (h : ∀ items, v = .mapping items → False) : redactNested redactedFields v = v := by
  cases v with
  | mapping items => exact (h items rfl).elim
  | _ => simp only [redactNested]

theorem last_redactItems (redactedFields : List String) (items : List (String × LogValue))
    (k : String) :
    last (redactItems redactedFields items) k = (last items k).map fun v =>
      if isRedacted redactedFields k then redactedText else redactNested redactedFields v := by
  rw [redactItems_map]
  exact last_map (fun k v => if isRedacted redactedFields k then redactedText
    else redactNested redactedFields v) items k

/-- Normalizing once and redacting what that gives is the same. -/
theorem redactMapping_eq (redactedFields : List String) (payload : LogValue) :
    redactMapping redactedFields payload =
      (normalizeMapping payload).map (redactItems redactedFields) := by
  induction payload using depth_induction with
  | step payload ih =>
    rw [redactMapping]
    split
    · next e h => rw [h]; rfl
    · next normalized h =>
      rw [h, Except.map, redactItems_map, ← List.attach_map_val]
      refine mapM_ok fun e _ => ?_
      have hnormal := normalizeMapping_idem h e.2
      have hdepth := normalizeMapping_depth h e.2
      by_cases hk : isRedacted redactedFields e.1.1 = true
      · simp [hk]
      · rw [if_neg hk, if_neg hk]
        split
        · next nested hv =>
          rw [hv] at hnormal hdepth ⊢
          rw [ih _ hdepth, normalizeMapping_ok.mpr hnormal, redactNested]
          rfl
        · next value hvalue =>
          rw [redactNested_of_ne hvalue]

-- ---------------------------------------------------------------------------
-- Emitting
-- ---------------------------------------------------------------------------

structure StructuredLoggingConfig where
  redactedFields : List String := []
  runtimeMetadata : LogValue := .mapping []

structure LogEntry where
  timestamp : String
  level : String
  message : String
  payload : List (String × LogValue)
  correlation : List (String × LogValue)
  runtime : List (String × LogValue)

inductive EmitStatus where
  | emitted
  | sinkError (error : String)

def validLevels : List String := ["debug", "info", "warning", "error"]

def validateLevel (level : String) : Except Exn String :=
  let normalizedLevel := Interpreter.lower (strip level)
  if validLevels.contains normalizedLevel then .ok normalizedLevel
  else .error (loggingConfigError ("invalid log level: " ++ Interpreter.reprOf level))

/-- What the sink raises is contained. -/
def writeEntry (sink : LogEntry → Except String Unit) (entry : LogEntry) : EmitStatus :=
  match sink entry with
  | .ok () => .emitted
  | .error error => .sinkError error

/-- The entry handed to the sink, and the status. -/
def emit (config : StructuredLoggingConfig) (sink : LogEntry → Except String Unit) (now : DateTime)
    (level message : String) (payload correlation : LogValue) :
    Except Exn (LogEntry × EmitStatus) := do
  let normalizedLevel ← validateLevel level
  let entry : LogEntry := {
    timestamp := now.isoformat
    level := normalizedLevel
    message := message
    payload := ← redactMapping config.redactedFields payload
    correlation := ← normalizeMapping correlation
    runtime := ← normalizeMapping config.runtimeMetadata }
  return (entry, writeEntry sink entry)

theorem emit_payload {config : StructuredLoggingConfig} {sink : LogEntry → Except String Unit}
    {now : DateTime} {level message : String} {payload correlation : LogValue} {entry : LogEntry}
    {status : EmitStatus}
    (h : emit config sink now level message payload correlation = .ok (entry, status)) :
    ∃ normalized, normalizePrimitive payload = .ok (.mapping normalized) ∧
      entry.payload = redactItems config.redactedFields normalized := by
  obtain ⟨_, -, h⟩ := except_bind_ok.mp h
  obtain ⟨redacted, hredacted, h⟩ := except_bind_ok.mp h
  obtain ⟨_, -, h⟩ := except_bind_ok.mp h
  obtain ⟨_, -, h⟩ := except_bind_ok.mp h
  obtain ⟨rfl, -⟩ := Prod.mk.inj (except_pure_ok.mp h)
  rw [redactMapping_eq] at hredacted
  cases hn : normalizeMapping payload with
  | error e => simp [hn, Except.map] at hredacted
  | ok normalized =>
    rw [hn] at hredacted
    exact ⟨normalized, normalizeMapping_ok.mp hn, (Except.ok.inj hredacted).symm⟩

-- ---------------------------------------------------------------------------
-- What a redaction hides
-- ---------------------------------------------------------------------------

mutual
/-- Equal but for what is stored under redacted keys, at any depth. -/
inductive Alike (redactedFields : List String) : LogValue → LogValue → Prop
  | same (v : LogValue) : Alike redactedFields v v
  | mapping (h : List.Forall₂ (AlikeItem redactedFields) items items') :
      Alike redactedFields (.mapping items) (.mapping items')
  | list (h : List.Forall₂ (Alike redactedFields) xs xs') :
      Alike redactedFields (.list xs) (.list xs')
  | tuple (h : List.Forall₂ (Alike redactedFields) xs xs') :
      Alike redactedFields (.tuple xs) (.tuple xs')
inductive AlikeItem (redactedFields : List String) :
    String × LogValue → String × LogValue → Prop
  | redacted (hk : isRedacted redactedFields k = true) (v w : LogValue) :
      AlikeItem redactedFields (k, v) (k, w)
  | kept (k : String) (h : Alike redactedFields v w) : AlikeItem redactedFields (k, v) (k, w)
end

/-- A redacted key is somewhere in the value. -/
inductive Holds (redactedFields : List String) : LogValue → Prop
  | key (hmem : (k, v) ∈ comprehend items) (hk : isRedacted redactedFields k = true) :
      Holds redactedFields (.mapping items)
  | item (hmem : (k, v) ∈ comprehend items) (hv : Holds redactedFields v) :
      Holds redactedFields (.mapping items)
  | list (hmem : v ∈ xs) (hv : Holds redactedFields v) : Holds redactedFields (.list xs)
  | tuple (hmem : v ∈ xs) (hv : Holds redactedFields v) : Holds redactedFields (.tuple xs)

/-- A redacted key is in a sequence, where no redacted key is above the sequence. -/
inductive Exposes (redactedFields : List String) : LogValue → Prop
  | list (hmem : v ∈ xs) (hv : Holds redactedFields v) : Exposes redactedFields (.list xs)
  | tuple (hmem : v ∈ xs) (hv : Holds redactedFields v) : Exposes redactedFields (.tuple xs)
  | item (hmem : (k, v) ∈ comprehend items) (hk : isRedacted redactedFields k = false)
      (hv : Exposes redactedFields v) : Exposes redactedFields (.mapping items)

theorem alikeItem_iff {redactedFields : List String} {e e' : String × LogValue} :
    AlikeItem redactedFields e e' ↔
      e.1 = e'.1 ∧ (isRedacted redactedFields e.1 = true ∨ Alike redactedFields e.2 e'.2) := by
  constructor
  · rintro (⟨hk, _, _⟩ | ⟨_, h⟩)
    · exact ⟨rfl, .inl hk⟩
    · exact ⟨rfl, .inr h⟩
  · obtain ⟨k, v⟩ := e
    obtain ⟨l, w⟩ := e'
    rintro ⟨rfl, hk | h⟩
    · exact .redacted hk v w
    · exact .kept k h

/-- What two alike mappings have normalized for one key: nothing, or what two values become that are
alike where the key is not redacted. -/
theorem last_normalized {redactedFields : List String}
    {items items' normalized normalized' : List (String × LogValue)}
    (h : List.Forall₂ (AlikeItem redactedFields) items items')
    (hitems : normalizeItems items = .ok normalized)
    (hitems' : normalizeItems items' = .ok normalized') (k : String) :
    (last normalized k = none ∧ last normalized' k = none) ∨
      ∃ v w a b, (k, v) ∈ comprehend items ∧ normalizePrimitive v = .ok a ∧
        normalizePrimitive w = .ok b ∧
        (isRedacted redactedFields k = true ∨ Alike redactedFields v w) ∧
        last normalized k = some a ∧ last normalized' k = some b := by
  have halike := last_rel (R := fun k v w => isRedacted redactedFields k = true ∨
    Alike redactedFields v w) (h.imp fun _ _ => alikeItem_iff.mp) k
  have hnormal := last_rel (R := fun _ v a => normalizePrimitive v = .ok a)
    (normalizeItems_ok.mp hitems) k
  have hnormal' := last_rel (R := fun _ v a => normalizePrimitive v = .ok a)
    (normalizeItems_ok.mp hitems') k
  cases hv : last items k with
  | none =>
    rw [hv] at halike hnormal
    cases hw : last items' k with
    | some w => rw [hw] at halike; cases halike
    | none =>
      rw [hw] at hnormal'
      generalize last normalized k = a at hnormal
      generalize last normalized' k = b at hnormal'
      cases hnormal
      cases hnormal'
      exact .inl ⟨rfl, rfl⟩
  | some v =>
    rw [hv] at halike hnormal
    cases hw : last items' k with
    | none => rw [hw] at halike; cases halike
    | some w =>
      rw [hw] at halike hnormal'
      generalize last normalized k = a at hnormal
      generalize last normalized' k = b at hnormal'
      cases halike with
      | some hvw =>
        cases hnormal with
        | some ha =>
          cases hnormal' with
          | some hb => exact .inr ⟨v, w, _, _, mem_comprehend.mpr hv, ha, hb, hvw, rfl, rfl⟩

/-- Alike mappings have the same keys normalized. -/
theorem normalized_keys {redactedFields : List String}
    {items items' normalized normalized' : List (String × LogValue)}
    (h : List.Forall₂ (AlikeItem redactedFields) items items')
    (hitems : normalizeItems items = .ok normalized)
    (hitems' : normalizeItems items' = .ok normalized') :
    normalized.map Prod.fst = normalized'.map Prod.fst := by
  have hkeys := keys_eq (h.imp fun _ _ he => (alikeItem_iff.mp he).1)
  have hn := keys_eq ((normalizeItems_ok.mp hitems).imp fun _ _ he => he.1)
  have hn' := keys_eq ((normalizeItems_ok.mp hitems').imp fun _ _ he => he.1)
  rw [← hn, ← hn', hkeys]

omit [Interpreter] in
/-- Sequences that agree value by value are normalized to the same. -/
theorem normalizeList_agree {R : LogValue → LogValue → Prop} {xs xs' ys ys' : List LogValue}
    (h : List.Forall₂ R xs xs')
    (hagree : ∀ v ∈ xs, ∀ w a b, R v w → normalizePrimitive v = .ok a →
      normalizePrimitive w = .ok b → a = b)
    (hys : normalizeList xs = .ok ys) (hys' : normalizeList xs' = .ok ys') : ys = ys' := by
  rw [normalizeList_ok] at hys hys'
  induction h generalizing ys ys' with
  | nil =>
    cases hys
    cases hys'
    rfl
  | @cons v w xs xs' hvw _ ih =>
    cases hys with
    | cons ha hrest =>
      cases hys' with
      | cons hb hrest' =>
        rw [hagree v List.mem_cons_self w _ _ hvw ha hb,
          ih (fun v hv => hagree v (List.mem_cons_of_mem _ hv)) hrest hrest']

/-- Alike values with no redacted key in them are normalized to the same. -/
theorem Alike.normalized_eq {redactedFields : List String} (v : LogValue) :
    ∀ {w a b : LogValue}, Alike redactedFields v w → ¬Holds redactedFields v →
      normalizePrimitive v = .ok a → normalizePrimitive w = .ok b → a = b := by
  induction v using depth_induction with
  | step v ih =>
    intro w a b halike hclear ha hb
    have hlist {xs xs' : List LogValue} (h : List.Forall₂ (Alike redactedFields) xs xs')
        (hxs : ∀ x ∈ xs, x.depth < v.depth ∧ ¬Holds redactedFields x)
        (ha : normalizePrimitive (.list xs) = .ok a) (hb : normalizePrimitive (.list xs') = .ok b) :
        a = b := by
      obtain ⟨ys, hys, rfl⟩ := normalizePrimitive_list.mp ha
      obtain ⟨ys', hys', rfl⟩ := normalizePrimitive_list.mp hb
      exact congrArg LogValue.list (normalizeList_agree h
        (fun x hx _ _ _ hxw => ih x (hxs x hx).1 hxw (hxs x hx).2) hys hys')
    cases halike with
    | same => exact Except.ok.inj (ha.symm.trans hb)
    | mapping h =>
      obtain ⟨normalized, hn, rfl⟩ := normalizePrimitive_mapping.mp ha
      obtain ⟨normalized', hn', rfl⟩ := normalizePrimitive_mapping.mp hb
      refine congrArg LogValue.mapping (comprehend_congr (normalized_keys h hn hn') fun k => ?_)
      rcases last_normalized h hn hn' k with
        ⟨hnone, hnone'⟩ | ⟨v, w, a, b, hmem, ha, hb, hvw, hlast, hlast'⟩
      · rw [hnone, hnone']
      · have hk : ¬isRedacted redactedFields k = true := fun hk => hclear (.key hmem hk)
        rw [hlast, hlast', ih v (depth_lt_mapping (comprehend_subset _ hmem))
          (hvw.resolve_left hk) (fun hv => hclear (.item hmem hv)) ha hb]
    | list h => exact hlist h (fun x hx => ⟨depth_lt_list hx, fun hv => hclear (.list hx hv)⟩) ha hb
    | tuple h =>
      rw [normalizePrimitive_tuple] at ha hb
      exact hlist h (fun x hx => ⟨depth_lt_list hx, fun hv => hclear (.tuple hx hv)⟩) ha hb

/-- Alike values that expose nothing are redacted to the same. -/
theorem Alike.redacted_eq {redactedFields : List String} (v : LogValue) :
    ∀ {w a b : LogValue}, Alike redactedFields v w → ¬Exposes redactedFields v →
      normalizePrimitive v = .ok a → normalizePrimitive w = .ok b →
      redactNested redactedFields a = redactNested redactedFields b := by
  induction v using depth_induction with
  | step v ih =>
    intro w a b halike hclear ha hb
    cases halike with
    | same => rw [Except.ok.inj (ha.symm.trans hb)]
    | @list xs xs' h =>
      have hholds : ¬Holds redactedFields (.list xs) := by
        rintro (_ | _ | ⟨hmem, hv⟩ | _)
        exact hclear (.list hmem hv)
      rw [Alike.normalized_eq _ (.list h) hholds ha hb]
    | @tuple xs xs' h =>
      have hholds : ¬Holds redactedFields (.tuple xs) := by
        rintro (_ | _ | _ | ⟨hmem, hv⟩)
        exact hclear (.tuple hmem hv)
      rw [Alike.normalized_eq _ (.tuple h) hholds ha hb]
    | mapping h =>
      obtain ⟨normalized, hn, rfl⟩ := normalizePrimitive_mapping.mp ha
      obtain ⟨normalized', hn', rfl⟩ := normalizePrimitive_mapping.mp hb
      rw [redactNested, redactNested, redactItems_map, redactItems_map]
      refine congrArg LogValue.mapping (map_comprehend_congr
        (fun k v => if isRedacted redactedFields k then redactedText
          else redactNested redactedFields v) (normalized_keys h hn hn') fun k => ?_)
      rcases last_normalized h hn hn' k with
        ⟨hnone, hnone'⟩ | ⟨v, w, a, b, hmem, ha, hb, hvw, hlast, hlast'⟩
      · rw [hnone, hnone']
      · rw [hlast, hlast', Option.map_some, Option.map_some]
        cases hk : isRedacted redactedFields k with
        | true => rfl
        | false =>
          have hvw : Alike redactedFields v w := hvw.resolve_left (by simp [hk])
          have heq := ih v (depth_lt_mapping (comprehend_subset _ hmem)) hvw
            (fun hv => hclear (.item hmem hk hv)) ha hb
          simp [heq]

-- ---------------------------------------------------------------------------
-- What an exposed key gives away
-- ---------------------------------------------------------------------------

mutual
/-- The value with another one under every redacted key. -/
def scrub (redactedFields : List String) (s : LogValue) : LogValue → LogValue
  | .mapping items => .mapping (scrubItems redactedFields s items)
  | .list xs => .list (scrubList redactedFields s xs)
  | .tuple xs => .tuple (scrubList redactedFields s xs)
  | v => v
def scrubItems (redactedFields : List String) (s : LogValue) :
    List (String × LogValue) → List (String × LogValue)
  | [] => []
  | (k, v) :: items =>
    (k, if isRedacted redactedFields k then s else scrub redactedFields s v) ::
      scrubItems redactedFields s items
def scrubList (redactedFields : List String) (s : LogValue) : List LogValue → List LogValue
  | [] => []
  | v :: vs => scrub redactedFields s v :: scrubList redactedFields s vs
end

theorem scrubItems_map (redactedFields : List String) (s : LogValue)
    (items : List (String × LogValue)) :
    scrubItems redactedFields s items = items.map fun e =>
      (e.1, if isRedacted redactedFields e.1 then s else scrub redactedFields s e.2) := by
  induction items with
  | nil => simp [scrubItems]
  | cons e items ih => simp [scrubItems, ih]

theorem scrubList_map (redactedFields : List String) (s : LogValue) (xs : List LogValue) :
    scrubList redactedFields s xs = xs.map (scrub redactedFields s) := by
  induction xs with
  | nil => simp [scrubList]
  | cons v xs ih => simp [scrubList, ih]

theorem scrub_alike (redactedFields : List String) (s v : LogValue) :
    Alike redactedFields v (scrub redactedFields s v) := by
  induction v using depth_induction with
  | step v ih =>
    cases v with
    | mapping items =>
      rw [scrub, scrubItems_map]
      refine .mapping (List.forall₂_map_right_iff.mpr (List.forall₂_same.mpr fun e he => ?_))
      rw [alikeItem_iff]
      refine ⟨rfl, ?_⟩
      by_cases hk : isRedacted redactedFields e.1 = true
      · exact .inl hk
      · simpa [hk] using ih e.2 (depth_lt_mapping he)
    | list xs =>
      rw [scrub, scrubList_map]
      exact .list (List.forall₂_map_right_iff.mpr
        (List.forall₂_same.mpr fun x hx => ih x (depth_lt_list hx)))
    | tuple xs =>
      rw [scrub, scrubList_map]
      exact .tuple (List.forall₂_map_right_iff.mpr
        (List.forall₂_same.mpr fun x hx => ih x (depth_lt_list hx)))
    | _ =>
      rw [scrub]
      · exact .same _
      all_goals simp

omit [Interpreter] in
theorem normalizeItems_isOk {items : List (String × LogValue)} :
    (∃ normalized, normalizeItems items = .ok normalized) ↔
      ∀ e ∈ items, ∃ w, normalizePrimitive e.2 = .ok w := by
  constructor
  · rintro ⟨normalized, h⟩ e he
    obtain ⟨e', -, -, hvalue⟩ := forall₂_mem_left (normalizeItems_ok.mp h) he
    exact ⟨e'.2, hvalue⟩
  · intro h
    induction items with
    | nil => exact ⟨[], by simp [normalizeItems]⟩
    | cons e items ih =>
      obtain ⟨w, hw⟩ := h e List.mem_cons_self
      obtain ⟨rest, hrest⟩ := ih fun e he => h e (List.mem_cons_of_mem _ he)
      exact ⟨(e.1, w) :: rest,
        normalizeItems_ok.mpr (.cons ⟨rfl, hw⟩ (normalizeItems_ok.mp hrest))⟩

omit [Interpreter] in
theorem normalizeList_isOk {xs : List LogValue} :
    (∃ ys, normalizeList xs = .ok ys) ↔ ∀ x ∈ xs, ∃ w, normalizePrimitive x = .ok w := by
  constructor
  · rintro ⟨ys, h⟩ x hx
    obtain ⟨w, -, hw⟩ := forall₂_mem_left (normalizeList_ok.mp h) hx
    exact ⟨w, hw⟩
  · intro h
    induction xs with
    | nil => exact ⟨[], by simp [normalizeList]⟩
    | cons x xs ih =>
      obtain ⟨w, hw⟩ := h x List.mem_cons_self
      obtain ⟨ys, hys⟩ := ih fun x hx => h x (List.mem_cons_of_mem _ hx)
      exact ⟨w :: ys, normalizeList_ok.mpr (.cons hw (normalizeList_ok.mp hys))⟩

/-- Scrubbing with a value that can be normalized keeps a value one that can be. -/
theorem scrub_accepted (redactedFields : List String) {s : LogValue}
    (hs : ∃ w, normalizePrimitive s = .ok w) (v : LogValue) :
    (∃ a, normalizePrimitive v = .ok a) →
      ∃ a, normalizePrimitive (scrub redactedFields s v) = .ok a := by
  induction v using depth_induction with
  | step v ih =>
    rintro ⟨a, h⟩
    have hlist (xs : List LogValue) (hxs : ∀ x ∈ xs, x.depth < v.depth)
        (h : normalizePrimitive (.list xs) = .ok a) :
        ∃ a, normalizePrimitive (.list (scrubList redactedFields s xs)) = .ok a := by
      obtain ⟨ys, hys, -⟩ := normalizePrimitive_list.mp h
      have hok := normalizeList_isOk.mp ⟨ys, hys⟩
      obtain ⟨zs, hzs⟩ : ∃ zs, normalizeList (scrubList redactedFields s xs) = .ok zs := by
        rw [scrubList_map, normalizeList_isOk, List.forall_mem_map]
        exact fun x hx => ih x (hxs x hx) (hok x hx)
      exact ⟨.list zs, normalizePrimitive_list.mpr ⟨zs, hzs, rfl⟩⟩
    cases v with
    | mapping items =>
      obtain ⟨normalized, hn, -⟩ := normalizePrimitive_mapping.mp h
      have hok := normalizeItems_isOk.mp ⟨normalized, hn⟩
      obtain ⟨scrubbed, hscrubbed⟩ :
          ∃ n, normalizeItems (scrubItems redactedFields s items) = .ok n := by
        rw [scrubItems_map, normalizeItems_isOk, List.forall_mem_map]
        intro e he
        by_cases hk : isRedacted redactedFields e.1 = true
        · simpa [hk] using hs
        · simpa [hk] using ih e.2 (depth_lt_mapping he) (hok e he)
      rw [scrub]
      exact ⟨_, normalizePrimitive_mapping.mpr ⟨scrubbed, hscrubbed, rfl⟩⟩
    | list xs =>
      rw [scrub]
      exact hlist xs (fun x hx => depth_lt_list hx) h
    | tuple xs =>
      rw [normalizePrimitive_tuple] at h
      rw [scrub, normalizePrimitive_tuple]
      exact hlist xs (fun x hx => depth_lt_list hx) h
    | _ => exact ⟨a, by rw [scrub]; exact h; all_goals simp⟩

/-- What a scrubbed mapping has normalized for a key. -/
theorem last_scrubbed {redactedFields : List String} {s : LogValue}
    {items normalized : List (String × LogValue)}
    (h : normalizeItems (scrubItems redactedFields s items) = .ok normalized) {k : String}
    {v : LogValue} (hv : (k, v) ∈ comprehend items) :
    ∃ a, last normalized k = some a ∧
      normalizePrimitive (if isRedacted redactedFields k then s else scrub redactedFields s v) =
        .ok a := by
  have hrel := last_rel (R := fun _ v a => normalizePrimitive v = .ok a) (normalizeItems_ok.mp h) k
  have hlast := last_map (fun k v => if isRedacted redactedFields k then s
    else scrub redactedFields s v) items k
  rw [scrubItems_map, hlast, mem_comprehend.mp hv, Option.map_some] at hrel
  generalize last normalized k = a at hrel
  cases hrel with
  | some ha => exact ⟨_, rfl, ha⟩

/-- A sequence one of whose values is normalized in two ways, is. -/
theorem scrubbed_list_ne {redactedFields : List String} {s t v : LogValue}
    {xs ys ys' : List LogValue} (hmem : v ∈ xs)
    (hv : ∀ a b, normalizePrimitive (scrub redactedFields s v) = .ok a →
      normalizePrimitive (scrub redactedFields t v) = .ok b → a ≠ b)
    (hys : normalizeList (scrubList redactedFields s xs) = .ok ys)
    (hys' : normalizeList (scrubList redactedFields t xs) = .ok ys') : ys ≠ ys' := by
  rintro rfl
  rw [scrubList_map, normalizeList_ok, List.forall₂_map_left_iff] at hys hys'
  have hboth := hys.mp (fun _ _ => And.intro) hys'
  obtain ⟨a, -, ha, hb⟩ := forall₂_mem_left hboth hmem
  exact hv a a ha hb rfl

section
variable {redactedFields : List String} {s t : LogValue} (hne : s ≠ t)
  (hs : normalizePrimitive s = .ok s) (ht : normalizePrimitive t = .ok t)
include hne hs ht

/-- What is stored under the redacted keys of a value shows when it is only normalized. -/
theorem Holds.scrubbed_ne {v : LogValue} (h : Holds redactedFields v) :
    ∀ {a b : LogValue}, normalizePrimitive (scrub redactedFields s v) = .ok a →
      normalizePrimitive (scrub redactedFields t v) = .ok b → a ≠ b := by
  have hmapping {items : List (String × LogValue)} {k : String} {v a b : LogValue}
      (hmem : (k, v) ∈ comprehend items)
      (hv : isRedacted redactedFields k = true ∨
        ∀ {a b}, normalizePrimitive (scrub redactedFields s v) = .ok a →
          normalizePrimitive (scrub redactedFields t v) = .ok b → a ≠ b)
      (ha : normalizePrimitive (scrub redactedFields s (.mapping items)) = .ok a)
      (hb : normalizePrimitive (scrub redactedFields t (.mapping items)) = .ok b) : a ≠ b := by
    rw [scrub] at ha hb
    obtain ⟨normalized, hn, rfl⟩ := normalizePrimitive_mapping.mp ha
    obtain ⟨normalized', hn', rfl⟩ := normalizePrimitive_mapping.mp hb
    obtain ⟨a, hlast, ha⟩ := last_scrubbed hn hmem
    obtain ⟨b, hlast', hb⟩ := last_scrubbed hn' hmem
    intro heq
    have hab : some a = some b := by
      rw [← hlast, ← hlast', ← last_comprehend, LogValue.mapping.inj heq, last_comprehend]
    obtain rfl := Option.some.inj hab
    by_cases hk : isRedacted redactedFields k = true
    · rw [if_pos hk] at ha hb
      exact hne (Except.ok.inj (hs.symm.trans (ha.trans (hb.symm.trans ht))))
    · rw [if_neg hk] at ha hb
      exact hv.resolve_left hk ha hb rfl
  induction h with
  | key hmem hk => exact hmapping hmem (.inl hk)
  | item hmem _ ih => exact hmapping hmem (.inr ih)
  | list hmem _ ih =>
    intro a b ha hb
    rw [scrub] at ha hb
    obtain ⟨ys, hys, rfl⟩ := normalizePrimitive_list.mp ha
    obtain ⟨ys', hys', rfl⟩ := normalizePrimitive_list.mp hb
    exact fun heq => scrubbed_list_ne hmem (fun _ _ => ih) hys hys' (LogValue.list.inj heq)
  | tuple hmem _ ih =>
    intro a b ha hb
    rw [scrub, normalizePrimitive_tuple] at ha hb
    obtain ⟨ys, hys, rfl⟩ := normalizePrimitive_list.mp ha
    obtain ⟨ys', hys', rfl⟩ := normalizePrimitive_list.mp hb
    exact fun heq => scrubbed_list_ne hmem (fun _ _ => ih) hys hys' (LogValue.list.inj heq)

/-- What is stored under an exposed key shows after the redaction. -/
theorem Exposes.scrubbed_ne {v : LogValue} (h : Exposes redactedFields v) :
    ∀ {a b : LogValue}, normalizePrimitive (scrub redactedFields s v) = .ok a →
      normalizePrimitive (scrub redactedFields t v) = .ok b →
      redactNested redactedFields a ≠ redactNested redactedFields b := by
  have hlist {xs : List LogValue} (h : Holds redactedFields (.list xs)) {a b : LogValue}
      (ha : normalizePrimitive (scrub redactedFields s (.list xs)) = .ok a)
      (hb : normalizePrimitive (scrub redactedFields t (.list xs)) = .ok b) :
      redactNested redactedFields a ≠ redactNested redactedFields b := by
    have hab := h.scrubbed_ne hne hs ht ha hb
    rw [scrub] at ha hb
    obtain ⟨ys, -, rfl⟩ := normalizePrimitive_list.mp ha
    obtain ⟨ys', -, rfl⟩ := normalizePrimitive_list.mp hb
    simpa [redactNested] using hab
  induction h with
  | list hmem hv => exact hlist (.list hmem hv)
  | tuple hmem hv =>
    intro a b ha hb
    rw [scrub, normalizePrimitive_tuple, ← scrub] at ha hb
    exact hlist (.list hmem hv) ha hb
  | @item items k v hmem hk _ ih =>
    intro a b ha hb heq
    rw [scrub] at ha hb
    obtain ⟨normalized, hn, rfl⟩ := normalizePrimitive_mapping.mp ha
    obtain ⟨normalized', hn', rfl⟩ := normalizePrimitive_mapping.mp hb
    obtain ⟨a, hlast, ha⟩ := last_scrubbed hn hmem
    obtain ⟨b, hlast', hb⟩ := last_scrubbed hn' hmem
    rw [hk] at ha hb
    rw [redactNested, redactNested, LogValue.mapping.injEq] at heq
    have hvalues := congrArg (fun redacted => last redacted k) heq
    simp only [last_redactItems, last_comprehend, hlast, hlast', hk, Option.map_some,
      Option.some.injEq] at hvalues
    exact ih ha hb hvalues

end

/-- An emit that succeeds does so with every payload that can be normalized. -/
theorem emit_isOk {config : StructuredLoggingConfig} {sink : LogEntry → Except String Unit}
    {now : DateTime} {level message : String} {payload payload' correlation : LogValue}
    {entry : LogEntry} {status : EmitStatus} {normalized : List (String × LogValue)}
    (h : emit config sink now level message payload correlation = .ok (entry, status))
    (hpayload' : normalizePrimitive payload' = .ok (.mapping normalized)) :
    ∃ entry' status', emit config sink now level message payload' correlation =
      .ok (entry', status') := by
  obtain ⟨normalizedLevel, hlevel, h⟩ := except_bind_ok.mp h
  obtain ⟨_, -, h⟩ := except_bind_ok.mp h
  obtain ⟨normalizedCorrelation, hcorrelation, h⟩ := except_bind_ok.mp h
  obtain ⟨runtime, hruntime, -⟩ := except_bind_ok.mp h
  have hredacted : redactMapping config.redactedFields payload' =
      .ok (redactItems config.redactedFields normalized) := by
    rw [redactMapping_eq, normalizeMapping_ok.mpr hpayload']
    rfl
  exact ⟨_, _, except_bind_ok.mpr ⟨normalizedLevel, hlevel, except_bind_ok.mpr ⟨_, hredacted,
    except_bind_ok.mpr ⟨normalizedCorrelation, hcorrelation, except_bind_ok.mpr ⟨runtime, hruntime,
    rfl⟩⟩⟩⟩⟩

/-- An accepted payload is accepted scrubbed. -/
theorem scrub_payload (redactedFields : List String) {s payload : LogValue}
    {normalized : List (String × LogValue)} (hs : normalizePrimitive s = .ok s)
    (h : normalizePrimitive payload = .ok (.mapping normalized)) :
    ∃ scrubbed, normalizePrimitive (scrub redactedFields s payload) = .ok (.mapping scrubbed) := by
  obtain ⟨a, ha⟩ := scrub_accepted redactedFields ⟨s, hs⟩ payload ⟨_, h⟩
  cases payload with
  | mapping items =>
    rw [scrub] at ha ⊢
    obtain ⟨scrubbed, -, rfl⟩ := normalizePrimitive_mapping.mp ha
    exact ⟨_, ha⟩
  | list xs => simp [normalizePrimitive_list] at h
  | tuple xs => simp [normalizePrimitive_tuple, normalizePrimitive_list] at h
  | _ => simp [normalizePrimitive] at h

/-- The payload handed to the sink depends on nothing under a redacted key if and only if no
redacted key is in a sequence that no redacted key hides. -/
theorem redaction_noninterfering_iff {config : StructuredLoggingConfig}
    {sink : LogEntry → Except String Unit} {now : DateTime} {level message : String}
    {payload correlation : LogValue} {entry : LogEntry} {status : EmitStatus}
    (h : emit config sink now level message payload correlation = .ok (entry, status)) :
    (∀ sink' now' level' message' payload' correlation' entry' status',
      Alike config.redactedFields payload payload' →
      emit config sink' now' level' message' payload' correlation' = .ok (entry', status') →
      entry'.payload = entry.payload) ↔ ¬Exposes config.redactedFields payload := by
  obtain ⟨normalized, hn, hentry⟩ := emit_payload h
  constructor
  · intro hsame hexposes
    have hscrub (s : LogValue) (hs : normalizePrimitive s = .ok s) :
        ∃ scrubbed, normalizePrimitive (scrub config.redactedFields s payload) =
          .ok (.mapping scrubbed) ∧
          redactItems config.redactedFields scrubbed = entry.payload := by
      obtain ⟨scrubbed, hscrubbed⟩ := scrub_payload config.redactedFields hs hn
      obtain ⟨entry', status', h'⟩ := emit_isOk h hscrubbed
      obtain ⟨normalized', hn', hentry'⟩ := emit_payload h'
      obtain rfl := LogValue.mapping.inj (Except.ok.inj (hscrubbed.symm.trans hn'))
      exact ⟨scrubbed, hscrubbed, hentry'.symm.trans
        (hsame _ _ _ _ _ _ _ _ (scrub_alike config.redactedFields s payload) h')⟩
    obtain ⟨first, hfirst, heq⟩ := hscrub .none rfl
    obtain ⟨second, hsecond, heq'⟩ := hscrub (.bool true) rfl
    have hne := hexposes.scrubbed_ne (by simp) rfl rfl hfirst hsecond
    rw [redactNested, redactNested, heq, heq'] at hne
    exact hne rfl
  · intro hclear sink' now' level' message' payload' correlation' entry' status' halike h'
    obtain ⟨normalized', hn', hentry'⟩ := emit_payload h'
    have heq := Alike.redacted_eq payload halike hclear hn hn'
    rw [redactNested, redactNested, LogValue.mapping.injEq] at heq
    rw [hentry, hentry', heq]

end

section
attribute [local instance] Interpreter.ascii

def sampleConfig : StructuredLoggingConfig where
  redactedFields := ["password", "token"]

def sampleTime : DateTime :=
  ⟨{ year := 2026, month := 3, day := 4, tzinfo := some .utc }, by decide⟩

def quietSink (_ : LogEntry) : Except String Unit := .ok ()

def samplePayload : LogValue := .mapping [("password", .str "secret"), ("count", .int 2)]

/-- The entry with a given payload. -/
def sampleEntry (payload : List (String × LogValue)) : LogEntry where
  timestamp := sampleTime.isoformat
  level := "info"
  message := "sync"
  payload := payload
  correlation := []
  runtime := []

theorem sample_emitted {payload : LogValue} {normalized : List (String × LogValue)}
    (h : normalizeMapping payload = .ok normalized) :
    emit sampleConfig quietSink sampleTime "info" "sync" payload (.mapping []) =
      .ok (sampleEntry (redactItems sampleConfig.redactedFields normalized), .emitted) := by
  have hlevel : validateLevel "info" = .ok "info" := by decide +kernel
  have hredacted : redactMapping sampleConfig.redactedFields payload =
      .ok (redactItems sampleConfig.redactedFields normalized) := by
    rw [redactMapping_eq, h]
    rfl
  simp only [emit, hlevel, hredacted]
  rfl

theorem samplePayload_clear : ¬Exposes sampleConfig.redactedFields samplePayload := by
  rintro (_ | _ | ⟨hmem, hk, hv⟩)
  rcases comprehend_subset _ hmem with _ | ⟨_, _ | ⟨_, hnil⟩⟩
  · exact absurd hk (by decide +kernel)
  · cases hv
  · cases hnil

theorem samplePayload_normalized : normalizeMapping samplePayload =
    .ok [("password", .str "secret"), ("count", .int 2)] := by
  simp [samplePayload, normalizeMapping, normalizeItems, normalizePrimitive, comprehend, last,
    List.eraseDups_cons, bind, Except.bind, pure, Except.pure]
  rfl

/-- The redacted password does not show. -/
theorem redaction_noninterfering_password :
    ¬Exposes sampleConfig.redactedFields samplePayload ∧
    ∀ sink' now' level' message' payload' correlation' entry' status',
      Alike sampleConfig.redactedFields samplePayload payload' →
      emit sampleConfig sink' now' level' message' payload' correlation' = .ok (entry', status') →
      entry'.payload = redactItems sampleConfig.redactedFields
        [("password", .str "secret"), ("count", .int 2)] :=
  ⟨samplePayload_clear,
    (redaction_noninterfering_iff
      (sample_emitted samplePayload_normalized)).mpr samplePayload_clear⟩

/-- A mapping in a list, with one key. -/
def listedPayload (token : String) : LogValue :=
  .mapping [("items", .list [.mapping [("token", .str token)]])]

theorem listedPayload_normalized (token : String) : normalizeMapping (listedPayload token) =
    .ok [("items", .list [.mapping [("token", .str token)]])] := by
  simp [listedPayload, normalizeMapping, normalizeItems, normalizePrimitive, normalizeList,
    comprehend, last, List.eraseDups_cons, bind, Except.bind, pure, Except.pure]

/-- The key of a mapping in a list is not redacted. -/
theorem listed_secret_emitted :
    Alike sampleConfig.redactedFields (listedPayload "a") (listedPayload "b") ∧
      ∃ entry entry', emit sampleConfig quietSink sampleTime "info" "sync" (listedPayload "a")
          (.mapping []) = .ok (entry, .emitted) ∧
        emit sampleConfig quietSink sampleTime "info" "sync" (listedPayload "b")
          (.mapping []) = .ok (entry', .emitted) ∧
        entry.payload ≠ entry'.payload := by
  have htoken : isRedacted sampleConfig.redactedFields "token" = true := by decide +kernel
  have hitems : isRedacted sampleConfig.redactedFields "items" = false := by decide +kernel
  refine ⟨.mapping (.cons (.kept "items" (.list (.cons (.mapping
    (.cons (.redacted htoken _ _) .nil)) .nil))) .nil), _, _,
    sample_emitted (listedPayload_normalized "a"),
    sample_emitted (listedPayload_normalized "b"), ?_⟩
  simp [sampleEntry, redactItems, redactNested, hitems]

end

end DpostV2.Logging
