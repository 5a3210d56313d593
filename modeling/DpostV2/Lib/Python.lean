import Mathlib.Data.List.Infix
import Mathlib.Data.List.Nodup
import Mathlib.Data.List.DropRight
import Mathlib.Data.Rat.Floor
import Mathlib.Algebra.Order.Field.Rat

/-!
# Python values, dicts and exceptions

The part of the language the modelled code rests on. A `Value` is what a
mapping of the program can hold; `object` stands for every value of another
class and carries the text `str()` gives for it. A `Dict` answers `get`
and merges like the built-in one and keeps its keys distinct by
construction. An `Exn` carries the names of its class and of that class's
bases, so that `except C` is a membership test.

`Interpreter` lists what is left to the Python runtime: texts of floats,
parsing of numbers, character classes, digests. Every theorem holds for
every interpreter.
-/

namespace DpostV2

/-- Seconds since the epoch, and every other Python float: finite values only. -/
abbrev Seconds := Rat

-- ---------------------------------------------------------------------------
-- Exceptions
-- ---------------------------------------------------------------------------

/-- A raised `Exception`: its class and bases, most derived first. -/
structure Exn where
  mro : List String
  message : String
  stageId : Option String := none
  deriving DecidableEq, Repr

def Exn.isInstance (e : Exn) (cls : String) : Bool := e.mro.contains cls

def Exn.className (e : Exn) : String := e.mro.headD "Exception"

def typeError (message : String) : Exn := { mro := ["TypeError", "Exception"], message }

def valueError (message : String) : Exn := { mro := ["ValueError", "Exception"], message }

def attributeError (message : String) : Exn := { mro := ["AttributeError", "Exception"], message }

/-- An exception as a handler meets it: `str()` of it may raise in its turn. -/
structure Raised where
  exn : Exn
  broken : Option Exn := none

def Raised.str (e : Raised) : Except Exn String :=
  match e.broken with
  | some broken => .error broken
  | none => .ok e.exn.message

theorem Raised.str_ok {e : Raised} :
    e.str = .ok reason ↔ e.broken = none ∧ e.exn.message = reason := by
  unfold Raised.str
  cases e.broken <;> simp

theorem except_bind_ok {x : Except ε α} {f : α → Except ε β} :
    x >>= f = .ok b ↔ ∃ a, x = .ok a ∧ f a = .ok b := by
  cases x <;> simp [bind, Except.bind]

theorem except_pure_ok : (pure a : Except ε α) = .ok b ↔ a = b := by
  simp [pure, Except.pure]

-- ---------------------------------------------------------------------------
-- Values
-- ---------------------------------------------------------------------------

inductive Value where
  | none
  | bool (b : Bool)
  | int (i : Int)
  | float (q : Seconds)
  | str (s : String)
  | datetime (t : Seconds)
  | list (xs : List Value)
  | tuple (xs : List Value)
  | dict (entries : List (String × Value))
  | object (typeName text : String)
  deriving Repr, Inhabited

/-- The texts `hexdigest()` gives for SHA-256. -/
def IsHexDigest (s : String) : Prop :=
  s.toList.length = 64 ∧ ∀ c ∈ s.toList, c ∈ "0123456789abcdef".toList

/-- What the modelled functions ask of the Python runtime. -/
class Interpreter where
  /-- `str()` of a value that is not a string. -/
  textOf : Value → String
  /-- `repr()` of a string. -/
  reprOf : String → String
  /-- `datetime.isoformat()`. -/
  isoformat : Seconds → String
  /-- `int()` of a string; `none` where it raises `ValueError`. -/
  parseInt : String → Option Int
  /-- `float()` of a string; `none` where it raises `ValueError`. -/
  parseFloat : String → Option Seconds
  /-- `str.lower`. -/
  lower : String → String
  /-- `str.isdigit` of one character. -/
  isDigit : Char → Bool
  /-- `sha256(json.dumps(value, sort_keys=True).encode("utf-8")).hexdigest()`. -/
  jsonDigest : Value → String
  /-- `sha256(text.encode("utf-8")).hexdigest()`. -/
  textDigest : String → String
  jsonDigest_hex : ∀ v, IsHexDigest (jsonDigest v)
  textDigest_hex : ∀ s, IsHexDigest (textDigest s)

/-- `bool(value)`. -/
def Value.truthy : Value → Bool
  | .none => false
  | .bool b => b
  | .int i => i != 0
  | .float q => q != 0
  | .str s => s != ""
  | .list xs | .tuple xs => !xs.isEmpty
  | .dict es => !es.isEmpty
  | .datetime _ | .object _ _ => true

section
variable [Interpreter]

/-- `str(value)`. -/
def pyStr : Value → String
  | .str s => s
  | v => Interpreter.textOf v

/-- `repr(value)`. -/
def pyRepr : Value → String
  | .str s => Interpreter.reprOf s
  | v => Interpreter.textOf v

/-- `int(value)`. -/
def pyInt : Value → Except Exn Int
  | .int i => .ok i
  | .bool b => .ok (if b then 1 else 0)
  | .float q => .ok (if 0 ≤ q then ⌊q⌋ else ⌈q⌉)
  | .str s => match Interpreter.parseInt s with
    | some i => .ok i
    | Option.none => .error (valueError "invalid literal for int() with base 10")
  | _ => .error (typeError "int() argument must be a string, a bytes-like object or a real number")

/-- `float(value)`. -/
def pyFloat : Value → Except Exn Seconds
  | .float q => .ok q
  | .int i => .ok i
  | .bool b => .ok (if b then 1 else 0)
  | .str s => match Interpreter.parseFloat s with
    | some q => .ok q
    | Option.none => .error (valueError "could not convert string to float")
  | _ => .error (typeError "float() argument must be a string or a real number")

/-- `round(q, 6)`: to the even neighbour on a tie. -/
def pyRound6 (q : Seconds) : Seconds :=
  let scaled := q * 1000000
  let floor := ⌊scaled⌋
  let rest := scaled - floor
  let rounded := if rest < 1 / 2 then floor else if 1 / 2 < rest then floor + 1
    else if floor % 2 = 0 then floor else floor + 1
  rounded / 1000000

@[simp] theorem pyStr_str (s : String) : pyStr (.str s) = s := rfl
@[simp] theorem pyInt_int (i : Int) : pyInt (.int i) = .ok i := rfl

end

def hexDigit (n : Nat) : Char := "0123456789abcdef".toList.getD (n % 16) '0'

theorem hexDigit_mem (n : Nat) : hexDigit n ∈ "0123456789abcdef".toList := by
  have h : ∀ m < 16, "0123456789abcdef".toList.getD m '0' ∈ "0123456789abcdef".toList := by
    decide +kernel
  exact h _ (Nat.mod_lt _ (by decide))

/-- The last 64 hexadecimal digits of a number. -/
def hexText (n : Nat) : String := String.ofList ((List.range 64).map fun i => hexDigit (n / 16 ^ i))

theorem hexText_hex (n : Nat) : IsHexDigest (hexText n) := by
  refine ⟨by simp [hexText], ?_⟩
  intro c hc
  simp only [hexText, String.toList_ofList, List.mem_map] at hc
  obtain ⟨i, -, rfl⟩ := hc
  exact hexDigit_mem _

def textNumber (s : String) : Nat := s.toList.foldl (fun n c => n * 257 + c.toNat) 1

mutual
def Value.number : Value → Nat
  | .none => 2
  | .bool b => if b then 3 else 4
  | .int i => 5 + i.natAbs
  | .float q | .datetime q => 6 + q.num.natAbs * 257 + q.den
  | .str s => 7 + textNumber s
  | .list xs | .tuple xs => 8 + Value.numberList xs
  | .dict es => 9 + Value.numberEntries es
  | .object typeName text => 10 + textNumber typeName * 257 + textNumber text
def Value.numberList : List Value → Nat
  | [] => 1
  | v :: vs => Value.number v + 65537 * Value.numberList vs
def Value.numberEntries : List (String × Value) → Nat
  | [] => 1
  | (k, v) :: es => textNumber k + 257 * Value.number v + 65537 * Value.numberEntries es
end

/-- CPython on integers and ASCII texts, with a digest that is not SHA-256. -/
@[reducible] def Interpreter.ascii : Interpreter where
  textOf v := match v with
    | .none => "None"
    | .bool b => if b then "True" else "False"
    | .int i => toString i
    | .object _ text => text
    | _ => ""
  reprOf s := "'" ++ s ++ "'"
  isoformat t := toString t
  parseInt s := s.toInt?
  parseFloat s := s.toInt?.map fun i => (i : Seconds)
  lower s := String.ofList (s.toList.map Char.toLower)
  isDigit c := c.isDigit
  jsonDigest v := hexText v.number
  textDigest s := hexText (textNumber s)
  jsonDigest_hex v := hexText_hex v.number
  textDigest_hex s := hexText_hex (textNumber s)

-- ---------------------------------------------------------------------------
-- Strings
-- ---------------------------------------------------------------------------

/-- `str.isspace` of one character. -/
def isSpace (c : Char) : Bool :=
  (9 ≤ c.toNat && c.toNat ≤ 13) || (28 ≤ c.toNat && c.toNat ≤ 32) || c.toNat == 133 ||
    c.toNat == 160 || c.toNat == 5760 || (8192 ≤ c.toNat && c.toNat ≤ 8202) ||
    c.toNat == 8232 || c.toNat == 8233 || c.toNat == 8239 || c.toNat == 8287 || c.toNat == 12288

/-- `str.strip()`. -/
def strip (s : String) : String :=
  String.ofList ((s.toList.dropWhile isSpace).rdropWhile isSpace)

/-- `not text.strip()`. -/
def blank (s : String) : Bool := strip s == ""

theorem nonblank {s : String} (h : ¬blank s = true) : blank s = false := by simpa using h

theorem dropWhile_rdropWhile (P : α → Bool) (l : List α) :
    ((l.dropWhile P).rdropWhile P).dropWhile P = (l.dropWhile P).rdropWhile P := by
  obtain ⟨t, ht⟩ := List.rdropWhile_prefix P (l.dropWhile P)
  cases hm : (l.dropWhile P).rdropWhile P with
  | nil => rfl
  | cons a m =>
    rw [hm] at ht
    have hd : (l.dropWhile P).dropWhile P = l.dropWhile P := List.dropWhile_idempotent ..
    rw [← ht, List.cons_append, List.dropWhile_cons] at hd
    cases hp : P a with
    | false => rw [List.dropWhile_cons, hp]; rfl
    | true =>
      rw [hp, if_pos rfl] at hd
      have hlen := (List.dropWhile_sublist P (l := m ++ t)).length_le
      rw [hd] at hlen
      simp at hlen

@[simp] theorem strip_strip (s : String) : strip (strip s) = strip s := by
  simp only [strip, String.toList_ofList]
  rw [dropWhile_rdropWhile, List.rdropWhile_idempotent]

/-- `part in text`. -/
def containsText (part text : String) : Bool := decide (part.toList <:+: text.toList)

theorem strip_eq_empty {s : String} : strip s = "" ↔ ∀ c ∈ s.toList, isSpace c = true := by
  rw [strip, ← String.toList_inj, String.toList_ofList, String.toList_empty,
    List.rdropWhile_eq_nil_iff]
  constructor
  · intro h c hc
    rw [← List.takeWhile_append_dropWhile (p := isSpace) (l := s.toList), List.mem_append] at hc
    rcases hc with hc | hc
    · exact List.mem_takeWhile_imp hc
    · exact h c hc
  · intro h c hc
    exact h c ((List.dropWhile_sublist _).mem hc)

def Unspaced (s : String) : Prop := ∀ c ∈ s.toList, isSpace c = false

instance : DecidablePred Unspaced := fun s =>
  decidable_of_iff (s.toList.all (fun c => !isSpace c) = true) (by simp [Unspaced])

theorem Unspaced.strip {s : String} (h : Unspaced s) : strip s = s := by
  have hd : s.toList.dropWhile isSpace = s.toList := by
    cases hs : s.toList with
    | nil => rfl
    | cons c cs => rw [List.dropWhile_cons_of_neg (by simp [h c (by simp [hs])])]
  have hr : s.toList.rdropWhile isSpace = s.toList := by
    rw [List.rdropWhile_eq_self_iff]
    intro hne
    simp [h _ (List.getLast_mem hne)]
  rw [DpostV2.strip, hd, hr, String.ofList_toList]

theorem Unspaced.append {s t : String} (hs : Unspaced s) (ht : Unspaced t) : Unspaced (s ++ t) := by
  intro c hc
  rw [String.toList_append, List.mem_append] at hc
  rcases hc with hc | hc
  · exact hs c hc
  · exact ht c hc

theorem Unspaced.take {s : String} (h : Unspaced s) (n : Nat) :
    Unspaced (String.ofList (s.toList.take n)) := by
  intro c hc
  rw [String.toList_ofList] at hc
  exact h c (List.mem_of_mem_take hc)

theorem IsHexDigest.unspaced {s : String} (h : IsHexDigest s) : Unspaced s := by
  intro c hc
  have hex : "0123456789abcdef".toList.all (fun c => !isSpace c) = true := by decide +kernel
  simpa using List.all_eq_true.mp hex c (h.2 c hc)

-- ---------------------------------------------------------------------------
-- Dicts
-- ---------------------------------------------------------------------------

/-- `d[k] = v` on the entries: in place when the key is there, at the end when not. -/
def setEntry (k : String) (v : Value) : List (String × Value) → List (String × Value)
  | [] => [(k, v)]
  | (k', v') :: es => if k' = k then (k, v) :: es else (k', v') :: setEntry k v es

theorem setEntry_keys (k : String) (v : Value) (es : List (String × Value)) :
    (setEntry k v es).map Prod.fst =
      if k ∈ es.map Prod.fst then es.map Prod.fst else es.map Prod.fst ++ [k] := by
  induction es with
  | nil => simp [setEntry]
  | cons e es ih =>
    obtain ⟨k', v'⟩ := e
    by_cases h : k' = k
    · simp [setEntry, h]
    · have hk : k ≠ k' := Ne.symm h
      simp only [setEntry, h, if_false, List.map_cons, ih, List.mem_cons, hk, false_or]
      split <;> simp

theorem setEntry_nodup {es : List (String × Value)} (h : (es.map Prod.fst).Nodup) :
    ((setEntry k v es).map Prod.fst).Nodup := by
  rw [setEntry_keys]
  split
  · exact h
  · rename_i hk
    refine List.nodup_append.mpr ⟨h, by simp, ?_⟩
    rintro a ha b hb rfl
    exact hk (List.mem_singleton.mp hb ▸ ha)

theorem lookup_setEntry (k : String) (v : Value) (es : List (String × Value)) (key : String) :
    (setEntry k v es).lookup key = if key = k then some v else es.lookup key := by
  induction es with
  | nil =>
    by_cases h : key = k <;> simp [setEntry, List.lookup_cons, h]
    simp [beq_eq_false_iff_ne.mpr h]
  | cons e es ih =>
    obtain ⟨k', v'⟩ := e
    by_cases h : k' = k
    · subst h
      by_cases hk : key = k'
      · simp [setEntry, hk]
      · simp [setEntry, List.lookup_cons, hk, beq_eq_false_iff_ne.mpr hk]
    · by_cases hk : key = k'
      · subst hk
        simp [setEntry, h]
      · simp [setEntry, h, List.lookup_cons, beq_eq_false_iff_ne.mpr hk, ih]

/-- A dict with string keys, in insertion order. -/
structure Dict where
  entries : List (String × Value)
  nodup : (entries.map Prod.fst).Nodup

def Dict.empty : Dict := ⟨[], by simp⟩

def Dict.get? (d : Dict) (k : String) : Option Value := d.entries.lookup k

def Dict.getD (d : Dict) (k : String) (v : Value) : Value := (d.get? k).getD v

/-- `d.get(key)`, `None` when the key is missing. -/
def Dict.getNone (d : Dict) (key : String) : Value := d.getD key .none

def Dict.contains (d : Dict) (k : String) : Bool := (d.get? k).isSome

def Dict.set (d : Dict) (k : String) (v : Value) : Dict :=
  ⟨setEntry k v d.entries, setEntry_nodup d.nodup⟩

/-- `d.update(entries)`. -/
def Dict.updateEntries (d : Dict) : List (String × Value) → Dict
  | [] => d
  | (k, v) :: es => (d.set k v).updateEntries es

/-- `d.update(other)`. -/
def Dict.update (d other : Dict) : Dict := d.updateEntries other.entries

/-- `dict(entries)`. -/
def Dict.ofEntries (es : List (String × Value)) : Dict := Dict.empty.updateEntries es

@[ext] theorem Dict.ext {d d' : Dict} (h : d.entries = d'.entries) : d = d' := by
  cases d; cases d'; cases h; rfl

@[simp] theorem Dict.get?_empty (k : String) : Dict.empty.get? k = none := rfl

@[simp] theorem Dict.get?_set (d : Dict) (k : String) (v : Value) (key : String) :
    (d.set k v).get? key = if key = k then some v else d.get? key :=
  lookup_setEntry k v d.entries key

theorem lookup_none_of_not_mem {es : List (String × Value)} (h : k ∉ es.map Prod.fst) :
    es.lookup k = none := by
  rw [List.lookup_eq_none_iff]
  intro e he
  simp only [bne_iff_ne, ne_eq]
  rintro rfl
  exact h (List.mem_map_of_mem he)

theorem Dict.get?_updateEntries {es : List (String × Value)} (d : Dict)
    (h : (es.map Prod.fst).Nodup) (k : String) :
    (d.updateEntries es).get? k = (es.lookup k).or (d.get? k) := by
  induction es generalizing d with
  | nil => simp [Dict.updateEntries]
  | cons e es ih =>
    obtain ⟨k', v'⟩ := e
    simp only [List.map_cons, List.nodup_cons] at h
    rw [Dict.updateEntries, ih (d.set k' v') h.2, Dict.get?_set, List.lookup_cons]
    by_cases hk : k = k'
    · subst hk
      simp [lookup_none_of_not_mem h.1]
    · simp [hk, beq_eq_false_iff_ne.mpr hk]

@[simp] theorem Dict.get?_update (d other : Dict) (k : String) :
    (d.update other).get? k = (other.get? k).or (d.get? k) :=
  d.get?_updateEntries other.nodup k

theorem Dict.get?_ofEntries {es : List (String × Value)} (h : (es.map Prod.fst).Nodup)
    (k : String) : (Dict.ofEntries es).get? k = es.lookup k := by
  simp [Dict.ofEntries, Dict.get?_updateEntries Dict.empty h]

theorem updateEntries_append (d : Dict) {es : List (String × Value)}
    (h : ((d.entries ++ es).map Prod.fst).Nodup) :
    (d.updateEntries es).entries = d.entries ++ es := by
  induction es generalizing d with
  | nil => simp [Dict.updateEntries]
  | cons e es ih =>
    obtain ⟨k, v⟩ := e
    have hk : k ∉ d.entries.map Prod.fst := by
      intro hm
      simp only [List.map_append, List.map_cons] at h
      exact (List.nodup_append.mp h).2.2 k hm k (by simp) rfl
    have hset : (d.set k v).entries = d.entries ++ [(k, v)] := by
      simp only [Dict.set]
      clear h ih
      generalize d.entries = l at hk
      induction l with
      | nil => rfl
      | cons a l ihl =>
        obtain ⟨a, b⟩ := a
        simp only [List.map_cons, List.mem_cons, not_or] at hk
        simp [setEntry, Ne.symm hk.1, ihl hk.2]
    rw [Dict.updateEntries, ih (d.set k v) (by simpa [hset] using h), hset]
    simp

theorem Dict.ofEntries_entries (d : Dict) : Dict.ofEntries d.entries = d := by
  have hd : ((Dict.empty.entries ++ d.entries).map Prod.fst).Nodup := by
    simpa [Dict.empty] using d.nodup
  ext1
  simpa [Dict.ofEntries, Dict.empty] using updateEntries_append Dict.empty hd

theorem mem_setEntry {e : String × Value} {es : List (String × Value)} (h : e ∈ setEntry k v es) :
    e = (k, v) ∨ e ∈ es := by
  induction es with
  | nil => exact .inl (List.mem_singleton.mp h)
  | cons e' es ih =>
    obtain ⟨k', v'⟩ := e'
    unfold setEntry at h
    split at h
    · rcases List.mem_cons.mp h with h | h
      · exact .inl h
      · exact .inr (List.mem_cons_of_mem _ h)
    · rcases List.mem_cons.mp h with h | h
      · exact .inr (h ▸ List.mem_cons_self)
      · exact (ih h).imp_right (List.mem_cons_of_mem _)

theorem mem_updateEntries {e : String × Value} {d : Dict} {es : List (String × Value)}
    (h : e ∈ (d.updateEntries es).entries) : e ∈ d.entries ∨ e ∈ es := by
  induction es generalizing d with
  | nil => exact .inl h
  | cons e' es ih =>
    obtain ⟨k, v⟩ := e'
    rcases ih h with h | h
    · rcases mem_setEntry h with rfl | h
      · exact .inr List.mem_cons_self
      · exact .inl h
    · exact .inr (List.mem_cons_of_mem _ h)

/-- A dict holds nothing but what it was built from. -/
theorem Dict.mem_ofEntries {e : String × Value} {es : List (String × Value)}
    (h : e ∈ (Dict.ofEntries es).entries) : e ∈ es :=
  (mem_updateEntries h).resolve_left List.not_mem_nil

/-- The mapping a value is; `none` where `isinstance(value, Mapping)` fails. -/
def Value.asDict? : Value → Option Dict
  | .dict es => some (Dict.ofEntries es)
  | _ => Option.none

@[simp] theorem asDict?_entries (d : Dict) : (Value.dict d.entries).asDict? = some d := by
  simp [Value.asDict?, d.ofEntries_entries]

-- ---------------------------------------------------------------------------
-- JSON
-- ---------------------------------------------------------------------------

mutual
/-- What `json.loads` gives back for the text of `json.dumps`; `none` where
`dumps` raises `TypeError`. The order of a dict's keys in the text does not
show in the dict read back. -/
def Value.toJson : Value → Option Value
  | .none => some .none
  | .bool b => some (.bool b)
  | .int i => some (.int i)
  | .float q => some (.float q)
  | .str s => some (.str s)
  | .list xs | .tuple xs => (Value.toJsonList xs).map .list
  | .dict es => (Value.toJsonEntries es).map .dict
  | .datetime _ | .object _ _ => Option.none
def Value.toJsonList : List Value → Option (List Value)
  | [] => some []
  | v :: vs => (Value.toJson v).bind fun v => (Value.toJsonList vs).map (v :: ·)
def Value.toJsonEntries : List (String × Value) → Option (List (String × Value))
  | [] => some []
  | (k, v) :: es => (Value.toJson v).bind fun v => (Value.toJsonEntries es).map ((k, v) :: ·)
end

theorem toJsonEntries_keys {es js : List (String × Value)} (h : Value.toJsonEntries es = some js) :
    js.map Prod.fst = es.map Prod.fst := by
  induction es generalizing js with
  | nil => cases h; rfl
  | cons e es ih =>
    obtain ⟨k, v⟩ := e
    simp only [Value.toJsonEntries, Option.bind_eq_some_iff, Option.map_eq_some_iff] at h
    obtain ⟨_, _, js, hjs, rfl⟩ := h
    simp [ih hjs]

theorem lookup_toJsonEntries {es js : List (String × Value)}
    (h : Value.toJsonEntries es = some js) (k : String) :
    js.lookup k = (es.lookup k).bind Value.toJson := by
  induction es generalizing js with
  | nil => cases h; rfl
  | cons e es ih =>
    obtain ⟨k', v⟩ := e
    simp only [Value.toJsonEntries, Option.bind_eq_some_iff, Option.map_eq_some_iff] at h
    obtain ⟨v', hv, js, hjs, rfl⟩ := h
    by_cases hk : k = k'
    · subst hk; simp [hv]
    · simp [List.lookup_cons, beq_eq_false_iff_ne.mpr hk, ih hjs]

/-- `json.dumps(d, sort_keys=True)`, read back. -/
def Dict.dumps (d : Dict) : Except Exn Dict :=
  match h : Value.toJsonEntries d.entries with
  | some es => .ok ⟨es, by rw [toJsonEntries_keys h]; exact d.nodup⟩
  | Option.none => .error (typeError "Object is not JSON serializable")

theorem Dict.dumps_get? {d j : Dict} (h : d.dumps = .ok j) (k : String) :
    j.get? k = (d.get? k).bind Value.toJson := by
  unfold Dict.dumps at h
  split at h
  · cases h
    exact lookup_toJsonEntries (by assumption) k
  · cases h

mutual
/-- What comes back from JSON goes through it unchanged. -/
theorem toJson_idem : (v : Value) → ∀ {j : Value}, v.toJson = some j → j.toJson = some j
  | .none, _, h | .bool _, _, h | .int _, _, h | .float _, _, h | .str _, _, h => by
    cases h
    rfl
  | .datetime _, _, h | .object _ _, _, h => by cases h
  | .list xs, _, h | .tuple xs, _, h => by
    simp only [Value.toJson, Option.map_eq_some_iff] at h
    obtain ⟨js, hjs, rfl⟩ := h
    simp [Value.toJson, toJsonList_idem xs hjs]
  | .dict es, _, h => by
    simp only [Value.toJson, Option.map_eq_some_iff] at h
    obtain ⟨js, hjs, rfl⟩ := h
    simp [Value.toJson, toJsonEntries_idem es hjs]
theorem toJsonList_idem : (xs : List Value) → ∀ {js : List Value},
    Value.toJsonList xs = some js → Value.toJsonList js = some js
  | [], _, h => by
    cases h
    rfl
  | v :: vs, _, h => by
    simp only [Value.toJsonList, Option.bind_eq_some_iff, Option.map_eq_some_iff] at h
    obtain ⟨j, hj, js, hjs, rfl⟩ := h
    simp [Value.toJsonList, toJson_idem v hj, toJsonList_idem vs hjs]
theorem toJsonEntries_idem : (es : List (String × Value)) → ∀ {js : List (String × Value)},
    Value.toJsonEntries es = some js → Value.toJsonEntries js = some js
  | [], _, h => by
    cases h
    rfl
  | (k, v) :: es, _, h => by
    simp only [Value.toJsonEntries, Option.bind_eq_some_iff, Option.map_eq_some_iff] at h
    obtain ⟨j, hj, js, hjs, rfl⟩ := h
    simp [Value.toJsonEntries, toJson_idem v hj, toJsonEntries_idem es hjs]
end

/-- Decoded from JSON: `dumps` writes it back as it is. -/
def Dict.IsJson (d : Dict) : Prop := ∀ k v, d.get? k = some v → v.toJson = some v

theorem toJsonEntries_self {es : List (String × Value)} (h : ∀ e ∈ es, e.2.toJson = some e.2) :
    Value.toJsonEntries es = some es := by
  induction es with
  | nil => rfl
  | cons e es ih =>
    obtain ⟨k, v⟩ := e
    have hv := h (k, v) (by simp)
    simp only at hv
    simp [Value.toJsonEntries, hv, ih fun e he => h e (List.mem_cons_of_mem _ he)]

theorem toJsonEntries_isSome {es : List (String × Value)} (h : ∀ e ∈ es, (e.2.toJson).isSome) :
    (Value.toJsonEntries es).isSome := by
  induction es with
  | nil => rfl
  | cons e es ih =>
    obtain ⟨k, v⟩ := e
    obtain ⟨j, hj⟩ := Option.isSome_iff_exists.mp (h (k, v) (by simp))
    obtain ⟨js, hjs⟩ := Option.isSome_iff_exists.mp (ih fun e he => h e (List.mem_cons_of_mem _ he))
    simp only at hj
    simp [Value.toJsonEntries, hj, hjs]

theorem toJsonList_strs (xs : List String) : (Value.toJsonList (xs.map .str)).isSome := by
  induction xs with
  | nil => rfl
  | cons x xs ih =>
    obtain ⟨js, hjs⟩ := Option.isSome_iff_exists.mp ih
    simp [Value.toJsonList, Value.toJson, hjs]

theorem Dict.get?_of_mem {d : Dict} {k : String} {v : Value} (h : (k, v) ∈ d.entries) :
    d.get? k = some v := by
  have hd := d.nodup
  unfold Dict.get?
  generalize d.entries = es at h hd
  induction es with
  | nil => cases h
  | cons e es ih =>
    obtain ⟨k', v'⟩ := e
    simp only [List.map_cons, List.nodup_cons] at hd
    rcases List.mem_cons.mp h with heq | hm
    · cases heq
      simp
    · have hne : k ≠ k' := by
        rintro rfl
        exact hd.1 (List.mem_map_of_mem (f := Prod.fst) hm)
      simp [List.lookup_cons, beq_eq_false_iff_ne.mpr hne, ih hm hd.2]

theorem Dict.mem_of_get? {d : Dict} {k : String} {v : Value} (h : d.get? k = some v) :
    (k, v) ∈ d.entries := by
  unfold Dict.get? at h
  generalize d.entries = es at h
  induction es with
  | nil => cases h
  | cons e es ih =>
    obtain ⟨k', v'⟩ := e
    rw [List.lookup_cons] at h
    by_cases hk : k = k'
    · subst hk
      simp only [beq_self_eq_true, Option.some.injEq] at h
      exact h ▸ List.mem_cons_self
    · simp only [beq_eq_false_iff_ne.mpr hk] at h
      exact List.mem_cons_of_mem _ (ih h)

theorem Dict.IsJson.dumps {d : Dict} (h : d.IsJson) : d.dumps = .ok d := by
  have hes : Value.toJsonEntries d.entries = some d.entries :=
    toJsonEntries_self fun e he => h e.1 e.2 (Dict.get?_of_mem he)
  unfold Dict.dumps
  split
  · rename_i es hs
    rw [hes] at hs
    cases hs
    rfl
  · rename_i hn
    rw [hes] at hn
    cases hn

theorem Dict.dumps_isSome {d : Dict} (h : (Value.toJsonEntries d.entries).isSome) :
    ∃ j, d.dumps = .ok j := by
  unfold Dict.dumps
  split
  · exact ⟨_, rfl⟩
  · rename_i hn
    rw [hn] at h
    cases h

theorem Dict.dumps_error {d : Dict} (h : d.dumps = .error e) :
    e = typeError "Object is not JSON serializable" := by
  unfold Dict.dumps at h
  split at h
  · cases h
  · exact (Except.error.inj h).symm

theorem Dict.isJson_of_dumps {d j : Dict} (h : d.dumps = .ok j) : j.IsJson := by
  intro k v hv
  rw [Dict.dumps_get? h, Option.bind_eq_some_iff] at hv
  obtain ⟨w, -, hw⟩ := hv
  exact toJson_idem w hw

theorem Dict.IsJson.update {d d' : Dict} (h : d.IsJson) (h' : d'.IsJson) :
    (d.update d').IsJson := by
  intro k v hv
  rw [Dict.get?_update, Option.or_eq_some_iff] at hv
  rcases hv with hv | ⟨-, hv⟩
  · exact h' k v hv
  · exact h k v hv

theorem Dict.IsJson.set {d : Dict} (h : d.IsJson) {v : Value} (hv : v.toJson = some v) :
    (d.set k v).IsJson := by
  intro k' v' hv'
  rw [Dict.get?_set] at hv'
  split at hv'
  · cases hv'
    exact hv
  · exact h k' v' hv'

end DpostV2
