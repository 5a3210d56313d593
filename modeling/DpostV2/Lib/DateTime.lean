import DpostV2.Lib.Python

/-!
# Python datetimes

Dates and times with an optional `tzinfo`, whose offset from UTC may change
with the reading of the clock and its `fold`. Two that share their `tzinfo`
are compared by their clocks, others by the instants they name; a naive one
and an aware one cannot be ordered. `isoformat` writes every field but the
zone and the `fold`; `datetime.fromisoformat` is left to the interpreter, and
reads at least what `isoformat` writes.
-/

namespace DpostV2

/-- From a reading of the clock on, a later or an earlier one by its `fold`, another offset. -/
structure Transition where
  first : Int
  second : Int
  offset : Option Int
  deriving DecidableEq, Repr

def Transition.passed (t : Transition) (wall : Int) (fold : Bool) : Bool :=
  (if fold then t.second else t.first) ≤ wall

/-- A `tzinfo` object: which one it is, and what its `utcoffset` answers, in microseconds. -/
structure TzInfo where
  ident : Nat := 0
  standard : Option Int
  transitions : List Transition := []
  deriving DecidableEq, Repr

namespace TzInfo

/-- The offset since the last transition that the clock has passed. -/
def utcoffset (tz : TzInfo) (wall : Int) (fold : Bool) : Option Int :=
  match (tz.transitions.filter (·.passed wall fold)).getLast? with
  | some t => t.offset
  | none => tz.standard

/-- `timezone(offset)`; which of two such objects with one offset it is makes no difference. -/
def fixed (offset : Int) : TzInfo := { standard := some offset }

def utc : TzInfo := fixed 0

@[simp] theorem utcoffset_fixed (offset wall : Int) (fold : Bool) :
    (fixed offset).utcoffset wall fold = some offset := rfl

end TzInfo

structure DateTimeFields where
  year : Nat
  month : Nat
  day : Nat
  hour : Nat := 0
  minute : Nat := 0
  second : Nat := 0
  microsecond : Nat := 0
  fold : Bool := false
  tzinfo : Option TzInfo := none
  deriving DecidableEq, Repr

def isLeap (year : Nat) : Bool := year % 4 == 0 && (year % 100 != 0 || year % 400 == 0)

def daysInMonth (year month : Nat) : Nat :=
  if month = 2 then if isLeap year then 29 else 28
  else if month = 4 ∨ month = 6 ∨ month = 9 ∨ month = 11 then 30 else 31

def daysBeforeYear (year : Nat) : Nat :=
  (year - 1) * 365 + (year - 1) / 4 - (year - 1) / 100 + (year - 1) / 400

def daysBeforeMonth (year month : Nat) : Nat :=
  ((List.range (month - 1)).map fun m => daysInMonth year (m + 1)).sum

namespace DateTimeFields

/-- Microseconds from the first day of the calendar, by the datetime's own clock. -/
def wall (f : DateTimeFields) : Int :=
  ((((daysBeforeYear f.year + daysBeforeMonth f.year f.month + f.day : Int) * 24 + f.hour) *
    60 + f.minute) * 60 + f.second) * 1000000 + f.microsecond

/-- `utcoffset()` in microseconds; `None` of a naive datetime. -/
def utcoffset (f : DateTimeFields) : Option Int := f.tzinfo.bind (·.utcoffset f.wall f.fold)

/-- What `isoformat` leaves of the fields: the offset instead of the zone, and no `fold`. -/
def fixed (f : DateTimeFields) : DateTimeFields :=
  { f with fold := false, tzinfo := f.utcoffset.map .fixed }

@[simp] theorem fixed_wall (f : DateTimeFields) : f.fixed.wall = f.wall := rfl

@[simp] theorem fixed_utcoffset (f : DateTimeFields) : f.fixed.utcoffset = f.utcoffset := by
  change (f.utcoffset.map TzInfo.fixed).bind _ = _
  cases f.utcoffset <;> simp

structure Valid (f : DateTimeFields) : Prop where
  year : 1 ≤ f.year ∧ f.year ≤ 9999
  month : 1 ≤ f.month ∧ f.month ≤ 12
  day : 1 ≤ f.day ∧ f.day ≤ daysInMonth f.year f.month
  hour : f.hour < 24
  minute : f.minute < 60
  second : f.second < 60
  microsecond : f.microsecond < 1000000
  offset : (f.utcoffset.getD 0).natAbs < 86400000000

instance (f : DateTimeFields) : Decidable f.Valid :=
  decidable_of_iff ((1 ≤ f.year ∧ f.year ≤ 9999) ∧ (1 ≤ f.month ∧ f.month ≤ 12) ∧
      (1 ≤ f.day ∧ f.day ≤ daysInMonth f.year f.month) ∧ f.hour < 24 ∧ f.minute < 60 ∧
      f.second < 60 ∧ f.microsecond < 1000000 ∧ (f.utcoffset.getD 0).natAbs < 86400000000)
    ⟨fun ⟨a, b, c, d, e, g, h, i⟩ => ⟨a, b, c, d, e, g, h, i⟩,
      fun ⟨a, b, c, d, e, g, h, i⟩ => ⟨a, b, c, d, e, g, h, i⟩⟩

theorem Valid.fixed {f : DateTimeFields} (h : f.Valid) : f.fixed.Valid :=
  ⟨h.year, h.month, h.day, h.hour, h.minute, h.second, h.microsecond, by
    rw [fixed_utcoffset]
    exact h.offset⟩

end DateTimeFields

abbrev DateTime := { f : DateTimeFields // f.Valid }

namespace DateTime

-- ---------------------------------------------------------------------------
-- Order
-- ---------------------------------------------------------------------------

def isAware (d : DateTime) : Bool := d.1.utcoffset.isSome

/-- Microseconds in UTC, and by the own clock of a naive datetime. -/
def instant (d : DateTime) : Int := d.1.wall - d.1.utcoffset.getD 0

/-- `a - b` in microseconds. -/
def since (a b : DateTime) : Int :=
  if a.1.tzinfo = b.1.tzinfo then a.1.wall - b.1.wall else a.instant - b.instant

/-- Two that `<` takes. -/
def Comparable (a b : DateTime) : Prop := a.1.tzinfo = b.1.tzinfo ∨ a.isAware = b.isAware

instance (a b : DateTime) : Decidable (Comparable a b) := inferInstanceAs (Decidable (_ ∨ _))

/-- `a < b`. -/
def less (a b : DateTime) : Except Exn Bool :=
  if Comparable a b then .ok (since a b < 0)
  else .error (typeError "can't compare offset-naive and offset-aware datetimes")

/-- `a < b` is asked and is not so. -/
theorem less_false {a b : DateTime} : less a b = .ok false ↔ Comparable a b ∧ 0 ≤ since a b := by
  unfold less
  by_cases h : Comparable a b <;> simp [h]

theorem since_self (d : DateTime) : since d d = 0 := by simp [since]

theorem less_self (d : DateTime) : less d d = .ok false :=
  less_false.mpr ⟨.inl rfl, (since_self d).ge⟩

/-- One zone does not give the two different offsets. -/
def Agree (a b : DateTime) : Prop := a.1.tzinfo = b.1.tzinfo → a.1.utcoffset = b.1.utcoffset

instance (a b : DateTime) : Decidable (Agree a b) := inferInstanceAs (Decidable (_ → _))

theorem Agree.refl (d : DateTime) : Agree d d := fun _ => rfl

theorem Agree.symm {a b : DateTime} (h : Agree a b) : Agree b a := fun htz => (h htz.symm).symm

theorem since_of_agree {a b : DateTime} (h : Agree a b) : since a b = a.instant - b.instant := by
  unfold since instant
  split
  · rename_i htz
    rw [h htz]
    omega
  · rfl

theorem less_of_agree {a b : DateTime} (h : Agree a b) :
    less a b = .ok false ↔ a.isAware = b.isAware ∧ b.instant ≤ a.instant := by
  have haware : Comparable a b ↔ a.isAware = b.isAware := by
    constructor
    · rintro (htz | haware)
      · unfold isAware
        rw [h htz]
      · exact haware
    · exact .inr
  rw [less_false, since_of_agree h, haware, sub_nonneg]

/-- Datetimes of which any two agree are in an order. -/
theorem less_trans {a b c : DateTime} (hab : Agree a b) (hbc : Agree b c) (hac : Agree a c)
    (h : less a b = .ok false) (h' : less b c = .ok false) : less a c = .ok false := by
  obtain ⟨haware, hle⟩ := (less_of_agree hab).mp h
  obtain ⟨haware', hle'⟩ := (less_of_agree hbc).mp h'
  exact (less_of_agree hac).mpr ⟨haware.trans haware', hle'.trans hle⟩

-- ---------------------------------------------------------------------------
-- Equality
-- ---------------------------------------------------------------------------

/-- The zone gives another offset for the other `fold`. -/
def FoldDependent (d : DateTime) : Prop :=
  { d.1 with fold := !d.1.fold }.utcoffset ≠ d.1.utcoffset

instance (d : DateTime) : Decidable d.FoldDependent := inferInstanceAs (Decidable (_ ≠ _))

/-- `a == b`. -/
def equals (a b : DateTime) : Bool :=
  if a.1.tzinfo = b.1.tzinfo then a.1.wall = b.1.wall
  else a.isAware = b.isAware ∧ a.instant = b.instant ∧ ¬a.FoldDependent ∧ ¬b.FoldDependent

/-- The datetime `isoformat` writes. -/
def fixed (d : DateTime) : DateTime := ⟨d.1.fixed, d.2.fixed⟩

@[simp] theorem fixed_isAware (d : DateTime) : d.fixed.isAware = d.isAware := by
  simp [isAware, fixed]

@[simp] theorem fixed_instant (d : DateTime) : d.fixed.instant = d.instant := by
  simp [instant, fixed]

/-- A zone with one offset never gives another. -/
theorem agree_fixed (a d : DateTime) : Agree a d.fixed := by
  intro htz
  have hfixed : d.fixed.1.utcoffset = d.1.utcoffset := DateTimeFields.fixed_utcoffset d.1
  have hzone : a.1.tzinfo = d.1.utcoffset.map TzInfo.fixed := htz
  rw [hfixed, DateTimeFields.utcoffset, hzone]
  cases d.1.utcoffset <;> simp

def digit (n : Nat) : Char := Char.ofNat (48 + n % 10)

def pad2 (n : Nat) : List Char := [digit (n / 10), digit n]

def pad4 (n : Nat) : List Char := pad2 (n / 100) ++ pad2 n

def pad6 (n : Nat) : List Char := pad2 (n / 10000) ++ pad4 n

/-- Seconds and a fraction of theirs, the fraction only when there is one. -/
def isoSeconds (second microsecond : Nat) : List Char :=
  ':' :: pad2 second ++ if microsecond = 0 then [] else '.' :: pad6 microsecond

/-- The seconds of an offset stand there only when they are not zero. -/
def isoOffset (offset : Int) : List Char :=
  let n := offset.natAbs
  (if offset < 0 then '-' else '+') :: pad2 (n / 3600000000) ++ ':' :: pad2 (n / 60000000 % 60) ++
    if n % 60000000 = 0 then [] else isoSeconds (n / 1000000 % 60) (n % 1000000)

def isoChars (f : DateTimeFields) : List Char :=
  pad4 f.year ++ '-' :: pad2 f.month ++ '-' :: pad2 f.day ++ 'T' :: pad2 f.hour ++
    ':' :: pad2 f.minute ++ isoSeconds f.second f.microsecond ++
    match f.utcoffset with
    | none => []
    | some offset => isoOffset offset

def isoformat (d : DateTime) : String := String.ofList (isoChars d.1)

theorem digit_not_space (n : Nat) : isSpace (digit n) = false := by
  have h : ∀ d < 10, isSpace (Char.ofNat (48 + d)) = false := by decide
  exact h _ (Nat.mod_lt n (by decide))

theorem isoformat_not_blank (d : DateTime) : strip d.isoformat ≠ "" := by
  rw [ne_eq, strip_eq_empty]
  intro h
  have hd := h (digit (d.1.year / 100 / 10)) (by simp [isoformat, isoChars, pad4, pad2])
  rw [digit_not_space] at hd
  cases hd

end DateTime

/-- A clock reading of `datetime.now(tz=UTC)`. -/
abbrev UtcTime := { d : DateTime // d.1.tzinfo = some .utc ∧ d.1.fold = false }

theorem utcTime_isAware (now : UtcTime) : now.1.isAware = true := by
  simp [DateTime.isAware, DateTimeFields.utcoffset, now.2.1, TzInfo.utc]

theorem utcTime_fixed (now : UtcTime) : now.1.fixed = now.1 := by
  obtain ⟨⟨f, hf⟩, htz, hfold⟩ := now
  refine Subtype.ext ?_
  change { f with fold := false, tzinfo := f.utcoffset.map .fixed } = f
  have hoffset : f.utcoffset = some 0 := by
    simp only at htz
    simp [DateTimeFields.utcoffset, htz, TzInfo.utc]
  obtain ⟨_, _, _, _, _, _, _, _, _⟩ := f
  simp only at htz hfold
  subst htz hfold
  rw [hoffset]
  rfl

/-- An interpreter with `datetime.fromisoformat`, `none` where it raises `ValueError`. -/
class DatedInterpreter extends Interpreter where
  fromisoformat : String → Option DateTime
  fromisoformat_isoformat : ∀ d : DateTime, fromisoformat d.isoformat = some d.fixed
  /-- Text of lower-case ASCII letters is in lower case. -/
  lower_ascii : ∀ s, s.toList.all Char.isLower = true → lower s = s

-- ---------------------------------------------------------------------------
-- A reader
-- ---------------------------------------------------------------------------

namespace IsoReader

def readDigit (c : Char) : Option Nat := if c.isDigit then some (c.toNat - 48) else none

def read2 : List Char → Option (Nat × List Char)
  | a :: b :: rest => do
    let x ← readDigit a
    let y ← readDigit b
    return (10 * x + y, rest)
  | _ => none

def read4 (cs : List Char) : Option (Nat × List Char) := do
  let (a, cs) ← read2 cs
  let (b, cs) ← read2 cs
  return (100 * a + b, cs)

def read6 (cs : List Char) : Option (Nat × List Char) := do
  let (a, cs) ← read2 cs
  let (b, cs) ← read4 cs
  return (10000 * a + b, cs)

def expect (c : Char) : List Char → Option (List Char)
  | x :: cs => if x = c then some cs else none
  | [] => none

def readSeconds (cs : List Char) : Option (Nat × Nat × List Char) := do
  let cs ← expect ':' cs
  let (second, cs) ← read2 cs
  match expect '.' cs with
  | none => return (second, 0, cs)
  | some cs =>
    let (microsecond, cs) ← read6 cs
    return (second, microsecond, cs)

def readOffset : List Char → Option (Option Int)
  | [] => some none
  | sign :: cs => do
    let (hour, cs) ← read2 cs
    let cs ← expect ':' cs
    let (minute, cs) ← read2 cs
    let (second, microsecond, _) ← if cs = [] then some (0, 0, []) else readSeconds cs
    let n : Nat := ((hour * 60 + minute) * 60 + second) * 1000000 + microsecond
    return some (if sign = '-' then -n else n)

def readFields (cs : List Char) : Option DateTimeFields := do
  let (year, cs) ← read4 cs
  let cs ← expect '-' cs
  let (month, cs) ← read2 cs
  let cs ← expect '-' cs
  let (day, cs) ← read2 cs
  let cs ← expect 'T' cs
  let (hour, cs) ← read2 cs
  let cs ← expect ':' cs
  let (minute, cs) ← read2 cs
  let (second, microsecond, cs) ← readSeconds cs
  let offset ← readOffset cs
  return { year, month, day, hour, minute, second, microsecond, tzinfo := offset.map .fixed }

def read (s : String) : Option DateTime := do
  let f ← readFields s.toList
  if h : f.Valid then some ⟨f, h⟩ else none

theorem readDigit_digit (n : Nat) : readDigit (DateTime.digit n) = some (n % 10) := by
  have h : ∀ d < 10, readDigit (Char.ofNat (48 + d)) = some d := by decide
  exact h _ (Nat.mod_lt n (by decide))

theorem read2_pad2 (n : Nat) (rest : List Char) :
    read2 (DateTime.pad2 n ++ rest) = some (n % 100, rest) := by
  have hn : 10 * (n / 10 % 10) + n % 10 = n % 100 := by omega
  simp [read2, DateTime.pad2, readDigit_digit, hn]

theorem read2_pad2_end (n : Nat) : read2 (DateTime.pad2 n) = some (n % 100, []) := by
  have h := read2_pad2 n []
  rwa [List.append_nil] at h

theorem read4_pad4 (n : Nat) (rest : List Char) :
    read4 (DateTime.pad4 n ++ rest) = some (n % 10000, rest) := by
  have hn : 100 * (n / 100 % 100) + n % 100 = n % 10000 := by omega
  simp [read4, DateTime.pad4, read2_pad2, hn]

theorem read6_pad6 (n : Nat) (rest : List Char) :
    read6 (DateTime.pad6 n ++ rest) = some (n % 1000000, rest) := by
  have hn : 10000 * (n / 10000 % 100) + n % 10000 = n % 1000000 := by omega
  simp [read6, DateTime.pad6, read2_pad2, read4_pad4, hn]

@[simp] theorem expect_cons (c : Char) (rest : List Char) : expect c (c :: rest) = some rest := by
  simp [expect]

/-- What follows the seconds must not look like a fraction of theirs. -/
theorem readSeconds_isoSeconds {second microsecond : Nat} (hs : second < 60)
    (hm : microsecond < 1000000) {rest : List Char} (hrest : expect '.' rest = none) :
    readSeconds (DateTime.isoSeconds second microsecond ++ rest) =
      some (second, microsecond, rest) := by
  have hs' : second % 100 = second := Nat.mod_eq_of_lt (by omega)
  unfold readSeconds DateTime.isoSeconds
  by_cases h0 : microsecond = 0
  · simp [h0, read2_pad2, hs', hrest]
  · simp [h0, read2_pad2, hs', read6_pad6, Nat.mod_eq_of_lt hm]

theorem readOffset_isoOffset {offset : Int} (h : offset.natAbs < 86400000000) :
    readOffset (DateTime.isoOffset offset) = some (some offset) := by
  generalize hn : offset.natAbs = n at h
  have hh : n / 3600000000 % 100 = n / 3600000000 := Nat.mod_eq_of_lt (by omega)
  have hmin : n / 60000000 % 60 % 100 = n / 60000000 % 60 := Nat.mod_eq_of_lt (by omega)
  have hsign : (if (if offset < 0 then '-' else '+') = '-' then -(n : Int) else n) = offset := by
    by_cases hneg : offset < 0
    · simp only [hneg, if_true]
      omega
    · simp only [hneg, if_false]
      rw [if_neg (by decide)]
      omega
  unfold DateTime.isoOffset
  simp only [hn]
  by_cases h0 : n % 60000000 = 0
  · have hval : ((n / 3600000000 * 60 + n / 60000000 % 60) * 60 + 0) * 1000000 + 0 = n := by omega
    simp only [readOffset, h0, if_true, List.append_nil, List.cons_append]
    rw [read2_pad2]
    simp only [Option.bind_eq_bind, Option.bind_some, expect_cons, read2_pad2_end, if_true, hh,
      hmin, hval, hsign]
    rfl
  · have hval : ((n / 3600000000 * 60 + n / 60000000 % 60) * 60 + n / 1000000 % 60) * 1000000 +
        n % 1000000 = n := by omega
    have hsec : readSeconds (DateTime.isoSeconds (n / 1000000 % 60) (n % 1000000) ++ []) =
        some (n / 1000000 % 60, n % 1000000, []) :=
      readSeconds_isoSeconds (by omega) (by omega) rfl
    rw [List.append_nil] at hsec
    have hne : DateTime.isoSeconds (n / 1000000 % 60) (n % 1000000) ≠ [] := by
      simp [DateTime.isoSeconds]
    simp only [readOffset, h0, if_false, List.cons_append, List.append_assoc]
    rw [read2_pad2]
    simp only [Option.bind_eq_bind, Option.bind_some, expect_cons, read2_pad2, hne, if_false, hsec,
      hh, hmin, hval, hsign]
    rfl

theorem readFields_isoChars {f : DateTimeFields} (h : f.Valid) :
    readFields (DateTime.isoChars f) = some f.fixed := by
  obtain ⟨⟨-, hy⟩, ⟨-, hmo⟩, ⟨-, hd⟩, hh, hmi, hs, hus, ho⟩ := h
  have hd' : f.day < 100 := by
    have hle : daysInMonth f.year f.month ≤ 31 := by
      unfold daysInMonth
      split
      · split <;> decide
      · split <;> decide
    omega
  have hoff : readOffset (match f.utcoffset with
      | none => []
      | some offset => DateTime.isoOffset offset) = some f.utcoffset := by
    cases hf : f.utcoffset with
    | none => rfl
    | some offset =>
      rw [hf] at ho
      exact readOffset_isoOffset ho
  have hrest : expect '.' (match f.utcoffset with
      | none => []
      | some offset => DateTime.isoOffset offset) = none := by
    cases f.utcoffset with
    | none => rfl
    | some offset =>
      unfold DateTime.isoOffset
      by_cases hneg : offset < 0 <;> simp [expect, hneg]
  unfold readFields DateTime.isoChars
  simp only [List.append_assoc, List.cons_append]
  rw [read4_pad4]
  simp only [Option.bind_eq_bind, Option.bind_some, expect_cons, read2_pad2]
  rw [readSeconds_isoSeconds hs hus hrest]
  simp only [Option.bind_some, hoff, Nat.mod_eq_of_lt (show f.year < 10000 by omega),
    Nat.mod_eq_of_lt (show f.month < 100 by omega), Nat.mod_eq_of_lt hd',
    Nat.mod_eq_of_lt (show f.hour < 100 by omega), Nat.mod_eq_of_lt (show f.minute < 100 by omega)]
  rfl

theorem read_isoformat (d : DateTime) : read d.isoformat = some d.fixed := by
  have h := readFields_isoChars d.2
  simp [read, DateTime.isoformat, h, d.2.fixed, DateTime.fixed]

end IsoReader

theorem toLower_of_isLower {c : Char} (h : c.isLower = true) : c.toLower = c := by
  have hup : ¬(c.val ≥ 'A'.val ∧ c.val ≤ 'Z'.val) := by
    intro hup
    change (decide (c.val ≥ 'a'.val) && decide (c.val ≤ 'z'.val)) = true at h
    rw [Bool.and_eq_true, decide_eq_true_eq] at h
    have hle := UInt32.le_trans h.1 hup.2
    revert hle
    decide
  unfold Char.toLower
  rw [dif_neg hup]

/-- It reads what `isoformat` writes, and little else. -/
@[reducible] def DatedInterpreter.ascii : DatedInterpreter where
  toInterpreter := Interpreter.ascii
  fromisoformat := IsoReader.read
  fromisoformat_isoformat := IsoReader.read_isoformat
  lower_ascii s h := by
    have hmap : s.toList.map Char.toLower = s.toList := by
      conv_rhs => rw [← List.map_id s.toList]
      exact List.map_congr_left fun c hc => toLower_of_isLower (List.all_eq_true.mp h c hc)
    show String.ofList (s.toList.map Char.toLower) = s
    rw [hmap, String.ofList_toList]

-- ---------------------------------------------------------------------------
-- A night with an hour twice
-- ---------------------------------------------------------------------------

/-- A zone that goes from two hours to one at three o'clock of a summer's end. -/
def berlin : TzInfo where
  ident := 1
  standard := some 7200000000
  transitions := [
    { first := { year := 2026, month := 10, day := 25, hour := 3 : DateTimeFields }.wall
      second := { year := 2026, month := 10, day := 25, hour := 2 : DateTimeFields }.wall
      offset := some 3600000000 }]

/-- Half past two, for the first time. -/
def halfPastTwo : DateTime :=
  ⟨{ year := 2026, month := 10, day := 25, hour := 2, minute := 30, tzinfo := some berlin },
    by decide +kernel⟩

/-- A quarter past one in UTC, which is a quarter past two again. -/
def quarterPastOne : DateTime :=
  ⟨{ year := 2026, month := 10, day := 25, hour := 1, minute := 15, tzinfo := some .utc },
    by decide +kernel⟩

/-- Twenty past two, for the second time. -/
def twentyPastTwo : DateTime :=
  ⟨{ year := 2026, month := 10, day := 25, hour := 2, minute := 20, fold := true,
     tzinfo := some berlin }, by decide +kernel⟩

/-- Noon of the day before. -/
def dayBefore : DateTime :=
  ⟨{ year := 2026, month := 10, day := 24, hour := 12, tzinfo := some berlin }, by decide +kernel⟩

/-- Each is compared with the next as later, and the last with the first as earlier. -/
example : DateTime.less quarterPastOne halfPastTwo = .ok false ∧
    DateTime.less twentyPastTwo quarterPastOne = .ok false ∧
    DateTime.less twentyPastTwo halfPastTwo = .ok true := by decide +kernel

end DpostV2
