import DpostV2.Lib.Words
import Mathlib.Data.List.Dedup
import Mathlib.Data.String.Basic

/-!
# Text tables

`parse_text_records`: a payload is decoded, read as rows, and its header and cells are normalized.
`csv.reader` and the codecs are the runtime's. The shape of a row is looked at only where the header
has a token; `table_shape` says what an accepted table promises.
-/

namespace DpostV2.Domain

-- ---------------------------------------------------------------------------
-- Options
-- ---------------------------------------------------------------------------

def textError (cls message : String) : Exn :=
  { mro := [cls, "TextModelError", "ValueError", "Exception"], message }

structure TextNormalizationPolicy where
  trimTokens : Bool := true
  collapseInternalWhitespace : Bool := true
  casefoldTokens : Bool := false
  deriving DecidableEq, Repr

structure TextParseOptions where
  delimiter : String := ","
  quoteCharacter : String := "\""
  encodingHints : List String := ["utf-8"]
  strictRowShape : Bool := true
  requiredHeaders : List String := []
  normalization : TextNormalizationPolicy := {}

structure NormalizedTextRecord where
  header : List String
  rows : List (List String)
  warnings : List String := []
  deriving DecidableEq, Repr

inductive TextPayload where
  | str (s : String)
  | bytes (content : List UInt8)

/-- The codecs and the CSV reader of the runtime. -/
class TextRuntime where
  /-- `payload.decode(encoding)`: `none` where there is no such codec, `some none` where it raises
  `UnicodeDecodeError`. -/
  decode : String → List UInt8 → Option (Option String)
  /-- The rows of `csv.reader(text, delimiter, quotechar, strict=True)`; `none` where it raises
  `csv.Error`. -/
  csvRows : String → String → String → Option (List (List String))

-- ---------------------------------------------------------------------------
-- Parsing
-- ---------------------------------------------------------------------------

section
variable [Casefold]

def normalizeToken (policy : TextNormalizationPolicy) (token : String) : String :=
  let value := if policy.trimTokens then strip token else token
  let value := if policy.collapseInternalWhitespace then collapse value else value
  if policy.casefoldTokens then casefold value else value

theorem normalizeToken_idem (policy : TextNormalizationPolicy) (token : String) :
    normalizeToken policy (normalizeToken policy token) = normalizeToken policy token := by
  obtain ⟨trim, collapsing, folding⟩ := policy
  cases trim <;> cases collapsing <;> cases folding <;>
    simp [normalizeToken, strip_casefold, collapse_casefold]

end

/-- The first hint whose codec reads the payload. -/
def firstDecoded [TextRuntime] (content : List UInt8) : List String → Option String
  | [] => none
  | encoding :: rest =>
    match TextRuntime.decode encoding content with
    | some (some text) => some text
    | _ => firstDecoded content rest

def decodePayload [TextRuntime] (encodingHints : List String) : TextPayload → Except Exn String
  | .str s => .ok s
  | .bytes content =>
    match encodingHints.find? fun encoding => (TextRuntime.decode encoding content).isNone with
    | some encoding =>
      .error (textError "TextEncodingError" ("Unknown encoding hint '" ++ encoding ++ "'."))
    | none => match firstDecoded content encodingHints with
      | some text => .ok text
      | none => .error (textError "TextEncodingError"
          "Unable to decode payload using configured encoding hints.")

def parseRows [TextRuntime] (text delimiter quoteCharacter : String) :
    Except Exn (List (List String)) :=
  match TextRuntime.csvRows text delimiter quoteCharacter with
  | some rows => .ok rows
  | none => .error (textError "TextParseStructureError" "Malformed delimiter/quote structure.")

def shapeError (rowIndex columns expected : Nat) : Exn :=
  textError "TextRowShapeError" ("Row " ++ toString rowIndex ++ " has " ++ toString columns ++
    " column(s), expected " ++ toString expected ++ ".")

def shapeWarning (rowIndex columns expected : Nat) : String :=
  "Row " ++ toString rowIndex ++ " column count " ++ toString columns ++
    " differs from expected " ++ toString expected ++ "."

/-- A row is out of shape: there are columns to expect, and it has others. -/
def misshapen (expectedColumns : Nat) (row : List String) : Bool :=
  expectedColumns != 0 && row.length != expectedColumns

/-- The warnings about one row. -/
def checkRow (options : TextParseOptions) (expectedColumns rowIndex : Nat) (row : List String) :
    Except Exn (List String) :=
  if misshapen expectedColumns row then
    if options.strictRowShape then .error (shapeError rowIndex row.length expectedColumns)
    else .ok [shapeWarning rowIndex row.length expectedColumns]
  else .ok []

section
variable [Casefold]

/-- The loop over the rows, from a row index on: normalized rows and warnings. -/
def normalizeRows (options : TextParseOptions) (expectedColumns : Nat) :
    Nat → List (List String) → Except Exn (List (List String) × List String)
  | _, [] => .ok ([], [])
  | rowIndex, row :: rest => do
    let normalizedRow := row.map (normalizeToken options.normalization)
    let warning ← checkRow options expectedColumns rowIndex normalizedRow
    let after ← normalizeRows options expectedColumns (rowIndex + 1) rest
    return (normalizedRow :: after.1, warning ++ after.2)

def missingHeaders (options : TextParseOptions) (header : List String) : List String :=
  (((options.requiredHeaders.map (normalizeToken options.normalization)).dedup).filter
    fun token => token ∉ header).mergeSort fun a b => decide (a ≤ b)

/-- What is made of the rows that are read. -/
def recordOf (options : TextParseOptions) (parsedRows : List (List String)) :
    Except Exn NormalizedTextRecord :=
  let header := (parsedRows.headD []).map (normalizeToken options.normalization)
  let missing := missingHeaders options header
  if missing ≠ [] then
    .error (textError "TextHeaderValidationError"
      ("Missing required header token(s): " ++ ", ".intercalate missing ++ "."))
  else do
    let table ← normalizeRows options header.length 2 parsedRows.tail
    return { header, rows := table.1, warnings := table.2 }

def parseTextRecords [TextRuntime] (payload : TextPayload) (options : TextParseOptions) :
    Except Exn NormalizedTextRecord := do
  let decoded ← decodePayload options.encodingHints payload
  let parsedRows ← parseRows decoded options.delimiter options.quoteCharacter
  recordOf options parsedRows

-- ---------------------------------------------------------------------------
-- The rows
-- ---------------------------------------------------------------------------

/-- The warnings of rows that start with an index. -/
def warningsFrom (expectedColumns rowIndex : Nat) (rows : List (List String)) : List String :=
  (rows.zipIdx rowIndex).filterMap fun (row, index) =>
    if misshapen expectedColumns row then some (shapeWarning index row.length expectedColumns)
    else none

omit [Casefold] in
theorem checkRow_ok {options : TextParseOptions} {expectedColumns rowIndex : Nat}
    {row warning : List String} (h : checkRow options expectedColumns rowIndex row = .ok warning) :
    (options.strictRowShape = true → warning = [] ∧ misshapen expectedColumns row = false) ∧
      (options.strictRowShape = false → warning = warningsFrom expectedColumns rowIndex [row]) := by
  unfold checkRow at h
  split_ifs at h with hmisshapen hstrict
  · obtain rfl := Except.ok.inj h
    exact ⟨fun hs => absurd hs hstrict, fun _ => by simp [warningsFrom, hmisshapen]⟩
  · obtain rfl := Except.ok.inj h
    exact ⟨fun _ => ⟨rfl, by simpa using hmisshapen⟩, fun _ => by simp [warningsFrom, hmisshapen]⟩

omit [Casefold] in
theorem warningsFrom_cons (expectedColumns rowIndex : Nat) (row : List String)
    (rest : List (List String)) :
    warningsFrom expectedColumns rowIndex (row :: rest) =
      warningsFrom expectedColumns rowIndex [row] ++
        warningsFrom expectedColumns (rowIndex + 1) rest := by
  simp only [warningsFrom, List.zipIdx_cons, List.zipIdx_nil, ← List.filterMap_append,
    List.singleton_append]

theorem normalizeRows_ok {options : TextParseOptions} {expectedColumns rowIndex : Nat}
    {parsedRows : List (List String)} {result : List (List String) × List String}
    (h : normalizeRows options expectedColumns rowIndex parsedRows = .ok result) :
    result.1 = parsedRows.map (·.map (normalizeToken options.normalization)) ∧
      (options.strictRowShape = true →
        result.2 = [] ∧ ∀ row ∈ result.1, misshapen expectedColumns row = false) ∧
      (options.strictRowShape = false →
        result.2 = warningsFrom expectedColumns rowIndex result.1) := by
  induction parsedRows generalizing rowIndex result with
  | nil =>
    obtain rfl := Except.ok.inj h
    exact ⟨rfl, fun _ => ⟨rfl, fun _ hrow => absurd hrow List.not_mem_nil⟩, fun _ => rfl⟩
  | cons row rest ih =>
    obtain ⟨warning, hcheck, h⟩ := except_bind_ok.mp h
    obtain ⟨after, hrest, h⟩ := except_bind_ok.mp h
    obtain rfl := except_pure_ok.mp h
    obtain ⟨hrows, hstrict, hlenient⟩ := ih hrest
    obtain ⟨hstrict', hlenient'⟩ := checkRow_ok hcheck
    refine ⟨by rw [hrows, List.map_cons], fun hs => ⟨?_, ?_⟩, fun hl => ?_⟩
    · rw [(hstrict hs).1, (hstrict' hs).1, List.append_nil]
    · exact List.forall_mem_cons.mpr ⟨(hstrict' hs).2, (hstrict hs).2⟩
    · rw [hlenient hl, hlenient' hl, warningsFrom_cons _ _ _ after.1]

theorem mem_missingHeaders {options : TextParseOptions} {header : List String} {token : String} :
    token ∈ missingHeaders options header ↔
      token ∈ options.requiredHeaders.map (normalizeToken options.normalization) ∧
        token ∉ header := by
  simp [missingHeaders, (List.mergeSort_perm _ _).mem_iff]

omit [Casefold] in
theorem misshapen_false {expectedColumns : Nat} {row : List String} (h : expectedColumns ≠ 0) :
    misshapen expectedColumns row = false ↔ row.length = expectedColumns := by
  simp [misshapen, h]

omit [Casefold] in
/-- Without columns to expect nothing is reported. -/
theorem warningsFrom_zero (rowIndex : Nat) (rows : List (List String)) :
    warningsFrom 0 rowIndex rows = [] := by
  simp [warningsFrom, misshapen]

/-- A table as it is accepted: what it is read from, and what it has gone through. -/
structure Accepted (options : TextParseOptions) (parsedRows : List (List String))
    (record : NormalizedTextRecord) : Prop where
  header : record.header = (parsedRows.headD []).map (normalizeToken options.normalization)
  rows : record.rows = parsedRows.tail.map (·.map (normalizeToken options.normalization))
  required : ∀ token ∈ options.requiredHeaders,
    normalizeToken options.normalization token ∈ record.header
  strict : options.strictRowShape = true →
    record.warnings = [] ∧ ∀ row ∈ record.rows, misshapen record.header.length row = false
  lenient : options.strictRowShape = false →
    record.warnings = warningsFrom record.header.length 2 record.rows

theorem recordOf_ok {options : TextParseOptions} {parsedRows : List (List String)}
    {record : NormalizedTextRecord} (h : recordOf options parsedRows = .ok record) :
    Accepted options parsedRows record := by
  unfold recordOf at h
  dsimp only at h
  split_ifs at h with hmissing
  obtain ⟨table, hrows, h⟩ := except_bind_ok.mp h
  obtain rfl := except_pure_ok.mp h
  obtain ⟨hnormalized, hstrict, hlenient⟩ := normalizeRows_ok hrows
  refine ⟨rfl, hnormalized, fun token htoken => ?_, hstrict, hlenient⟩
  by_contra habsent
  have hin := mem_missingHeaders.mpr ⟨List.mem_map_of_mem htoken, habsent⟩
  rw [not_not.mp hmissing] at hin
  exact List.not_mem_nil hin

theorem parseTextRecords_ok [TextRuntime] {payload : TextPayload} {options : TextParseOptions}
    {record : NormalizedTextRecord} (h : parseTextRecords payload options = .ok record) :
    ∃ decoded parsedRows, decodePayload options.encodingHints payload = .ok decoded ∧
      TextRuntime.csvRows decoded options.delimiter options.quoteCharacter = some parsedRows ∧
      Accepted options parsedRows record := by
  obtain ⟨decoded, hdecoded, h⟩ := except_bind_ok.mp h
  obtain ⟨parsedRows, hparsed, h⟩ := except_bind_ok.mp h
  refine ⟨decoded, parsedRows, hdecoded, ?_, recordOf_ok h⟩
  unfold parseRows at hparsed
  split at hparsed
  · next hrows => rw [hrows, Except.ok.inj hparsed]
  · cases hparsed

theorem Accepted.fixpoint {options : TextParseOptions} {parsedRows : List (List String)}
    {record : NormalizedTextRecord} (h : Accepted options parsedRows record) :
    (∀ token ∈ record.header, normalizeToken options.normalization token = token) ∧
      ∀ row ∈ record.rows, ∀ token ∈ row, normalizeToken options.normalization token = token := by
  rw [h.header, h.rows]
  refine ⟨fun token htoken => ?_, fun row hrow token htoken => ?_⟩
  · obtain ⟨raw, -, rfl⟩ := List.mem_map.mp htoken
    exact normalizeToken_idem _ raw
  · obtain ⟨cells, -, rfl⟩ := List.mem_map.mp hrow
    obtain ⟨raw, -, rfl⟩ := List.mem_map.mp htoken
    exact normalizeToken_idem _ raw

theorem Accepted.strict_iff {options : TextParseOptions} {parsedRows : List (List String)}
    {record : NormalizedTextRecord} (h : Accepted options parsedRows record)
    (hs : options.strictRowShape = true) :
    (∀ row ∈ record.rows, row.length = record.header.length) ↔
      record.header ≠ [] ∨ ∀ row ∈ record.rows, row = [] := by
  by_cases hempty : record.header = []
  · simp [hempty]
  · have hcolumns : record.header.length ≠ 0 := by simpa using hempty
    refine iff_of_true (fun row hrow => ?_) (.inl hempty)
    exact (misshapen_false hcolumns).mp ((h.strict hs).2 row hrow)

/-- What an accepted table promises. A header without tokens turns the checks of the shape off. -/
theorem table_shape [TextRuntime] (payload : TextPayload) (options : TextParseOptions)
    (record : NormalizedTextRecord) (h : parseTextRecords payload options = .ok record) :
    (∃ decoded parsedRows, decodePayload options.encodingHints payload = .ok decoded ∧
      TextRuntime.csvRows decoded options.delimiter options.quoteCharacter = some parsedRows ∧
      record.header = (parsedRows.headD []).map (normalizeToken options.normalization) ∧
      record.rows = parsedRows.tail.map (·.map (normalizeToken options.normalization))) ∧
    (∀ token ∈ record.header, normalizeToken options.normalization token = token) ∧
    (∀ row ∈ record.rows, ∀ token ∈ row, normalizeToken options.normalization token = token) ∧
    (∀ token ∈ options.requiredHeaders,
      normalizeToken options.normalization token ∈ record.header) ∧
    (options.strictRowShape = true → record.warnings = [] ∧
      ((∀ row ∈ record.rows, row.length = record.header.length) ↔
        record.header ≠ [] ∨ ∀ row ∈ record.rows, row = [])) ∧
    (options.strictRowShape = false → record.header ≠ [] →
      record.warnings = (record.rows.zipIdx 2).filterMap fun (row, index) =>
        if row.length ≠ record.header.length then
          some (shapeWarning index row.length record.header.length)
        else none) ∧
    (record.header = [] → record.warnings = []) := by
  obtain ⟨decoded, parsedRows, hdecoded, hcsv, haccepted⟩ := parseTextRecords_ok h
  refine ⟨⟨decoded, parsedRows, hdecoded, hcsv, haccepted.header, haccepted.rows⟩,
    haccepted.fixpoint.1, haccepted.fixpoint.2, haccepted.required, fun hs => ?_, fun hl hne => ?_,
    fun hempty => ?_⟩
  · exact ⟨(haccepted.strict hs).1, haccepted.strict_iff hs⟩
  · have hcolumns : record.header.length ≠ 0 := by simpa using hne
    rw [haccepted.lenient hl, warningsFrom]
    simp [misshapen, hcolumns]
  · cases hs : options.strictRowShape with
    | true => exact (haccepted.strict hs).1
    | false => rw [haccepted.lenient hs, hempty]; exact warningsFrom_zero 2 _

end

/-- A reader of lines and commas, for texts without quotes; it knows no codec. -/
@[reducible] def TextRuntime.plain : TextRuntime where
  decode _ _ := none
  csvRows text _ _ := some ((text.toList.splitOn '\n').dropLast.map fun line =>
    if line = [] then [] else (line.splitOn ',').map String.ofList)

section
attribute [local instance] Casefold.ascii TextRuntime.plain

theorem table_shape_pair :
    ∃ record, parseTextRecords (.str "id,value\n 1,2\n") {} = .ok record ∧
      ∀ row ∈ record.rows, row.length = record.header.length := by
  have h : parseTextRecords (.str "id,value\n 1,2\n") {} =
    .ok { header := ["id", "value"], rows := [["1", "2"]] } := by decide +kernel
  exact ⟨_, h, ((table_shape _ _ _ h).2.2.2.2.1 rfl).2.mpr (.inl (List.cons_ne_nil _ _))⟩

/-- After an empty first line a row of two is accepted, strictly, and is not reported otherwise. -/
theorem empty_header_unchecked :
    (∃ record, parseTextRecords (.str "\n1,2\n") {} = .ok record ∧
      ¬∀ row ∈ record.rows, row.length = record.header.length) ∧
    ∃ record, parseTextRecords (.str "\n1,2\n") { strictRowShape := false } = .ok record ∧
      record.warnings = [] ∧ ∃ row ∈ record.rows, row.length ≠ record.header.length := by
  refine ⟨⟨{ header := [], rows := [["1", "2"]] }, by decide +kernel, by simp⟩,
    ⟨{ header := [], rows := [["1", "2"]] }, by decide +kernel, rfl, by simp⟩⟩

end

end DpostV2.Domain
