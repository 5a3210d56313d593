import DpostV2.Lib.Lower
import DpostV2.Lib.Words
import DpostV2.Watchdog.FileNames
import DpostV2.Watchdog.Ledger

/-!
# Renaming

What is in a file's name decides under which record it is filed, and where the name breaks the
convention, or its record takes nothing more, the user is asked for another one until an answer can
be filed or the user gives up.
-/

namespace DpostV2.Watchdog

section
variable [Interpreter]

/-- `is_valid_prefix` -/
def isValidPrefix (rawPrefix : String) : Bool :=
  filenamePattern.isMatch rawPrefix && decide (2 ≤ rawPrefix.toList.count idSep)

/-- `text.replace(" ", "_")` -/
def underscored (text : String) : String :=
  String.ofList (text.toList.map fun c => if c = ' ' then '_' else c)

/-- `sanitize_prefix` -/
def sanitizePrefix (rawPrefix : String) : String :=
  match splitId (strip rawPrefix) with
  | userId :: institute :: sample :: samples =>
    Interpreter.lower (strip userId) ++ "-" ++ Interpreter.lower (strip institute) ++ "-" ++
      underscored (String.intercalate "-" ((sample :: samples).map strip))
  | _ => rawPrefix

/-- `sanitize_and_validate` -/
def sanitizeAndValidate (rawPrefix : String) : String × Bool :=
  if isValidPrefix rawPrefix then (sanitizePrefix rawPrefix, true) else (rawPrefix, false)

/-- What the user typed, by the name of the field. -/
abbrev RenameValues := List (String × String)

def RenameValues.getField (values : RenameValues) (key : String) : String :=
  (values.lookup key).getD ""

/-- `analyze_user_input` -/
def analyzeUserInput : Option RenameValues → Analysis
  | none => { valid := false, reasons := ["User cancelled the dialog."] }
  | some values =>
    let userId := strip (values.getField "name")
    let institute := strip (values.getField "institute")
    let sampleId := strip (values.getField "sample_ID")
    let rawPrefix := userId ++ "-" ++ institute ++ "-" ++ sampleId
    let (sanitized, isValid) := sanitizeAndValidate rawPrefix
    if isValid then { valid := true, sanitized := some sanitized }
    else
      let violationInfo := explainFilenameViolation rawPrefix
      { valid := false
        reasons := violationInfo.reasons
        highlightSpans := violationInfo.highlightSpans }

structure RenamePrompt where
  attemptedPrefix : String
  analysis : Analysis
  contextualReason : Option String
  deriving DecidableEq

structure RenameDecision where
  cancelled : Bool
  values : Option RenameValues

structure RenameOutcome where
  sanitizedPrefix : Option String
  cancelled : Bool

/-- `_compose_attempted_prefix` -/
def composeAttemptedPrefix (values : RenameValues) : String :=
  String.intercalate "-" [values.getField "name", values.getField "institute",
    values.getField "sample_ID"]

/-- The loop of `obtain_valid_prefix` on the answers of the user: what is shown, and unless the last
prompt waits for an answer, what comes of it with the answers that are left. -/
def promptUntilValid (attempted : String) (analysis : Analysis) (reasonHint : Option String) :
    List RenameDecision → List RenamePrompt × Option (RenameOutcome × List RenameDecision)
  | [] => ([⟨attempted, analysis, reasonHint⟩], none)
  | decision :: answers =>
    let prompt : RenamePrompt := ⟨attempted, analysis, reasonHint⟩
    let values := decision.values.getD []
    if decision.cancelled || values.isEmpty then ([prompt], some (⟨none, true⟩, answers))
    else
      let analysis := analyzeUserInput decision.values
      if analysis.valid then ([prompt], some (⟨analysis.sanitized, false⟩, answers))
      else
        let (prompts, outcome) :=
          promptUntilValid (composeAttemptedPrefix values) analysis none answers
        (prompt :: prompts, outcome)

/-- `obtain_valid_prefix` -/
def obtainValidPrefix (currentPrefix : String) (contextualReason : Option String)
    (answers : List RenameDecision) :=
  promptUntilValid currentPrefix (explainFilenameViolation currentPrefix) contextualReason answers

theorem promptUntilValid_shorter {attempted : String} {analysis : Analysis} {hint : Option String}
    {answers rest : List RenameDecision} {prompts : List RenamePrompt} {outcome : RenameOutcome}
    (h : promptUntilValid attempted analysis hint answers = (prompts, some (outcome, rest))) :
    rest.length < answers.length := by
  induction answers generalizing attempted analysis hint prompts with
  | nil => simp [promptUntilValid] at h
  | cons decision answers ih =>
    simp only [promptUntilValid] at h
    split at h
    · simp only [Prod.mk.injEq, Option.some.injEq] at h
      simp [h.2.2]
    · split at h
      · simp only [Prod.mk.injEq, Option.some.injEq] at h
        simp [h.2.2]
      · have hlater := ih (Prod.ext rfl (Prod.mk.inj h).2)
        exact Nat.lt_succ_of_lt hlater

-- ---------------------------------------------------------------------------
-- The route of an item
-- ---------------------------------------------------------------------------

inductive RoutingDecision where
  | unappendable
  | accept
  | requireRename
  deriving DecidableEq

/-- What a route is decided from: `records` by identifier, the device's `record_kadi_id`, and what
its processor appends. -/
structure Filing where
  records : Records
  recordKadiId : String
  isAppendable : LocalRecord → String → String → Bool

variable (filing : Filing)

/-- `fetch_record_for_prefix` -/
def Filing.fetchRecordForPrefix (filenamePrefix : String) : String × Bool × Option LocalRecord :=
  let (sanitizedPrefix, isValidFormat) := sanitizeAndValidate filenamePrefix
  (sanitizedPrefix, isValidFormat,
    filing.records.get? (generateRecordId sanitizedPrefix filing.recordKadiId))

/-- `determine_routing_state` -/
def Filing.determineRoutingState (record : Option LocalRecord) (isValidFormat : Bool)
    (filenamePrefix extension : String) : RoutingDecision :=
  match record with
  | none => if isValidFormat then .accept else .requireRename
  | some record =>
    if !isValidFormat then .requireRename
    else if filing.isAppendable record filenamePrefix extension then .accept
    else .unappendable

/-- `UNAPPENDABLE_RECORD_CONTEXT.format(record_id=...)` -/
def unappendableRecordContext (recordId : String) : String :=
  "Record '" ++ recordId
    ++ "' already exists, and cannot be appended. Please choose a different name."

/-- What the user is shown. -/
inductive Shown where
  /-- `show_warning(INVALID_RECORD, ...)` -/
  | invalidRecord
  | prompt (prompt : RenamePrompt)
  deriving DecidableEq

/-- Where an item goes: into a record, or to the folder of items to be renamed by hand. -/
inductive Routed where
  | record (existing : Option LocalRecord) (sanitizedPrefix : String)
  | manual (currentPrefix : String)

/-- `_dispatch_route` from a prefix: what is shown, and where the item goes once the user has
answered. -/
structure Conversation where
  shown : List Shown
  outcome : Option (Routed × List RenameDecision)

/-- What the rename flow is called with, after what is shown first; `none` where the item is
accepted. -/
def Filing.renameRequest (filenamePrefix extension : String) :
    Option (List Shown × String × Option String) :=
  let (sanitizedPrefix, isValidFormat, record) := filing.fetchRecordForPrefix filenamePrefix
  match filing.determineRoutingState record isValidFormat filenamePrefix extension with
  | .unappendable =>
    some ([.invalidRecord], sanitizedPrefix, some (unappendableRecordContext sanitizedPrefix))
  | .accept => none
  | .requireRename => some ([], filenamePrefix, none)

/-- `_route_with_prefix`, and from there `_dispatch_route` and `_invoke_rename_flow`. -/
def Filing.routeWithPrefix (filenamePrefix extension : String) (answers : List RenameDecision) :
    Conversation :=
  match filing.renameRequest filenamePrefix extension with
  | none =>
    let (sanitizedPrefix, _, record) := filing.fetchRecordForPrefix filenamePrefix
    ⟨[], some (.record record sanitizedPrefix, answers)⟩
  | some (warnings, currentPrefix, contextualReason) =>
    match h : obtainValidPrefix currentPrefix contextualReason answers with
    | (prompts, none) => ⟨warnings ++ prompts.map .prompt, none⟩
    | (prompts, some (outcome, rest)) =>
      if outcome.cancelled || outcome.sanitizedPrefix.getD "" == "" then
        ⟨warnings ++ prompts.map .prompt, some (.manual currentPrefix, rest)⟩
      else
        let later := routeWithPrefix (outcome.sanitizedPrefix.getD "") extension rest
        ⟨warnings ++ prompts.map .prompt ++ later.shown, later.outcome⟩
termination_by answers.length
decreasing_by exact promptUntilValid_shorter h

-- ---------------------------------------------------------------------------
-- Sanitized prefixes
-- ---------------------------------------------------------------------------

variable [LowersLetters]

omit [Interpreter] [LowersLetters] in
theorem strip_letters {text : List Char} (h : ∀ c ∈ text, c.isAlpha = true) :
    strip (String.ofList text) = String.ofList text :=
  Unspaced.strip fun c hc => isSpace_of_isAlpha (h c (by simpa using hc))

omit [Interpreter] [LowersLetters] in
theorem rdropWhile_prefixOf (user institute last : List Char) :
    (prefixOf user institute last).rdropWhile isSpace =
      prefixOf user institute (last.rdropWhile isSpace) := by
  have hsep : isSpace idSep = false := by decide
  simpa [prefixOf] using rdropWhile_cut hsep (user ++ idSep :: institute) last

omit [Interpreter] [LowersLetters] in
theorem strip_prefixOf {user institute last : List Char} (huser : user ≠ [])
    (hletters : ∀ c ∈ user, c.isAlpha = true) :
    strip (String.ofList (prefixOf user institute last)) =
      String.ofList (prefixOf user institute (last.rdropWhile isSpace)) := by
  obtain ⟨c, user, rfl⟩ := List.exists_cons_of_ne_nil huser
  have hfront : (prefixOf (c :: user) institute last).dropWhile isSpace =
      prefixOf (c :: user) institute last := by
    have hc : isSpace c = false := isSpace_of_isAlpha (hletters c List.mem_cons_self)
    simp [prefixOf, hc]
  rw [strip, String.toList_ofList, hfront, rdropWhile_prefixOf]

theorem sanitizePrefix_letters {rawPrefix : String} {user institute last : List Char}
    (hraw : rawPrefix.toList = prefixOf user institute last)
    (huser : user ≠ [] ∧ ∀ c ∈ user, c.isAlpha = true)
    (hinstitute : ∀ c ∈ institute, c.isAlpha = true) (hlast : idSep ∉ last) :
    (sanitizePrefix rawPrefix).toList = prefixOf (user.map Char.toLower)
    (institute.map Char.toLower)
      (underscored (strip (String.ofList last))).toList := by
  have hstrip : strip rawPrefix =
    String.ofList (prefixOf user institute (last.rdropWhile isSpace)) := by
    rw [← strip_prefixOf huser.1 huser.2, ← hraw, String.ofList_toList]
  have hsplit : splitId (strip rawPrefix) =
      [String.ofList user, String.ofList institute, String.ofList (last.rdropWhile isSpace)] := by
    have hthree : segments (strip rawPrefix) = [user, institute, last.rdropWhile isSpace] := by
      refine segments_eq_three.mpr ⟨by rw [hstrip, String.toList_ofList], ?_, ?_, ?_⟩
      · exact fun hmem => isAlpha_ne (huser.2 _ hmem) rfl rfl
      · exact fun hmem => isAlpha_ne (hinstitute _ hmem) rfl rfl
      · exact fun hmem => hlast (List.IsPrefix.subset (List.rdropWhile_prefix isSpace last) hmem)
    rw [splitId, ← segments, hthree]
    rfl
  have hlower {text : List Char} (h : ∀ c ∈ text, c.isAlpha = true) :
      (Interpreter.lower (String.ofList text)).toList = text.map Char.toLower := by
    rw [LowersLetters.lower_letters _ (by simpa using h), asciiLower, String.toList_ofList,
      String.toList_ofList]
  rw [sanitizePrefix, hsplit]
  dsimp only
  rw [strip_letters huser.2, strip_letters hinstitute]
  simp [String.toList_append, hlower huser.2, hlower hinstitute, strip_rdropWhile, prefixOf, idSep]

omit [Interpreter] [LowersLetters] in
theorem isSpace_sampleChar {c : Char} (h : isSampleChar c = true) (hspace : isSpace c = true) :
    c = ' ' := by
  by_contra hne
  have htext : isSpace c = false := by
    simp only [isSampleChar, Char.isAlphanum, Bool.or_eq_true, beq_iff_eq] at h
    rcases h with ((halpha | hdigit) | rfl) | rfl
    · exact isSpace_of_isAlpha halpha
    · simp only [Char.isDigit, Bool.and_eq_true, decide_eq_true_eq, ge_iff_le,
        UInt32.le_iff_toNat_le] at hdigit
      have hrange : 48 ≤ c.toNat ∧ c.toNat ≤ 57 := hdigit
      simp only [isSpace, Bool.or_eq_false_iff, Bool.and_eq_false_iff, decide_eq_false_iff_not,
        beq_eq_false_iff_ne]
      omega
    · decide
    · exact absurd rfl hne
  rw [htext] at hspace
  cases hspace

omit [Interpreter] [LowersLetters] in
theorem underscored_chars {text : String} (h : ∀ c ∈ text.toList, isSampleChar c = true) :
    ∀ c ∈ (underscored text).toList, isSampleChar c = true ∧ c ≠ ' ' := by
  simp only [underscored, String.toList_ofList, List.mem_map]
  rintro _ ⟨c, hc, rfl⟩
  by_cases hspace : c = ' '
  · simp [hspace, isSampleChar]
  · simpa [hspace] using h c hc

omit [Interpreter] [LowersLetters] in
theorem underscored_eq_self {text : String} (h : ∀ c ∈ text.toList, c ≠ ' ') :
    underscored text = text := by
  have hmap : text.toList.map (fun c => if c = ' ' then '_' else c) = text.toList :=
    (List.map_congr_left fun c hc => if_neg (h c hc)).trans (List.map_id _)
  rw [underscored, hmap, String.ofList_toList]

omit [Interpreter] [LowersLetters] in
/-- A name that matches has its two separators. -/
theorem isValidPrefix_eq (rawPrefix : String) :
    isValidPrefix rawPrefix = filenamePattern.isMatch rawPrefix := by
  rw [isValidPrefix, Bool.and_eq_left_iff_imp, isMatch_filenamePattern, decide_eq_true_eq]
  rintro ⟨user, institute, sample, -, hraw | hraw⟩ <;> rw [hraw, prefixOf] <;> simp <;> omega

variable {user institute sample : List Char} {rawPrefix : String}

omit [Interpreter] [LowersLetters] in
theorem strip_ending (ending : List Char) (hending : ending = [] ∨ ending = ['\n']) :
    strip (String.ofList (sample ++ ending)) = strip (String.ofList sample) := by
  rcases hending with rfl | rfl
  · rw [List.append_nil]
  · have hbreak : isSpace '\n' = true := by decide
    rw [← strip_rdropWhile, List.rdropWhile_concat_pos _ _ _ hbreak, strip_rdropWhile]

/-- The sample of a sanitized prefix. -/
def sanitizedSample (sample : List Char) : List Char :=
  (underscored (strip (String.ofList sample))).toList

theorem sanitizePrefix_conventional (h : Conventional user institute sample)
    (hraw : rawPrefix.toList = prefixOf user institute sample ∨
      rawPrefix.toList = prefixOf user institute sample ++ ['\n']) :
    (sanitizePrefix rawPrefix).toList =
      prefixOf (user.map Char.toLower) (institute.map Char.toLower) (sanitizedSample sample) := by
  obtain ⟨ending, hending, hraw⟩ : ∃ ending, (ending = [] ∨ ending = ['\n']) ∧
      rawPrefix.toList = prefixOf user institute (sample ++ ending) := by
    rcases hraw with hraw | hraw
    · exact ⟨[], .inl rfl, by simpa using hraw⟩
    · exact ⟨['\n'], .inr rfl, by simpa [prefixOf] using hraw⟩
  have hlast : idSep ∉ sample ++ ending := by
    rw [List.mem_append]
    rintro (hmem | hmem)
    · exact h.sep_not_mem.2.2 hmem
    · rcases hending with rfl | rfl <;> simp [idSep] at hmem
  rw [sanitizePrefix_letters hraw h.userLetters h.instituteLetters.2 hlast, strip_ending _ hending,
    sanitizedSample]

omit [Interpreter] [LowersLetters] in
theorem map_toLower_letters {text : List Char} (h : text ≠ [] ∧ ∀ c ∈ text, c.isAlpha = true) :
    text.map Char.toLower ≠ [] ∧ ∀ c ∈ text.map Char.toLower, c.isAlpha = true := by
  refine ⟨by simpa using h.1, fun d hd => ?_⟩
  obtain ⟨c, hc, rfl⟩ := List.mem_map.mp hd
  exact isAlpha_toLower (h.2 c hc)

omit [Interpreter] [LowersLetters] in
theorem mem_strip {text : String} {c : Char} (h : c ∈ (strip text).toList) : c ∈ text.toList := by
  rw [strip, String.toList_ofList] at h
  exact (List.dropWhile_sublist _).mem ((List.rdropWhile_prefix _ _).subset h)

omit [Interpreter] [LowersLetters] in
/-- The sanitized parts are conventional again, where the sample is not blank. -/
theorem conventional_sanitized (h : Conventional user institute sample)
    (hsample : ∃ c ∈ sample, isSpace c = false) :
    Conventional (user.map Char.toLower) (institute.map Char.toLower) (sanitizedSample sample) := by
  have hstripped : ∀ c ∈ (strip (String.ofList sample)).toList, isSampleChar c = true := fun c hc =>
    h.sampleChars.2 c (by simpa using mem_strip hc)
  have hlength : (sanitizedSample sample).length =
    (strip (String.ofList sample)).toList.length := by
    simp [sanitizedSample, underscored]
  refine ⟨map_toLower_letters h.userLetters, map_toLower_letters h.instituteLetters,
    ⟨?_, fun c hc => (underscored_chars hstripped c hc).1⟩, ?_⟩
  · obtain ⟨c, hc, htext⟩ := hsample
    have hne : strip (String.ofList sample) ≠ "" := strip_ne_empty (by simpa using hc) htext
    rw [← List.length_pos_iff, hlength, List.length_pos_iff]
    simpa using hne
  · have hshort := length_strip (String.ofList sample)
    rw [String.toList_ofList] at hshort
    rw [hlength]
    exact hshort.trans h.sampleShort

omit [Interpreter] [LowersLetters] in
theorem sanitizedSample_idem (h : Conventional user institute sample) :
    sanitizedSample (sanitizedSample sample) = sanitizedSample sample := by
  have hstripped : ∀ c ∈ (strip (String.ofList sample)).toList, isSampleChar c = true := fun c hc =>
    h.sampleChars.2 c (by simpa using mem_strip hc)
  have hchars := underscored_chars hstripped
  have hunspaced : Unspaced (underscored (strip (String.ofList sample))) := fun c hc => by
    by_contra hspace
    exact (hchars c hc).2 (isSpace_sampleChar (hchars c hc).1 (by simpa using hspace))
  rw [sanitizedSample, sanitizedSample, String.ofList_toList, hunspaced.strip,
    underscored_eq_self fun c hc => (hchars c hc).2]

/-- A sanitized prefix with something in its sample is valid, and sanitizing it changes nothing. -/
theorem sanitizeAndValidate_sanitizePrefix (h : Conventional user institute sample)
    (hraw : rawPrefix.toList = prefixOf user institute sample ∨
      rawPrefix.toList = prefixOf user institute sample ++ ['\n'])
    (hsample : ∃ c ∈ sample, isSpace c = false) :
    sanitizeAndValidate (sanitizePrefix rawPrefix) = (sanitizePrefix rawPrefix, true) := by
  have hsanitized := sanitizePrefix_conventional h hraw
  have hagain := conventional_sanitized h hsample
  have hvalid : isValidPrefix (sanitizePrefix rawPrefix) = true :=
    (isValidPrefix_eq _).trans (isMatch_filenamePattern.mpr ⟨_, _, _, hagain, .inl hsanitized⟩)
  have hcomp : Char.toLower ∘ Char.toLower = Char.toLower := funext toLower_toLower
  have hidem : sanitizePrefix (sanitizePrefix rawPrefix) = sanitizePrefix rawPrefix := by
    rw [← String.toList_inj, sanitizePrefix_conventional hagain (.inl hsanitized), hsanitized,
      sanitizedSample_idem h, List.map_map, List.map_map, hcomp]
  rw [sanitizeAndValidate, if_pos hvalid, hidem]

-- ---------------------------------------------------------------------------
-- The answers of the user
-- ---------------------------------------------------------------------------

/-- `decision.cancelled or not decision.values` -/
def RenameDecision.GivesUp (d : RenameDecision) : Prop := d.cancelled = true ∨ d.values.getD [] = []

instance (d : RenameDecision) : Decidable d.GivesUp := inferInstanceAs (Decidable (_ ∨ _))

/-- The prefix that an answer stands for, where it is valid. -/
def RenameDecision.typed (d : RenameDecision) : Option String :=
  (analyzeUserInput d.values).sanitized

/-- The fields of a dialogue, stripped and joined. -/
def RenameValues.typedPrefix (values : RenameValues) : String :=
  strip (values.getField "name") ++ "-" ++ strip (values.getField "institute") ++ "-" ++
    strip (values.getField "sample_ID")

omit [LowersLetters] in
theorem analyzeUserInput_some (values : RenameValues) : analyzeUserInput (some values) =
    if filenamePattern.isMatch values.typedPrefix then
      { valid := true, sanitized := some (sanitizePrefix values.typedPrefix) }
    else explainFilenameViolation values.typedPrefix := by
  simp only [analyzeUserInput, sanitizeAndValidate, isValidPrefix_eq]
  rw [← RenameValues.typedPrefix]
  cases hmatch : filenamePattern.isMatch values.typedPrefix with
  | true => simp
  | false =>
    obtain ⟨hvalid, hsanitized, -⟩ := explainFilenameViolation_refused hmatch
    simp only [Bool.false_eq_true, if_false]
    generalize explainFilenameViolation values.typedPrefix = violation at hvalid hsanitized ⊢
    exact Analysis.ext hvalid.symm hsanitized.symm rfl rfl

omit [LowersLetters] in
theorem analyzeUserInput_cases (values : Option RenameValues) :
    ((analyzeUserInput values).valid = true ∧ ∃ p, (analyzeUserInput values).sanitized = some p) ∨
    ((analyzeUserInput values).valid = false ∧ (analyzeUserInput values).sanitized = none ∧
      (analyzeUserInput values).reasons ≠ []) := by
  cases values with
  | none => exact .inr ⟨rfl, rfl, List.cons_ne_nil _ _⟩
  | some values =>
    rw [analyzeUserInput_some]
    split
    · exact .inl ⟨rfl, _, rfl⟩
    · next hinvalid =>
      obtain ⟨hvalid, hsanitized, hreasons, -⟩ :=
        explainFilenameViolation_refused (by simpa using hinvalid)
      exact .inr ⟨hvalid, hsanitized, hreasons⟩

omit [Interpreter] [LowersLetters] in
theorem toList_typedPrefix (values : RenameValues) : values.typedPrefix.toList =
    prefixOf (strip (values.getField "name")).toList (strip (values.getField "institute")).toList
      (strip (values.getField "sample_ID")).toList := by
  simp [RenameValues.typedPrefix, prefixOf, idSep, String.toList_append]

omit [Interpreter] [LowersLetters] in
theorem rdropWhile_typedPrefix (values : RenameValues) :
    values.typedPrefix.toList.rdropWhile isSpace = values.typedPrefix.toList := by
  have hstripped (text : String) : (strip text).toList.rdropWhile isSpace =
    (strip text).toList := by
    rw [strip, String.toList_ofList, List.rdropWhile_idempotent]
  rw [toList_typedPrefix, rdropWhile_prefixOf, hstripped]

omit [Interpreter] [LowersLetters] in
theorem blank_stripped {last : List Char} (h : (prefixOf user institute last).rdropWhile isSpace =
    prefixOf user institute last) (hblank : ∀ c ∈ last, isSpace c = true) : last = [] := by
  rw [rdropWhile_prefixOf, List.rdropWhile_eq_nil_iff.mpr hblank] at h
  simpa [prefixOf] using h.symm

omit [Interpreter] [LowersLetters] in
theorem prefixOf_append (user institute last ending : List Char) :
    prefixOf user institute last ++ ending = prefixOf user institute (last ++ ending) := by
  simp [prefixOf]

/-- The prefix of a valid answer is valid, and sanitizing it changes nothing. -/
theorem typed_settled {d : RenameDecision} {p : String} (h : d.typed = some p) :
    sanitizeAndValidate p = (p, true) := by
  rw [RenameDecision.typed] at h
  cases hvalues : d.values with
  | none =>
    rw [hvalues] at h
    cases h
  | some values =>
    rw [hvalues, analyzeUserInput_some] at h
    split at h
    · next hmatch =>
      obtain rfl := Option.some.inj h
      obtain ⟨user, institute, sample, hconventional, hraw⟩ := isMatch_filenamePattern.mp hmatch
      refine sanitizeAndValidate_sanitizePrefix hconventional hraw ?_
      by_contra hblank
      simp only [not_exists, not_and, Bool.not_eq_false] at hblank
      -- a blank sample would have been stripped
      have hlast := rdropWhile_typedPrefix values
      rcases hraw with hraw | hraw
      · rw [hraw] at hlast
        exact hconventional.sampleChars.1 (blank_stripped hlast hblank)
      · rw [hraw, prefixOf_append] at hlast
        have hbreak : ∀ c ∈ sample ++ ['\n'], isSpace c = true := by
          simpa [or_imp, forall_and] using ⟨hblank, by decide⟩
        simpa using blank_stripped hlast hbreak
    · next hinvalid =>
      obtain ⟨-, hsanitized, -⟩ := explainFilenameViolation_refused (by simpa using hinvalid)
      rw [hsanitized] at h
      cases h

-- ---------------------------------------------------------------------------
-- One dialogue
-- ---------------------------------------------------------------------------

section
omit [LowersLetters]

/-- The prompt that follows an answer which was no prefix. -/
def RenameDecision.nextPrompt (d : RenameDecision) : RenamePrompt :=
  ⟨composeAttemptedPrefix (d.values.getD []), analyzeUserInput d.values, none⟩

/-- The dialogue goes on after the answer. -/
def RenameDecision.Retries (d : RenameDecision) : Prop := ¬ d.GivesUp ∧ d.typed = none

instance (d : RenameDecision) : Decidable d.Retries := inferInstanceAs (Decidable (_ ∧ _))

def RenameDecision.outcome (d : RenameDecision) : RenameOutcome :=
  if d.GivesUp then ⟨none, true⟩ else ⟨d.typed, false⟩

variable {attempted : String} {analysis : Analysis} {hint : Option String} {d : RenameDecision}
  {before rest answers : List RenameDecision}

theorem promptUntilValid_ends (h : ¬ d.Retries) :
    promptUntilValid attempted analysis hint (d :: rest) =
      ([⟨attempted, analysis, hint⟩], some (d.outcome, rest)) := by
  rw [RenameDecision.Retries, not_and_or, not_not] at h
  by_cases hgives : d.GivesUp
  · have hstop : (d.cancelled || (d.values.getD []).isEmpty) = true := by
      simpa [RenameDecision.GivesUp] using hgives
    simp [promptUntilValid, hstop, RenameDecision.outcome, hgives]
  · have hstop : ¬ (d.cancelled || (d.values.getD []).isEmpty) = true := by
      simpa [RenameDecision.GivesUp] using hgives
    have htyped := h.resolve_left hgives
    rcases analyzeUserInput_cases d.values with ⟨hvalid, -⟩ | ⟨-, hnone, -⟩
    · simp [promptUntilValid, hstop, RenameDecision.outcome, hgives, hvalid, RenameDecision.typed]
    · exact absurd hnone htyped

theorem promptUntilValid_retries (h : d.Retries) :
    promptUntilValid attempted analysis hint (d :: rest) =
      let later := promptUntilValid d.nextPrompt.attemptedPrefix d.nextPrompt.analysis none rest
      (⟨attempted, analysis, hint⟩ :: later.1, later.2) := by
  have hstop : ¬ (d.cancelled || (d.values.getD []).isEmpty) = true := by
    simpa [RenameDecision.GivesUp] using h.1
  rcases analyzeUserInput_cases d.values with ⟨-, p, hp⟩ | ⟨hvalid, -, -⟩
  · exact absurd (h.2.symm.trans hp) (by simp)
  · simp [promptUntilValid, hstop, hvalid, RenameDecision.nextPrompt]

theorem promptUntilValid_waits (h : ∀ d ∈ answers, d.Retries) :
    promptUntilValid attempted analysis hint answers =
      (⟨attempted, analysis, hint⟩ :: answers.map RenameDecision.nextPrompt, none) := by
  induction answers generalizing attempted analysis hint with
  | nil => rfl
  | cons d answers ih =>
    obtain ⟨hd, hanswers⟩ := List.forall_mem_cons.mp h
    rw [promptUntilValid_retries hd]
    simp [ih hanswers, RenameDecision.nextPrompt]

theorem promptUntilValid_settles (h : ∀ d ∈ before, d.Retries) (hd : ¬ d.Retries) :
    promptUntilValid attempted analysis hint (before ++ d :: rest) =
      (⟨attempted, analysis, hint⟩ :: before.map RenameDecision.nextPrompt,
        some (d.outcome, rest)) := by
  induction before generalizing attempted analysis hint with
  | nil => exact promptUntilValid_ends hd
  | cons d before ih =>
    obtain ⟨hd, hbefore⟩ := List.forall_mem_cons.mp h
    rw [List.cons_append, promptUntilValid_retries hd]
    simp [ih hbefore, RenameDecision.nextPrompt]

end

-- ---------------------------------------------------------------------------
-- The whole conversation
-- ---------------------------------------------------------------------------

/-- The prompt that a rename flow begins with. -/
def firstPrompt (currentPrefix : String) (reason : Option String) : RenamePrompt :=
  ⟨currentPrefix, explainFilenameViolation currentPrefix, reason⟩

/-- What is shown after an answer that settles nothing. -/
def RenameDecision.nextShown (d : RenameDecision) : List Shown :=
  match d.typed with
  | none => [.prompt d.nextPrompt]
  | some p => [.invalidRecord, .prompt (firstPrompt p (some (unappendableRecordContext p)))]

/-- The answer ends the conversation: the user gives up, or what is typed can be filed. -/
def Filing.Decisive (extension : String) (d : RenameDecision) : Prop :=
  d.GivesUp ∨ ∃ p, d.typed = some p ∧ filing.renameRequest p extension = none

/-- The name that stands last after the answers. -/
def lastTyped (currentPrefix : String) (answers : List RenameDecision) : String :=
  answers.foldl (fun current d => d.typed.getD current) currentPrefix

/-- Where the item goes with a decisive answer after others. -/
def Filing.routed (currentPrefix : String) (before : List RenameDecision) (d : RenameDecision) :
    Routed :=
  if d.GivesUp then .manual (lastTyped currentPrefix before)
  else
    let p := d.typed.getD ""
    .record (filing.records.get? (generateRecordId p filing.recordKadiId)) p

variable {filing} {filenamePrefix extension currentPrefix : String} {warnings : List Shown}
  {reason : Option String} {d : RenameDecision} {before rest answers : List RenameDecision}

theorem fetchRecordForPrefix_typed {p : String} (h : d.typed = some p) :
    filing.fetchRecordForPrefix p =
      (p, true, filing.records.get? (generateRecordId p filing.recordKadiId)) := by
  simp [Filing.fetchRecordForPrefix, typed_settled h]

theorem renameRequest_typed (filing : Filing) (extension : String) {p : String}
    (h : d.typed = some p) :
    filing.renameRequest p extension = none ∨ filing.renameRequest p extension =
      some ([.invalidRecord], p, some (unappendableRecordContext p)) := by
  simp only [Filing.renameRequest, fetchRecordForPrefix_typed h, Filing.determineRoutingState]
  cases hrecord : filing.records.get? (generateRecordId p filing.recordKadiId) with
  | none => exact .inl rfl
  | some record =>
    by_cases happend : filing.isAppendable record p extension = true
    · exact .inl (by simp [happend])
    · exact .inr (by simp [happend])

theorem typed_ne_empty {p : String} (h : d.typed = some p) : p ≠ "" := by
  rintro rfl
  have hsettled := typed_settled h
  rw [sanitizeAndValidate, isValidPrefix_eq] at hsettled
  have hempty : filenamePattern.isMatch "" = false := by decide
  simp [hempty] at hsettled

omit [LowersLetters] in
theorem routeWithPrefix_waits {prompts : List RenamePrompt}
    (hreq : filing.renameRequest filenamePrefix extension = some (warnings, currentPrefix, reason))
    (h : obtainValidPrefix currentPrefix reason answers = (prompts, none)) :
    filing.routeWithPrefix filenamePrefix extension answers =
      ⟨warnings ++ prompts.map .prompt, none⟩ := by
  rw [Filing.routeWithPrefix]
  simp only [hreq]
  split
  · next heq =>
    rw [h] at heq
    cases heq
    rfl
  · next heq =>
    rw [h] at heq
    cases heq

omit [LowersLetters] in
theorem routeWithPrefix_ends {prompts : List RenamePrompt}
    (hreq : filing.renameRequest filenamePrefix extension = some (warnings, currentPrefix, reason))
    (h : obtainValidPrefix currentPrefix reason answers = (prompts, some (⟨none, true⟩, rest))) :
    filing.routeWithPrefix filenamePrefix extension answers =
      ⟨warnings ++ prompts.map .prompt, some (.manual currentPrefix, rest)⟩ := by
  rw [Filing.routeWithPrefix]
  simp only [hreq]
  split
  · next heq =>
    rw [h] at heq
    cases heq
  · next heq =>
    rw [h] at heq
    cases heq
    simp

omit [LowersLetters] in
theorem routeWithPrefix_later {prompts : List RenamePrompt} {p : String} (hp : p ≠ "")
    (hreq : filing.renameRequest filenamePrefix extension = some (warnings, currentPrefix, reason))
    (h : obtainValidPrefix currentPrefix reason answers = (prompts, some (⟨some p, false⟩, rest))) :
    filing.routeWithPrefix filenamePrefix extension answers =
      ⟨warnings ++ prompts.map .prompt ++ (filing.routeWithPrefix p extension rest).shown,
        (filing.routeWithPrefix p extension rest).outcome⟩ := by
  rw [Filing.routeWithPrefix]
  simp only [hreq]
  split
  · next heq =>
    rw [h] at heq
    cases heq
  · next heq =>
    rw [h] at heq
    cases heq
    simp [hp]

theorem routeWithPrefix_filed {p : String} (hd : d.typed = some p)
    (hreq : filing.renameRequest p extension = none) :
    filing.routeWithPrefix p extension rest =
      ⟨[], some (.record (filing.records.get? (generateRecordId p filing.recordKadiId)) p,
        rest)⟩ := by
  rw [Filing.routeWithPrefix]
  simp only [hreq, fetchRecordForPrefix_typed hd]

-- What the answers of one dialogue leave as it is.

omit [LowersLetters] in
theorem not_decisive_of_retries (h : d.Retries) : ¬ filing.Decisive extension d := by
  rintro (hgives | ⟨p, hp, -⟩)
  · exact h.1 hgives
  · rw [h.2] at hp
    cases hp

omit [LowersLetters] in
theorem flatMap_nextShown (h : ∀ d ∈ before, d.Retries) :
    before.flatMap RenameDecision.nextShown =
      (before.map RenameDecision.nextPrompt).map Shown.prompt := by
  induction before with
  | nil => rfl
  | cons d before ih =>
    obtain ⟨hd, hbefore⟩ := List.forall_mem_cons.mp h
    simp [ih hbefore, RenameDecision.nextShown, hd.2]

omit [LowersLetters] in
theorem lastTyped_retries (h : ∀ d ∈ before, d.Retries) (rest : List RenameDecision) :
    lastTyped currentPrefix (before ++ rest) = lastTyped currentPrefix rest := by
  induction before with
  | nil => rfl
  | cons d before ih =>
    obtain ⟨hd, hbefore⟩ := List.forall_mem_cons.mp h
    rw [← ih hbefore]
    simp [lastTyped, hd.2]

/-- A conversation goes on until the first decisive answer. -/
theorem routeWithPrefix_spec (answers : List RenameDecision)
    (hreq : filing.renameRequest filenamePrefix extension =
      some (warnings, currentPrefix, reason)) :
    ((∀ d ∈ answers, ¬ filing.Decisive extension d) ∧
      filing.routeWithPrefix filenamePrefix extension answers =
        ⟨warnings ++ .prompt (firstPrompt currentPrefix reason) ::
          answers.flatMap RenameDecision.nextShown, none⟩) ∨
    ∃ before d rest, answers = before ++ d :: rest ∧
      (∀ d ∈ before, ¬ filing.Decisive extension d) ∧ filing.Decisive extension d ∧
      filing.routeWithPrefix filenamePrefix extension answers =
        ⟨warnings ++ .prompt (firstPrompt currentPrefix reason) ::
          before.flatMap RenameDecision.nextShown,
            some (filing.routed currentPrefix before d, rest)⟩ := by
  induction hn : answers.length using Nat.strongRecOn generalizing answers filenamePrefix warnings
    currentPrefix reason with
  | ind n ih =>
    cases hfind : answers.find? fun d => decide ¬ d.Retries with
    | none =>
      have hretries : ∀ d ∈ answers, d.Retries := by simpa using hfind
      refine .inl ⟨fun d hd => not_decisive_of_retries (hretries d hd), ?_⟩
      rw [routeWithPrefix_waits hreq (promptUntilValid_waits hretries), flatMap_nextShown hretries]
      rfl
    | some d =>
      obtain ⟨hd, first, rest, rfl, hfirst⟩ := List.find?_eq_some_iff_append.mp hfind
      have hd : ¬ d.Retries := by simpa using hd
      have hfirst : ∀ d ∈ first, d.Retries := by simpa using hfirst
      have hbefore : ∀ d ∈ first, ¬ filing.Decisive extension d := fun d hd =>
        not_decisive_of_retries (hfirst d hd)
      have hsettles : obtainValidPrefix currentPrefix reason (first ++ d :: rest) =
          (firstPrompt currentPrefix reason :: first.map RenameDecision.nextPrompt,
            some (d.outcome, rest)) := promptUntilValid_settles hfirst hd
      by_cases hgives : d.GivesUp
      · refine .inr ⟨first, d, rest, rfl, hbefore, .inl hgives, ?_⟩
        rw [RenameDecision.outcome, if_pos hgives] at hsettles
        rw [routeWithPrefix_ends hreq hsettles, flatMap_nextShown hfirst, Filing.routed,
          if_pos hgives]
        have hlast : lastTyped currentPrefix (first ++ []) = currentPrefix :=
          lastTyped_retries hfirst []
        rw [List.append_nil] at hlast
        rw [hlast, List.map_cons]
      · obtain ⟨p, hp⟩ : ∃ p, d.typed = some p := by
          cases htyped : d.typed with
          | none => exact absurd ⟨hgives, htyped⟩ hd
          | some p => exact ⟨p, rfl⟩
        rw [RenameDecision.outcome, if_neg hgives, hp] at hsettles
        rw [routeWithPrefix_later (typed_ne_empty hp) hreq hsettles]
        rcases renameRequest_typed filing extension hp with hnone | hsome
        · refine .inr ⟨first, d, rest, rfl, hbefore, .inr ⟨p, hp, hnone⟩, ?_⟩
          rw [routeWithPrefix_filed hp hnone, flatMap_nextShown hfirst, Filing.routed,
            if_neg hgives, hp]
          simp
        · have hundecided : ¬ filing.Decisive extension d := by
            rintro (hgives' | ⟨q, hq, hfiled⟩)
            · exact hgives hgives'
            · obtain rfl := Option.some.inj (hp.symm.trans hq)
              rw [hsome] at hfiled
              cases hfiled
          have hshort : rest.length < n := by
            rw [← hn, List.length_append, List.length_cons]
            omega
          have hnext : d.nextShown =
              [.invalidRecord, .prompt (firstPrompt p (some (unappendableRecordContext p)))] := by
            rw [RenameDecision.nextShown, hp]
          rcases ih _ hshort rest hsome rfl with
            ⟨hlater, heq⟩ | ⟨before, d', rest', rfl, hlater, hd', heq⟩
          · refine .inl ⟨?_, ?_⟩
            · rw [List.forall_mem_append, List.forall_mem_cons]
              exact ⟨hbefore, hundecided, hlater⟩
            · rw [heq]
              simp [flatMap_nextShown hfirst, hnext]
          · refine .inr ⟨first ++ d :: before, d', rest', by simp, ?_, hd', ?_⟩
            · rw [List.forall_mem_append, List.forall_mem_cons]
              exact ⟨hbefore, hundecided, hlater⟩
            · have hlast : lastTyped currentPrefix (first ++ d :: before) = lastTyped p before := by
                rw [lastTyped_retries hfirst]
                simp [lastTyped, hp]
              rw [heq]
              simp [flatMap_nextShown hfirst, hnext, Filing.routed, hlast]

-- ---------------------------------------------------------------------------
-- What the user is told
-- ---------------------------------------------------------------------------

/-- The fields are as the dialogue hands them over. -/
def RenameDecision.Stripped (d : RenameDecision) : Prop :=
  ∀ values ∈ d.values, ∀ key, strip (values.getField key) = values.getField key

/-- A prompt says what is wrong, and what it marks it marks in the text that it shows. -/
structure RenamePrompt.Explains (prompt : RenamePrompt) : Prop where
  said : prompt.analysis.reasons ≠ [] ∨ prompt.contextualReason.isSome = true
  marked : prompt.analysis = explainFilenameViolation prompt.attemptedPrefix

omit [Interpreter] [LowersLetters] in
theorem firstPrompt_explains (h : (explainFilenameViolation currentPrefix).reasons ≠ [] ∨
    reason.isSome = true) : (firstPrompt currentPrefix reason).Explains := by
  constructor
  · simpa only [firstPrompt] using h
  · simp only [firstPrompt]

omit [LowersLetters] in
theorem nextPrompt_explains (h : d.Retries) (hstripped : d.Stripped) : d.nextPrompt.Explains := by
  cases hvalues : d.values with
  | none => exact absurd (.inr (by simp [hvalues])) h.1
  | some values =>
    have htyped : values.typedPrefix = composeAttemptedPrefix values := by
      have hfields := hstripped values hvalues
      simp [RenameValues.typedPrefix, hfields, composeAttemptedPrefix, String.append_assoc]
    have hrefused : filenamePattern.isMatch values.typedPrefix = false := by
      by_contra hmatch
      have hvalid := h.2
      rw [RenameDecision.typed, hvalues, analyzeUserInput_some,
        if_pos (Bool.eq_true_of_not_eq_false hmatch)] at hvalid
      cases hvalid
    have hanalysis : d.nextPrompt.analysis =
      explainFilenameViolation d.nextPrompt.attemptedPrefix := by
      simp only [RenameDecision.nextPrompt, hvalues, analyzeUserInput_some, hrefused, htyped.symm,
        Option.getD_some, Bool.false_eq_true, if_false]
    refine ⟨.inl ?_, hanalysis⟩
    rw [hanalysis, RenameDecision.nextPrompt, hvalues, Option.getD_some, ← htyped]
    exact (explainFilenameViolation_refused hrefused).2.2.1

omit [LowersLetters] in
theorem nextShown_explains (h : ¬ filing.Decisive extension d) (hstripped : d.Stripped) :
    ∀ prompt, .prompt prompt ∈ d.nextShown → prompt.Explains := by
  intro prompt hprompt
  rw [RenameDecision.nextShown] at hprompt
  cases htyped : d.typed with
  | none =>
    obtain rfl : prompt = d.nextPrompt := by simpa [htyped] using hprompt
    exact nextPrompt_explains ⟨fun hgives => h (.inl hgives), htyped⟩ hstripped
  | some p =>
    obtain rfl : prompt = firstPrompt p (some (unappendableRecordContext p)) := by
      simpa [htyped] using hprompt
    exact firstPrompt_explains (.inr rfl)

omit [LowersLetters] in
theorem renameRequest_explains
    (hreq : filing.renameRequest filenamePrefix extension =
      some (warnings, currentPrefix, reason)) :
    (firstPrompt currentPrefix reason).Explains ∧ ∀ prompt, .prompt prompt ∉ warnings := by
  cases hmatch : filenamePattern.isMatch filenamePrefix with
  | false =>
    have hrename : filing.renameRequest filenamePrefix extension =
      some ([], filenamePrefix, none) := by
      have hstate (record : Option LocalRecord) :
          filing.determineRoutingState record false filenamePrefix extension = .requireRename := by
        cases record <;> rfl
      simp [Filing.renameRequest, Filing.fetchRecordForPrefix, sanitizeAndValidate,
        isValidPrefix_eq, hmatch, hstate]
    obtain ⟨rfl, rfl, rfl⟩ : [] = warnings ∧ filenamePrefix = currentPrefix ∧ none = reason := by
      simpa using hrename.symm.trans hreq
    exact ⟨firstPrompt_explains (.inl (explainFilenameViolation_refused hmatch).2.2.1), by simp⟩
  | true =>
    -- a valid prefix is asked about only where its record takes nothing more
    have hunappendable : ∃ p, warnings = [.invalidRecord] ∧ currentPrefix = p ∧
        reason = some (unappendableRecordContext p) := by
      simp only [Filing.renameRequest, Filing.fetchRecordForPrefix, sanitizeAndValidate,
        isValidPrefix_eq, hmatch, Filing.determineRoutingState] at hreq
      cases hrecord : filing.records.get? (generateRecordId (sanitizePrefix filenamePrefix)
          filing.recordKadiId) with
      | none => simp [hrecord] at hreq
      | some record =>
        by_cases happend : filing.isAppendable record filenamePrefix extension = true
        · simp [hrecord, happend] at hreq
        · obtain ⟨rfl, rfl, rfl⟩ : [.invalidRecord] = warnings ∧
              sanitizePrefix filenamePrefix = currentPrefix ∧
              some (unappendableRecordContext (sanitizePrefix filenamePrefix)) = reason := by
            simpa [hrecord, happend] using hreq
          exact ⟨_, rfl, rfl, rfl⟩
    obtain ⟨p, rfl, rfl, rfl⟩ := hunappendable
    exact ⟨firstPrompt_explains (.inr rfl), by simp⟩

/-- Where an item is filed, it may be. -/
structure Filing.Files (extension : String) (existing : Option LocalRecord) (p : String) :
    Prop where
  settled : sanitizeAndValidate p = (p, true)
  found : existing = filing.records.get? (generateRecordId p filing.recordKadiId)
  appends : ∀ record ∈ existing, filing.isAppendable record p extension = true

theorem routed_files (hd : filing.Decisive extension d) {existing : Option LocalRecord} {p : String}
    (hrouted : filing.routed currentPrefix before d = .record existing p) :
    d.typed = some p ∧ filing.Files extension existing p := by
  rw [Filing.routed] at hrouted
  split at hrouted
  · cases hrouted
  · next hgives =>
    obtain ⟨q, hq, hfiled⟩ := hd.resolve_left hgives
    obtain ⟨rfl, rfl⟩ : filing.records.get? (generateRecordId q filing.recordKadiId) = existing ∧
        q = p := by simpa [hq] using hrouted
    refine ⟨hq, typed_settled hq, rfl, fun record hrecord => ?_⟩
    by_contra happend
    rw [Option.mem_def] at hrecord
    simp [Filing.renameRequest, fetchRecordForPrefix_typed hq, hrecord,
      Filing.determineRoutingState, happend] at hfiled

/-- A user who is asked for another name is asked until the first answer that can be filed or gives
up, each time told why, and the item goes where that answer says. -/
theorem rename_conversation (filing : Filing) (filenamePrefix extension : String)
    (answers : List RenameDecision) {warnings : List Shown} {currentPrefix : String}
    {reason : Option String}
    (hreq : filing.renameRequest filenamePrefix extension = some (warnings, currentPrefix, reason))
    (hstripped : ∀ d ∈ answers, d.Stripped) :
    let conversation := filing.routeWithPrefix filenamePrefix extension answers
    (∀ prompt, .prompt prompt ∈ conversation.shown → prompt.Explains) ∧
      (((∀ d ∈ answers, ¬ filing.Decisive extension d) ∧ conversation.outcome = none) ∨
        ∃ before d rest, answers = before ++ d :: rest ∧
          (∀ d ∈ before, ¬ filing.Decisive extension d) ∧
          ((d.GivesUp ∧
              conversation.outcome = some (.manual (lastTyped currentPrefix before), rest)) ∨
            ∃ existing p, d.typed = some p ∧ filing.Files extension existing p ∧
              conversation.outcome = some (.record existing p, rest))) := by
  intro conversation
  obtain ⟨hfirst, hwarnings⟩ := renameRequest_explains hreq
  have hexplains {before : List RenameDecision}
    (hbefore : ∀ d ∈ before, ¬ filing.Decisive extension d)
      (hsub : before ⊆ answers) (prompt : RenamePrompt)
      (hprompt : .prompt prompt ∈ warnings ++ .prompt (firstPrompt currentPrefix reason) ::
        before.flatMap RenameDecision.nextShown) : prompt.Explains := by
    rw [List.mem_append, List.mem_cons, List.mem_flatMap] at hprompt
    rcases hprompt with hmem | heq | ⟨d, hd, hmem⟩
    · exact absurd hmem (hwarnings prompt)
    · obtain rfl := Shown.prompt.inj heq
      exact hfirst
    · exact nextShown_explains (hbefore d hd) (hstripped d (hsub hd)) prompt hmem
  rcases routeWithPrefix_spec answers hreq with
    ⟨hnone, heq⟩ | ⟨before, d, rest, hanswers, hbefore, hd, heq⟩
  · refine ⟨?_, .inl ⟨hnone, by rw [show conversation = _ from heq]⟩⟩
    rw [show conversation = _ from heq]
    exact hexplains hnone (List.Subset.refl _)
  · have hsub : before ⊆ answers := by
      rw [hanswers]
      exact List.subset_append_left _ _
    have houtcome : conversation.outcome = some (filing.routed currentPrefix before d, rest) := by
      rw [show conversation = _ from heq]
    refine ⟨?_, .inr ⟨before, d, rest, hanswers, hbefore, ?_⟩⟩
    · rw [show conversation = _ from heq]
      exact hexplains hbefore hsub
    · cases hrouted : filing.routed currentPrefix before d with
      | manual p =>
        rw [Filing.routed] at hrouted
        split at hrouted
        · next hgives =>
          obtain rfl := Routed.manual.inj hrouted
          exact .inl ⟨hgives, by rw [houtcome, Filing.routed, if_pos hgives]⟩
        · cases hrouted
      | record existing p =>
        obtain ⟨htyped, hfiles⟩ := routed_files hd hrouted
        exact .inr ⟨existing, p, htyped, hfiles, by rw [houtcome, hrouted]⟩

end

section
attribute [local instance] Interpreter.ascii lowersLetters_ascii

/-- One record, and a processor that appends nothing to it. -/
def fullFiling : Filing :=
  ⟨.set .empty "utm_01-usr-ipat-a" { identifier := "utm_01-usr-ipat-a" }, "utm_01",
    fun _ _ _ => false⟩

def typedName (name sampleId : String) : RenameDecision :=
  ⟨false, some [("name", name), ("institute", "ipat"), ("sample_ID", sampleId)]⟩

/-- A name that breaks the convention, the name of the full record, and a new name. -/
def threeAnswers : List RenameDecision :=
  [typedName "us1" "a", typedName "Usr" "a", typedName "usr" "b c"]

theorem typedName_stripped (name sampleId : String) (hname : strip name = name)
    (hsample : strip sampleId = sampleId) : (typedName name sampleId).Stripped := by
  intro values hvalues key
  obtain rfl : [("name", name), ("institute", "ipat"), ("sample_ID", sampleId)] = values := by
    simpa [typedName] using hvalues
  have hinstitute : strip "ipat" = "ipat" := by decide
  have hempty : strip "" = "" := by decide
  simp only [RenameValues.getField, List.lookup_cons, List.lookup_nil]
  split
  · exact hname
  · split
    · exact hinstitute
    · split
      · exact hsample
      · exact hempty

theorem rename_conversation_filed :
    (fullFiling.routeWithPrefix "bad" ".csv" threeAnswers).outcome =
      some (.record none "usr-ipat-b_c", []) := by
  have hreq : fullFiling.renameRequest "bad" ".csv" = some ([], "bad", none) := by decide +kernel
  have hstripped : ∀ d ∈ threeAnswers, d.Stripped := by
    simp only [threeAnswers, List.forall_mem_cons, List.not_mem_nil, false_implies, implies_true,
      and_true]
    exact ⟨typedName_stripped _ _ (by decide) (by decide), typedName_stripped _ _ (by decide)
      (by decide), typedName_stripped _ _ (by decide) (by decide)⟩
  have hgives : ∀ d ∈ threeAnswers, ¬ d.GivesUp := by
    simp [threeAnswers, typedName, RenameDecision.GivesUp]
  have hfirst : (typedName "us1" "a").typed = none := by decide +kernel
  have hsecond : (typedName "Usr" "a").typed = some "usr-ipat-a" := by decide +kernel
  have hthird : (typedName "usr" "b c").typed = some "usr-ipat-b_c" := by decide +kernel
  obtain ⟨-, ⟨hnone, -⟩ | ⟨before, d, rest, hanswers, -, hends⟩⟩ :=
    rename_conversation fullFiling "bad" ".csv" threeAnswers hreq hstripped
  · have hdecisive : fullFiling.Decisive ".csv" (typedName "usr" "b c") :=
      .inr ⟨_, hthird, by decide +kernel⟩
    exact absurd hdecisive (hnone _ (by simp [threeAnswers]))
  · have hd : d ∈ threeAnswers := by simp [hanswers]
    rcases hends with ⟨hgivesUp, -⟩ | ⟨existing, p, htyped, hfiles, houtcome⟩
    · exact absurd hgivesUp (hgives d hd)
    · rw [houtcome]
      simp only [threeAnswers] at hanswers
      rcases before with _ | ⟨_, _ | ⟨_, _ | ⟨_, before⟩⟩⟩
      · obtain ⟨rfl, rfl⟩ := List.cons.inj hanswers
        cases hfirst.symm.trans htyped
      · obtain ⟨rfl, rfl⟩ := List.cons.inj (List.cons.inj hanswers).2
        obtain rfl := Option.some.inj (hsecond.symm.trans htyped)
        have hfound : existing = some { identifier := "utm_01-usr-ipat-a" } :=
          hfiles.found.trans (by decide +kernel)
        exact absurd (hfiles.appends _ hfound) (by decide)
      · obtain ⟨rfl, rfl⟩ := List.cons.inj (List.cons.inj (List.cons.inj hanswers).2).2
        obtain rfl := Option.some.inj (hthird.symm.trans htyped)
        have hfound : existing = none := hfiles.found.trans (by decide +kernel)
        rw [hfound]
      · have hlength := congrArg List.length hanswers
        simp at hlength

end

end DpostV2.Watchdog
