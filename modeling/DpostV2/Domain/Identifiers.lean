import DpostV2.Lib.Regex
import DpostV2.Lib.Split
import DpostV2.Lib.Words

/-!
# Identifiers

`parse_identifier` splits a text at the separators, `compose_identifier` joins tokens with the
primary one; both check the tokens, and neither whether a token has a separator in it.
`identifier_round_trips` says when what is joined is split again.
-/

namespace DpostV2.Identifiers

open Split

structure IdentifierRules where
  primarySeparator : String := "-"
  alternateSeparators : List String := []
  tokenPattern : String := "[A-Za-z0-9_]+"
  minTokens : Int := 1
  maxTokens : Option Int := none
  minTokenLength : Int := 1
  maxTokenLength : Option Int := none
  casefold : Bool := false
  stripWhitespace : Bool := true

structure ParsedIdentifier where
  tokens : List String
  canonical : String
  separator : String
  deriving DecidableEq

def identifierError (cls message : String) : Exn :=
  { mro := [cls, "IdentifierError", "ValueError", "Exception"], message }

def separatorError (message : String) : Exn := identifierError "IdentifierSeparatorError" message

def tokenCountError (message : String) : Exn := identifierError "IdentifierTokenCountError" message

def characterError (message : String) : Exn := identifierError "IdentifierCharacterError" message

-- ---------------------------------------------------------------------------
-- The rules
-- ---------------------------------------------------------------------------

/-- The loop over the alternate separators, with those it has seen. -/
def validateAlternates (primary : String) (alternates : List String) :
    List String → Except Exn Unit
  | [] => .ok ()
  | separator :: rest =>
    if blank separator then .error (separatorError "Alternate separators must be non-empty.")
    else if separator = primary then
      .error (separatorError "Primary separator cannot also appear in alternate separators.")
    else if alternates.contains separator then
      .error (separatorError "Alternate separators must be unique.")
    else validateAlternates primary (separator :: alternates) rest

def validateTokenCounts (rules : IdentifierRules) : Except Exn Unit :=
  if rules.minTokens < 1 then .error (tokenCountError "Minimum token count must be >= 1.")
  else if rules.maxTokens.any (· < rules.minTokens) then
    .error (tokenCountError "Maximum token count must be >= minimum token count.")
  else .ok ()

def validatePrimary (primary : String) : Except Exn Unit :=
  if blank primary then .error (separatorError "Primary separator must be non-empty.") else .ok ()

def validateSeparatorRules (rules : IdentifierRules) : Except Exn Unit := do
  validatePrimary rules.primarySeparator
  validateAlternates rules.primarySeparator [] rules.alternateSeparators
  validateTokenCounts rules

-- ---------------------------------------------------------------------------
-- Tokens
-- ---------------------------------------------------------------------------

def splitText (separators : List String) (raw : String) : List String :=
  (split (separators.map String.toList) raw.toList).map String.ofList

section
variable [Casefold]

def normalizedToken (rules : IdentifierRules) (token : String) : String :=
  let value := if rules.stripWhitespace then strip token else token
  if rules.casefold then DpostV2.casefold value else value

def normalizedText (rules : IdentifierRules) (value : String) : String :=
  let text := if rules.stripWhitespace then strip value else value
  if rules.casefold then DpostV2.casefold text else text

def IdentifierRules.separators (rules : IdentifierRules) : List String :=
  rules.primarySeparator :: rules.alternateSeparators

def splitTokens (rules : IdentifierRules) (raw : String) : Except Exn (List String) :=
  let rawTokens := splitText rules.separators raw
  if rawTokens.any (· = "") then
    .error (tokenCountError "Identifier token count contains empty tokens.")
  else .ok (rawTokens.map (normalizedToken rules))

variable [Regex]

def validateToken (rules : IdentifierRules) (fullmatch : String → Bool) (token : String) :
    Except Exn Unit :=
  if (token.length : Int) < rules.minTokenLength then
    .error (characterError "Identifier token is shorter than allowed.")
  else if rules.maxTokenLength.any (· < (token.length : Int)) then
    .error (characterError "Identifier token is longer than allowed.")
  else if !fullmatch token then
    .error (characterError s!"Identifier token '{token}' contains invalid characters.")
  else .ok ()

def validateTokenList (rules : IdentifierRules) (fullmatch : String → Bool) :
    List String → Except Exn (List String)
  | [] => .ok []
  | token :: rest => do
    validateToken rules fullmatch token
    return token :: (← validateTokenList rules fullmatch rest)

def validateTokens (rules : IdentifierRules) (tokens : List String) : Except Exn (List String) :=
  if (tokens.length : Int) < rules.minTokens then
    .error (tokenCountError
      "Identifier token count is below configured minimum token count.")
  else if rules.maxTokens.any (· < (tokens.length : Int)) then
    .error (tokenCountError "Identifier token count exceeds configured maximum token count.")
  else do validateTokenList rules (← compile rules.tokenPattern) tokens

def parseNormalized (rules : IdentifierRules) (normalized : String) :
    Except Exn ParsedIdentifier :=
  if normalized = "" then
    .error (identifierError "IdentifierEmptyError" "Identifier input is empty.")
  else do
    let tokens ← splitTokens rules normalized
    let validTokens ← validateTokens rules tokens
    return {
      tokens := validTokens
      canonical := rules.primarySeparator.intercalate validTokens
      separator := rules.primarySeparator }

def parseIdentifier (rules : IdentifierRules) (rawIdentifier : String) :
    Except Exn ParsedIdentifier := do
  validateSeparatorRules rules
  parseNormalized rules (normalizedText rules rawIdentifier)

def composeIdentifier (rules : IdentifierRules) (tokens : List String) : Except Exn String := do
  validateSeparatorRules rules
  let validTokens ← validateTokens rules (tokens.map (normalizedToken rules))
  return rules.primarySeparator.intercalate validTokens

-- ---------------------------------------------------------------------------
-- Normal tokens
-- ---------------------------------------------------------------------------

variable {rules : IdentifierRules} {tokens valid : List String} {text : String}

omit [Regex] in
@[simp] theorem normalizedToken_idem (rules : IdentifierRules) (token : String) :
    normalizedToken rules (normalizedToken rules token) = normalizedToken rules token := by
  unfold normalizedToken
  cases rules.stripWhitespace <;> cases rules.casefold <;> simp [strip_casefold]

omit [Regex] in
theorem normalizedText_eq (rules : IdentifierRules) (value : String) :
    normalizedText rules value = normalizedToken rules value := rfl

omit [Casefold] [Regex] in
theorem validateTokenList_eq {fullmatch : String → Bool}
    (h : validateTokenList rules fullmatch tokens = .ok valid) : valid = tokens := by
  induction tokens generalizing valid with
  | nil => exact (Except.ok.inj h).symm
  | cons token rest ih =>
    obtain ⟨_, -, h⟩ := except_bind_ok.mp h
    obtain ⟨validRest, hrest, h⟩ := except_bind_ok.mp h
    rw [← except_pure_ok.mp h, ih hrest]

omit [Casefold] in
/-- What is validated is what was given. -/
theorem validateTokens_ok (h : validateTokens rules tokens = .ok valid) :
    valid = tokens ∧ rules.minTokens ≤ tokens.length := by
  unfold validateTokens at h
  split at h
  · cases h
  · next hfew =>
    split at h
    · cases h
    · obtain ⟨fullmatch, -, h⟩ := except_bind_ok.mp h
      exact ⟨validateTokenList_eq h, by omega⟩

omit [Casefold] [Regex] in
theorem validateAlternates_ok {primary : String} {seen alternates : List String}
    (h : validateAlternates primary seen alternates = .ok ()) :
    ∀ separator ∈ alternates, separator ≠ "" := by
  induction alternates generalizing seen with
  | nil => simp
  | cons separator rest ih =>
    unfold validateAlternates at h
    split_ifs at h with hblank
    have hne : separator ≠ "" := by
      rintro rfl
      exact hblank (by decide)
    exact List.forall_mem_cons.mpr ⟨hne, ih h⟩

omit [Casefold] [Regex] in
theorem validateSeparatorRules_ok (h : validateSeparatorRules rules = .ok ()) :
    "" ∉ rules.separators ∧ 1 ≤ rules.minTokens := by
  obtain ⟨_, hprimary, h⟩ := except_bind_ok.mp h
  obtain ⟨_, halternates, h⟩ := except_bind_ok.mp h
  have hcount : 1 ≤ rules.minTokens := by
    unfold validateTokenCounts at h
    split_ifs at h with hmin
    omega
  have hne : rules.primarySeparator ≠ "" := by
    intro heq
    have hblank : blank "" = true := by decide
    simp [validatePrimary, heq, hblank] at hprimary
  refine ⟨fun hmem => ?_, hcount⟩
  rcases List.mem_cons.mp hmem with heq | hmem
  · exact hne heq.symm
  · exact validateAlternates_ok halternates "" hmem rfl

-- ---------------------------------------------------------------------------
-- Parsing what was composed
-- ---------------------------------------------------------------------------

/-- A text is parsed into the tokens. -/
def Reparses (rules : IdentifierRules) (text : String) (tokens : List String) : Prop :=
  ∃ parsed, parseIdentifier rules text = .ok parsed ∧ parsed.tokens = tokens

omit [Regex] in
theorem splitTokens_ok {raw : String} :
    splitTokens rules raw = .ok tokens ↔ "" ∉ splitText rules.separators raw ∧
      (splitText rules.separators raw).map (normalizedToken rules) = tokens := by
  unfold splitTokens
  by_cases hempty : (splitText rules.separators raw).any (· = "") = true
  · have hmem : "" ∈ splitText rules.separators raw := by simpa using hempty
    simp [hempty, hmem]
  · have hmem : "" ∉ splitText rules.separators raw := by simpa using hempty
    simp [hempty, hmem]

/-- Tokens that are valid come back if the pieces of the text become them. -/
theorem reparses_iff (hrules : validateSeparatorRules rules = .ok ())
    (hvalid : validateTokens rules tokens = .ok tokens) :
    Reparses rules text tokens ↔ splitTokens rules (normalizedText rules text) = .ok tokens := by
  have hok (f : Unit → Except Exn ParsedIdentifier) : (validateSeparatorRules rules >>= f) =
    f () := by
    rw [hrules]
    rfl
  unfold Reparses parseIdentifier
  rw [hok]
  constructor
  · rintro ⟨parsed, hparsed, rfl⟩
    unfold parseNormalized at hparsed
    split at hparsed
    · cases hparsed
    · obtain ⟨split, hsplit, hparsed⟩ := except_bind_ok.mp hparsed
      obtain ⟨valid, hvalid', hparsed⟩ := except_bind_ok.mp hparsed
      obtain rfl := except_pure_ok.mp hparsed
      rw [hsplit, (validateTokens_ok hvalid').1]
  · intro hsplit
    have hne : normalizedText rules text ≠ "" := by
      intro heq
      rw [heq, splitTokens_ok] at hsplit
      exact hsplit.1 (by simp [splitText, split, splitFrom])
    refine ⟨⟨tokens, rules.primarySeparator.intercalate tokens, rules.primarySeparator⟩, ?_, rfl⟩
    unfold parseNormalized
    rw [if_neg hne, hsplit]
    exact except_bind_ok.mpr ⟨tokens, rfl, except_bind_ok.mpr ⟨tokens, hvalid, rfl⟩⟩

-- ---------------------------------------------------------------------------
-- What is found again
-- ---------------------------------------------------------------------------

/-- The splitter finds the tokens in their join. -/
def Recovered (rules : IdentifierRules) (tokens : List String) : Prop :=
  ∃ pieces, Separated (rules.separators.map String.toList)
      (normalizedText rules (rules.primarySeparator.intercalate tokens)).toList pieces ∧
    [] ∉ pieces ∧ pieces.map (fun piece => normalizedToken rules (String.ofList piece)) = tokens

omit [Regex] in
theorem recovered_iff (hseps : "" ∉ rules.separators) :
    splitTokens rules (normalizedText rules (rules.primarySeparator.intercalate tokens)) =
      .ok tokens ↔ Recovered rules tokens := by
  have hnil : [] ∉ rules.separators.map String.toList := by
    intro hmem
    obtain ⟨sep, hsep, hempty⟩ := List.mem_map.mp hmem
    exact hseps (String.toList_eq_nil_iff.mp hempty ▸ hsep)
  rw [splitTokens_ok]
  constructor
  · rintro ⟨hempty, htokens⟩
    refine ⟨_, (split_iff hnil).mp rfl, fun hpiece => ?_, ?_⟩
    · exact hempty (List.mem_map.mpr ⟨[], hpiece, rfl⟩)
    · rwa [splitText, List.map_map] at htokens
  · rintro ⟨pieces, hseparated, hpieces, htokens⟩
    have hsplit := (split_iff hnil).mpr hseparated
    simp only [splitText, hsplit, List.map_map]
    refine ⟨fun hmem => ?_, htokens⟩
    obtain ⟨piece, hpiece, hempty⟩ := List.mem_map.mp hmem
    rw [String.ofList_eq_empty_iff.mp hempty] at hpiece
    exact hpieces hpiece

/-- Neither stripping nor folding changes the text. -/
def Normal (rules : IdentifierRules) (cs : List Char) : Prop :=
  (rules.stripWhitespace = true → Trimmed cs) ∧ (rules.casefold = true → Folded cs)

omit [Regex] in
theorem normalizedToken_eq_self {token : String} :
    normalizedToken rules token = token ↔ Normal rules token.toList := by
  rw [Normal, ← strip_eq_self, ← casefold_eq_self]
  unfold normalizedToken
  cases rules.stripWhitespace <;> cases rules.casefold <;> simp
  constructor
  · intro h
    have hstrip : strip token = token := by
      rw [← h, strip_casefold, strip_strip]
    exact ⟨hstrip, by rwa [hstrip] at h⟩
  · rintro ⟨hstrip, hfold⟩
    rw [hstrip, hfold]

/-- Tokens whose ends are no empty ones are joined to a text without blanks at its ends. -/
def SolidEnds (tokens : List String) : Prop :=
  (∃ first ∈ tokens.head?, first ≠ "") ∧ ∃ last ∈ tokens.getLast?, last ≠ ""

omit [Regex] in
theorem normal_join (hprimary : rules.casefold = true → Folded rules.primarySeparator.toList)
    (hnormal : ∀ token ∈ tokens, Normal rules token.toList)
    (hends : rules.stripWhitespace = true → SolidEnds tokens) :
    Normal rules (rules.primarySeparator.intercalate tokens).toList := by
  rw [String.toList_intercalate]
  constructor
  · intro hstrip
    obtain ⟨⟨first, hfirst, hne⟩, last, hlast, hne'⟩ := hends hstrip
    have htrimmed := fun token htoken => (hnormal token htoken).1 hstrip
    have hne : first.toList ≠ [] := mt String.toList_eq_nil_iff.mp hne
    have hne' : last.toList ≠ [] := mt String.toList_eq_nil_iff.mp hne'
    constructor
    · obtain ⟨rest, rfl⟩ := List.head?_eq_some_iff.mp hfirst
      rw [List.map_cons, head?_intercalate hne]
      exact (htrimmed first List.mem_cons_self).1
    · obtain ⟨before, rfl⟩ := List.getLast?_eq_some_iff.mp hlast
      rw [List.map_append, List.map_singleton, getLast?_intercalate hne']
      exact (htrimmed last (by simp)).2
  · intro hfold c hc
    rcases mem_intercalate hc with hc | ⟨cs, hcs, hc⟩
    · exact hprimary hfold c hc
    · obtain ⟨token, htoken, rfl⟩ := List.mem_map.mp hcs
      exact (hnormal token htoken).2 hfold c hc

omit [Regex] in
theorem normalizedToken_ne_empty {piece : List Char} {c : Char} (hc : c ∈ piece)
    (htext : isSpace c = false) : normalizedToken rules (String.ofList piece) ≠ "" := by
  have hmem : c ∈ (String.ofList piece).toList := by rwa [String.toList_ofList]
  have hstrip := strip_ne_empty hmem htext
  have hne : String.ofList piece ≠ "" := by
    intro hempty
    rw [hempty] at hmem
    cases hmem
  unfold normalizedToken
  cases rules.stripWhitespace <;> cases rules.casefold <;> simp [hstrip, hne]

omit [Regex] in
/-- The pieces at the ends of a text without blanks there are normalized to no empty tokens. -/
theorem solidEnds_pieces {seps pieces : List (List Char)} {cs : List Char} (htrimmed : Trimmed cs)
    (h : Separated seps cs pieces) (hpieces : [] ∉ pieces) :
    SolidEnds (pieces.map fun piece => normalizedToken rules (String.ofList piece)) := by
  obtain ⟨⟨first, hfirst, rest, hrest⟩, last, hlast, before, hbefore⟩ := h.ends
  constructor
  · have hne : first ≠ [] := ne_of_mem_of_not_mem (List.mem_of_head? hfirst) hpieces
    obtain ⟨c, piece, rfl⟩ := List.exists_cons_of_ne_nil hne
    refine ⟨_, by rw [List.head?_map, hfirst]; rfl, ?_⟩
    exact normalizedToken_ne_empty List.mem_cons_self (htrimmed.1 c (by rw [← hrest]; rfl))
  · have hne : last ≠ [] := ne_of_mem_of_not_mem (List.mem_of_getLast? hlast) hpieces
    obtain ⟨piece, c, rfl⟩ := (List.eq_nil_or_concat last).resolve_left hne
    refine ⟨_, by rw [List.getLast?_map, hlast]; rfl, ?_⟩
    have hc : cs.getLast? = some c := by rw [← hbefore]; simp
    exact normalizedToken_ne_empty (by simp) (htrimmed.2 c hc)

omit [Regex] in
theorem Recovered.solidEnds (h : Recovered rules tokens) (hstrip : rules.stripWhitespace = true) :
    SolidEnds tokens := by
  obtain ⟨pieces, hseparated, hpieces, rfl⟩ := h
  have hnormal := normalizedToken_eq_self.mp (normalizedToken_idem rules
    (rules.primarySeparator.intercalate
      (pieces.map fun piece => normalizedToken rules (String.ofList piece))))
  exact solidEnds_pieces (hnormal.1 hstrip) hseparated hpieces

omit [Regex] in
/-- A piece of a folded text is not longer when it is normalized. -/
theorem length_normalizedToken {piece : List Char} (hfold : rules.casefold = true → Folded piece) :
    (normalizedToken rules (String.ofList piece)).toList.length ≤ piece.length := by
  have hsame (h : rules.casefold = true) :
      DpostV2.casefold (String.ofList piece) = String.ofList piece := by
    rw [casefold_eq_self, String.toList_ofList]
    exact hfold h
  have hstrip := length_strip (String.ofList piece)
  rw [String.toList_ofList] at hstrip
  unfold normalizedToken
  cases rules.stripWhitespace with
  | false => cases hcase : rules.casefold <;> simp [hsame, hcase]
  | true =>
    cases hcase : rules.casefold with
    | false => exact hstrip
    | true =>
      rw [if_pos rfl, if_pos rfl, ← strip_casefold, hsame hcase]
      exact hstrip

omit [Regex] in
/-- If folding leaves the primary separator as it is, tokens are found again where none is empty
and no separator begins in one. -/
theorem recovered_normal_iff
    (hprimary : rules.casefold = true → Folded rules.primarySeparator.toList)
    (hne : rules.primarySeparator ≠ "") (hnormal : ∀ token ∈ tokens, Normal rules token.toList)
    (htokens : tokens ≠ []) :
    Recovered rules tokens ↔ "" ∉ tokens ∧ UnbrokenJoin (rules.separators.map String.toList)
      rules.primarySeparator.toList (tokens.map String.toList) := by
  have hempty (texts : List String) : [] ∈ texts.map String.toList ↔ "" ∈ texts := by simp
  have hlists : tokens.map String.toList ≠ [] := mt List.map_eq_nil_iff.mp htokens
  have hsep : rules.primarySeparator.toList ≠ [] := mt String.toList_eq_nil_iff.mp hne
  -- the join of tokens with solid ends is what is split
  have htext (hends : rules.stripWhitespace = true → SolidEnds tokens) :
      (normalizedText rules (rules.primarySeparator.intercalate tokens)).toList =
        rules.primarySeparator.toList.intercalate (tokens.map String.toList) := by
    have hjoin := normal_join hprimary hnormal hends
    rw [normalizedText_eq, normalizedToken_eq_self.mpr hjoin, String.toList_intercalate]
  constructor
  · intro h
    have hjoin := normal_join hprimary hnormal h.solidEnds
    have hsplit := htext h.solidEnds
    obtain ⟨pieces, hseparated, hpieces, hmap⟩ := h
    rw [hsplit] at hseparated
    have hlength : List.Forall₂ (fun text piece => text.length ≤ piece.length)
        (tokens.map String.toList) pieces := by
      rw [← hmap, List.map_map, List.forall₂_map_left_iff, List.forall₂_same]
      intro piece hpiece
      refine length_normalizedToken fun hcase c hc => hjoin.2 hcase c ?_
      rw [String.toList_intercalate]
      exact hseparated.subset piece hpiece hc
    obtain ⟨rfl, hunbroken⟩ := (separated_join_iff hsep hlists hlength).mp hseparated
    exact ⟨mt (hempty tokens).mpr hpieces, hunbroken⟩
  · rintro ⟨hnonempty, hunbroken⟩
    have hends : SolidEnds tokens := by
      obtain ⟨first, rest, hfirst⟩ := List.exists_cons_of_ne_nil htokens
      refine ⟨⟨first, by rw [hfirst]; rfl, ?_⟩, tokens.getLast htokens,
        List.getLast?_eq_some_getLast htokens, ?_⟩
      · exact ne_of_mem_of_not_mem (hfirst ▸ List.mem_cons_self) hnonempty
      · exact ne_of_mem_of_not_mem (List.getLast_mem htokens) hnonempty
    refine ⟨tokens.map String.toList, ?_, mt (hempty tokens).mp hnonempty, ?_⟩
    · rw [htext fun _ => hends]
      refine (separated_join_iff hsep hlists ?_).mpr ⟨rfl, hunbroken⟩
      exact List.forall₂_same.mpr fun _ _ => Nat.le_refl _
    · rw [List.map_map]
      refine List.map_congr_left (fun token htoken => ?_) |>.trans (List.map_id _)
      rw [Function.comp_apply, String.ofList_toList]
      exact normalizedToken_eq_self.mpr (hnormal token htoken)

theorem composeIdentifier_ok (hrules : validateSeparatorRules rules = .ok ()) :
    composeIdentifier rules tokens = .ok text ↔
      (∃ valid, validateTokens rules (tokens.map (normalizedToken rules)) = .ok valid) ∧
        text = rules.primarySeparator.intercalate (tokens.map (normalizedToken rules)) := by
  constructor
  · intro h
    obtain ⟨_, -, h⟩ := except_bind_ok.mp h
    obtain ⟨valid, hvalid, h⟩ := except_bind_ok.mp h
    obtain rfl := (validateTokens_ok hvalid).1
    exact ⟨⟨_, hvalid⟩, (except_pure_ok.mp h).symm⟩
  · rintro ⟨⟨valid, hvalid⟩, rfl⟩
    obtain rfl := (validateTokens_ok hvalid).1
    exact except_bind_ok.mpr ⟨(), hrules, except_bind_ok.mpr ⟨_, hvalid, rfl⟩⟩

/-- What is parsed are normal tokens that are valid, and their join. -/
theorem parseIdentifier_ok {raw : String} {parsed : ParsedIdentifier}
    (h : parseIdentifier rules raw = .ok parsed) :
    parsed.tokens.map (normalizedToken rules) = parsed.tokens ∧
      validateTokens rules parsed.tokens = .ok parsed.tokens ∧
      parsed.canonical = rules.primarySeparator.intercalate parsed.tokens := by
  obtain ⟨_, -, h⟩ := except_bind_ok.mp h
  unfold parseNormalized at h
  split at h
  · cases h
  · obtain ⟨tokens, htokens, h⟩ := except_bind_ok.mp h
    obtain ⟨valid, hvalid, h⟩ := except_bind_ok.mp h
    obtain rfl := except_pure_ok.mp h
    obtain rfl := (validateTokens_ok hvalid).1
    obtain ⟨-, rfl⟩ := splitTokens_ok.mp htokens
    refine ⟨?_, hvalid, rfl⟩
    rw [List.map_map]
    exact List.map_congr_left fun token _ => normalizedToken_idem rules token

/-- Valid tokens come back from their join where the splitter finds them. -/
theorem reparses_join_iff (hrules : validateSeparatorRules rules = .ok ())
    (hvalid : validateTokens rules tokens = .ok valid) :
    Reparses rules (rules.primarySeparator.intercalate tokens) tokens ↔ Recovered rules tokens := by
  rw [(validateTokens_ok hvalid).1] at hvalid
  rw [reparses_iff hrules hvalid, recovered_iff (validateSeparatorRules_ok hrules).1]

/-- What is parsed is composed again, and what is joined is parsed again if and only if the
splitter finds the tokens in it; with a primary separator that folding leaves as it is, that is
where no token is empty and no separator begins in one. -/
theorem identifier_round_trips (hrules : validateSeparatorRules rules = .ok ()) :
    (∀ raw parsed, parseIdentifier rules raw = .ok parsed →
      composeIdentifier rules parsed.tokens = .ok parsed.canonical ∧
        (Reparses rules parsed.canonical parsed.tokens ↔ Recovered rules parsed.tokens)) ∧
    (∀ tokens text, composeIdentifier rules tokens = .ok text →
      (Reparses rules text (tokens.map (normalizedToken rules)) ↔
        Recovered rules (tokens.map (normalizedToken rules)))) ∧
    ((rules.casefold = true → casefold rules.primarySeparator = rules.primarySeparator) →
      ∀ tokens, tokens ≠ [] → (∀ token ∈ tokens, normalizedToken rules token = token) →
        (Recovered rules tokens ↔ "" ∉ tokens ∧
          UnbrokenJoin (rules.separators.map String.toList) rules.primarySeparator.toList
            (tokens.map String.toList))) := by
  refine ⟨fun raw parsed hparsed => ?_, fun tokens text htext => ?_,
    fun hprimary tokens hne h => ?_⟩
  · obtain ⟨hnormal, hvalid, hcanonical⟩ := parseIdentifier_ok hparsed
    refine ⟨(composeIdentifier_ok hrules).mpr ?_, hcanonical ▸ reparses_join_iff hrules hvalid⟩
    rw [hnormal]
    exact ⟨⟨_, hvalid⟩, hcanonical⟩
  · obtain ⟨⟨valid, hvalid⟩, rfl⟩ := (composeIdentifier_ok hrules).mp htext
    exact reparses_join_iff hrules hvalid
  · refine recovered_normal_iff (fun hcase => casefold_eq_self.mp (hprimary hcase)) ?_
      (fun token htoken => normalizedToken_eq_self.mp (h token htoken)) hne
    exact ne_of_mem_of_not_mem List.mem_cons_self (validateSeparatorRules_ok hrules).1

end

section
attribute [local instance] Casefold.ascii Regex.words

/-- The pattern of a token knows the alternate separator too. -/
def underscored : IdentifierRules := { alternateSeparators := ["_"] }

theorem identifier_round_trips_plain :
    composeIdentifier underscored ["MAT", "Device"] = .ok "MAT-Device" ∧
      Reparses underscored "MAT-Device" ["MAT", "Device"] := by
  have hcompose : composeIdentifier underscored ["MAT", "Device"] = .ok "MAT-Device" := by
    decide +kernel
  have hnormal : ["MAT", "Device"].map (normalizedToken underscored) = ["MAT", "Device"] := by
    decide +kernel
  have hrules : validateSeparatorRules underscored = .ok () := by decide +kernel
  obtain ⟨-, hreparses, hrecovered⟩ := identifier_round_trips hrules
  have hiff := hreparses _ _ hcompose
  rw [hnormal] at hiff
  refine ⟨hcompose, hiff.mpr ((hrecovered (by decide) _ (by decide) (by decide +kernel)).mpr ?_)⟩
  exact ⟨by decide, by decide +kernel⟩

theorem underscored_split :
    composeIdentifier underscored ["a_b"] = .ok "a_b" ∧
      ["a_b"].map (normalizedToken underscored) = ["a_b"] ∧
      parseIdentifier underscored "a_b" =
        .ok { tokens := ["a", "b"], canonical := "a-b", separator := "-" } ∧
      ¬ Reparses underscored "a_b" ["a_b"] := by
  have hparse : parseIdentifier underscored "a_b" =
      .ok { tokens := ["a", "b"], canonical := "a-b", separator := "-" } := by decide +kernel
  refine ⟨by decide +kernel, by decide +kernel, hparse, ?_⟩
  rintro ⟨parsed, hparsed, htokens⟩
  rw [hparse] at hparsed
  obtain rfl := Except.ok.inj hparsed
  revert htokens
  decide

end

end DpostV2.Identifiers
