import DpostV2.Lib.Pattern
import DpostV2.Lib.Separated
import DpostV2.Watchdog.LocalRecord

/-!
# File names of the watchdog

A file that is to be filed carries its user, institute and sample in its name. A name that breaks
the convention is shown in the rename dialog with the reasons and with the characters at fault:
`explanation_complete` says that a reason is given whenever the name is refused, and which
characters are marked.
-/

namespace DpostV2.Watchdog

/-- `.`: any character but a line break. -/
def isAnyChar (c : Char) : Bool := c != '\n'

def isDot (c : Char) : Bool := c == '.'

def isSep (c : Char) : Bool := c == '-'

/-- `[A-Za-z0-9_ ]` -/
def isSampleChar (c : Char) : Bool := c.isAlphanum || c == '_' || c == ' '

/-- `[A-Za-z]+` -/
def lettersPattern : Pattern := .stretch Char.isAlpha 1 none

/-- `^[A-Za-z0-9_ ]+` -/
def samplePattern : Pattern := .next .start (.stretch isSampleChar 1 none)

/-- `^(?!.*\.\.)(?!\.)([A-Za-z]+)-[A-Za-z]+-[A-Za-z0-9_ ]{1,30}(?<!\.)$` -/
def filenamePattern : Pattern :=
  .next .start <|
  .next (.notAhead <| .next (.stretch isAnyChar 0 none) <| .next (.one isDot) (.one isDot)) <|
  .next (.notAhead (.one isDot)) <|
  .next lettersPattern <|
  .next (.one isSep) <|
  .next lettersPattern <|
  .next (.one isSep) <|
  .next (.stretch isSampleChar 1 (some 30)) <|
  .next (.notBehind isDot) .stop

namespace ValidationMessages

def missingSeparator : String := "Filename must have exactly 3 parts separated by '-'."
def userOnlyLetters : String := "User ID must contain only letters."
def instituteOnlyLetters : String := "Institute must contain only letters."
def sampleTooLong : String := "Sample name must be 30 characters or fewer."
def sampleInvalidChars : String := "Sample may only contain letters, digits, underscores/spaces."

end ValidationMessages

@[ext] structure Analysis where
  valid : Bool
  sanitized : Option String := none
  reasons : List String := []
  highlightSpans : List (Nat × Nat) := []
  deriving DecidableEq

/-- `filename.split(sep)` -/
def segments (name : String) : List (List Char) := name.toList.splitOn idSep

/-- The spans of the characters of a segment that are not of its class. -/
def spansOutside (cls : Char → Bool) (start : Nat) (segment : List Char) : List (Nat × Nat) :=
  (segment.zipIdx start).filterMap fun (char, i) => if cls char then none else some (i, i + 1)

open ValidationMessages in
/-- `explain_filename_violation` -/
def explainFilenameViolation (filename : String) : Analysis :=
  if filenamePattern.isMatch filename then { valid := true }
  else
    match segments filename with
    | [user, institute, sample] =>
      let userStart := 0
      let userEnd := user.length
      let instStart := userEnd + 1
      let instEnd := instStart + institute.length
      let sampleStart := instEnd + 1
      let userBad := !lettersPattern.isFullmatch (String.ofList user)
      let instituteBad := !lettersPattern.isFullmatch (String.ofList institute)
      let sampleLong := sample.length > 30
      let sampleBad := !samplePattern.isFullmatch (String.ofList sample)
      { valid := false
        reasons :=
          (if userBad then [userOnlyLetters] else []) ++
          (if instituteBad then [instituteOnlyLetters] else []) ++
          (if sampleLong then [sampleTooLong] else []) ++
          (if sampleBad then [sampleInvalidChars] else [])
        highlightSpans :=
          (if userBad then spansOutside Char.isAlpha userStart user else []) ++
          (if instituteBad then spansOutside Char.isAlpha instStart institute else []) ++
          (if sampleBad then spansOutside isSampleChar sampleStart sample else []) }
    | _ =>
      { valid := false
        reasons := [missingSeparator]
        highlightSpans := filename.toList.zipIdx.filterMap fun (char, i) =>
          if char == idSep then some (i, i + 1) else none }

-- ---------------------------------------------------------------------------
-- The names that match
-- ---------------------------------------------------------------------------

structure Conventional (user institute sample : List Char) : Prop where
  userLetters : user ≠ [] ∧ ∀ c ∈ user, c.isAlpha = true
  instituteLetters : institute ≠ [] ∧ ∀ c ∈ institute, c.isAlpha = true
  sampleChars : sample ≠ [] ∧ ∀ c ∈ sample, isSampleChar c = true
  sampleShort : sample.length ≤ 30

/-- User, institute and sample, joined. -/
def prefixOf (user institute sample : List Char) : List Char :=
  user ++ idSep :: (institute ++ idSep :: sample)

theorem isAlpha_ne {c d : Char} (h : c.isAlpha = true) (hd : d.isAlpha = false) : c ≠ d := by
  rintro rfl
  rw [h] at hd
  cases hd

theorem isSampleChar_ne {c d : Char} (h : isSampleChar c = true) (hd : isSampleChar d = false) :
    c ≠ d := by
  rintro rfl
  rw [h] at hd
  cases hd

namespace Conventional

variable {user institute sample : List Char}

theorem sep_not_mem (h : Conventional user institute sample) :
    idSep ∉ user ∧ idSep ∉ institute ∧ idSep ∉ sample :=
  ⟨fun hmem => isAlpha_ne (h.userLetters.2 _ hmem) rfl rfl,
    fun hmem => isAlpha_ne (h.instituteLetters.2 _ hmem) rfl rfl,
    fun hmem => isSampleChar_ne (h.sampleChars.2 _ hmem) rfl rfl⟩

theorem dot_not_mem (h : Conventional user institute sample) :
    '.' ∉ prefixOf user institute sample := by
  simp only [prefixOf, List.mem_append, List.mem_cons, idSep]
  rintro (hmem | heq | hmem | heq | hmem)
  · exact isAlpha_ne (h.userLetters.2 _ hmem) rfl rfl
  · exact absurd heq (by decide)
  · exact isAlpha_ne (h.instituteLetters.2 _ hmem) rfl rfl
  · exact absurd heq (by decide)
  · exact isSampleChar_ne (h.sampleChars.2 _ hmem) rfl rfl

end Conventional

theorem isFullmatch_letters {text : List Char} :
    lettersPattern.isFullmatch (String.ofList text) = true ↔
    text ≠ [] ∧ ∀ c ∈ text, c.isAlpha = true := by
  rw [lettersPattern, Pattern.isFullmatch_stretch]
  simp [Pattern.withinBounds, Nat.one_le_iff_ne_zero, and_comm]

theorem isFullmatch_sample {text : List Char} :
    samplePattern.isFullmatch (String.ofList text) = true ↔
    text ≠ [] ∧ ∀ c ∈ text, isSampleChar c = true := by
  rw [samplePattern, Pattern.isFullmatch_iff]
  simp [Pattern.withinBounds, Nat.one_le_iff_ne_zero, and_comm]

/-- The lookarounds of the pattern forbid nothing that its classes allow; before the end of the
text a line break is let through. -/
theorem isMatch_filenamePattern {name : String} : filenamePattern.isMatch name = true ↔
    ∃ user institute sample, Conventional user institute sample ∧
      (name.toList = prefixOf user institute sample ∨
        name.toList = prefixOf user institute sample ++ ['\n']) := by
  rw [Pattern.isMatch_iff, filenamePattern, lettersPattern]
  simp only [Pattern.next_start, Pattern.next_notAhead, Pattern.next_stretch, Pattern.next_one,
    Pattern.next_notBehind, Pattern.mem_run_stop]
  constructor
  · rintro ⟨_, -, -, -, user, rest, hname, huser, huserLen, c, rest, rfl, hc, institute, rest, rfl,
      hinstitute, hinstituteLen, d, rest, rfl, hd, sample, ending, rfl, hsample, hsampleLen, -,
      hending, -⟩
    obtain rfl : c = idSep := by simpa [isSep, idSep] using hc
    obtain rfl : d = idSep := by simpa [isSep, idSep] using hd
    simp only [Pattern.withinBounds, Option.all_none, Option.all_some, Bool.and_true,
      Bool.and_eq_true, decide_eq_true_eq] at huserLen hinstituteLen hsampleLen
    refine ⟨user, institute, sample, ⟨⟨List.length_pos_iff.mp huserLen, huser⟩,
      ⟨List.length_pos_iff.mp hinstituteLen, hinstitute⟩,
      ⟨List.length_pos_iff.mp hsampleLen.1, hsample⟩, hsampleLen.2⟩, ?_⟩
    rcases hending with rfl | rfl
    · exact .inl (by simp [hname, prefixOf])
    · exact .inr (by simp [hname, prefixOf])
  · rintro ⟨user, institute, sample, h, hname⟩
    obtain ⟨ending, hending, hname⟩ : ∃ ending, (ending = [] ∨ ending = ['\n']) ∧
        name.toList = prefixOf user institute sample ++ ending := by
      rcases hname with hname | hname
      · exact ⟨[], .inl rfl, by simp [hname]⟩
      · exact ⟨['\n'], .inr rfl, hname⟩
    have hdot : '.' ∉ name.toList := by
      rw [hname, List.mem_append]
      rintro (hmem | hmem)
      · exact h.dot_not_mem hmem
      · rcases hending with rfl | rfl <;> simp at hmem
    rw [prefixOf, List.append_assoc, List.cons_append, List.append_assoc, List.cons_append] at hname
    have hbounds {text : List Char} (htext : text ≠ []) : 1 ≤ text.length :=
      List.length_pos_iff.mpr htext
    refine ⟨_, trivial, ?_, ?_, user, _, hname, h.userLetters.2, ?_, idSep, _, rfl, rfl,
      institute, _,
      rfl, h.instituteLetters.2, ?_, idSep, _, rfl, rfl, sample, ending, rfl,
        h.sampleChars.2, ?_, ?_,
      hending, rfl⟩
    · rintro x ⟨w, rest, heq, -, -, c, rest, rfl, hc, hrest⟩
      obtain rfl : c = '.' := by simpa [isDot] using hc
      exact hdot (by simp [heq])
    · rintro x hx
      obtain ⟨c, rest, heq, hc, -⟩ := Pattern.mem_run_one.mp hx
      obtain rfl : c = '.' := by simpa [isDot] using hc
      exact hdot (by simp [heq])
    · simpa [Pattern.withinBounds] using hbounds h.userLetters.1
    · simpa [Pattern.withinBounds] using hbounds h.instituteLetters.1
    · simpa [Pattern.withinBounds] using ⟨hbounds h.sampleChars.1, h.sampleShort⟩
    · cases hlast : sample.reverse with
      | nil => exact absurd (List.reverse_eq_nil_iff.mp hlast) h.sampleChars.1
      | cons c rest =>
        have hmem : c ∈ sample := List.mem_reverse.mp (hlast ▸ List.mem_cons_self)
        simpa [isDot] using isSampleChar_ne (h.sampleChars.2 c hmem) (d := '.') rfl

-- ---------------------------------------------------------------------------
-- What is explained
-- ---------------------------------------------------------------------------

theorem segments_eq_three {name : String} {user institute sample : List Char} :
    segments name = [user, institute, sample] ↔ name.toList = prefixOf user institute sample ∧
      idSep ∉ user ∧ idSep ∉ institute ∧ idSep ∉ sample := by
  constructor
  · intro h
    have hjoined : [idSep].intercalate (segments name) = name.toList :=
      List.intercalate_splitOn idSep
    have hfree : ∀ segment ∈ name.toList.splitOn idSep, idSep ∉ segment :=
      not_mem_splitOn name.toList
    rw [h] at hjoined
    rw [segments] at h
    rw [h] at hfree
    exact ⟨by simpa [prefixOf] using hjoined.symm, by simpa using hfree⟩
  · rintro ⟨hname, hfree⟩
    have hsplit : ([idSep].intercalate [user, institute, sample]).splitOn idSep =
        [user, institute, sample] :=
      List.splitOn_intercalate idSep (by simpa using hfree) (by simp)
    rw [segments, hname, prefixOf]
    simpa using hsplit

theorem segments_three_iff {name : String} :
    (∃ user institute sample, segments name = [user, institute, sample]) ↔
      name.toList.count idSep = 2 := by
  have hlength : (segments name).length = name.toList.count idSep + 1 := length_splitOn _
  rw [← Nat.add_right_cancel_iff (n := 1), ← hlength, List.length_eq_three]

theorem mem_spansOutside {cls : Char → Bool} {start i j : Nat} {segment : List Char} :
    (i, j) ∈ spansOutside cls start segment ↔
      j = i + 1 ∧ ∃ n c, i = start + n ∧ segment[n]? = some c ∧ cls c = false := by
  simp only [spansOutside, List.mem_filterMap, Prod.exists, List.mem_zipIdx_iff_le_and_getElem?_sub]
  constructor
  · rintro ⟨c, k, ⟨hle, hc⟩, hspan⟩
    by_cases hcls : cls c = true
    · simp [hcls] at hspan
    · obtain ⟨rfl, rfl⟩ : k = i ∧ k + 1 = j := by simpa [hcls] using hspan
      exact ⟨rfl, k - start, c, by omega, hc, by simpa using hcls⟩
  · rintro ⟨rfl, n, c, rfl, hc, hcls⟩
    exact ⟨c, start + n, ⟨by omega, by simpa using hc⟩, by simp [hcls]⟩

/-- The character at a place breaks the convention: it is a separator where there are not two of
them, or it is not of the class of its segment. -/
def AtFault (name : String) (i : Nat) (c : Char) : Prop :=
  if name.toList.count idSep = 2 then
    ∃ k, InSegment idSep name.toList k i c ∧
      (if k < 2 then c.isAlpha = false else isSampleChar c = false)
  else name.toList[i]? = some c ∧ c = idSep

theorem atFault_three {user institute sample : List Char} {name : String} {i : Nat} {c : Char}
    (h : segments name = [user, institute, sample]) : AtFault name i c ↔
      (user[i]? = some c ∧ c.isAlpha = false) ∨
      (∃ n, i = user.length + 1 + n ∧ institute[n]? = some c ∧ c.isAlpha = false) ∨
      ∃ n, i = user.length + 1 + institute.length + 1 + n ∧ sample[n]? = some c ∧
        isSampleChar c = false := by
  have hcount : name.toList.count idSep = 2 := segments_three_iff.mp ⟨_, _, _, h⟩
  obtain ⟨hname, huser, hinstitute, hsample⟩ := segments_eq_three.mp h
  rw [AtFault, if_pos hcount, hname, prefixOf]
  simp only [inSegment_cut huser, inSegment_cut hinstitute, inSegment_first hsample]
  constructor
  · rintro ⟨k, ⟨rfl, hc⟩ | ⟨_, i, rfl, rfl, ⟨rfl, hc⟩ | ⟨_, n, rfl, rfl, rfl, hc⟩⟩, hcls⟩
    · exact .inl ⟨hc, hcls⟩
    · exact .inr (.inl ⟨i, rfl, hc, hcls⟩)
    · exact .inr (.inr ⟨n, by omega, hc, hcls⟩)
  · rintro (⟨hc, hcls⟩ | ⟨n, rfl, hc, hcls⟩ | ⟨n, rfl, hc, hcls⟩)
    · exact ⟨0, .inl ⟨rfl, hc⟩, hcls⟩
    · exact ⟨1, .inr ⟨0, n, rfl, rfl, .inl ⟨rfl, hc⟩⟩, hcls⟩
    · exact ⟨2, .inr ⟨1, institute.length + 1 + n, rfl, by omega,
        .inr ⟨0, n, rfl, rfl, rfl, hc⟩⟩, hcls⟩

theorem spansOutside_skipped {cls : Char → Bool} {start i j : Nat} {segment : List Char}
    {bad : Bool} (hbad : bad = false → ∀ c ∈ segment, cls c = true) :
    (i, j) ∈ (if bad then spansOutside cls start segment else []) ↔
      j = i + 1 ∧ ∃ n c, i = start + n ∧ segment[n]? = some c ∧ cls c = false := by
  cases bad with
  | true => simpa using mem_spansOutside
  | false =>
    simp only [Bool.false_eq_true, if_false, List.not_mem_nil, false_iff]
    rintro ⟨-, n, c, -, hc, hcls⟩
    rw [hbad rfl c (List.mem_of_getElem? hc)] at hcls
    cases hcls

theorem explainFilenameViolation_three {name : String} {user institute sample : List Char}
    (hinvalid : filenamePattern.isMatch name = false)
    (h : segments name = [user, institute, sample]) :
    (explainFilenameViolation name).valid = false ∧
    (explainFilenameViolation name).sanitized = none ∧
    (explainFilenameViolation name).reasons ≠ [] ∧
    ∀ i j, (i, j) ∈ (explainFilenameViolation name).highlightSpans ↔
      j = i + 1 ∧ ∃ c, AtFault name i c := by
  obtain ⟨hname, -⟩ := segments_eq_three.mp h
  simp only [explainFilenameViolation, hinvalid, Bool.false_eq_true, if_false, h]
  refine ⟨trivial, trivial, fun hnone => ?_, fun i j => ?_⟩
  · simp only [List.append_eq_nil_iff, ite_eq_right_iff, List.cons_ne_nil, imp_false,
      Bool.not_eq_true, Bool.not_eq_false', Nat.not_lt] at hnone
    obtain ⟨⟨⟨huser, hinstitute⟩, hshort⟩, hsample⟩ := hnone
    have hconventional : Conventional user institute sample := ⟨isFullmatch_letters.mp huser,
      isFullmatch_letters.mp hinstitute, isFullmatch_sample.mp hsample, hshort⟩
    rw [isMatch_filenamePattern.mpr ⟨_, _, _, hconventional, .inl hname⟩] at hinvalid
    cases hinvalid
  · rw [List.mem_append, List.mem_append, spansOutside_skipped, spansOutside_skipped,
      spansOutside_skipped]
    · simp only [atFault_three h]
      grind
    · intro hgood c hc
      exact (isFullmatch_sample.mp (by simpa using hgood)).2 c hc
    · intro hgood c hc
      exact (isFullmatch_letters.mp (by simpa using hgood)).2 c hc
    · intro hgood c hc
      exact (isFullmatch_letters.mp (by simpa using hgood)).2 c hc

theorem explainFilenameViolation_parts {name : String}
    (hinvalid : filenamePattern.isMatch name = false) (h : name.toList.count idSep ≠ 2) :
    (explainFilenameViolation name).valid = false ∧
    (explainFilenameViolation name).sanitized = none ∧
    (explainFilenameViolation name).reasons ≠ [] ∧
    ∀ i j, (i, j) ∈ (explainFilenameViolation name).highlightSpans ↔
      j = i + 1 ∧ ∃ c, AtFault name i c := by
  simp only [explainFilenameViolation, hinvalid, Bool.false_eq_true, if_false]
  split
  · next hsegments => exact absurd (segments_three_iff.mp ⟨_, _, _, hsegments⟩) h
  · refine ⟨rfl, rfl, List.cons_ne_nil _ _, fun i j => ?_⟩
    simp only [AtFault, if_neg h, List.mem_filterMap, Prod.exists, List.mem_zipIdx_iff_getElem?]
    constructor
    · rintro ⟨c, k, hc, hspan⟩
      by_cases hsep : c = idSep
      · obtain ⟨rfl, rfl⟩ : k = i ∧ k + 1 = j := by simpa [hsep] using hspan
        exact ⟨rfl, c, hc, hsep⟩
      · simp [hsep] at hspan
    · rintro ⟨rfl, c, hc, rfl⟩
      exact ⟨idSep, i, hc, by simp⟩

theorem explainFilenameViolation_refused {name : String}
    (hinvalid : filenamePattern.isMatch name = false) :
    (explainFilenameViolation name).valid = false ∧
    (explainFilenameViolation name).sanitized = none ∧
    (explainFilenameViolation name).reasons ≠ [] ∧
    ∀ i j, (i, j) ∈ (explainFilenameViolation name).highlightSpans ↔
      j = i + 1 ∧ ∃ c, AtFault name i c := by
  by_cases hcount : name.toList.count idSep = 2
  · obtain ⟨user, institute, sample, h⟩ := segments_three_iff.mpr hcount
    exact explainFilenameViolation_three hinvalid h
  · exact explainFilenameViolation_parts hinvalid hcount

/-- The names that the pattern does not match are refused, with a reason, and the characters
that are marked in them are those at fault. -/
theorem explanation_complete (name : String) :
    (explainFilenameViolation name).valid = filenamePattern.isMatch name ∧
    ((explainFilenameViolation name).reasons = [] ↔ filenamePattern.isMatch name = true) ∧
    ∀ i j, (i, j) ∈ (explainFilenameViolation name).highlightSpans ↔
      filenamePattern.isMatch name = false ∧ j = i + 1 ∧ ∃ c, AtFault name i c := by
  cases hmatch : filenamePattern.isMatch name with
  | true => simp [explainFilenameViolation, hmatch]
  | false =>
    obtain ⟨hvalid, -, hreasons, hspans⟩ := explainFilenameViolation_refused hmatch
    simp [hvalid, hreasons, hspans]

end DpostV2.Watchdog
