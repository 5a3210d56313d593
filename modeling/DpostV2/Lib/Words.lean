import DpostV2.Lib.Lower

/-!
# Words and case

`str.split()` and `str.casefold()`. Folding goes character by character, so that it commutes with
everything that looks at blanks only; the join of the words of a text has the same words.
-/

namespace DpostV2

/-- `str.casefold` of one character. -/
class Casefold where
  foldChar : Char → List Char
  foldChar_ne_nil : ∀ c, foldChar c ≠ []
  foldChar_fold : ∀ c, ∀ d ∈ foldChar c, foldChar d = [d]
  foldChar_space : ∀ c, isSpace c = true → foldChar c = [c]
  foldChar_text : ∀ c, isSpace c = false → ∀ d ∈ foldChar c, isSpace d = false

theorem toLower_of_isSpace {c : Char} (hc : isSpace c = true) : c.toLower = c := by
  have hlower : c.toLower.toNat = c.toNat := by
    rw [toLower_toNat, if_neg]
    simp only [isSpace] at hc
    grind
  exact Char.toNat_inj.mp hlower

/-- The ASCII letters. -/
@[reducible] def Casefold.ascii : Casefold where
  foldChar c := [c.toLower]
  foldChar_ne_nil _ := List.cons_ne_nil _ _
  foldChar_fold c d hd := by rw [List.mem_singleton.mp hd, toLower_toLower]
  foldChar_space c hc := by rw [toLower_of_isSpace hc]
  foldChar_text c hc d hd := by rw [List.mem_singleton.mp hd, isSpace_toLower, hc]

section
variable [Casefold]

def foldChars (cs : List Char) : List Char := cs.flatMap Casefold.foldChar

/-- `str.casefold()`. -/
def casefold (s : String) : String := String.ofList (foldChars s.toList)

@[simp] theorem foldChars_nil : foldChars [] = [] := rfl

@[simp] theorem foldChars_cons (c : Char) (cs : List Char) :
    foldChars (c :: cs) = Casefold.foldChar c ++ foldChars cs := rfl

@[simp] theorem foldChars_append (cs ds : List Char) :
    foldChars (cs ++ ds) = foldChars cs ++ foldChars ds := List.flatMap_append

@[simp] theorem foldChars_eq_nil {cs : List Char} : foldChars cs = [] ↔ cs = [] := by
  cases cs with
  | nil => simp
  | cons c cs => simp [Casefold.foldChar_ne_nil]

theorem foldChars_folded {cs : List Char} (h : ∀ c ∈ cs, Casefold.foldChar c = [c]) :
    foldChars cs = cs := by
  induction cs with
  | nil => rfl
  | cons c cs ih =>
    rw [foldChars_cons, h c List.mem_cons_self, ih fun d hd => h d (List.mem_cons_of_mem _ hd)]
    rfl

@[simp] theorem foldChars_foldChars (cs : List Char) : foldChars (foldChars cs) = foldChars cs := by
  refine foldChars_folded fun d hd => ?_
  obtain ⟨c, -, hd⟩ := List.mem_flatMap.mp hd
  exact Casefold.foldChar_fold c d hd

theorem dropWhile_foldChars (cs : List Char) :
    (foldChars cs).dropWhile isSpace = foldChars (cs.dropWhile isSpace) := by
  induction cs with
  | nil => rfl
  | cons c cs ih =>
    cases hc : isSpace c with
    | true => simp [Casefold.foldChar_space c hc, hc, ih]
    | false =>
      obtain ⟨d, ds, hd⟩ := List.exists_cons_of_ne_nil (Casefold.foldChar_ne_nil c)
      have hfirst := Casefold.foldChar_text c hc d (by simp [hd])
      simp [hd, hc, hfirst]

theorem rdropWhile_foldChars (cs : List Char) :
    (foldChars cs).rdropWhile isSpace = foldChars (cs.rdropWhile isSpace) := by
  induction cs using List.reverseRecOn with
  | nil => rfl
  | append_singleton cs c ih =>
    cases hc : isSpace c with
    | true => simp [Casefold.foldChar_space c hc, hc, ih]
    | false =>
      obtain ⟨ds, d, hd⟩ := List.eq_nil_or_concat (Casefold.foldChar c) |>.resolve_left
        (Casefold.foldChar_ne_nil c)
      have hlast := Casefold.foldChar_text c hc d (by simp [hd])
      rw [List.rdropWhile_concat_neg _ _ _ (by simp [hc]), foldChars_append, foldChars_cons,
        foldChars_nil, List.append_nil, hd, List.concat_eq_append, ← List.append_assoc,
        List.rdropWhile_concat_neg _ _ _ (by simp [hlast])]

/-- Blanks are stripped before or after the case is folded. -/
theorem strip_casefold (s : String) : strip (casefold s) = casefold (strip s) := by
  simp only [strip, casefold, String.toList_ofList, dropWhile_foldChars, rdropWhile_foldChars]

@[simp] theorem casefold_casefold (s : String) : casefold (casefold s) = casefold s := by
  simp [casefold]

@[simp] theorem casefold_eq_empty {s : String} : casefold s = "" ↔ s = "" := by
  rw [casefold, ← String.toList_inj, String.toList_ofList, String.toList_empty, foldChars_eq_nil,
    String.toList_eq_nil_iff]

end

-- ---------------------------------------------------------------------------
-- Words
-- ---------------------------------------------------------------------------

/-- The words of a text that goes on with a word. -/
def wordsFrom (word : List Char) : List Char → List (List Char)
  | [] => if word = [] then [] else [word]
  | c :: cs =>
    if isSpace c then if word = [] then wordsFrom [] cs else word :: wordsFrom [] cs
    else wordsFrom (word ++ [c]) cs

/-- `str.split()`. -/
def splitWords (s : String) : List String := (wordsFrom [] s.toList).map String.ofList

/-- `" ".join(words)`. -/
def joinWords (words : List (List Char)) : List Char := [' '].intercalate words

def IsWord (word : List Char) : Prop := word ≠ [] ∧ ∀ c ∈ word, isSpace c = false

theorem wordsFrom_words {word : List Char} (hword : ∀ c ∈ word, isSpace c = false)
    (cs : List Char) : ∀ w ∈ wordsFrom word cs, IsWord w := by
  induction cs generalizing word with
  | nil =>
    intro w hw
    unfold wordsFrom at hw
    split_ifs at hw with hnil
    · exact absurd hw List.not_mem_nil
    · exact List.mem_singleton.mp hw ▸ ⟨hnil, hword⟩
  | cons c cs ih =>
    intro w hw
    have hempty : ∀ d ∈ ([] : List Char), isSpace d = false :=
      fun _ hd => absurd hd List.not_mem_nil
    unfold wordsFrom at hw
    split_ifs at hw with hspace hnil
    · exact ih hempty w hw
    · rcases List.mem_cons.mp hw with rfl | hw
      · exact ⟨hnil, hword⟩
      · exact ih hempty w hw
    · refine ih (fun d hd => ?_) w hw
      rcases List.mem_append.mp hd with hd | hd
      · exact hword d hd
      · simpa [List.mem_singleton.mp hd] using hspace

/-- A word is read to its end. -/
theorem wordsFrom_append {more : List Char} (hmore : ∀ c ∈ more, isSpace c = false)
    (word cs : List Char) : wordsFrom word (more ++ cs) = wordsFrom (word ++ more) cs := by
  induction more generalizing word with
  | nil => simp
  | cons c more ih =>
    have hc := hmore c List.mem_cons_self
    rw [List.cons_append, wordsFrom, if_neg (by simp [hc]),
      ih fun d hd => hmore d (List.mem_cons_of_mem _ hd)]
    simp

theorem wordsFrom_joinWords {words : List (List Char)} (h : ∀ w ∈ words, IsWord w) :
    wordsFrom [] (joinWords words) = words := by
  induction words with
  | nil => rfl
  | cons w rest ih =>
    obtain ⟨hne, hspaces⟩ := h w List.mem_cons_self
    have hrest := fun v hv => h v (List.mem_cons_of_mem _ hv)
    cases rest with
    | nil =>
      have hjoin : joinWords [w] = w ++ [] := by simp [joinWords]
      rw [hjoin, wordsFrom_append hspaces]
      simp [wordsFrom, hne]
    | cons v rest =>
      have hjoin : joinWords (w :: v :: rest) = w ++ ' ' :: joinWords (v :: rest) := by
        simp [joinWords, List.intercalate_cons_cons]
      have hblank : isSpace ' ' = true := by decide
      rw [hjoin, wordsFrom_append hspaces, List.nil_append, wordsFrom, if_pos hblank, if_neg hne,
        ih hrest]

theorem wordsFrom_fold [Casefold] (word cs : List Char) :
    wordsFrom (foldChars word) (foldChars cs) = (wordsFrom word cs).map foldChars := by
  induction cs generalizing word with
  | nil => by_cases h : word = [] <;> simp [wordsFrom, h]
  | cons c cs ih =>
    cases hc : isSpace c with
    | true =>
      have hstart := ih []
      rw [foldChars_nil] at hstart
      by_cases h : word = [] <;> simp [wordsFrom, Casefold.foldChar_space c hc, hc, h, hstart]
    | false =>
      have hnext := ih (word ++ [c])
      rw [foldChars_append, foldChars_cons, foldChars_nil, List.append_nil] at hnext
      rw [foldChars_cons, wordsFrom_append (Casefold.foldChar_text c hc), hnext]
      simp [wordsFrom, hc]

/-- `" ".join(s.split())`. -/
def collapse (s : String) : String := String.ofList (joinWords (wordsFrom [] s.toList))

theorem isWord_wordsFrom (cs : List Char) : ∀ w ∈ wordsFrom [] cs, IsWord w :=
  wordsFrom_words (fun _ hc => absurd hc List.not_mem_nil) cs

@[simp] theorem collapse_collapse (s : String) : collapse (collapse s) = collapse s := by
  simp only [collapse, String.toList_ofList, wordsFrom_joinWords (isWord_wordsFrom _)]

theorem foldChars_joinWords [Casefold] (words : List (List Char)) :
    foldChars (joinWords words) = joinWords (words.map foldChars) := by
  induction words with
  | nil => rfl
  | cons w rest ih =>
    cases rest with
    | nil => simp [joinWords]
    | cons v rest =>
      have hblank : Casefold.foldChar ' ' = [' '] := Casefold.foldChar_space ' ' (by decide)
      simp only [joinWords, List.intercalate_cons_cons, List.map_cons, foldChars_append,
        foldChars_cons, foldChars_nil, hblank, List.append_nil] at ih ⊢
      rw [ih]

theorem collapse_casefold [Casefold] (s : String) :
    collapse (casefold s) = casefold (collapse s) := by
  have hwords := wordsFrom_fold [] s.toList
  rw [foldChars_nil] at hwords
  simp only [collapse, casefold, String.toList_ofList, hwords, foldChars_joinWords]

theorem joinWords_concat (words : List (List Char)) (w : List Char) :
    ∃ before, joinWords (words ++ [w]) = before ++ w := by
  induction words with
  | nil => exact ⟨[], by simp [joinWords]⟩
  | cons v rest ih =>
    obtain ⟨before, h⟩ := ih
    obtain ⟨u, us, hus⟩ := List.exists_cons_of_ne_nil (List.concat_ne_nil w rest)
    refine ⟨v ++ ' ' :: before, ?_⟩
    rw [List.cons_append, hus]
    rw [hus] at h
    simp only [joinWords, List.intercalate_cons_cons] at h ⊢
    rw [h]
    simp

/-- There is no blank around the join of words. -/
theorem strip_joinWords {words : List (List Char)} (h : ∀ w ∈ words, IsWord w) :
    strip (String.ofList (joinWords words)) = String.ofList (joinWords words) := by
  have hfront : (joinWords words).dropWhile isSpace = joinWords words := by
    cases words with
    | nil => rfl
    | cons w rest =>
      obtain ⟨hne, hspaces⟩ := h w List.mem_cons_self
      obtain ⟨c, cs, rfl⟩ := List.exists_cons_of_ne_nil hne
      have hc := hspaces c List.mem_cons_self
      cases rest <;> simp [joinWords, List.intercalate_cons_cons, hc]
  have hback : (joinWords words).rdropWhile isSpace = joinWords words := by
    rcases List.eq_nil_or_concat words with rfl | ⟨rest, w, rfl⟩
    · rfl
    · obtain ⟨hne, hspaces⟩ := h w (by simp)
      obtain ⟨before, hbefore⟩ := joinWords_concat rest w
      obtain ⟨cs, c, rfl⟩ := (List.eq_nil_or_concat w).resolve_left hne
      have hc := hspaces c (by simp)
      rw [List.concat_eq_append, hbefore, List.concat_eq_append, ← List.append_assoc,
        List.rdropWhile_concat_neg _ _ _ (by simp [hc])]
  simp only [strip, String.toList_ofList, hfront, hback]

@[simp] theorem strip_collapse (s : String) : strip (collapse s) = collapse s :=
  strip_joinWords (isWord_wordsFrom _)

-- ---------------------------------------------------------------------------
-- Blanks at the ends
-- ---------------------------------------------------------------------------

/-- No blank is at an end. -/
def Trimmed (cs : List Char) : Prop :=
  (∀ c, cs.head? = some c → isSpace c = false) ∧ ∀ c, cs.getLast? = some c → isSpace c = false

theorem dropWhile_eq_self {cs : List Char} : cs.dropWhile isSpace = cs ↔
    ∀ c, cs.head? = some c → isSpace c = false := by
  cases cs with
  | nil => simp
  | cons c cs =>
    rw [List.dropWhile_eq_self_iff]
    simp

theorem rdropWhile_eq_self {cs : List Char} : cs.rdropWhile isSpace = cs ↔
    ∀ c, cs.getLast? = some c → isSpace c = false := by
  rw [List.rdropWhile_eq_self_iff]
  constructor
  · intro h c hc
    have hne : cs ≠ [] := by
      rintro rfl
      cases hc
    rw [List.getLast?_eq_some_getLast hne] at hc
    obtain rfl := Option.some.inj hc
    simpa using h hne
  · intro h hne
    simpa using h _ (List.getLast?_eq_some_getLast hne)

/-- Stripping leaves a text as it is if and only if there is no blank at its ends. -/
theorem strip_eq_self {s : String} : strip s = s ↔ Trimmed s.toList := by
  rw [Trimmed, ← dropWhile_eq_self, ← rdropWhile_eq_self]
  constructor
  · intro h
    have hlist : (s.toList.dropWhile isSpace).rdropWhile isSpace = s.toList := by
      rw [← String.toList_inj, strip, String.toList_ofList] at h
      exact h
    have hback := (List.rdropWhile_prefix isSpace (l := s.toList.dropWhile isSpace)).length_le
    rw [hlist] at hback
    have hfront := (List.dropWhile_suffix isSpace (l := s.toList)).eq_of_length_le hback
    rw [hfront] at hlist
    exact ⟨hfront, hlist⟩
  · rintro ⟨hfront, hback⟩
    rw [strip, hfront, hback, String.ofList_toList]

/-- What is stripped from the back stands behind the last character that is no blank. -/
theorem rdropWhile_cut {c : Char} (hc : isSpace c = false) (front back : List Char) :
    (front ++ c :: back).rdropWhile isSpace = front ++ c :: back.rdropWhile isSpace := by
  induction back using List.reverseRecOn with
  | nil => simp [hc]
  | append_singleton back d ih =>
    by_cases hd : isSpace d = true
    · rw [← List.cons_append, ← List.append_assoc, List.rdropWhile_concat_pos _ _ _ hd, ih,
        List.rdropWhile_concat_pos _ _ _ hd]
    · rw [← List.cons_append, ← List.append_assoc, List.rdropWhile_concat_neg _ _ _ hd,
        List.rdropWhile_concat_neg _ _ _ hd]
      simp

/-- What is stripped of a text that was stripped from the back. -/
theorem strip_rdropWhile (text : List Char) :
    strip (String.ofList (text.rdropWhile isSpace)) = strip (String.ofList text) := by
  simp only [strip, String.toList_ofList]
  congr 1
  have hblank : ∀ c ∈ text.rtakeWhile isSpace, isSpace c = true := fun c =>
    List.mem_rtakeWhile_imp
  have hback (front : List Char) :
      (front ++ text.rtakeWhile isSpace).rdropWhile isSpace = front.rdropWhile isSpace := by
    simp only [List.rdropWhile, List.reverse_append]
    rw [List.dropWhile_append_of_pos (by simpa using hblank)]
  conv_rhs => rw [← List.rdropWhile_append_rtakeWhile (p := isSpace) (l := text),
    List.dropWhile_append]
  split
  · next hempty =>
    rw [List.isEmpty_iff] at hempty
    have hnone : (text.rtakeWhile isSpace).dropWhile isSpace = [] :=
      List.dropWhile_eq_nil_iff.mpr hblank
    rw [hempty, hnone]
  · rw [hback]

theorem strip_ne_empty {s : String} {c : Char} (hc : c ∈ s.toList) (htext : isSpace c = false) :
    strip s ≠ "" := by
  intro hempty
  have hblank := strip_eq_empty.mp hempty c hc
  rw [htext] at hblank
  cases hblank

theorem length_strip (s : String) : (strip s).toList.length ≤ s.toList.length := by
  rw [strip, String.toList_ofList]
  exact (List.rdropWhile_prefix _ _).length_le.trans (List.dropWhile_suffix _).length_le

/-- Folding leaves the characters as they are. -/
def Folded [Casefold] (cs : List Char) : Prop := ∀ c ∈ cs, Casefold.foldChar c = [c]

theorem casefold_eq_self [Casefold] {s : String} : casefold s = s ↔ Folded s.toList := by
  rw [← String.toList_inj, casefold, String.toList_ofList]
  constructor
  · intro h c hc
    rw [← h] at hc
    obtain ⟨d, -, hc⟩ := List.mem_flatMap.mp hc
    exact Casefold.foldChar_fold d c hc
  · exact foldChars_folded

end DpostV2
