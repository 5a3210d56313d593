import Mathlib.Data.List.Basic
import Mathlib.Data.List.Forall2

/-!
# Splitting at separators

`re.split` over an alternation of literal separators: from left to right, and at each place the
first separator of the list that begins there. `split_iff` says what it finds, `separated_join_iff`
when it finds the texts that were joined.
-/

namespace DpostV2.Split

section
variable {α : Type} [DecidableEq α]

/-- The first separator that a text begins with. -/
def firstAt (seps : List (List α)) (l : List α) : Option (List α) := seps.find? (·.isPrefixOf l)

/-- One more in front of the first piece. -/
def extend (c : α) : List (List α) → List (List α)
  | [] => [[c]]
  | piece :: pieces => (c :: piece) :: pieces

/-- The pieces of a text, with what is still to be skipped of a separator. -/
def splitFrom (seps : List (List α)) : Nat → List α → List (List α)
  | _, [] => [[]]
  | skip + 1, _ :: rest => splitFrom seps skip rest
  | 0, c :: rest =>
    match firstAt seps (c :: rest) with
    | some sep => [] :: splitFrom seps (sep.length - 1) rest
    | none => extend c (splitFrom seps 0 rest)

/-- `re.split("|".join(map(re.escape, seps)), l)`. -/
def split (seps : List (List α)) (l : List α) : List (List α) := splitFrom seps 0 l

/-- No separator begins in the piece, with a text behind it. -/
def Unbroken (seps : List (List α)) : List α → List α → Prop
  | [], _ => True
  | c :: piece, behind => firstAt seps (c :: (piece ++ behind)) = none ∧ Unbroken seps piece behind

instance decidableUnbroken (seps : List (List α)) :
    (piece behind : List α) → Decidable (Unbroken seps piece behind)
  | [], _ => isTrue trivial
  | _ :: piece, behind =>
    haveI := decidableUnbroken seps piece behind
    inferInstanceAs (Decidable (_ ∧ _))

/-- The pieces of a text: between them stand separators, each the first that begins there, and in
them none begins. -/
inductive Separated (seps : List (List α)) : List α → List (List α) → Prop
  | last {piece : List α} (h : Unbroken seps piece []) : Separated seps piece [piece]
  | next {piece sep rest : List α} {pieces : List (List α)} (h : Unbroken seps piece (sep ++ rest))
      (hsep : firstAt seps (sep ++ rest) = some sep) (hrest : Separated seps rest pieces) :
      Separated seps (piece ++ (sep ++ rest)) (piece :: pieces)

-- ---------------------------------------------------------------------------
-- What a split finds
-- ---------------------------------------------------------------------------

variable {seps : List (List α)} {l rest behind : List α} {pieces : List (List α)}

theorem firstAt_some {sep : List α} (h : firstAt seps l = some sep) : sep ∈ seps ∧ sep <+: l := by
  have hbegins : sep.isPrefixOf l = true :=
    List.find?_some (p := fun s : List α => s.isPrefixOf l) h
  exact ⟨List.mem_of_find?_eq_some h, List.isPrefixOf_iff_prefix.mp hbegins⟩

theorem splitFrom_skip (seps : List (List α)) (skip : Nat) (l : List α) :
    splitFrom seps skip l = split seps (l.drop skip) := by
  induction l generalizing skip with
  | nil => cases skip <;> rfl
  | cons c l ih =>
    cases skip with
    | zero => rfl
    | succ skip => exact ih skip

theorem split_none {c : α} (h : firstAt seps (c :: l) = none) :
    split seps (c :: l) = extend c (split seps l) := by
  simp only [split, splitFrom, h]

theorem split_some {sep : List α} (hsep : sep ≠ []) (h : firstAt seps (sep ++ rest) = some sep) :
    split seps (sep ++ rest) = [] :: split seps rest := by
  obtain ⟨c, cs, rfl⟩ := List.exists_cons_of_ne_nil hsep
  rw [List.cons_append] at h ⊢
  simp only [split, splitFrom, h]
  rw [splitFrom_skip, List.length_cons, Nat.add_sub_cancel, List.drop_left, split]

theorem split_piece {piece : List α} (h : Unbroken seps piece behind) :
    split seps (piece ++ behind) = piece.foldr extend (split seps behind) := by
  induction piece with
  | nil => rfl
  | cons c piece ih => rw [List.cons_append, split_none h.1, ih h.2, List.foldr_cons]

omit [DecidableEq α] in
theorem foldr_extend (piece first : List α) (pieces : List (List α)) :
    piece.foldr extend (first :: pieces) = (piece ++ first) :: pieces := by
  induction piece with
  | nil => rfl
  | cons c piece ih => rw [List.foldr_cons, ih, extend, List.cons_append]

theorem split_separated (hseps : [] ∉ seps) (h : Separated seps l pieces) :
    split seps l = pieces := by
  induction h with
  | @last piece hpiece =>
    have hsplit := split_piece hpiece
    rw [List.append_nil] at hsplit
    rw [hsplit, split, splitFrom, foldr_extend, List.append_nil]
  | @next piece sep rest pieces hpiece hsep _ ih =>
    have hne : sep ≠ [] := ne_of_mem_of_not_mem (firstAt_some hsep).1 hseps
    rw [split_piece hpiece, split_some hne hsep, ih, foldr_extend, List.append_nil]

theorem Separated.cons {c : α} {piece : List α} (hc : firstAt seps (c :: l) = none)
    (h : Separated seps l (piece :: pieces)) :
      Separated seps (c :: l) ((c :: piece) :: pieces) := by
  cases h with
  | last h =>
    have hcons : Unbroken seps (c :: l) [] := ⟨by rwa [List.append_nil], h⟩
    exact .last hcons
  | @next _ sep rest _ h hsep hrest =>
    have hcons : Unbroken seps (c :: piece) (sep ++ rest) := ⟨hc, h⟩
    exact .next hcons hsep hrest

theorem Separated.ne_nil (h : Separated seps l pieces) : pieces ≠ [] := by
  cases h <;> exact List.cons_ne_nil _ _

theorem exists_separated (hseps : [] ∉ seps) (l : List α) : ∃ pieces, Separated seps l pieces := by
  induction hn : l.length using Nat.strongRecOn generalizing l with
  | ind n ih =>
    cases l with
    | nil => exact ⟨[[]], .last trivial⟩
    | cons c l =>
      cases hc : firstAt seps (c :: l) with
      | none =>
        obtain ⟨pieces, h⟩ := ih l.length (by simp [← hn]) l rfl
        obtain ⟨piece, pieces, rfl⟩ := List.exists_cons_of_ne_nil h.ne_nil
        exact ⟨_, .cons hc h⟩
      | some sep =>
        obtain ⟨hmem, rest, hrest⟩ := firstAt_some hc
        have hne : sep ≠ [] := ne_of_mem_of_not_mem hmem hseps
        have hshort : rest.length < n := by
          rw [← hn, ← hrest, List.length_append]
          have hpos := List.length_pos_iff.mpr hne
          omega
        obtain ⟨pieces, h⟩ := ih rest.length hshort rest rfl
        rw [← hrest] at hc ⊢
        have hpiece : Unbroken seps [] (sep ++ rest) := trivial
        exact ⟨[] :: pieces, .next hpiece hc h⟩

/-- A split finds the pieces of a text, which it has in one way only. -/
theorem split_iff (hseps : [] ∉ seps) : split seps l = pieces ↔ Separated seps l pieces := by
  constructor
  · rintro rfl
    obtain ⟨pieces, h⟩ := exists_separated hseps l
    rwa [split_separated hseps h]
  · exact split_separated hseps

-- ---------------------------------------------------------------------------
-- Joined texts
-- ---------------------------------------------------------------------------

/-- No separator begins in one of the texts, joined by `primary`. -/
def UnbrokenJoin (seps : List (List α)) (primary : List α) : List (List α) → Prop
  | [] => True
  | [text] => Unbroken seps text []
  | text :: next :: texts =>
    Unbroken seps text (primary ++ primary.intercalate (next :: texts)) ∧
      UnbrokenJoin seps primary (next :: texts)

instance decidableUnbrokenJoin (seps : List (List α)) (primary : List α) :
    (texts : List (List α)) → Decidable (UnbrokenJoin seps primary texts)
  | [] => isTrue trivial
  | [_] => decidableUnbroken _ _ _
  | _ :: next :: texts =>
    haveI := decidableUnbrokenJoin seps primary (next :: texts)
    inferInstanceAs (Decidable (_ ∧ _))

variable {primary : List α} {more : List (List α)}

omit [DecidableEq α] in
theorem intercalate_next (primary text next : List α) (texts : List (List α)) :
    primary.intercalate (text :: next :: texts) =
      text ++ (primary ++ primary.intercalate (next :: texts)) := by
  rw [List.intercalate_cons_cons, List.append_assoc]

theorem firstAt_primary (primary rest : List α) (more : List (List α)) :
    firstAt (primary :: more) (primary ++ rest) = some primary := by
  have hbegins : primary.isPrefixOf (primary ++ rest) = true :=
    List.isPrefixOf_iff_prefix.mpr (List.prefix_append _ _)
  exact List.find?_cons_of_pos hbegins

theorem Unbroken.suffix {before piece : List α} (h : Unbroken seps (before ++ piece) behind) :
    Unbroken seps piece behind := by
  induction before with
  | nil => exact h
  | cons c before ih => exact ih h.2

theorem Unbroken.none {piece : List α} (h : Unbroken seps piece behind) (hne : piece ≠ []) :
    firstAt seps (piece ++ behind) = none := by
  obtain ⟨c, cs, rfl⟩ := List.exists_cons_of_ne_nil hne
  exact h.1

/-- A first piece that is no shorter than what stands before the primary separator is just that. -/
theorem Separated.first {text piece rest : List α} {pieces : List (List α)}
    (hprimary : primary ≠ []) (hlength : text.length ≤ piece.length)
    (h : Separated (primary :: more) (text ++ (primary ++ rest)) (piece :: pieces)) :
    piece = text ∧ Unbroken (primary :: more) text (primary ++ rest) ∧
      Separated (primary :: more) rest pieces := by
  -- a longer piece would have the separator in it
  have hexact {behind : List α} (hpiece : Unbroken (primary :: more) piece behind)
      (hsplit : piece ++ behind = text ++ (primary ++ rest)) : piece = text ∧
        behind = primary ++ rest := by
    obtain ⟨extra, rfl⟩ : text <+: piece := by
      refine List.prefix_of_prefix_length_le (List.prefix_append text (primary ++ rest)) ?_ hlength
      exact hsplit ▸ List.prefix_append _ _
    rw [List.append_assoc] at hsplit
    have hrest := List.append_cancel_left hsplit
    by_cases hextra : extra = []
    · subst hextra
      exact ⟨List.append_nil _, hrest⟩
    · have hnone := hpiece.suffix.none hextra
      rw [hrest, firstAt_primary] at hnone
      cases hnone
  generalize hl : text ++ (primary ++ rest) = l at h
  cases h with
  | last hpiece =>
    obtain ⟨-, hnil⟩ := hexact hpiece (by rw [List.append_nil, hl])
    exact absurd (List.append_eq_nil_iff.mp hnil.symm).1 hprimary
  | next hpiece hsep hrest =>
    obtain ⟨rfl, hbehind⟩ := hexact hpiece hl.symm
    rw [hbehind, firstAt_primary] at hsep
    obtain rfl := Option.some.inj hsep
    obtain rfl := List.append_cancel_left hbehind
    exact ⟨rfl, hpiece, hrest⟩

/-- The pieces of joined texts that are no shorter than the texts are the texts, and that is so
where no separator begins in a text. -/
theorem separated_join_iff {texts pieces : List (List α)} (hprimary : primary ≠ [])
    (htexts : texts ≠ [])
    (hlength : List.Forall₂ (fun text piece => text.length ≤ piece.length) texts pieces) :
    Separated (primary :: more) (primary.intercalate texts) pieces ↔
      pieces = texts ∧ UnbrokenJoin (primary :: more) primary texts := by
  induction hlength with
  | nil => exact absurd rfl htexts
  | @cons text piece texts pieces hlong hrest ih =>
    cases hrest with
    | nil =>
      have hsingle : primary.intercalate [text] = text := by simp
      rw [hsingle]
      constructor
      · intro h
        cases h with
        | last h => exact ⟨rfl, h⟩
        | next _ _ hrest => exact absurd rfl hrest.ne_nil
      · rintro ⟨heq, h⟩
        rw [heq]
        exact .last h
    | @cons next piece' texts pieces hnext hrest =>
      have ih := ih (List.cons_ne_nil _ _)
      rw [intercalate_next]
      constructor
      · intro h
        obtain ⟨rfl, hunbroken, hseparated⟩ := h.first hprimary hlong
        obtain ⟨heq, hjoin⟩ := ih.mp hseparated
        exact ⟨by rw [heq], hunbroken, hjoin⟩
      · rintro ⟨heq, hunbroken, hjoin⟩
        obtain ⟨rfl, hpieces⟩ := List.cons.inj heq
        exact .next hunbroken (firstAt_primary ..) (ih.mpr ⟨hpieces, hjoin⟩)

/-- A text begins with its first piece and ends with its last. -/
theorem Separated.ends (h : Separated seps l pieces) :
    (∃ first ∈ pieces.head?, first <+: l) ∧ ∃ last ∈ pieces.getLast?, last <:+ l := by
  induction h with
  | last => exact ⟨⟨_, rfl, List.prefix_rfl⟩, _, rfl, List.suffix_rfl⟩
  | @next piece sep rest pieces _ _ hrest ih =>
    obtain ⟨-, last, hlast, hsuffix⟩ := ih
    refine ⟨⟨piece, rfl, List.prefix_append _ _⟩, last, ?_, ?_⟩
    · obtain ⟨next, pieces, rfl⟩ := List.exists_cons_of_ne_nil hrest.ne_nil
      rwa [List.getLast?_cons_cons]
    · rw [← List.append_assoc]
      exact hsuffix.trans (List.suffix_append _ _)

theorem Separated.subset (h : Separated seps l pieces) : ∀ piece ∈ pieces, piece ⊆ l := by
  induction h with
  | last => simp
  | next _ _ _ ih =>
    refine List.forall_mem_cons.mpr ⟨List.subset_append_left _ _, fun piece hpiece => ?_⟩
    exact List.Subset.trans (ih piece hpiece)
      (List.Subset.trans (List.subset_append_right _ _) (List.subset_append_right _ _))

omit [DecidableEq α] in
theorem head?_intercalate {text : List α} (htext : text ≠ []) (texts : List (List α)) :
    (primary.intercalate (text :: texts)).head? = text.head? := by
  cases texts with
  | nil => simp
  | cons next texts =>
    obtain ⟨c, cs, rfl⟩ := List.exists_cons_of_ne_nil htext
    rw [intercalate_next]
    rfl

omit [DecidableEq α] in
theorem getLast?_intercalate {text : List α} (htext : text ≠ []) (texts : List (List α)) :
    (primary.intercalate (texts ++ [text])).getLast? = text.getLast? := by
  suffices h : ∃ before, primary.intercalate (texts ++ [text]) = before ++ text by
    obtain ⟨before, h⟩ := h
    rw [h, List.getLast?_append_of_ne_nil _ htext]
  induction texts with
  | nil => exact ⟨[], by simp⟩
  | cons first texts ih =>
    obtain ⟨before, h⟩ := ih
    obtain ⟨next, more, hmore⟩ := List.exists_cons_of_ne_nil (List.concat_ne_nil text texts)
    refine ⟨first ++ (primary ++ before), ?_⟩
    rw [List.cons_append, hmore, intercalate_next, ← hmore, h]
    simp

omit [DecidableEq α] in
theorem mem_intercalate {a : α} {texts : List (List α)} (h : a ∈ primary.intercalate texts) :
    a ∈ primary ∨ ∃ text ∈ texts, a ∈ text := by
  induction texts with
  | nil => cases h
  | cons text texts ih =>
    cases texts with
    | nil => exact .inr ⟨text, List.mem_singleton_self _, by simpa using h⟩
    | cons next texts =>
      rw [intercalate_next, List.mem_append, List.mem_append] at h
      rcases h with h | h | h
      · exact .inr ⟨text, List.mem_cons_self, h⟩
      · exact .inl h
      · rcases ih h with h | ⟨text', htext, h⟩
        · exact .inl h
        · exact .inr ⟨text', List.mem_cons_of_mem _ htext, h⟩

/-- Texts are read off their join. -/
theorem join_injective {texts texts' : List (List α)} (hprimary : primary ≠ [])
    (htexts : texts ≠ []) (htexts' : texts' ≠ [])
    (h : UnbrokenJoin [primary] primary texts) (h' : UnbrokenJoin [primary] primary texts')
    (heq : primary.intercalate texts = primary.intercalate texts') : texts = texts' := by
  have hsame (texts : List (List α)) :
      List.Forall₂ (fun text piece : List α => text.length ≤ piece.length) texts texts :=
    List.forall₂_same.mpr fun _ _ => Nat.le_refl _
  have hseps : [] ∉ [primary] := by simpa using hprimary.symm
  have hsplit := (split_iff hseps).mpr ((separated_join_iff hprimary htexts (hsame _)).mpr ⟨rfl, h⟩)
  have hsplit' := (split_iff hseps).mpr
    ((separated_join_iff hprimary htexts' (hsame _)).mpr ⟨rfl, h'⟩)
  rw [← hsplit, heq, hsplit']

/-- No separator begins in texts that do not have its first element. -/
theorem unbrokenJoin_of_not_mem {a : α} {sep : List α} {texts : List (List α)}
    (h : ∀ text ∈ texts, a ∉ text) : UnbrokenJoin [a :: sep] primary texts := by
  have hunbroken {text : List α} (htext : a ∉ text) (behind : List α) :
      Unbroken [a :: sep] text behind := by
    induction text with
    | nil => trivial
    | cons b text ih =>
      have hb : a ≠ b := List.ne_of_not_mem_cons htext
      refine ⟨?_, ih (List.not_mem_of_not_mem_cons htext)⟩
      simp [firstAt, hb]
  induction texts with
  | nil => trivial
  | cons text texts ih =>
    obtain ⟨htext, hrest⟩ := List.forall_mem_cons.mp h
    cases texts with
    | nil => exact hunbroken htext []
    | cons next texts => exact ⟨hunbroken htext _, ih hrest⟩

/-- A separator whose first element is not in it again begins in no text without it. -/
theorem unbroken_of_head {a : α} {sep piece : List α} (ha : a ∉ sep)
    (h : ¬ (a :: sep) <:+: piece) : Unbroken [a :: sep] piece (a :: sep ++ behind) := by
  induction piece with
  | nil => trivial
  | cons c piece ih =>
    refine ⟨?_, ih fun hinfix => h (List.IsInfix.trans hinfix (List.suffix_cons c piece).isInfix)⟩
    suffices hnot : ¬ (a :: sep) <+: c :: (piece ++ (a :: sep ++ behind)) by
      simpa [firstAt, ← List.isPrefixOf_iff_prefix] using hnot
    intro hprefix
    rcases List.prefix_or_prefix_of_prefix hprefix
        (List.prefix_append (c :: piece) (a :: sep ++ behind)) with hwithin | ⟨more, hmore⟩
    · exact h hwithin.isInfix
    · cases more with
      | nil => exact h (by simp [← hmore])
      | cons b more =>
        -- the rest of the separator would begin it once more
        have hagain : (c :: piece) ++ (b :: more) <+: (c :: piece) ++ (a :: (sep ++ behind)) := by
          rw [hmore]
          exact hprefix
        have hrest : (b :: more) <+: a :: (sep ++ behind) :=
          (List.prefix_append_right_inj (c :: piece)).mp hagain
        obtain ⟨rfl, -⟩ := List.cons_prefix_cons.mp hrest
        have hmem : b ∈ sep := by
          have htail := (List.cons.inj hmore).2
          rw [← htail]
          simp
        exact ha hmem

theorem split_unbroken {sep piece : List α} (hsep : sep ≠ [])
    (h : Unbroken [sep] piece (sep ++ rest)) :
    split [sep] (piece ++ (sep ++ rest)) = piece :: split [sep] rest := by
  have hfirst : firstAt [sep] (sep ++ rest) = some sep := firstAt_primary sep rest []
  rw [split_piece h, split_some hsep hfirst, foldr_extend, List.append_nil]

end

end DpostV2.Split
