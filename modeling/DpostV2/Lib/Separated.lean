import Mathlib.Data.List.Basic

/-!
# Texts with a separator

A text before its first separator is read off what follows it, and a list of texts off its join,
as long as no text has the separator in it.
-/

namespace DpostV2

section
variable {α : Type} {sep : α} {a b s t : List α}

theorem separated_inj (ha : sep ∉ a) (hb : sep ∉ b) (h : a ++ sep :: s = b ++ sep :: t) :
    a = b ∧ s = t := by
  induction a generalizing b with
  | nil =>
    cases b with
    | nil => exact ⟨rfl, (List.cons.inj h).2⟩
    | cons y b => exact absurd (List.mem_cons.mpr (.inl (List.cons.inj h).1)) hb
  | cons x a ih =>
    cases b with
    | nil => exact absurd (List.mem_cons.mpr (.inl (List.cons.inj h).1.symm)) ha
    | cons y b =>
      obtain ⟨rfl, hrest⟩ := List.cons.inj h
      obtain ⟨rfl, rfl⟩ :=
        ih (List.not_mem_of_not_mem_cons ha) (List.not_mem_of_not_mem_cons hb) hrest
      exact ⟨rfl, rfl⟩

end

-- ---------------------------------------------------------------------------
-- The segments of a text
-- ---------------------------------------------------------------------------

section
variable {α : Type} [DecidableEq α] {sep : α}

theorem length_splitOn (l : List α) : (l.splitOn sep).length = l.count sep + 1 := by
  induction l with
  | nil => simp
  | cons a l ih =>
    rw [List.splitOn_cons_eq_if_modifyHead, List.count_cons]
    by_cases ha : (a == sep) = true <;> simp [ha, ih]

theorem not_mem_splitOn (l : List α) : ∀ segment ∈ l.splitOn sep, sep ∉ segment := by
  induction l with
  | nil => simp
  | cons a l ih =>
    rw [List.splitOn_cons_eq_if_modifyHead]
    by_cases ha : (a == sep) = true
    · simpa [ha] using ih
    · obtain ⟨first, more, hsplit⟩ := List.exists_cons_of_ne_nil (List.splitOn_ne_nil sep l)
      rw [hsplit] at ih ⊢
      obtain ⟨hfirst, hmore⟩ := List.forall_mem_cons.mp ih
      have hne : sep ≠ a := fun heq => ha (by simp [heq])
      simpa [ha, hne, hfirst] using hmore

/-- The element at a place, in the segment of a number. -/
def InSegment (sep : α) (l : List α) (k i : Nat) (c : α) : Prop :=
  l[i]? = some c ∧ c ≠ sep ∧ (l.take i).count sep = k

variable {first rest : List α} {k i : Nat} {c : α}

theorem inSegment_first (h : sep ∉ first) :
    InSegment sep first k i c ↔ k = 0 ∧ first[i]? = some c := by
  have hcount : (first.take i).count sep = 0 :=
    List.count_eq_zero.mpr fun hmem => h (List.mem_of_mem_take hmem)
  simp only [InSegment, hcount]
  constructor
  · rintro ⟨hc, -, rfl⟩
    exact ⟨rfl, hc⟩
  · rintro ⟨rfl, hc⟩
    exact ⟨hc, fun heq => h (heq ▸ List.mem_of_getElem? hc), rfl⟩

theorem inSegment_cut (h : sep ∉ first) : InSegment sep (first ++ sep :: rest) k i c ↔
    k = 0 ∧ first[i]? = some c ∨
      ∃ k' i', k = k' + 1 ∧ i = first.length + 1 + i' ∧ InSegment sep rest k' i' c := by
  rcases Nat.lt_trichotomy i first.length with hlt | rfl | hgt
  · have hget : (first ++ sep :: rest)[i]? = first[i]? := List.getElem?_append_left hlt
    have htake : (first ++ sep :: rest).take i = first.take i :=
      List.take_append_of_le_length (Nat.le_of_lt hlt)
    rw [InSegment, hget, htake, ← InSegment, inSegment_first h]
    constructor
    · exact .inl
    · rintro (hhere | ⟨k', i', -, rfl, -⟩)
      · exact hhere
      · omega
  · simp only [InSegment]
    constructor
    · rintro ⟨hc, hne, -⟩
      simp [hne.symm] at hc
    · rintro (⟨-, hc⟩ | ⟨k', i', -, heq, -⟩)
      · simp at hc
      · omega
  · obtain ⟨j, rfl⟩ := Nat.exists_eq_add_of_lt hgt
    have hcount : first.count sep = 0 := List.count_eq_zero.mpr h
    have hplace : first.length + j + 1 = first.length + (j + 1) := by omega
    have hget : (first ++ sep :: rest)[first.length + j + 1]? = rest[j]? := by
      rw [hplace, List.getElem?_append_right (by omega), Nat.add_sub_cancel_left,
        List.getElem?_cons_succ]
    have htake : ((first ++ sep :: rest).take (first.length + j + 1)).count sep =
        (rest.take j).count sep + 1 := by
      rw [hplace, List.take_length_add_append, List.count_append, hcount, List.take_succ_cons,
        List.count_cons_self, Nat.zero_add]
    rw [InSegment, hget, htake]
    constructor
    · rintro ⟨hc, hne, rfl⟩
      exact .inr ⟨_, j, rfl, by omega, hc, hne, rfl⟩
    · rintro (⟨-, hc⟩ | ⟨k', i', rfl, heq, hc, hne, rfl⟩)
      · rw [List.getElem?_eq_none (by omega)] at hc
        cases hc
      · obtain rfl : j = i' := by omega
        exact ⟨hc, hne, rfl⟩

end

section
variable {c : Char} {xs ys : List String}

theorem splitOn_joined (hx : xs ≠ []) (hc : ∀ x ∈ xs, c ∉ x.toList) :
    (String.intercalate (String.singleton c) xs).toList.splitOn c = xs.map String.toList := by
  rw [String.toList_intercalate, String.toList_singleton]
  refine List.splitOn_intercalate c (fun key hkey => ?_) (by simpa using hx)
  obtain ⟨word, hword, rfl⟩ := List.mem_map.mp hkey
  exact hc word hword

theorem joined_injective (hx : xs ≠ []) (hy : ys ≠ []) (hcx : ∀ x ∈ xs, c ∉ x.toList)
    (hcy : ∀ y ∈ ys, c ∉ y.toList)
    (h : String.intercalate (String.singleton c) xs = String.intercalate (String.singleton c) ys) :
    xs = ys := by
  have hmap : xs.map String.toList = ys.map String.toList := by
    rw [← splitOn_joined hx hcx, ← splitOn_joined hy hcy, h]
  exact List.map_injective_iff.mpr (fun _ _ => String.toList_injective) hmap

theorem joined_eq_empty (hne : ∀ x ∈ xs, x ≠ "")
    (h : String.intercalate (String.singleton c) xs = "") : xs = [] := by
  match xs with
  | [] => rfl
  | [x] => exact absurd (by simpa using h) (hne x (List.mem_cons_self ..))
  | x :: y :: rest =>
    rw [String.intercalate_cons_cons] at h
    simp at h

/-- Of texts that are not empty even the empty list is read off. -/
theorem joined_injective_nonempty (hnx : ∀ x ∈ xs, x ≠ "") (hny : ∀ y ∈ ys, y ≠ "")
    (hcx : ∀ x ∈ xs, c ∉ x.toList) (hcy : ∀ y ∈ ys, c ∉ y.toList)
    (h : String.intercalate (String.singleton c) xs = String.intercalate (String.singleton c) ys) :
    xs = ys := by
  by_cases hx : xs = []
  · subst hx
    exact (joined_eq_empty hny (by simpa using h.symm)).symm
  · by_cases hy : ys = []
    · subst hy
      exact joined_eq_empty hnx (by simpa using h)
    · exact joined_injective hx hy hcx hcy h

end

end DpostV2
