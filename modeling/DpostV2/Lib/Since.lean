import Mathlib.Data.List.Induction

/-!
# The last set since the last clear

A history in which some events set a cell and some clear it. `LastSet` points
at the event that set the cell as it is found at a position of the history;
`held` is what the cell then holds. An event that clears a cell uses up what
set it: no other clear finds the same event (`LastSet.unique`).
-/

namespace DpostV2

variable {α β : Type} (sets : α → Option β) (clears : α → Bool)

/-- Event `k` set the cell to `b`, and none between `k` and `i` has changed it. -/
def LastSet (h : List α) (i k : Nat) (b : β) : Prop :=
  k < i ∧ (∃ a, h[k]? = some a ∧ sets a = some b) ∧
    ∀ j a, k < j → j < i → h[j]? = some a → sets a = none ∧ clears a = false

def held (h : List α) : Option β :=
  h.foldl (fun cell a => match sets a with
    | some b => some b
    | none => if clears a then none else cell) none

variable {sets clears} {h : List α} {a : α} {b : β} {i j k : Nat}

theorem held_snoc : held sets clears (h ++ [a]) = match sets a with
    | some b => some b
    | none => if clears a then none else held sets clears h := by
  simp [held]

/-- What comes later does not matter. -/
theorem lastSet_append (h' : List α) (hi : i ≤ h.length) :
    LastSet sets clears (h ++ h') i k b ↔ LastSet sets clears h i k b := by
  unfold LastSet
  constructor
  · rintro ⟨hk, ⟨a, ha, hs⟩, hnone⟩
    rw [List.getElem?_append_left (by omega)] at ha
    refine ⟨hk, ⟨a, ha, hs⟩, ?_⟩
    intro j a hkj hji hj
    exact hnone j a hkj hji (by rw [List.getElem?_append_left (by omega)]; exact hj)
  · rintro ⟨hk, ⟨a, ha, hs⟩, hnone⟩
    refine ⟨hk, ⟨a, by rw [List.getElem?_append_left (by omega)]; exact ha, hs⟩, ?_⟩
    intro j a hkj hji hj
    rw [List.getElem?_append_left (by omega)] at hj
    exact hnone j a hkj hji hj

theorem lastSet_snoc : LastSet sets clears (h ++ [a]) (h.length + 1) k b ↔
    (k = h.length ∧ sets a = some b) ∨
      (LastSet sets clears h h.length k b ∧ sets a = none ∧ clears a = false) := by
  have hlast : (h ++ [a])[h.length]? = some a := by simp
  constructor
  · rintro ⟨hk, ⟨a', ha', hs⟩, hnone⟩
    by_cases hkn : k = h.length
    · subst hkn
      rw [hlast] at ha'
      cases ha'
      exact .inl ⟨rfl, hs⟩
    · have hlt : k < h.length := by omega
      refine .inr ⟨(lastSet_append [a] (Nat.le_refl _)).mp ⟨hlt, ⟨a', ha', hs⟩, ?_⟩, ?_⟩
      · exact fun j a hkj hjn hj => hnone j a hkj (by omega) hj
      · exact hnone h.length a hlt (by omega) hlast
  · rintro (⟨rfl, hs⟩ | ⟨hset, hs, hc⟩)
    · exact ⟨by omega, ⟨a, hlast, hs⟩, by omega⟩
    · obtain ⟨hk, hat, hnone⟩ := (lastSet_append [a] (Nat.le_refl _)).mpr hset
      refine ⟨by omega, hat, ?_⟩
      intro j a' hkj hjn hj
      by_cases hjl : j = h.length
      · subst hjl
        rw [hlast] at hj
        cases hj
        exact ⟨hs, hc⟩
      · exact hnone j a' hkj (by omega) hj

theorem held_eq_some : held sets clears h = some b ↔ ∃ k, LastSet sets clears h h.length k b := by
  induction h using List.reverseRecOn with
  | nil =>
    constructor
    · intro hb
      cases hb
    · rintro ⟨k, hk, -⟩
      exact absurd hk (by simp)
  | append_singleton h a ih =>
    rw [held_snoc, List.length_append, List.length_singleton]
    simp only [lastSet_snoc]
    cases hs : sets a with
    | some b' => simp
    | none =>
      cases hc : clears a with
      | true => simp
      | false => simpa using ih

/-- A set is used up by the first clear after it. -/
theorem LastSet.unique {b' : β} {a' : α} (hi : LastSet sets clears h i k b)
    (hj : LastSet sets clears h j k b') (ha : h[i]? = some a) (hca : clears a = true)
    (ha' : h[j]? = some a') (hca' : clears a' = true) : i = j := by
  obtain ⟨hki, -, hni⟩ := hi
  obtain ⟨hkj, -, hnj⟩ := hj
  rcases Nat.lt_trichotomy i j with hlt | heq | hlt
  · have hnot := (hnj i a hki hlt ha).2
    rw [hca] at hnot
    cases hnot
  · exact heq
  · have hnot := (hni j a' hkj hlt ha').2
    rw [hca'] at hnot
    cases hnot

end DpostV2
