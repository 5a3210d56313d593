import Mathlib.Data.List.Perm.Lattice

/-!
# What is kept of a list

`Splits xs kept dropped` says where the members of a list have gone: some are kept, in their
order, and the others are dropped, each as often as it occurs.
-/

namespace DpostV2

open scoped List

structure Splits {α : Type} (xs kept dropped : List α) : Prop where
  ordered : kept <+ xs
  counted : xs ~ kept ++ dropped

namespace Splits

variable {α : Type} {xs kept dropped : List α}

theorem nil : Splits ([] : List α) [] [] := ⟨.refl _, .refl _⟩

/-- What comes last may be kept. -/
theorem keep (h : Splits xs kept dropped) (x : α) : Splits (xs ++ [x]) (kept ++ [x]) dropped := by
  refine ⟨h.ordered.append_right [x], ?_⟩
  calc xs ++ [x] ~ (kept ++ dropped) ++ [x] := h.counted.append_right [x]
    _ ~ (kept ++ [x]) ++ dropped := by
      simpa only [List.append_assoc] using (List.perm_append_comm).append_left kept

/-- What comes last may be dropped. -/
theorem snocDropped (h : Splits xs kept dropped) (x : α) :
    Splits (xs ++ [x]) kept (dropped ++ [x]) := by
  refine ⟨h.ordered.trans (List.sublist_append_left xs [x]), ?_⟩
  simpa only [List.append_assoc] using h.counted.append_right [x]

/-- Less may be kept of what was kept. -/
theorem drop (h : Splits xs kept dropped) {kept' more : List α} (h' : Splits kept kept' more) :
    Splits xs kept' (dropped ++ more) := by
  refine ⟨h'.ordered.trans h.ordered, ?_⟩
  calc xs ~ kept ++ dropped := h.counted
    _ ~ (kept' ++ more) ++ dropped := h'.counted.append_right dropped
    _ ~ kept' ++ (dropped ++ more) := by
      simpa only [List.append_assoc] using (List.perm_append_comm).append_left kept'

theorem perm (h : Splits xs kept dropped) {dropped' : List α} (hperm : dropped ~ dropped') :
    Splits xs kept dropped' := ⟨h.ordered, h.counted.trans (hperm.append_left kept)⟩

theorem append {ys kept' dropped' : List α} (h : Splits xs kept dropped)
    (h' : Splits ys kept' dropped') : Splits (xs ++ ys) (kept ++ kept') (dropped ++ dropped') := by
  refine ⟨h.ordered.append h'.ordered, ?_⟩
  calc xs ++ ys ~ (kept ++ dropped) ++ (kept' ++ dropped') := h.counted.append h'.counted
    _ ~ (kept ++ kept') ++ (dropped ++ dropped') := by
      simp only [List.append_assoc]
      refine List.Perm.append_left kept ?_
      simp only [← List.append_assoc]
      exact (List.perm_append_comm).append_right dropped'

theorem refl (xs : List α) : Splits xs xs [] := ⟨.refl xs, by simp⟩

theorem all (xs : List α) : Splits xs [] xs := ⟨List.nil_sublist xs, .refl xs⟩

theorem filter (p : α → Bool) (xs : List α) :
    Splits xs (xs.filter fun x => !p x) (xs.filter p) := by
  refine ⟨List.filter_sublist, ?_⟩
  calc xs ~ xs.filter p ++ xs.filter (fun x => !p x) := (List.filter_append_perm p xs).symm
    _ ~ xs.filter (fun x => !p x) ++ xs.filter p := List.perm_append_comm

theorem map {β : Type} (f : α → β) (h : Splits xs kept dropped) :
    Splits (xs.map f) (kept.map f) (dropped.map f) :=
  ⟨h.ordered.map f, by simpa only [List.map_append] using h.counted.map f⟩

theorem length_eq (h : Splits xs kept dropped) : xs.length = kept.length + dropped.length := by
  rw [h.counted.length_eq, List.length_append]

theorem mem_iff (h : Splits xs kept dropped) {x : α} : x ∈ xs ↔ x ∈ kept ∨ x ∈ dropped := by
  rw [h.counted.mem_iff, List.mem_append]

end Splits

end DpostV2
