import Mathlib.Data.List.Nodup

/-!
# Entries under distinct keys

A `dict`: the keys stand in the order in which they were first set, and each has one
value. `get?` tells all there is to know about a key, so the laws of the operations are
stated for it; `entries` is what a loop over the items goes through.
-/

namespace DpostV2

structure Assoc (κ β : Type) where
  entries : List (κ × β)
  distinct : (entries.map Prod.fst).Nodup

namespace Assoc

variable {κ β : Type}

def empty : Assoc κ β := ⟨[], List.nodup_nil⟩

instance [DecidableEq κ] [DecidableEq β] : DecidableEq (Assoc κ β) := fun d d' =>
  decidable_of_iff (d.entries = d'.entries) (by cases d; cases d'; simp)

def keys (d : Assoc κ β) : List κ := d.entries.map Prod.fst

def values (d : Assoc κ β) : List β := d.entries.map Prod.snd

section
variable [DecidableEq κ]

def lookIn (k : κ) : List (κ × β) → Option β
  | [] => none
  | e :: es => if e.1 = k then some e.2 else lookIn k es

/-- `d.get(k)`. -/
def get? (d : Assoc κ β) (k : κ) : Option β := lookIn k d.entries

def putIn (k : κ) (b : β) : List (κ × β) → List (κ × β)
  | [] => [(k, b)]
  | e :: es => if e.1 = k then (k, b) :: es else e :: putIn k b es

theorem mem_keys_putIn {k key : κ} {b : β} {es : List (κ × β)} :
    key ∈ (putIn k b es).map Prod.fst ↔ key = k ∨ key ∈ es.map Prod.fst := by
  induction es with
  | nil => simp [putIn]
  | cons e es ih =>
    by_cases he : e.1 = k
    · subst he
      simp [putIn]
    · simp only [putIn, he, if_false, List.map_cons, List.mem_cons, ih]
      exact or_left_comm

theorem distinct_putIn {k : κ} {b : β} {es : List (κ × β)} (h : (es.map Prod.fst).Nodup) :
    ((putIn k b es).map Prod.fst).Nodup := by
  induction es with
  | nil => simp [putIn]
  | cons e es ih =>
    obtain ⟨hnew, hrest⟩ := List.nodup_cons.mp h
    by_cases he : e.1 = k
    · subst he
      simpa [putIn] using h
    · simp only [putIn, he, if_false, List.map_cons]
      refine List.nodup_cons.mpr ⟨?_, ih hrest⟩
      intro hmem
      rcases mem_keys_putIn.mp hmem with heq | hmem
      · exact he heq
      · exact hnew hmem

/-- `d[k] = b`. -/
def set (d : Assoc κ β) (k : κ) (b : β) : Assoc κ β :=
  ⟨putIn k b d.entries, distinct_putIn d.distinct⟩

/-- `d.pop(k, None)`. -/
def erase (d : Assoc κ β) (k : κ) : Assoc κ β where
  entries := d.entries.filter fun e => e.1 ≠ k
  distinct := d.distinct.sublist (List.filter_sublist.map _)

end

/-- Every value replaced by what a function makes of it and its key. -/
def mapValues {γ : Type} (f : κ → β → γ) (d : Assoc κ β) : Assoc κ γ where
  entries := d.entries.map fun e => (e.1, f e.1 e.2)
  distinct := by simpa [List.map_map, Function.comp_def] using d.distinct

/-- Without the keys whose value is not kept. -/
def filterValues (keep : β → Bool) (d : Assoc κ β) : Assoc κ β where
  entries := d.entries.filter fun e => keep e.2
  distinct := d.distinct.sublist (List.filter_sublist.map _)

-- ---------------------------------------------------------------------------
-- What is found under a key
-- ---------------------------------------------------------------------------

section
variable [DecidableEq κ] {d : Assoc κ β} {k key : κ} {b : β}

theorem lookIn_eq_some {es : List (κ × β)} (h : (es.map Prod.fst).Nodup) :
    lookIn k es = some b ↔ (k, b) ∈ es := by
  induction es with
  | nil => simp [lookIn]
  | cons e es ih =>
    obtain ⟨hnew, hrest⟩ := List.nodup_cons.mp h
    by_cases he : e.1 = k
    · subst he
      have hnot : (e.1, b) ∉ es := fun hmem => hnew (List.mem_map.mpr ⟨_, hmem, rfl⟩)
      simp only [lookIn, if_true, Option.some.injEq, List.mem_cons, hnot, or_false]
      exact ⟨fun hb => by rw [← hb], fun hb => by rw [← hb]⟩
    · have hne : (k, b) ≠ e := fun heq => he (by rw [← heq])
      simp only [lookIn, he, if_false, ih hrest, List.mem_cons, hne, false_or]

theorem get?_eq_some : d.get? k = some b ↔ (k, b) ∈ d.entries := lookIn_eq_some d.distinct

theorem get?_eq_none : d.get? k = none ↔ k ∉ d.keys := by
  simp only [Option.eq_none_iff_forall_ne_some, ne_eq, get?_eq_some, keys, List.mem_map,
    Prod.exists, exists_and_right, exists_eq_right, not_exists]

theorem mem_keys : k ∈ d.keys ↔ (d.get? k).isSome := by
  rw [← not_iff_not, ← get?_eq_none]
  simp

@[simp] theorem get?_empty : (empty : Assoc κ β).get? k = none := rfl

theorem get?_set : (d.set k b).get? key = if key = k then some b else d.get? key := by
  show lookIn key (putIn k b d.entries) = _
  rw [get?]
  induction d.entries with
  | nil => simp [putIn, lookIn, eq_comm]
  | cons e es ih =>
    by_cases he : e.1 = k
    · by_cases hk : key = k
      · simp [putIn, lookIn, he, hk]
      · simp [putIn, lookIn, he, hk, Ne.symm hk]
    · by_cases hk : key = k
      · subst hk
        simpa [putIn, lookIn, he] using ih
      · simp [putIn, lookIn, he, hk, ih]

@[simp] theorem get?_set_self : (d.set k b).get? k = some b := by simp [get?_set]

theorem get?_set_of_ne (h : key ≠ k) : (d.set k b).get? key = d.get? key := by simp [get?_set, h]

theorem get?_erase : (d.erase k).get? key = if key = k then none else d.get? key := by
  apply Option.ext
  intro b
  by_cases hk : key = k
  · simp [get?_eq_some, erase, hk]
  · simp [get?_eq_some, erase, hk]

@[simp] theorem get?_mapValues {γ : Type} (f : κ → β → γ) :
    (d.mapValues f).get? k = (d.get? k).map (f k) := by
  simp only [get?, mapValues]
  induction d.entries with
  | nil => rfl
  | cons e es ih =>
    by_cases he : e.1 = k
    · subst he
      simp [lookIn]
    · simp [lookIn, he, ih]

theorem get?_filterValues (keep : β → Bool) :
    (d.filterValues keep).get? k = (d.get? k).filter keep := by
  apply Option.ext
  intro b
  rw [Option.filter_eq_some_iff, get?_eq_some, get?_eq_some]
  simp [filterValues]

theorem mapValues_congr {γ : Type} {f g : κ → β → γ}
    (h : ∀ k b, d.get? k = some b → f k b = g k b) : d.mapValues f = d.mapValues g := by
  unfold mapValues
  congr 1
  refine List.map_congr_left fun e he => ?_
  rw [h e.1 e.2 (get?_eq_some.mpr he)]

end

end Assoc

end DpostV2
