import Mathlib.Data.List.Basic
import Mathlib.Data.List.Dedup
import Mathlib.Data.List.Forall2

/-!
# The items of a dict

What a dict comprehension keeps of its items: each key once, at its first place, with its last
value.
-/

namespace DpostV2.Items

theorem forall₂_mem_left {R : α → β → Prop} {as : List α} {bs : List β}
    (h : List.Forall₂ R as bs) {a : α} (ha : a ∈ as) : ∃ b ∈ bs, R a b := by
  induction h with
  | nil => simp at ha
  | @cons a' b as bs hab _ ih =>
    rcases List.mem_cons.mp ha with rfl | ha
    · exact ⟨b, List.mem_cons_self, hab⟩
    · obtain ⟨b', hb', hR⟩ := ih ha
      exact ⟨b', List.mem_cons_of_mem _ hb', hR⟩

theorem forall₂_mem_right {R : α → β → Prop} {as : List α} {bs : List β}
    (h : List.Forall₂ R as bs) {b : β} (hb : b ∈ bs) : ∃ a ∈ as, R a b :=
  forall₂_mem_left h.flip hb

variable {κ α β : Type} [DecidableEq κ]

/-- The value of a key: the last one given for it. -/
def last (items : List (κ × α)) (k : κ) : Option α := items.reverse.lookup k

/-- `{key: value for key, value in items}`. -/
def comprehend (items : List (κ × α)) : List (κ × α) :=
  (items.map Prod.fst).eraseDups.filterMap fun k => (last items k).map (k, ·)

-- ---------------------------------------------------------------------------
-- The last value
-- ---------------------------------------------------------------------------

theorem mem_of_last {items : List (κ × α)} {k : κ} {v : α} (h : last items k = some v) :
    (k, v) ∈ items := by
  obtain ⟨before, after, hsplit, -⟩ := List.lookup_eq_some_iff.mp h
  have hmem : (k, v) ∈ items.reverse := by simp [hsplit]
  exact List.mem_reverse.mp hmem

theorem last_isSome_iff {items : List (κ × α)} {k : κ} :
    (last items k).isSome = true ↔ k ∈ items.map Prod.fst := by
  rw [last, List.lookup_isSome_iff]
  simp

theorem last_of_nodup {items : List (κ × α)} (hnodup : (items.map Prod.fst).Nodup) {k : κ} {v : α}
    (h : (k, v) ∈ items) : last items k = some v := by
  have hsome : (last items k).isSome = true := last_isSome_iff.mpr (List.mem_map_of_mem h)
  obtain ⟨w, hw⟩ := Option.isSome_iff_exists.mp hsome
  have heq := List.inj_on_of_nodup_map hnodup (mem_of_last hw) h rfl
  rw [hw, (Prod.mk.inj heq).2]

/-- Items related place by place have related last values. -/
theorem last_rel {R : κ → α → β → Prop} {items : List (κ × α)} {items' : List (κ × β)}
    (h : List.Forall₂ (fun e e' => e.1 = e'.1 ∧ R e.1 e.2 e'.2) items items') (k : κ) :
    Option.Rel (R k) (last items k) (last items' k) := by
  have hreverse := List.rel_reverse h
  unfold last
  generalize items.reverse = reversed, items'.reverse = reversed' at hreverse ⊢
  induction hreverse with
  | nil => exact .none
  | @cons e e' rest rest' he _ ih =>
    obtain ⟨hkey, hvalue⟩ := he
    obtain ⟨k', v⟩ := e
    obtain ⟨l, w⟩ := e'
    subst hkey
    by_cases hk : k = k'
    · subst hk
      simpa using Option.Rel.some hvalue
    · simpa [List.lookup_cons, beq_eq_false_iff_ne.mpr hk] using ih

omit [DecidableEq κ] in
theorem keys_eq {items : List (κ × α)} {items' : List (κ × β)}
    (h : List.Forall₂ (fun e e' => e.1 = e'.1) items items') :
    items.map Prod.fst = items'.map Prod.fst := by
  induction h with
  | nil => rfl
  | cons he _ ih => rw [List.map_cons, List.map_cons, he, ih]

theorem last_map (g : κ → α → β) (items : List (κ × α)) (k : κ) :
    last (items.map fun e => (e.1, g e.1 e.2)) k = (last items k).map (g k) := by
  unfold last
  rw [← List.map_reverse]
  induction items.reverse with
  | nil => rfl
  | cons e rest ih =>
    obtain ⟨k', v⟩ := e
    by_cases hk : k = k'
    · subst hk
      simp
    · simpa [List.lookup_cons, beq_eq_false_iff_ne.mpr hk] using ih

-- ---------------------------------------------------------------------------
-- The comprehension
-- ---------------------------------------------------------------------------

theorem mem_comprehend {items : List (κ × α)} {k : κ} {v : α} :
    (k, v) ∈ comprehend items ↔ last items k = some v := by
  simp only [comprehend, List.mem_filterMap, List.mem_eraseDups, Option.map_eq_some_iff,
    Prod.mk.injEq]
  constructor
  · rintro ⟨_, -, _, hlast, rfl, rfl⟩
    exact hlast
  · intro h
    exact ⟨k, List.mem_map_of_mem (mem_of_last h), v, h, rfl, rfl⟩

theorem comprehend_subset (items : List (κ × α)) : comprehend items ⊆ items :=
  fun _ he => mem_of_last (mem_comprehend.mp he)

theorem comprehend_congr {items items' : List (κ × α)}
    (hkeys : items.map Prod.fst = items'.map Prod.fst)
    (hlast : ∀ k, last items k = last items' k) : comprehend items = comprehend items' := by
  simp only [comprehend, hkeys, hlast]

/-- Two comprehensions with the same keys agree where each key's last values do. -/
theorem map_comprehend_congr {items items' : List (κ × α)} (g : κ → α → β)
    (hkeys : items.map Prod.fst = items'.map Prod.fst)
    (hlast : ∀ k, (last items k).map (g k) = (last items' k).map (g k)) :
    (comprehend items).map (fun e => (e.1, g e.1 e.2)) =
      (comprehend items').map fun e => (e.1, g e.1 e.2) := by
  simp only [comprehend, List.map_filterMap, Option.map_map, hkeys]
  congr 1
  funext k
  simpa [Option.map_map, Function.comp_def] using congrArg (Option.map (k, ·)) (hlast k)

theorem keys_comprehend (items : List (κ × α)) :
    (comprehend items).map Prod.fst = (items.map Prod.fst).eraseDups := by
  rw [comprehend, List.map_filterMap, List.filterMap_eq_map_iff_forall_eq_some.mpr, List.map_id]
  intro k hk
  obtain ⟨v, hv⟩ := Option.isSome_iff_exists.mp (last_isSome_iff.mpr (List.mem_eraseDups.mp hk))
  simp [hv]

theorem nodup_eraseDups (keys : List κ) : keys.eraseDups.Nodup := by
  induction hn : keys.length using Nat.strongRecOn generalizing keys with
  | ind n ih =>
    cases keys with
    | nil => simp
    | cons k keys =>
      have hlength := List.length_filter_le (fun b => !b == k) keys
      rw [List.eraseDups_cons, List.nodup_cons, List.mem_eraseDups]
      refine ⟨by simp, ih _ ?_ _ rfl⟩
      simp only [List.length_cons] at hn
      omega

theorem eraseDups_of_nodup {keys : List κ} (h : keys.Nodup) : keys.eraseDups = keys := by
  induction keys with
  | nil => rfl
  | cons k keys ih =>
    obtain ⟨hk, hkeys⟩ := List.nodup_cons.mp h
    have hfilter : keys.filter (fun b => !b == k) = keys := by
      rw [List.filter_eq_self]
      rintro b hb
      simpa using ne_of_mem_of_not_mem hb hk
    rw [List.eraseDups_cons, hfilter, ih hkeys]

theorem nodup_comprehend (items : List (κ × α)) : ((comprehend items).map Prod.fst).Nodup :=
  keys_comprehend items ▸ nodup_eraseDups _

theorem last_comprehend (items : List (κ × α)) (k : κ) :
    last (comprehend items) k = last items k := by
  apply Option.ext
  intro v
  constructor
  · intro h
    exact mem_comprehend.mp (mem_of_last h)
  · intro h
    exact last_of_nodup (nodup_comprehend items) (mem_comprehend.mpr h)

theorem comprehend_comprehend (items : List (κ × α)) :
    comprehend (comprehend items) = comprehend items := by
  have hkeys : ((comprehend items).map Prod.fst).eraseDups = (items.map Prod.fst).eraseDups := by
    rw [eraseDups_of_nodup (nodup_comprehend items), keys_comprehend]
  have hlast : last (comprehend items) = last items := funext (last_comprehend items)
  unfold comprehend at hkeys hlast ⊢
  rw [hkeys, hlast]

end DpostV2.Items
