import DpostV2.Startup.RawSettings
import DpostV2.Startup.SettingsOutcome

/-!
# Canonical settings

What the schema makes of a mapping is a matter of its view: which fields it merges over the
template, and which values the checks ask for. So what it accepts it accepts again unchanged, and a
field may be given by its alias instead of its path, unless that path leads through a mapping that
is no `dict` and holds something besides.
-/

namespace DpostV2.Startup.RawSettings

open Settings

-- ---------------------------------------------------------------------------
-- Dicts by their keys
-- ---------------------------------------------------------------------------

def keys (d : Dict) : List String := d.entries.map Prod.fst

theorem mem_keys {d : Dict} {k : String} : k ∈ keys d ↔ d.contains k = true := by
  rw [Dict.contains, Option.isSome_iff_exists]
  constructor
  · intro h
    obtain ⟨⟨k', v⟩, hmem, rfl⟩ := List.mem_map.mp h
    exact ⟨v, Dict.get?_of_mem hmem⟩
  · rintro ⟨v, h⟩
    exact List.mem_map_of_mem (Dict.mem_of_get? h)

theorem keys_set {d : Dict} {k : String} (h : d.contains k = true) (v : Value) :
    keys (d.set k v) = keys d := by
  have hmem : k ∈ d.entries.map Prod.fst := mem_keys.mpr h
  rw [keys, Dict.set, setEntry_keys, if_pos hmem, keys]

theorem contains_set {d : Dict} {k : String} (h : d.contains k = true) (v : Value) (key : String) :
    (d.set k v).contains key = d.contains key := by
  rw [Bool.eq_iff_iff, ← mem_keys, ← mem_keys, keys_set h]

theorem lookup_ext {es es' : List (String × Value)} (hnodup : (es.map Prod.fst).Nodup)
    (hkeys : es.map Prod.fst = es'.map Prod.fst) (h : ∀ k, es.lookup k = es'.lookup k) :
    es = es' := by
  induction es generalizing es' with
  | nil => exact (List.map_eq_nil_iff.mp hkeys.symm).symm
  | cons e es ih =>
    obtain ⟨k, v⟩ := e
    cases es' with
    | nil => cases hkeys
    | cons e' es' =>
      obtain ⟨k', v'⟩ := e'
      obtain ⟨hhead, htail⟩ := List.cons.inj hkeys
      obtain rfl : k = k' := hhead
      have hv : v = v' := by simpa using h k
      obtain ⟨hk, hnodup⟩ := List.nodup_cons.mp hnodup
      rw [hv, ih hnodup htail fun key => ?_]
      by_cases hkey : key = k
      · subst hkey
        rw [lookup_none_of_not_mem hk, lookup_none_of_not_mem (htail ▸ hk)]
      · simpa [List.lookup_cons, beq_eq_false_iff_ne.mpr hkey] using h key

/-- A dict is its keys and what it gives for them. -/
theorem dict_ext {d d' : Dict} (hkeys : keys d = keys d') (h : ∀ k, d.get? k = d'.get? k) :
    d = d' :=
  Dict.ext (lookup_ext d.nodup hkeys h)

theorem keys_updateEntries {d : Dict} {es : List (String × Value)}
    (h : ∀ e ∈ es, d.contains e.1 = true) : keys (d.updateEntries es) = keys d := by
  induction es generalizing d with
  | nil => rfl
  | cons e es ih =>
    obtain ⟨hhead, htail⟩ := List.forall_mem_cons.mp h
    rw [Dict.updateEntries, ih fun e' he' => ?_, keys_set hhead]
    rw [contains_set hhead]
    exact htail e' he'

-- ---------------------------------------------------------------------------
-- Merging
-- ---------------------------------------------------------------------------

section
variable [Interpreter]

theorem mergeNestedDict_iff {b : Block} {merged d : Dict} {es : List (String × Value)} :
    mergeNestedDict b merged es = .ok d ↔
      (∀ e ∈ es, merged.contains e.1 = true) ∧ d = merged.updateEntries es := by
  induction es generalizing merged with
  | nil =>
    constructor
    · intro h
      exact ⟨by simp, (Except.ok.inj h).symm⟩
    · rintro ⟨-, rfl⟩
      rfl
  | cons e es ih =>
    obtain ⟨k, v⟩ := e
    unfold mergeNestedDict
    by_cases hk : merged.contains k = true
    · simp [hk, ih, contains_set hk, Dict.updateEntries]
    · simp [hk]

omit [Interpreter] in
theorem find?_block (b : Block) : (Block.all.find? fun block => block.name == b.name) = some b := by
  cases b <;> decide

theorem mergeField_iff {merged p : Payload} {k : String} {v : Value} :
    mergeField merged k v = .ok p ↔
      (k = "mode" ∧ p = { merged with mode := some v }) ∨
      (k = "profile" ∧ p = { merged with profile := v }) ∨
      ∃ b es, k = b.name ∧ v = .dict es ∧ (∀ e ∈ es, (merged.blocks b).contains e.1 = true) ∧
        p = { merged with
          blocks := Function.update merged.blocks b ((merged.blocks b).updateEntries es) } := by
  constructor
  · intro h
    unfold mergeField at h
    split at h
    · next hk => exact .inl ⟨hk, (Except.ok.inj h).symm⟩
    split at h
    · next hk => exact .inr (.inl ⟨hk, (Except.ok.inj h).symm⟩)
    split at h
    · cases h
    · next b hfind =>
      have hname : b.name = k := by simpa using List.find?_some hfind
      split at h
      · next es =>
        obtain ⟨nested, hnested, h⟩ := except_bind_ok.mp h
        obtain ⟨hknown, rfl⟩ := mergeNestedDict_iff.mp hnested
        exact .inr (.inr ⟨b, es, hname.symm, rfl, hknown, (except_pure_ok.mp h).symm⟩)
      · cases h
  · rintro (⟨rfl, rfl⟩ | ⟨rfl, rfl⟩ | ⟨b, es, rfl, rfl, hknown, rfl⟩)
    · rfl
    · rfl
    · have hmode : b.name ≠ "mode" := name_ne (by decide) b
      have hprofile : b.name ≠ "profile" := name_ne (by decide) b
      unfold mergeField
      rw [if_neg hmode, if_neg hprofile, find?_block]
      exact except_bind_ok.mpr ⟨_, mergeNestedDict_iff.mpr ⟨hknown, rfl⟩, rfl⟩

/-- What is taken of a block from the entries of a mapping. -/
def nestedEntries (v : Option Value) (k : String) : Option Value :=
  match v with
  | some (.dict es) => es.lookup k
  | _ => none

/-- An entry the template has a place for. -/
def Fits (entry : String × Value) : Prop :=
  entry.1 = "mode" ∨ entry.1 = "profile" ∨
    ∃ (b : Block) (es : _), entry = (b.name, .dict es) ∧ ∀ e ∈ es, b.template.contains e.1 = true

/-- The payload has the entries over what was merged before. -/
structure Merges (merged : Payload) (entries : List (String × Value)) (p : Payload) : Prop where
  mode : p.mode = (entries.lookup "mode").or merged.mode
  profile : p.profile = (entries.lookup "profile").getD merged.profile
  keys : ∀ b, keys (p.blocks b) = keys (merged.blocks b)
  get : ∀ b k, (p.blocks b).get? k =
    (nestedEntries (entries.lookup b.name) k).or ((merged.blocks b).get? k)

omit [Interpreter] in
theorem Merges.nil (merged : Payload) : Merges merged [] merged := by
  constructor <;> simp [nestedEntries]

omit [Interpreter] in
theorem lookup_cons' (k : String) (v : Value) (es : List (String × Value)) (key : String) :
    ((k, v) :: es).lookup key = if key = k then some v else es.lookup key := by
  by_cases h : key = k
  · simp [h]
  · simp [List.lookup_cons, beq_eq_false_iff_ne.mpr h, h]

omit [Interpreter] in
theorem keys_merged {blocks : Block → Dict} {b : Block} {es : List (String × Value)}
    (h : ∀ e ∈ es, (blocks b).contains e.1 = true) (b' : Block) :
    keys (Function.update blocks b ((blocks b).updateEntries es) b') = keys (blocks b') := by
  by_cases hb : b' = b
  · subst hb
    rw [Function.update_self, keys_updateEntries h]
  · rw [Function.update_of_ne hb]

/-- One field is merged as it would be with those behind it. -/
theorem mergeField_merges {merged middle p : Payload} {k : String} {v : Value}
    {entries : List (String × Value)} (hk : k ∉ entries.map Prod.fst)
    (hmerged : ∀ b, keys (merged.blocks b) = keys b.template)
    (hnested : ∀ (b : Block) es, k = b.name → v = .dict es → (es.map Prod.fst).Nodup)
    (h : mergeField merged k v = .ok middle) :
    Fits (k, v) ∧ (∀ b, keys (middle.blocks b) = keys b.template) ∧
      (Merges middle entries p → Merges merged ((k, v) :: entries) p) := by
  have hnone := lookup_none_of_not_mem hk
  rcases mergeField_iff.mp h with ⟨rfl, rfl⟩ | ⟨rfl, rfl⟩ | ⟨b, es, rfl, rfl, hknown, rfl⟩
  · refine ⟨.inl rfl, hmerged, fun hp => ⟨?_, ?_, hp.keys, fun b key => ?_⟩⟩
    · simpa [hnone] using hp.mode
    · simpa [lookup_cons'] using hp.profile
    · have hne : b.name ≠ "mode" := name_ne (by decide) b
      simpa [lookup_cons', hne] using hp.get b key
  · refine ⟨.inr (.inl rfl), hmerged, fun hp => ⟨?_, ?_, hp.keys, fun b key => ?_⟩⟩
    · simpa [lookup_cons'] using hp.mode
    · simpa [hnone] using hp.profile
    · have hne : b.name ≠ "profile" := name_ne (by decide) b
      simpa [lookup_cons', hne] using hp.get b key
  · have hmode : "mode" ≠ b.name := (name_ne (by decide) b).symm
    have hprofile : "profile" ≠ b.name := (name_ne (by decide) b).symm
    have hsame := keys_merged hknown
    refine ⟨.inr (.inr ⟨b, es, rfl, fun e he => ?_⟩), fun b' => (hsame b').trans (hmerged b'),
      fun hp => ⟨?_, ?_, fun b' => (hp.keys b').trans (hsame b'), fun b' key => ?_⟩⟩
    · rw [← mem_keys, ← hmerged b, mem_keys]
      exact hknown e he
    · simpa [lookup_cons', hmode] using hp.mode
    · simpa [lookup_cons', hprofile] using hp.profile
    · have hget := hp.get b' key
      dsimp only at hget
      by_cases hb : b' = b
      · subst hb
        rw [Function.update_self, Dict.get?_updateEntries _ (hnested b' es rfl rfl), hnone] at hget
        rw [lookup_cons', if_pos rfl]
        simpa [nestedEntries] using hget
      · have hname : b'.name ≠ b.name := fun heq => hb (name_injective heq)
        rw [Function.update_of_ne hb] at hget
        rwa [lookup_cons', if_neg hname]

theorem mergeEntries_ok {merged p : Payload} {entries : List (String × Value)}
    (hmerged : ∀ b, keys (merged.blocks b) = keys b.template)
    (hnodup : (entries.map Prod.fst).Nodup)
    (hnested : ∀ (b : Block) es, (b.name, .dict es) ∈ entries → (es.map Prod.fst).Nodup)
    (h : entries.foldlM (fun merged entry => mergeField merged entry.1 entry.2) merged = .ok p) :
    (∀ entry ∈ entries, Fits entry) ∧ Merges merged entries p := by
  induction entries generalizing merged with
  | nil =>
    obtain rfl := except_pure_ok.mp h
    exact ⟨by simp, .nil _⟩
  | cons entry entries ih =>
    obtain ⟨k, v⟩ := entry
    rw [List.foldlM_cons] at h
    obtain ⟨middle, hmiddle, h⟩ := except_bind_ok.mp h
    obtain ⟨hk, hnodup⟩ := List.nodup_cons.mp hnodup
    have hv : ∀ (b : Block) es, k = b.name → v = .dict es → (es.map Prod.fst).Nodup := by
      rintro b es rfl rfl
      exact hnested b es List.mem_cons_self
    obtain ⟨hfits, hkeys, hmerges⟩ := mergeField_merges hk hmerged hv hmiddle
    obtain ⟨hrest, hp⟩ := ih hkeys hnodup
      (fun b es hmem => hnested b es (List.mem_cons_of_mem _ hmem)) h
    exact ⟨List.forall_mem_cons.mpr ⟨hfits, hrest⟩, hmerges hp⟩

theorem mergeEntries_of_fits {merged : Payload} {entries : List (String × Value)}
    (hmerged : ∀ b, keys (merged.blocks b) = keys b.template)
    (hfits : ∀ entry ∈ entries, Fits entry) :
    ∃ p, entries.foldlM (fun merged entry => mergeField merged entry.1 entry.2) merged = .ok p := by
  induction entries generalizing merged with
  | nil => exact ⟨merged, rfl⟩
  | cons entry entries ih =>
    obtain ⟨k, v⟩ := entry
    obtain ⟨hhead, hrest⟩ := List.forall_mem_cons.mp hfits
    obtain ⟨middle, hmiddle, hkeys⟩ : ∃ middle, mergeField merged k v = .ok middle ∧
        ∀ b, keys (middle.blocks b) = keys b.template := by
      rcases hhead with rfl | rfl | ⟨b, es, heq, hknown⟩
      · exact ⟨_, mergeField_iff.mpr (.inl ⟨rfl, rfl⟩), hmerged⟩
      · exact ⟨_, mergeField_iff.mpr (.inr (.inl ⟨rfl, rfl⟩)), hmerged⟩
      · obtain ⟨rfl, rfl⟩ := Prod.mk.inj heq
        have hcontains : ∀ e ∈ es, (merged.blocks b).contains e.1 = true := by
          intro e he
          rw [← mem_keys, hmerged b, mem_keys]
          exact hknown e he
        exact ⟨_, mergeField_iff.mpr (.inr (.inr ⟨b, es, rfl, rfl, hcontains, rfl⟩)),
          fun b' => (keys_merged hcontains b').trans (hmerged b')⟩
    obtain ⟨p, hp⟩ := ih hkeys hrest
    exact ⟨p, by rw [List.foldlM_cons, hmiddle]; exact hp⟩

-- ---------------------------------------------------------------------------
-- The view of what is merged
-- ---------------------------------------------------------------------------

/-- What a view gives for the fields of a block. -/
def View.entries (w : View) (b : Block) : String → Option Value :=
  match w.block b with
  | .mapping entries => entries
  | _ => fun _ => none

/-- Every field has a place in the template. -/
structure View.Shaped (w : View) : Prop where
  field : ∀ k v, w.field k = some v → k = "mode" ∨ k = "profile"
  block : ∀ b, w.block b ≠ .other
  entry : ∀ b k v, w.entries b k = some v → b.template.contains k = true

/-- The payload has the fields of the view over the template. -/
structure View.Reads (w : View) (p : Payload) : Prop where
  mode : p.mode = w.field "mode"
  profile : p.profile = (w.field "profile").getD .none
  keys : ∀ b, keys (p.blocks b) = RawSettings.keys b.template
  get : ∀ b k, (p.blocks b).get? k = (w.entries b k).or (b.template.get? k)

omit [Interpreter] in
theorem View.Reads.unique {w : View} {p q : Payload} (hp : w.Reads p) (hq : w.Reads q) : p = q := by
  have hblocks : p.blocks = q.blocks := by
    funext b
    refine dict_ext ((hp.keys b).trans (hq.keys b).symm) fun k => ?_
    rw [hp.get, hq.get]
  obtain ⟨mode, profile, blocks⟩ := p
  obtain ⟨mode', profile', blocks'⟩ := q
  obtain rfl : mode = mode' := hp.mode.trans hq.mode.symm
  obtain rfl : profile = profile' := hp.profile.trans hq.profile.symm
  obtain rfl : blocks = blocks' := hblocks
  rfl

omit [Interpreter] in
theorem field_view {k : String} (hk : isBlock k = false) (d : Dict) :
    (view d).field k = d.get? k := by
  simp [view, hk]

omit [Interpreter] in
theorem entries_view (d : Dict) (b : Block) (k : String) :
    (view d).entries b k = nestedEntries (d.get? b.name) k := by
  have hblock : (view d).block b = blockView (d.get? b.name) := rfl
  rw [View.entries, hblock]
  cases d.get? b.name with
  | none => rfl
  | some v => cases v <;> rfl

omit [Interpreter] in
theorem isBlock_iff {k : String} : isBlock k = true ↔ ∃ b : Block, b.name = k := by
  constructor
  · intro h
    obtain ⟨b, -, hname⟩ := List.any_eq_true.mp h
    exact ⟨b, by simpa using hname⟩
  · rintro ⟨b, rfl⟩
    exact isBlock_name b

omit [Interpreter] in
theorem lookup_mem {es : List (String × Value)} {k : String} {v : Value}
    (h : es.lookup k = some v) : (k, v) ∈ es := by
  induction es with
  | nil => cases h
  | cons e es ih =>
    obtain ⟨k', v'⟩ := e
    rw [lookup_cons'] at h
    split at h
    · next hk =>
      obtain rfl := Option.some.inj h
      exact hk ▸ List.mem_cons_self
    · exact List.mem_cons_of_mem _ (ih h)

omit [Interpreter] in
theorem mem_lookup {es : List (String × Value)} {e : String × Value} (h : e ∈ es) :
    ∃ v, es.lookup e.1 = some v := by
  cases hv : es.lookup e.1 with
  | some v => exact ⟨v, rfl⟩
  | none => simpa using List.lookup_eq_none_iff.mp hv e h

omit [Interpreter] in
/-- The entries have a place in the template if and only if the view has its shape. -/
theorem fits_iff {d : Dict} : (∀ entry ∈ d.entries, Fits entry) ↔ (view d).Shaped := by
  constructor
  · intro h
    have hfits {b : Block} {v : Value} (hv : d.get? b.name = some v) :
        ∃ es, v = .dict es ∧ ∀ e ∈ es, b.template.contains e.1 = true := by
      rcases h _ (Dict.mem_of_get? hv) with hname | hname | ⟨b', es, heq, hknown⟩
      · exact absurd hname (name_ne (by decide) b)
      · exact absurd hname (name_ne (by decide) b)
      · obtain ⟨hname, rfl⟩ := Prod.mk.inj heq
        obtain rfl := name_injective hname
        exact ⟨es, rfl, hknown⟩
    refine ⟨fun k v hv => ?_, fun b hother => ?_, fun b k v hv => ?_⟩
    · simp only [view] at hv
      split at hv
      · cases hv
      · next hblock =>
        rcases h _ (Dict.mem_of_get? hv) with hname | hname | ⟨b, es, heq, -⟩
        · exact .inl hname
        · exact .inr hname
        · exact absurd (isBlock_iff.mpr ⟨b, (Prod.mk.inj heq).1.symm⟩) hblock
    · simp only [view] at hother
      cases hv : d.get? b.name with
      | none => simp [hv, blockView] at hother
      | some v =>
        obtain ⟨es, rfl, -⟩ := hfits hv
        simp [hv, blockView] at hother
    · rw [entries_view] at hv
      cases hblock : d.get? b.name with
      | none => simp [hblock, nestedEntries] at hv
      | some value =>
        obtain ⟨es, rfl, hknown⟩ := hfits hblock
        rw [hblock] at hv
        exact hknown _ (lookup_mem hv)
  · rintro h ⟨k, v⟩ hmem
    have hv := Dict.get?_of_mem hmem
    by_cases hblock : isBlock k = true
    · obtain ⟨b, rfl⟩ := isBlock_iff.mp hblock
      have hother : blockView (some v) ≠ .other := hv ▸ h.block b
      have hentry (key : String) (w : Value) (hw : nestedEntries (some v) key = some w) :
          b.template.contains key = true := h.entry b key w (by rw [entries_view, hv, hw])
      cases v
      case dict es =>
        refine .inr (.inr ⟨b, es, rfl, fun e he => ?_⟩)
        obtain ⟨w, hw⟩ := mem_lookup he
        exact hentry e.1 w hw
      all_goals exact absurd rfl hother
    · have hfield : (view d).field k = some v := by simpa [view, hblock] using hv
      rcases h.field k v hfield with hname | hname
      · exact .inl hname
      · exact .inr (.inl hname)

/-- Merging over the template is a matter of the view. -/
theorem mergeWithTemplate_iff {d : Dict} (hnested : Nested d) {p : Payload} :
    mergeWithTemplate d = .ok p ↔ (view d).Shaped ∧ (view d).Reads p := by
  have hok {q : Payload} (h : mergeWithTemplate d = .ok q) : (view d).Shaped ∧
    (view d).Reads q := by
    obtain ⟨hfits, hmerges⟩ := mergeEntries_ok (fun _ => rfl) d.nodup
      (fun b es hmem => hnested b es (Dict.get?_of_mem hmem)) h
    refine ⟨fits_iff.mp hfits, ?_, ?_, hmerges.keys, fun b k => ?_⟩
    · rw [field_view (by decide), hmerges.mode]
      exact Option.or_none
    · rw [field_view (by decide)]
      exact hmerges.profile
    · rw [entries_view]
      exact hmerges.get b k
  refine ⟨hok, fun ⟨hshaped, hreads⟩ => ?_⟩
  obtain ⟨q, hq⟩ : ∃ q, mergeWithTemplate d = .ok q :=
    mergeEntries_of_fits (fun _ => rfl) (fits_iff.mpr hshaped)
  rw [hreads.unique (hok hq).2]
  exact hq

/-- What is merged, by the view that the aliases leave. -/
theorem merged_iff {raw : RawMapping} {p : Payload} :
    (normalizeAliases raw.foreign raw.fields >>= mergeWithTemplate) = .ok p ↔
      ∃ w, aliases.foldlM (View.resolve raw.foreign) (view raw.fields) = some w ∧ w.Shaped ∧
        w.Reads p := by
  rw [← normalizeAliases_view, except_bind_ok]
  constructor
  · rintro ⟨canonical, hcanonical, h⟩
    have hview := (mergeWithTemplate_iff (normalizeAliases_nested hcanonical)).mp h
    exact ⟨_, by rw [hcanonical]; rfl, hview⟩
  · rintro ⟨w, hw, hview⟩
    obtain ⟨canonical, hcanonical, rfl⟩ := Option.map_eq_some_iff.mp hw
    cases h : normalizeAliases raw.foreign raw.fields with
    | error e =>
      rw [h] at hcanonical
      cases hcanonical
    | ok d =>
      rw [h] at hcanonical
      obtain rfl := Option.some.inj hcanonical
      exact ⟨d, rfl, (mergeWithTemplate_iff (normalizeAliases_nested h)).mpr hview⟩

end

-- ---------------------------------------------------------------------------
-- Fields of a payload
-- ---------------------------------------------------------------------------

/-- `payload[block][key] = value` for one after the other. -/
def setFields (p : Payload) : List ((Block × String) × Value) → Payload
  | [] => p
  | ((b, key), v) :: rest => setFields (p.setField b key v) rest

theorem get?_setField (p : Payload) (b b' : Block) (key key' : String) (v : Value) :
    ((p.setField b key v).blocks b').get? key' =
      if (b', key') = (b, key) then some v else (p.blocks b').get? key' := by
  by_cases hb : b' = b
  · subst hb
    simp [Payload.setField]
  · simp [Payload.setField, hb]

theorem get?_setFields {p : Payload} {table : List ((Block × String) × Value)}
    (h : (table.map Prod.fst).Nodup) (b : Block) (key : String) :
    ((setFields p table).blocks b).get? key =
      (table.lookup (b, key)).or ((p.blocks b).get? key) := by
  induction table generalizing p with
  | nil => rfl
  | cons entry table ih =>
    obtain ⟨⟨b', key'⟩, v⟩ := entry
    obtain ⟨hfirst, hrest⟩ := List.nodup_cons.mp h
    rw [setFields, ih hrest, get?_setField, List.lookup_cons]
    by_cases hkey : (b, key) = (b', key')
    · have hnone : table.lookup (b', key') = none := by
        rw [List.lookup_eq_none_iff]
        rintro e he
        rw [bne_iff_ne]
        intro heq
        exact hfirst (List.mem_map.mpr ⟨e, he, heq.symm⟩)
      rw [if_pos hkey, hkey, hnone, beq_self_eq_true]
      rfl
    · rw [if_neg hkey, beq_eq_false_iff_ne.mpr hkey]

theorem keys_setFields {p : Payload} {table : List ((Block × String) × Value)}
    (h : ∀ entry ∈ table, (p.blocks entry.1.1).contains entry.1.2 = true) (b : Block) :
    keys ((setFields p table).blocks b) = keys (p.blocks b) := by
  induction table generalizing p with
  | nil => rfl
  | cons entry table ih =>
    obtain ⟨⟨b', key⟩, v⟩ := entry
    obtain ⟨hfirst, hrest⟩ := List.forall_mem_cons.mp h
    have hkeys (b : Block) : keys ((p.setField b' key v).blocks b) = keys (p.blocks b) := by
      by_cases hb : b = b'
      · subst hb
        simp only [Payload.setField, Function.update_self]
        exact keys_set hfirst v
      · simp only [Payload.setField, Function.update_of_ne hb]
    rw [setFields, ih fun entry hentry => ?_, hkeys]
    rw [← mem_keys, hkeys, mem_keys]
    exact hrest entry hentry

/-- Payloads are equal that give the same for the same fields. -/
theorem payload_ext {p q : Payload} (hmode : p.mode = q.mode) (hprofile : p.profile = q.profile)
    (hkeys : ∀ b, keys (p.blocks b) = keys (q.blocks b))
    (hget : ∀ b key, (p.blocks b).get? key = (q.blocks b).get? key) : p = q := by
  have hblocks : p.blocks = q.blocks := funext fun b => dict_ext (hkeys b) (hget b)
  obtain ⟨mode, profile, blocks⟩ := p
  obtain ⟨mode', profile', blocks'⟩ := q
  obtain rfl : mode = mode' := hmode
  obtain rfl : profile = profile' := hprofile
  obtain rfl : blocks = blocks' := hblocks
  rfl

-- ---------------------------------------------------------------------------
-- What is accepted
-- ---------------------------------------------------------------------------

section
variable [Interpreter]

/-- The fields that are normalized. -/
def tokenFields (p : Payload) (poll idle limit : Value) (ids : List Value) :
    List ((Block × String) × Value) :=
  [((.runtime, "loop_mode"), .str (token (p.field .runtime "loop_mode"))),
    ((.runtime, "poll_interval_seconds"), poll), ((.runtime, "idle_timeout_seconds"), idle),
    ((.runtime, "max_runtime_seconds"), limit),
    ((.ui, "backend"), .str (token (p.field .ui "backend"))),
    ((.sync, "backend"), .str (token (p.field .sync "backend"))),
    ((.naming, "policy"), .str (token (p.field .naming "policy"))),
    ((.plugins, "pc_name"), pcNameToken (p.field .plugins "pc_name")),
    ((.plugins, "device_plugins"), .tuple ids)]

/-- The payload with its tokens and the values that take the place of the others. -/
def normalForm (p : Payload) (poll idle limit : Value) (ids : List Value) : Payload :=
  setFields
    { p with
      mode := p.mode.map fun mode => .str (token mode)
      profile := optionalToken p.profile }
    (tokenFields p poll idle limit ids)

section
variable (p : Payload) (poll idle limit : Value) (ids : List Value)

theorem tokenFields_nodup : ((tokenFields p poll idle limit ids).map Prod.fst).Nodup := by
  simp [tokenFields]

theorem get?_normalForm (b : Block) (key : String) :
    ((normalForm p poll idle limit ids).blocks b).get? key =
      ((tokenFields p poll idle limit ids).lookup (b, key)).or ((p.blocks b).get? key) :=
  get?_setFields (tokenFields_nodup p poll idle limit ids) b key

theorem field_normalForm (b : Block) (key : String) :
    (normalForm p poll idle limit ids).field b key =
      ((tokenFields p poll idle limit ids).lookup (b, key)).getD (p.field b key) := by
  rw [Payload.field, Dict.getNone, Dict.getD, get?_normalForm]
  cases (tokenFields p poll idle limit ids).lookup (b, key) <;> rfl

omit [Interpreter] in
theorem setFields_mode {q : Payload} (table : List ((Block × String) × Value)) :
    (setFields q table).mode = q.mode ∧ (setFields q table).profile = q.profile := by
  induction table generalizing q with
  | nil => exact ⟨rfl, rfl⟩
  | cons entry table ih => exact ih

theorem mode_normalForm : (normalForm p poll idle limit ids).mode =
    p.mode.map fun mode => .str (token mode) := (setFields_mode _).1

theorem profile_normalForm : (normalForm p poll idle limit ids).profile =
    optionalToken p.profile := (setFields_mode _).2

end

variable [FloatRuntime]

theorem normalizeTokens_iff {p p' : Payload} : normalizeTokens p = .ok p' ↔
    ∃ poll idle limit ids,
      coerceNonNegativeFloat (p.field .runtime "poll_interval_seconds")
        "runtime.poll_interval_seconds" = .ok poll ∧
      coerceOptionalNonNegativeFloat (p.field .runtime "idle_timeout_seconds")
        "runtime.idle_timeout_seconds" = .ok idle ∧
      coerceOptionalNonNegativeFloat (p.field .runtime "max_runtime_seconds")
        "runtime.max_runtime_seconds" = .ok limit ∧
      normalizeDevicePlugins (p.field .plugins "device_plugins") = .ok ids ∧
      p' = normalForm p poll idle limit ids := by
  simp only [normalizeTokens, normalizeToken, except_bind_ok, except_pure_ok, field_setField,
    field_tokens]
  simp [normalForm, tokenFields, setFields, eq_comm]

/-- Seconds that are not negative. -/
def Measured (v : Value) : Prop :=
  ∃ r, FloatRuntime.float v = .ok r ∧ FloatRuntime.isNegative r = false

/-- What is given for the device plugins: nothing, or ids that are not blank. -/
def PluginIds (v : Value) : Prop :=
  v = .none ∨ v = .str "" ∨ ∃ ids, (v = .tuple ids ∨ v = .list ids) ∧ ∀ id ∈ ids, token id ≠ ""

omit [FloatRuntime] in
theorem normalizePluginIds_iff {ids ws : List Value} : normalizePluginIds ids = .ok ws ↔
    (∀ id ∈ ids, token id ≠ "") ∧ ws = ids.map fun id => .str (token id) := by
  induction ids generalizing ws with
  | nil =>
    constructor
    · intro h
      obtain rfl := Except.ok.inj h
      exact ⟨by simp, rfl⟩
    · rintro ⟨-, rfl⟩
      rfl
  | cons id ids ih =>
    unfold normalizePluginIds
    by_cases hblank : token id = ""
    · simp [hblank]
    · simp only [beq_iff_eq, hblank, if_false, except_bind_ok, except_pure_ok, ih]
      constructor
      · rintro ⟨_, ⟨hids, rfl⟩, rfl⟩
        exact ⟨List.forall_mem_cons.mpr ⟨hblank, hids⟩, rfl⟩
      · rintro ⟨hids, rfl⟩
        exact ⟨_, ⟨(List.forall_mem_cons.mp hids).2, rfl⟩, rfl⟩

omit [FloatRuntime] in
theorem normalizeDevicePlugins_isOk {v : Value} :
    (∃ ws, normalizeDevicePlugins v = .ok ws) ↔ PluginIds v := by
  unfold normalizeDevicePlugins PluginIds
  split <;> simp_all [normalizePluginIds_iff]

/-- What the schema asks of the fields it has merged. -/
structure Acceptable (p : Payload) : Prop where
  mode : ∃ v, p.mode = some v ∧ token v ∈ modes
  root : blank (pyStr ((p.field .paths "root").orElse (.str ""))) = false
  loopMode : token (p.field .runtime "loop_mode") ∈ loopModes
  poll : Measured (p.field .runtime "poll_interval_seconds")
  idle : p.field .runtime "idle_timeout_seconds" = .none ∨
    Measured (p.field .runtime "idle_timeout_seconds")
  limit : p.field .runtime "max_runtime_seconds" = .none ∨
    Measured (p.field .runtime "max_runtime_seconds")
  ui : token (p.field .ui "backend") ∈ uiBackends
  sync : token (p.field .sync "backend") ∈ syncBackends
  policy : token (p.field .naming "policy") ∈ namingPolicies
  devicePlugins : PluginIds (p.field .plugins "device_plugins")
  desktop : ∀ v, p.mode = some v → token v = "desktop" → token (p.field .ui "backend") = "desktop"

omit [Interpreter] [FloatRuntime] in
theorem validateConstraints_iff {p : Payload} {mode backend : String}
    (hmode : p.mode = some (.str mode)) (hbackend : p.field .ui "backend" = .str backend) :
    validateConstraints p = .ok () ↔ (mode = "desktop" → backend = "desktop") := by
  unfold validateConstraints
  rw [hmode, hbackend]
  by_cases hdesktop : mode = "desktop" <;> by_cases hui : backend = "desktop" <;>
    simp [Value.pyEq, hdesktop, hui]

omit [FloatRuntime] in
theorem validateEnums_iff {p : Payload} : validateEnums p = .ok () ↔
    (∃ s, p.mode.getD .none = .str s ∧ s ∈ modes) ∧
    (∃ s, p.field .runtime "loop_mode" = .str s ∧ s ∈ loopModes) ∧
    (∃ s, p.field .ui "backend" = .str s ∧ s ∈ uiBackends) ∧
    (∃ s, p.field .sync "backend" = .str s ∧ s ∈ syncBackends) ∧
    ∃ s, p.field .naming "policy" = .str s ∧ s ∈ namingPolicies := by
  unfold validateEnums
  simp only [except_bind_ok, validateEnum_ok]
  constructor
  · rintro ⟨-, h₁, -, h₂, -, h₃, -, h₄, h₅⟩
    exact ⟨h₁, h₂, h₃, h₄, h₅⟩
  · rintro ⟨h₁, h₂, h₃, h₄, h₅⟩
    exact ⟨(), h₁, (), h₂, (), h₃, (), h₄, h₅⟩

omit [FloatRuntime] in
theorem validateRequiredFields_iff {p : Payload} : validateRequiredFields p = .ok () ↔
    (∃ v, p.mode = some v) ∧
      blank (pyStr ((p.field .paths "root").orElse (.str ""))) = false := by
  refine ⟨validateRequiredFields_ok, ?_⟩
  rintro ⟨⟨v, hv⟩, hroot⟩
  simp [validateRequiredFields, hv, hroot]

theorem finish_ok {p p' : Payload} : finish p = .ok p' ↔
    validateRequiredFields p = .ok () ∧ normalizeTokens p = .ok p' ∧
      validateEnums p' = .ok () ∧ validateConstraints p' = .ok () := by
  unfold finish
  simp only [except_bind_ok, except_pure_ok]
  constructor
  · rintro ⟨_, hrequired, p', htokens, _, henums, _, hconstraints, rfl⟩
    exact ⟨hrequired, htokens, henums, hconstraints⟩
  · rintro ⟨hrequired, htokens, henums, hconstraints⟩
    exact ⟨(), hrequired, p', htokens, (), henums, (), hconstraints, rfl⟩

theorem Acceptable.normalized {p : Payload} (h : Acceptable p) :
    ∃ p', normalizeTokens p = .ok p' := by
  have hoptional {v : Value} (hv : v = .none ∨ Measured v) (path : String) :
      ∃ r, coerceOptionalNonNegativeFloat v path = .ok r := by
    by_cases hnone : v = .none
    · exact ⟨.none, coerceOptionalNonNegativeFloat_ok.mpr (.inl ⟨hnone, rfl⟩)⟩
    · obtain ⟨r, hr⟩ := hv.resolve_left hnone
      exact ⟨r, coerceOptionalNonNegativeFloat_ok.mpr (.inr ⟨hnone, hr⟩)⟩
  obtain ⟨poll, hpoll⟩ := h.poll
  obtain ⟨idle, hidle⟩ := hoptional h.idle "runtime.idle_timeout_seconds"
  obtain ⟨limit, hlimit⟩ := hoptional h.limit "runtime.max_runtime_seconds"
  obtain ⟨ids, hids⟩ := normalizeDevicePlugins_isOk.mpr h.devicePlugins
  exact ⟨_, normalizeTokens_iff.mpr ⟨poll, idle, limit, ids, coerceNonNegativeFloat_ok.mpr hpoll,
    hidle, hlimit, hids, rfl⟩⟩

omit [FloatRuntime] in
theorem enums_normalForm {p : Payload} {v : Value} (hv : p.mode = some v) (poll idle limit : Value)
    (ids : List Value) : validateEnums (normalForm p poll idle limit ids) = .ok () ↔
      token v ∈ modes ∧ token (p.field .runtime "loop_mode") ∈ loopModes ∧
      token (p.field .ui "backend") ∈ uiBackends ∧
      token (p.field .sync "backend") ∈ syncBackends ∧
      token (p.field .naming "policy") ∈ namingPolicies := by
  have hmode := mode_normalForm p poll idle limit ids
  have htoken {b : Block} {key : String} (hlookup :
      (tokenFields p poll idle limit ids).lookup (b, key) = some (.str (token (p.field b key)))) :
      (normalForm p poll idle limit ids).field b key = .str (token (p.field b key)) := by
    rw [field_normalForm, hlookup, Option.getD_some]
  rw [hv] at hmode
  rw [validateEnums_iff, hmode, htoken rfl, htoken rfl, htoken rfl, htoken rfl]
  simp

omit [FloatRuntime] in
theorem constraints_normalForm {p : Payload} {v : Value} (hv : p.mode = some v)
    (poll idle limit : Value) (ids : List Value) :
    validateConstraints (normalForm p poll idle limit ids) = .ok () ↔
      (token v = "desktop" → token (p.field .ui "backend") = "desktop") := by
  refine validateConstraints_iff ?_ ?_
  · rw [mode_normalForm, hv]
    rfl
  · rw [field_normalForm]
    rfl

/-- The schema accepts what is acceptable, with its tokens normalized. -/
theorem finish_iff {p p' : Payload} :
    finish p = .ok p' ↔ Acceptable p ∧ normalizeTokens p = .ok p' := by
  have hoptional {v r : Value} {path : String}
      (h : coerceOptionalNonNegativeFloat v path = .ok r) : v = .none ∨ Measured v := by
    rcases coerceOptionalNonNegativeFloat_ok.mp h with ⟨hnone, -⟩ | ⟨-, hr⟩
    · exact .inl hnone
    · exact .inr ⟨r, hr⟩
  rw [finish_ok, validateRequiredFields_iff]
  constructor
  · rintro ⟨⟨⟨v, hv⟩, hroot⟩, htokens, henums, hconstraints⟩
    refine ⟨?_, htokens⟩
    obtain ⟨poll, idle, limit, ids, hpoll, hidle, hlimit, hids, rfl⟩ :=
      normalizeTokens_iff.mp htokens
    obtain ⟨hmode, hloop, hui, hsync, hpolicy⟩ :=
      (enums_normalForm hv poll idle limit ids).mp henums
    have hdesktop := (constraints_normalForm hv poll idle limit ids).mp hconstraints
    exact {
      mode := ⟨v, hv, hmode⟩
      root := hroot
      loopMode := hloop
      poll := ⟨poll, coerceNonNegativeFloat_ok.mp hpoll⟩
      idle := hoptional hidle
      limit := hoptional hlimit
      ui := hui
      sync := hsync
      policy := hpolicy
      devicePlugins := normalizeDevicePlugins_isOk.mp ⟨ids, hids⟩
      desktop := fun w hw => Option.some.inj (hv.symm.trans hw) ▸ hdesktop }
  · rintro ⟨h, htokens⟩
    obtain ⟨v, hv, hmode⟩ := h.mode
    refine ⟨⟨⟨v, hv⟩, h.root⟩, htokens, ?_⟩
    obtain ⟨poll, idle, limit, ids, -, -, -, -, rfl⟩ := normalizeTokens_iff.mp htokens
    rw [enums_normalForm hv, constraints_normalForm hv]
    exact ⟨⟨hmode, h.loopMode, h.ui, h.sync, h.policy⟩, h.desktop v hv⟩

-- ---------------------------------------------------------------------------
-- What is accepted is accepted again
-- ---------------------------------------------------------------------------

section
variable [LawfulLower]

omit [FloatRuntime] in
theorem optionalToken_idem (v : Value) : optionalToken (optionalToken v) = optionalToken v := by
  cases v <;> simp [optionalToken, token_token]

omit [FloatRuntime] in
theorem pcNameToken_idem (v : Value) : pcNameToken (pcNameToken v) = pcNameToken v := by
  have hstr (w : Value) : pcNameToken (if token w == "" then .none else .str (token w)) =
      if token w == "" then .none else .str (token w) := by
    split
    · rfl
    · next hne => simp [pcNameToken, token_token, hne]
  cases v
  case none => rfl
  all_goals exact hstr _

omit [FloatRuntime] in
theorem tokenFields_normalForm (p : Payload) (poll idle limit : Value) (ids : List Value) :
    tokenFields (normalForm p poll idle limit ids) poll idle limit ids =
      tokenFields p poll idle limit ids := by
  have htoken {b : Block} {key : String} (hlookup :
      (tokenFields p poll idle limit ids).lookup (b, key) = some (.str (token (p.field b key)))) :
      token ((normalForm p poll idle limit ids).field b key) = token (p.field b key) := by
    rw [field_normalForm, hlookup, Option.getD_some, token_token]
  have hpc : (normalForm p poll idle limit ids).field .plugins "pc_name" =
      pcNameToken (p.field .plugins "pc_name") := by
    rw [field_normalForm]
    rfl
  unfold tokenFields
  rw [htoken rfl, htoken rfl, htoken rfl, htoken rfl, hpc, pcNameToken_idem]

omit [FloatRuntime] [LawfulLower] in
theorem keys_normalForm {p : Payload} (hkeys : ∀ b, keys (p.blocks b) = keys b.template)
    (poll idle limit : Value) (ids : List Value) (b : Block) :
    keys ((normalForm p poll idle limit ids).blocks b) = keys b.template := by
  have hknown : ∀ entry ∈ tokenFields p poll idle limit ids,
      entry.1.1.template.contains entry.1.2 = true := by
    simp only [tokenFields, List.forall_mem_cons]
    decide
  refine (keys_setFields (fun entry hentry => ?_) b).trans (hkeys b)
  rw [← mem_keys]
  exact (hkeys entry.1.1).symm ▸ mem_keys.mpr (hknown entry hentry)

omit [FloatRuntime] in
theorem normalForm_idem {p : Payload} (hkeys : ∀ b, keys (p.blocks b) = keys b.template)
    (poll idle limit : Value) (ids : List Value) :
    normalForm (normalForm p poll idle limit ids) poll idle limit ids =
      normalForm p poll idle limit ids := by
  refine payload_ext ?_ ?_ (fun b => ?_) fun b key => ?_
  · rw [mode_normalForm, mode_normalForm]
    cases p.mode <;> simp [token_token]
  · rw [profile_normalForm, profile_normalForm, optionalToken_idem]
  · rw [keys_normalForm (keys_normalForm hkeys poll idle limit ids), keys_normalForm hkeys]
  · rw [get?_normalForm, tokenFields_normalForm, get?_normalForm, ← Option.or_assoc, Option.or_self]

theorem finish_again {p p' : Payload} (hkeys : ∀ b, keys (p.blocks b) = keys b.template)
    (h : finish p = .ok p') : finish p' = .ok p' := by
  obtain ⟨hrequired, htokens, henums, hconstraints⟩ := finish_ok.mp h
  obtain ⟨⟨v, hv⟩, hroot⟩ := validateRequiredFields_iff.mp hrequired
  obtain ⟨poll, idle, limit, ids, hpoll, hidle, hlimit, hids, rfl⟩ := normalizeTokens_iff.mp htokens
  obtain ⟨raw, hraw, hnonempty⟩ := normalizeDevicePlugins_ok hids
  have hfield := field_normalForm p poll idle limit ids
  -- what `float()` gave it gives again
  have hagain {v r : Value} {path : String} (hv : coerceNonNegativeFloat v path = .ok r) :
      coerceNonNegativeFloat r path = .ok r := by
    obtain ⟨hfloat, hnegative⟩ := coerceNonNegativeFloat_ok.mp hv
    exact coerceNonNegativeFloat_ok.mpr ⟨FloatRuntime.float_float v r hfloat, hnegative⟩
  have hoptional {v r : Value} {path : String}
      (hv : coerceOptionalNonNegativeFloat v path = .ok r) :
      coerceOptionalNonNegativeFloat r path = .ok r := by
    rcases coerceOptionalNonNegativeFloat_ok.mp hv with ⟨-, rfl⟩ | ⟨-, hfloat, hnegative⟩
    · rfl
    · by_cases hnone : r = .none
      · rw [hnone]
        rfl
      · exact coerceOptionalNonNegativeFloat_ok.mpr
          (.inr ⟨hnone, FloatRuntime.float_float v r hfloat, hnegative⟩)
  have hplugins : normalizeDevicePlugins (.tuple ids) = .ok ids := by
    refine normalizePluginIds_iff.mpr ⟨fun id hid => ?_, ?_⟩
    · obtain ⟨v, hv, rfl⟩ := List.mem_map.mp (hraw ▸ hid)
      rw [token_token]
      exact hnonempty v hv
    · rw [hraw, List.map_map]
      exact (List.map_congr_left fun v _ => by simp [token_token]).symm
  have htokens' : normalizeTokens (normalForm p poll idle limit ids) =
      .ok (normalForm p poll idle limit ids) := by
    refine normalizeTokens_iff.mpr ⟨poll, idle, limit, ids, ?_, ?_, ?_, ?_,
      (normalForm_idem hkeys poll idle limit ids).symm⟩
    · rw [hfield]
      exact hagain hpoll
    · rw [hfield]
      exact hoptional hidle
    · rw [hfield]
      exact hoptional hlimit
    · rw [hfield]
      exact hplugins
  refine finish_ok.mpr ⟨validateRequiredFields_iff.mpr ⟨⟨.str (token v), ?_⟩, ?_⟩, htokens',
    henums, hconstraints⟩
  · rw [mode_normalForm, hv]
    rfl
  · rw [hfield]
    exact hroot

omit [LawfulLower] in
theorem finish_keys {p p' : Payload} (hkeys : ∀ b, keys (p.blocks b) = keys b.template)
    (h : finish p = .ok p') (b : Block) : keys (p'.blocks b) = keys b.template := by
  obtain ⟨-, htokens, -⟩ := finish_ok.mp h
  obtain ⟨poll, idle, limit, ids, -, -, -, -, rfl⟩ := normalizeTokens_iff.mp htokens
  exact keys_normalForm hkeys poll idle limit ids b

end

/-- The entries of the dict that is returned. -/
def payloadEntries (p : Payload) : List (String × Value) :=
  ("profile", p.profile) :: Block.all.map (fun b => (b.name, .dict (p.blocks b).entries)) ++
    (p.mode.map fun mode => ("mode", mode)).toList

omit [Interpreter] [FloatRuntime] in
theorem payloadEntries_nodup (p : Payload) : ((payloadEntries p).map Prod.fst).Nodup := by
  cases hmode : p.mode <;> simp [payloadEntries, hmode, Block.all, Block.name]

omit [Interpreter] [FloatRuntime] in
theorem get?_payload (p : Payload) (k : String) :
    (Dict.ofEntries (payloadEntries p)).get? k = (payloadEntries p).lookup k :=
  Dict.get?_ofEntries (payloadEntries_nodup p) k

omit [Interpreter] [FloatRuntime] in
theorem block_payload (p : Payload) (b : Block) :
    (Dict.ofEntries (payloadEntries p)).get? b.name = some (.dict (p.blocks b).entries) := by
  rw [get?_payload]
  cases b <;> rfl

/-- A payload as it is validated again. -/
def payloadMapping (p : Payload) : RawMapping where
  fields := Dict.ofEntries (payloadEntries p)
  nested b es hes := by
    rw [block_payload] at hes
    cases Option.some.inj hes
    exact (p.blocks b).nodup

omit [Interpreter] [FloatRuntime] in
theorem field_payload (p : Payload) {k : String} (hk : isBlock k = false) :
    (view (payloadMapping p).fields).field k =
      if k = "profile" then some p.profile else if k = "mode" then p.mode else none := by
  have hblocks : (Block.all.map fun b => (b.name, Value.dict (p.blocks b).entries)).lookup k =
      none := by
    refine lookup_none_of_not_mem fun hmem => ?_
    rw [List.map_map] at hmem
    obtain ⟨b, -, hname⟩ := List.mem_map.mp hmem
    exact name_ne hk b hname
  rw [field_view hk, payloadMapping, get?_payload, payloadEntries, List.cons_append, lookup_cons',
    List.lookup_append, hblocks, Option.none_or]
  split
  · rfl
  · cases p.mode with
    | none => simp
    | some mode =>
      rw [Option.map_some, Option.toList_some, lookup_cons']
      rfl

omit [Interpreter] [FloatRuntime] in
theorem entries_payload (p : Payload) (b : Block) (k : String) :
    (view (payloadMapping p).fields).entries b k = (p.blocks b).get? k := by
  rw [entries_view, payloadMapping, block_payload]
  rfl

omit [Interpreter] [FloatRuntime] in
theorem payload_shaped {p : Payload} (hkeys : ∀ b, keys (p.blocks b) = keys b.template) :
    (view (payloadMapping p).fields).Shaped := by
  refine ⟨fun k v hv => ?_, fun b hother => ?_, fun b k v hv => ?_⟩
  · have hk : isBlock k = false := by
      cases hblock : isBlock k with
      | false => rfl
      | true => simp [view, hblock] at hv
    rw [field_payload p hk] at hv
    split at hv
    · next hprofile => exact .inr hprofile
    · split at hv
      · next hmode => exact .inl hmode
      · cases hv
  · simp [view, payloadMapping, block_payload, blockView] at hother
  · rw [entries_payload] at hv
    rw [← mem_keys, ← hkeys, mem_keys, Dict.contains, hv]
    rfl

omit [Interpreter] [FloatRuntime] in
theorem payload_reads {p : Payload} (hkeys : ∀ b, keys (p.blocks b) = keys b.template) :
    (view (payloadMapping p).fields).Reads p := by
  refine ⟨?_, ?_, hkeys, fun b k => ?_⟩
  · rw [field_payload p (by decide)]
    rfl
  · rw [field_payload p (by decide)]
    rfl
  · rw [entries_payload]
    cases hget : (p.blocks b).get? k with
    | some v => rfl
    | none =>
      have hmissing : k ∉ keys b.template := by
        rw [← hkeys, mem_keys, Dict.contains, hget]
        exact Bool.false_ne_true
      cases htemplate : b.template.get? k with
      | none => rfl
      | some v => exact absurd (mem_keys.mpr (by rw [Dict.contains, htemplate]; rfl)) hmissing

omit [Interpreter] [FloatRuntime] in
/-- Without aliases nothing is rewritten. -/
theorem foldlM_resolve_plain {foreign : List String} {w : View} {entries : List (String × Target)}
    (h : ∀ entry ∈ entries, w.field entry.1 = none) :
    entries.foldlM (View.resolve foreign) w = some w := by
  induction entries with
  | nil => rfl
  | cons entry entries ih =>
    obtain ⟨hentry, hrest⟩ := List.forall_mem_cons.mp h
    have hstep : w.resolve foreign entry = some w := by
      unfold View.resolve
      rw [hentry]
    rw [List.foldlM_cons, hstep]
    exact ih hrest

theorem validateRawSettings_iff {raw : RawMapping} {p' : Payload} :
    validateRawSettings raw = .ok p' ↔
      ∃ w p, aliases.foldlM (View.resolve raw.foreign) (view raw.fields) = some w ∧ w.Shaped ∧
        w.Reads p ∧ finish p = .ok p' := by
  have hsplit : validateRawSettings raw =
      ((normalizeAliases raw.foreign raw.fields >>= mergeWithTemplate) >>= finish) := by
    rw [bind_assoc]
    rfl
  rw [hsplit, except_bind_ok]
  constructor
  · rintro ⟨p, hmerged, hfinish⟩
    obtain ⟨w, hw, hshaped, hreads⟩ := merged_iff.mp hmerged
    exact ⟨w, p, hw, hshaped, hreads, hfinish⟩
  · rintro ⟨w, p, hw, hshaped, hreads, hfinish⟩
    exact ⟨p, merged_iff.mpr ⟨w, hw, hshaped, hreads⟩, hfinish⟩

/-- What the schema accepts it accepts again, and gives the same. -/
theorem validate_again [LawfulLower] {raw : RawMapping} {p : Payload}
    (h : validateRawSettings raw = .ok p) : validateRawSettings (payloadMapping p) = .ok p := by
  obtain ⟨w, merged, -, -, hreads, hfinish⟩ := validateRawSettings_iff.mp h
  have hkeys := finish_keys hreads.keys hfinish
  refine validateRawSettings_iff.mpr ⟨_, p, foldlM_resolve_plain fun entry hentry => ?_,
    payload_shaped hkeys, payload_reads hkeys, finish_again hreads.keys hfinish⟩
  have hname : ∀ entry ∈ aliases, entry.1 ≠ "profile" ∧ entry.1 ≠ "mode" := by
    simp [aliases]
  rw [field_payload p (aliases_plain entry hentry).1, if_neg (hname entry hentry).1,
    if_neg (hname entry hentry).2]

end

-- ---------------------------------------------------------------------------
-- An alias and its path
-- ---------------------------------------------------------------------------

/-- The name a target is found under. -/
def Target.slot : Target → String
  | top name => name
  | nested block _ => block.name

/-- Two aliases that have nothing to do with each other. -/
structure Apart (entry entry' : String × Target) : Prop where
  name : entry.1 ≠ entry'.1
  slot : entry.2.slot ≠ entry'.2.slot
  left : entry.2.slot ≠ entry'.1
  right : entry'.2.slot ≠ entry.1

namespace View

variable {w : View} {foreign kind kind' : List String} {t t' : Target} {v v' : Value} {k : String}

/-- The view with a field that is given, or not. -/
def assign (w : View) (k : String) (o : Option Value) : View :=
  { w with field := Function.update w.field k o }

theorem block_ne {b b' : Block} (h : (Target.nested b leaf).slot ≠ (Target.nested b' leaf').slot) :
    b ≠ b' := fun heq => h (congrArg Block.name heq)

theorem field_put (h : k ≠ t.slot) : (w.put kind t v).field k = w.field k := by
  cases t with
  | top name => exact Function.update_of_ne h ..
  | nested b leaf => rfl

theorem at?_put (h : t'.slot ≠ t.slot) : (w.put kind t v).at? t' = w.at? t' := by
  cases t' with
  | top name => exact field_put h
  | nested b' leaf' =>
    cases t with
    | top name => rfl
    | nested b leaf =>
      simp only [at?, put, Function.update_of_ne (block_ne h)]

theorem at?_assign (h : t.slot ≠ k) (o : Option Value) : (w.assign k o).at? t = w.at? t := by
  cases t with
  | top name => exact Function.update_of_ne h ..
  | nested b leaf => rfl

theorem put_assign (h : k ≠ t.slot) (o : Option Value) :
    (w.assign k o).put kind t v = (w.put kind t v).assign k o := by
  cases t with
  | top name =>
    have hname : k ≠ name := h
    simp only [put, assign, Function.update_comm hname]
  | nested b leaf => rfl

theorem put_put (h : t.slot ≠ t'.slot) :
    (w.put kind t v).put kind' t' v' = (w.put kind' t' v').put kind t v := by
  cases t with
  | top name =>
    cases t' with
    | top name' =>
      have hname : name ≠ name' := h
      simp only [put, Function.update_comm hname]
    | nested b' leaf' => rfl
  | nested b leaf =>
    cases t' with
    | top name' => rfl
    | nested b' leaf' =>
      have hb := block_ne h
      simp only [put, kept, Function.update_of_ne hb, Function.update_of_ne hb.symm,
        Function.update_comm hb]

/-- An alias is resolved beside what is found elsewhere. -/
theorem resolve_put {entry : String × Target} (hname : entry.1 ≠ t.slot)
    (hslot : entry.2.slot ≠ t.slot) :
    (w.put kind t v).resolve foreign entry = (w.resolve foreign entry).map (·.put kind t v) := by
  have hdrop : (w.put kind t v).drop entry.1 = (w.drop entry.1).put kind t v :=
    (put_assign hname none).symm
  unfold resolve
  rw [field_put hname]
  cases w.field entry.1 with
  | none => rfl
  | some u =>
    simp only [hdrop, at?_put hslot]
    cases (w.drop entry.1).at? entry.2 with
    | none => simp only [Option.map_some, put_put hslot.symm]
    | some u' =>
      dsimp only
      split <;> rfl

theorem resolve_assign {entry : String × Target} (hname : entry.1 ≠ k)
    (hslot : entry.2.slot ≠ k) (o : Option Value) :
    (w.assign k o).resolve foreign entry = (w.resolve foreign entry).map (·.assign k o) := by
  have hfield : (w.assign k o).field entry.1 = w.field entry.1 := Function.update_of_ne hname ..
  have hdrop : (w.assign k o).drop entry.1 = (w.drop entry.1).assign k o := by
    simp only [drop, assign, Function.update_comm hname]
  unfold resolve
  rw [hfield]
  cases w.field entry.1 with
  | none => rfl
  | some u =>
    simp only [hdrop, at?_assign hslot]
    cases (w.drop entry.1).at? entry.2 with
    | none => simp only [Option.map_some, put_assign hslot.symm]
    | some u' =>
      dsimp only
      split <;> rfl

/-- What an alias leaves of another. -/
theorem resolve_frame {y : View} {entry entry' : String × Target} (h : Apart entry entry')
    (hy : w.resolve foreign entry = some y) :
    y.field entry'.1 = w.field entry'.1 ∧ y.at? entry'.2 = w.at? entry'.2 ∧
      ∀ b leaf, entry'.2 = .nested b leaf → y.block b = w.block b := by
  have hfield : (w.drop entry.1).field entry'.1 = w.field entry'.1 :=
    Function.update_of_ne h.name.symm ..
  have hat : (w.drop entry.1).at? entry'.2 = w.at? entry'.2 := at?_assign h.right none
  unfold resolve at hy
  split at hy
  · obtain rfl := Option.some.inj hy
    exact ⟨rfl, rfl, fun _ _ _ => rfl⟩
  · split at hy
    · split at hy
      · obtain rfl := Option.some.inj hy
        exact ⟨hfield, hat, fun _ _ _ => rfl⟩
      · cases hy
    · obtain rfl := Option.some.inj hy
      refine ⟨(field_put h.left.symm).trans hfield, (at?_put h.slot.symm).trans hat, ?_⟩
      intro b leaf heq
      cases htarget : entry.2 with
      | top name => rfl
      | nested b' leaf' =>
        have hslot := h.slot
        rw [heq, htarget] at hslot
        exact Function.update_of_ne (block_ne hslot).symm ..

theorem resolve_plain {entry : String × Target} (h : w.field entry.1 = none) :
    w.resolve foreign entry = some w := by
  unfold resolve
  rw [h]

/-- The other aliases are resolved beside a field that is set at its path. -/
theorem foldlM_resolve_put {entry : String × Target} {entries : List (String × Target)}
    (hapart : ∀ entry' ∈ entries, entry' ≠ entry → Apart entry' entry)
    (hslot : entry.1 ≠ entry.2.slot) (hfield : w.field entry.1 = none) :
    entries.foldlM (resolve foreign) (w.put kind entry.2 v) =
      (entries.foldlM (resolve foreign) w).map (·.put kind entry.2 v) := by
  induction entries generalizing w with
  | nil => rfl
  | cons first entries ih =>
    obtain ⟨hhead, hrest⟩ := List.forall_mem_cons.mp hapart
    rw [List.foldlM_cons, List.foldlM_cons]
    by_cases heq : first = entry
    · subst heq
      have hput : (w.put kind first.2 v).field first.1 = none := by rw [field_put hslot, hfield]
      rw [resolve_plain hput, resolve_plain hfield]
      exact ih hrest hfield
    · have h := hhead heq
      rw [resolve_put h.right.symm h.slot]
      cases hy : w.resolve foreign first with
      | none => rfl
      | some y =>
        obtain ⟨hfield', -, -⟩ := resolve_frame h hy
        exact ih hrest (hfield'.trans hfield)

/-- A field that is given by its alias alone is set at its path, beside the others. -/
theorem foldlM_resolve_assign {entry : String × Target} {entries : List (String × Target)}
    (hnodup : entries.Nodup) (hmem : entry ∈ entries)
    (hapart : ∀ entry' ∈ entries, entry' ≠ entry → Apart entry' entry)
    (hslot : entry.1 ≠ entry.2.slot) (hfield : w.field entry.1 = none)
    (hat : w.at? entry.2 = none) :
    entries.foldlM (resolve foreign) (w.assign entry.1 (some v)) =
      (entries.foldlM (resolve foreign) w).map (·.put foreign entry.2 v) := by
  induction entries generalizing w with
  | nil => cases hmem
  | cons first entries ih =>
    obtain ⟨hfirst, hnodup⟩ := List.nodup_cons.mp hnodup
    obtain ⟨hhead, hrest⟩ := List.forall_mem_cons.mp hapart
    rw [List.foldlM_cons, List.foldlM_cons]
    by_cases heq : first = entry
    · subst heq
      have hsame : (w.assign first.1 (some v)).drop first.1 = w := by
        have hnone : Function.update w.field first.1 none = w.field := by
          rw [← hfield, Function.update_eq_self]
        simp only [drop, assign, Function.update_idem, hnone]
      have hgiven : (w.assign first.1 (some v)).resolve foreign first =
          some (w.put foreign first.2 v) := by
        have hvalue : (w.assign first.1 (some v)).field first.1 = some v := Function.update_self ..
        unfold resolve
        rw [hvalue]
        simp only [hsame, hat]
      rw [hgiven, resolve_plain hfield]
      exact foldlM_resolve_put hrest hslot hfield
    · have h := hhead heq
      rw [resolve_assign h.name h.left]
      cases hy : w.resolve foreign first with
      | none => rfl
      | some y =>
        obtain ⟨hfield', hat', -⟩ := resolve_frame h hy
        refine ih hnodup ((List.mem_cons.mp hmem).resolve_left (Ne.symm heq)) hrest ?_ ?_
        · rw [hfield', hfield]
        · rw [hat', hat]

/-- The block of a field that is not given stays as it is. -/
theorem foldlM_resolve_block {y : View} {a : String} {b : Block} {leaf : String}
    {entries : List (String × Target)}
    (hapart : ∀ entry ∈ entries, entry ≠ (a, .nested b leaf) → Apart entry (a, .nested b leaf))
    (hfield : w.field a = none) (hy : entries.foldlM (resolve foreign) w = some y) :
    y.block b = w.block b := by
  induction entries generalizing w with
  | nil =>
    obtain rfl := Option.some.inj hy
    rfl
  | cons entry entries ih =>
    obtain ⟨hhead, hrest⟩ := List.forall_mem_cons.mp hapart
    rw [List.foldlM_cons] at hy
    obtain ⟨z, hz, hy⟩ := Option.bind_eq_some_iff.mp hy
    by_cases heq : entry = (a, .nested b leaf)
    · subst heq
      obtain rfl := Option.some.inj ((resolve_plain hfield).symm.trans hz)
      exact ih hrest hfield hy
    · obtain ⟨hfield', -, hblock⟩ := resolve_frame (hhead heq) hz
      rw [ih hrest (hfield'.trans hfield) hy]
      exact hblock b leaf rfl

end View

theorem aliases_nodup : aliases.Nodup := by
  have hnames : (aliases.map Prod.fst).Nodup := by decide
  exact hnames.of_map

theorem aliases_apart : ∀ entry ∈ aliases, ∀ entry' ∈ aliases, entry' ≠ entry →
    Apart entry' entry := by
  intro entry hentry entry' hentry' hne
  simp only [aliases, List.mem_cons, List.not_mem_nil, or_false] at hentry hentry'
  rcases hentry with rfl | rfl | rfl | rfl <;> rcases hentry' with rfl | rfl | rfl | rfl
  all_goals first
    | exact absurd rfl hne
    | exact ⟨by decide, by decide, by decide, by decide⟩

theorem aliases_slot : ∀ entry ∈ aliases, entry.1 ≠ entry.2.slot := by
  simp [aliases, Target.slot, Block.name]

/-- The second mapping gives by its path what the first gives by its alias. -/
structure Spelled (entry : String × Target) (v : Value) (raw raw' : RawMapping) : Prop where
  foreign : raw'.foreign = raw.foreign
  given : raw.fields.get? entry.1 = some v
  ungiven : getPath? (.dict raw.fields.entries) entry.2.path = none
  unaliased : raw'.fields.get? entry.1 = none
  spelled : getPath? (.dict raw'.fields.entries) entry.2.path = some v
  others : ∀ k, k ≠ entry.1 → k ≠ entry.2.slot → raw'.fields.get? k = raw.fields.get? k
  mapping : ∀ b leaf, entry.2 = .nested b leaf →
    blockView (raw.fields.get? b.name) ≠ .other ∧
    ∀ k, k ≠ leaf → nestedEntries (raw'.fields.get? b.name) k =
      nestedEntries (raw.fields.get? b.name) k

section
variable {entry : String × Target} {v : Value} {raw raw' : RawMapping}

theorem Spelled.view_aliased (h : Spelled entry v raw raw') (hplain : isBlock entry.1 = false) :
    ((view raw.fields).drop entry.1).assign entry.1 (some v) = view raw.fields := by
  have hvalue : (view raw.fields).field entry.1 = some v := by
    rw [field_view hplain, h.given]
  simp only [View.drop, View.assign, Function.update_idem, ← hvalue, Function.update_eq_self]

theorem kept_entries (w : View) (b : Block) : w.kept [] b = w.entries b := by
  unfold View.kept View.entries
  cases w.block b <;> rfl

theorem Spelled.view_spelled (h : Spelled entry v raw raw') (hplain : isBlock entry.1 = false)
    (htarget : entry.2.Plain) :
    ((view raw.fields).drop entry.1).put [] entry.2 v = view raw'.fields := by
  have hspelled := h.spelled
  rw [getPath?_view htarget] at hspelled
  obtain ⟨a, target⟩ := entry
  -- fields that are neither the alias nor its target
  have hothers {k : String} (ha : k ≠ a) (hk : k ≠ target.slot) :
      (view raw'.fields).field k = (view raw.fields).field k := by
    simp only [view, h.others k ha hk]
  have hunaliased : (view raw'.fields).field a = none := by
    rw [field_view hplain, h.unaliased]
  have hblock {b : Block} (hb : b.name ≠ target.slot) :
      (view raw'.fields).block b = (view raw.fields).block b := by
    simp only [view, h.others b.name (name_ne hplain b) hb]
  cases target with
  | top name =>
    refine View.ext (funext fun k => ?_) (funext fun b => (hblock (name_ne htarget b)).symm)
    by_cases hname : k = name
    · subst hname
      exact (Function.update_self ..).trans hspelled.symm
    · refine (Function.update_of_ne hname ..).trans ?_
      by_cases ha : k = a
      · subst ha
        exact (Function.update_self ..).trans hunaliased.symm
      · exact (Function.update_of_ne ha ..).trans (hothers ha hname).symm
  | nested b leaf =>
    obtain ⟨hmapping, hentries⟩ := h.mapping b leaf rfl
    refine View.ext (funext fun k => ?_) (funext fun b' => ?_)
    · by_cases ha : k = a
      · subst ha
        exact (Function.update_self ..).trans hunaliased.symm
      · refine (Function.update_of_ne ha ..).trans ?_
        by_cases hk : k = b.name
        · subst hk
          simp [view, isBlock_name]
        · exact (hothers ha hk).symm
    · by_cases hb : b' = b
      · subst hb
        refine (Function.update_self ..).trans ?_
        -- the mapping that has the field
        obtain ⟨es, hes, hleaf⟩ : ∃ es, (view raw'.fields).block b' = .mapping es ∧
            es leaf = some v := by
          simp only [View.at?] at hspelled
          split at hspelled
          · next es hes => exact ⟨es, hes, hspelled⟩
          · cases hspelled
        have hnested (k : String) : es k = nestedEntries (raw'.fields.get? b'.name) k := by
          rw [← entries_view, View.entries, hes]
        rw [hes, kept_entries]
        congr 1
        funext k
        by_cases hk : k = leaf
        · subst hk
          rw [Function.update_self, hleaf]
        · rw [Function.update_of_ne hk, hnested, hentries k hk, ← entries_view]
          rfl
      · have hname : b'.name ≠ b.name := fun heq => hb (name_injective heq)
        exact (Function.update_of_ne hb ..).trans (hblock hname).symm

end

-- ---------------------------------------------------------------------------
-- Reading a view
-- ---------------------------------------------------------------------------

theorem lookup_map_value (f : String → Value → Value) (es : List (String × Value)) (k : String) :
    (es.map fun e => (e.1, f e.1 e.2)).lookup k = (es.lookup k).map (f k) := by
  induction es with
  | nil => rfl
  | cons e es ih =>
    obtain ⟨k', v⟩ := e
    rw [List.map_cons, lookup_cons', lookup_cons', ih]
    by_cases hk : k = k'
    · subst hk
      rw [if_pos rfl, if_pos rfl]
      rfl
    · rw [if_neg hk, if_neg hk]

/-- The entries of a block over the template. -/
def readEntries (w : View) (b : Block) : List (String × Value) :=
  b.template.entries.map fun e => (e.1, (w.entries b e.1).getD e.2)

theorem readEntries_keys (w : View) (b : Block) :
    (readEntries w b).map Prod.fst = keys b.template := by
  simp [readEntries, keys]

theorem readEntries_nodup (w : View) (b : Block) : ((readEntries w b).map Prod.fst).Nodup := by
  rw [readEntries_keys]
  exact b.template.nodup

/-- The payload that is read off a view. -/
def readPayload (w : View) : Payload where
  mode := w.field "mode"
  profile := (w.field "profile").getD .none
  blocks b := ⟨readEntries w b, readEntries_nodup w b⟩

theorem View.Shaped.reads {w : View} (h : w.Shaped) : w.Reads (readPayload w) := by
  refine ⟨rfl, rfl, readEntries_keys w, fun b k => ?_⟩
  have hlookup : ((readPayload w).blocks b).get? k =
      (b.template.get? k).map fun v => (w.entries b k).getD v :=
    lookup_map_value (fun k v => (w.entries b k).getD v) _ k
  rw [hlookup]
  cases hentry : w.entries b k with
  | none => cases b.template.get? k <;> rfl
  | some v =>
    obtain ⟨u, hu⟩ := Option.isSome_iff_exists.mp (h.entry b k v hentry)
    rw [hu]
    rfl

-- ---------------------------------------------------------------------------
-- When a field may be given by its alias
-- ---------------------------------------------------------------------------

section
variable [Interpreter] [FloatRuntime]

/-- A mapping whose fields have a place in the template and the values that the schema asks for,
and whose aliases do not collide. -/
def AcceptableMapping (raw : RawMapping) : Prop :=
  ∃ w p, aliases.foldlM (View.resolve raw.foreign) (view raw.fields) = some w ∧ w.Shaped ∧
    w.Reads p ∧ Acceptable p

theorem acceptableMapping_iff {raw : RawMapping} :
    AcceptableMapping raw ↔ ∃ p, validateRawSettings raw = .ok p := by
  constructor
  · rintro ⟨w, p, hw, hshaped, hreads, hp⟩
    obtain ⟨p', htokens⟩ := hp.normalized
    exact ⟨p', validateRawSettings_iff.mpr
      ⟨w, p, hw, hshaped, hreads, finish_iff.mpr ⟨hp, htokens⟩⟩⟩
  · rintro ⟨p', h⟩
    obtain ⟨w, p, hw, hshaped, hreads, hfinish⟩ := validateRawSettings_iff.mp h
    exact ⟨w, p, hw, hshaped, hreads, (finish_iff.mp hfinish).1⟩

/-- Either way the settings are rejected, or accepted with equal payloads. -/
def SameVerdict (x y : Except SchemaRaised Payload) : Prop := ∀ p, x = .ok p ↔ y = .ok p

/-- The path of the field leads through no mapping that is no `dict`, or through one that holds
nothing besides but what the template has. -/
def NothingLost (entry : String × Target) (raw : RawMapping) : Prop :=
  ∀ b leaf, entry.2 = .nested b leaf → raw.foreign.contains b.name = true →
    ∀ k v, nestedEntries (raw.fields.get? b.name) k = some v → b.template.get? k = some v

omit [Interpreter] [FloatRuntime] in
/-- What the other aliases leave, with the field at its path. -/
theorem Spelled.resolved {entry : String × Target} {v : Value} {raw raw' : RawMapping}
    (h : Spelled entry v raw raw') (hentry : entry ∈ aliases) :
    ∃ rest : Option View,
      aliases.foldlM (View.resolve raw.foreign) (view raw.fields) =
        rest.map (·.put raw.foreign entry.2 v) ∧
      aliases.foldlM (View.resolve raw'.foreign) (view raw'.fields) =
        rest.map (·.put [] entry.2 v) ∧
      ∀ y ∈ rest, ∀ b leaf, entry.2 = .nested b leaf → y.block b = (view raw.fields).block b := by
  obtain ⟨hplain, htarget⟩ := aliases_plain entry hentry
  have hfield : ((view raw.fields).drop entry.1).field entry.1 = none := Function.update_self ..
  have hslot := aliases_slot entry hentry
  have hat : ((view raw.fields).drop entry.1).at? entry.2 = none := by
    have hungiven := h.ungiven
    rw [getPath?_view htarget] at hungiven
    exact (View.at?_assign hslot.symm none).trans hungiven
  refine ⟨aliases.foldlM (View.resolve raw.foreign) ((view raw.fields).drop entry.1), ?_, ?_, ?_⟩
  · conv_lhs => rw [← h.view_aliased hplain]
    exact View.foldlM_resolve_assign aliases_nodup hentry (aliases_apart entry hentry) hslot hfield
      hat
  · rw [h.foreign, ← h.view_spelled hplain htarget]
    exact View.foldlM_resolve_put (aliases_apart entry hentry) hslot hfield
  · rintro y hy b leaf heq
    obtain ⟨a, target⟩ := entry
    obtain rfl : target = .nested b leaf := heq
    have hblock : y.block b = ((view raw.fields).drop a).block b :=
      View.foldlM_resolve_block (aliases_apart _ hentry) hfield hy
    exact hblock

omit [Interpreter] [FloatRuntime] in
theorem at?_nested (w : View) (b : Block) (leaf : String) :
    w.at? (.nested b leaf) = w.entries b leaf := by
  simp only [View.at?, View.entries]
  cases w.block b <;> rfl

/-- Views that merge to the same. -/
structure View.Alike (w w' : View) : Prop where
  field : w.field = w'.field
  block : ∀ b, w.block b = .other ↔ w'.block b = .other
  entries : ∀ b k, (w.entries b k).or (b.template.get? k) = (w'.entries b k).or (b.template.get? k)

omit [Interpreter] [FloatRuntime] in
theorem View.Alike.symm {w w' : View} (h : w.Alike w') : w'.Alike w :=
  ⟨h.field.symm, fun b => (h.block b).symm, fun b k => (h.entries b k).symm⟩

omit [Interpreter] [FloatRuntime] in
theorem View.Alike.shaped {w w' : View} (h : w.Alike w') (hw : w.Shaped) : w'.Shaped := by
  refine ⟨h.field ▸ hw.field, fun b => mt (h.block b).mpr (hw.block b), fun b k v hv => ?_⟩
  cases htemplate : b.template.get? k with
  | some u => rw [Dict.contains, htemplate]; rfl
  | none =>
    have hentries := h.entries b k
    rw [htemplate, hv, Option.or_none] at hentries
    have hknown := hw.entry b k v hentries
    rw [Dict.contains, htemplate] at hknown
    cases hknown

omit [Interpreter] [FloatRuntime] in
theorem View.Alike.reads {w w' : View} {p : Payload} (h : w.Alike w') (hw : w.Reads p) :
    w'.Reads p :=
  ⟨h.field ▸ hw.mode, h.field ▸ hw.profile, hw.keys, fun b k => (hw.get b k).trans (h.entries b k)⟩

/-- Mappings whose aliases leave views that merge to the same have the same verdict. -/
theorem sameVerdict_of_alike {raw raw' : RawMapping} {rest : Option View} {f g : View → View}
    (hraw : aliases.foldlM (View.resolve raw.foreign) (view raw.fields) = rest.map f)
    (hraw' : aliases.foldlM (View.resolve raw'.foreign) (view raw'.fields) = rest.map g)
    (h : ∀ y ∈ rest, (f y).Alike (g y)) :
    SameVerdict (validateRawSettings raw) (validateRawSettings raw') := by
  intro p'
  rw [validateRawSettings_iff, validateRawSettings_iff, hraw, hraw']
  constructor
  · rintro ⟨w, p, hw, hshaped, hreads, hfinish⟩
    obtain ⟨y, hy, rfl⟩ := Option.map_eq_some_iff.mp hw
    have halike := h y hy
    exact ⟨g y, p, by rw [hy]; rfl, halike.shaped hshaped, halike.reads hreads, hfinish⟩
  · rintro ⟨w, p, hw, hshaped, hreads, hfinish⟩
    obtain ⟨y, hy, rfl⟩ := Option.map_eq_some_iff.mp hw
    have halike := (h y hy).symm
    exact ⟨f y, p, by rw [hy]; rfl, halike.shaped hshaped, halike.reads hreads, hfinish⟩

section
variable {kind : List String} {y : View} {b : Block} {leaf : String} {v : Value}

omit [Interpreter] [FloatRuntime] in
theorem entries_put (k : String) : (y.put kind (.nested b leaf) v).entries b k =
    if k = leaf then some v else if kind.contains b.name then none else y.entries b k := by
  have hblock : (y.put kind (.nested b leaf) v).block b =
      .mapping (Function.update (y.kept kind b) leaf (some v)) := Function.update_self ..
  rw [View.entries, hblock]
  by_cases hk : k = leaf
  · subst hk
    rw [if_pos rfl]
    exact Function.update_self ..
  · rw [if_neg hk]
    refine (Function.update_of_ne hk ..).trans ?_
    unfold View.kept View.entries
    cases y.block b <;> by_cases hkind : kind.contains b.name = true <;> simp only [hkind] <;> rfl

omit [Interpreter] [FloatRuntime] in
theorem entries_put_ne {b' : Block} (hb : b' ≠ b) (k : String) :
    (y.put kind (.nested b leaf) v).entries b' k = y.entries b' k := by
  have hblock : (y.put kind (.nested b leaf) v).block b' = y.block b' := Function.update_of_ne hb ..
  rw [View.entries, hblock]
  rfl

omit [Interpreter] [FloatRuntime] in
/-- Nothing is lost where the template has what is. -/
theorem put_alike (h : kind.contains b.name = true →
      ∀ k u, y.entries b k = some u → b.template.get? k = some u) :
    (y.put kind (.nested b leaf) v).Alike (y.put [] (.nested b leaf) v) := by
  refine ⟨rfl, fun b' => ?_, fun b' k => ?_⟩
  · by_cases hb : b' = b
    · subst hb
      simp [View.put]
    · simp [View.put, hb]
  · by_cases hb : b' = b
    · subst hb
      rw [entries_put, entries_put]
      by_cases hk : k = leaf
      · rw [if_pos hk, if_pos hk]
      · rw [if_neg hk, if_neg hk]
        by_cases hkind : kind.contains b'.name = true
        · rw [if_pos hkind]
          cases hentry : y.entries b' k with
          | none => rfl
          | some u =>
            rw [h hkind k u hentry]
            rfl
        · rw [if_neg hkind]
          rfl
    · rw [entries_put_ne hb, entries_put_ne hb]

end

/-- The fields the schema looks at. -/
def readFields : List (Block × String) :=
  [(.paths, "root"), (.runtime, "loop_mode"), (.runtime, "poll_interval_seconds"),
    (.runtime, "idle_timeout_seconds"), (.runtime, "max_runtime_seconds"), (.ui, "backend"),
    (.sync, "backend"), (.naming, "policy"), (.plugins, "pc_name"), (.plugins, "device_plugins")]

omit [Interpreter] [FloatRuntime] in
theorem aliases_leaf {a : String} {b : Block} {leaf : String} (h : (a, .nested b leaf) ∈ aliases)
    {key : String} (hkey : (b, key) ∈ readFields) : key = leaf := by
  simp only [aliases, List.mem_cons, Prod.mk.injEq, reduceCtorEq, and_false, false_or,
    Target.nested.injEq, List.not_mem_nil, or_false] at h
  rcases h with ⟨-, rfl, rfl⟩ | ⟨-, rfl, rfl⟩ <;> simpa [readFields] using hkey

theorem Acceptable.congr {p q : Payload} (h : Acceptable p) (hmode : p.mode = q.mode)
    (hfield : ∀ b key, (b, key) ∈ readFields → p.field b key = q.field b key) : Acceptable q := by
  have hroot := hfield .paths "root" (by simp [readFields])
  have hloop := hfield .runtime "loop_mode" (by simp [readFields])
  have hpoll := hfield .runtime "poll_interval_seconds" (by simp [readFields])
  have hidle := hfield .runtime "idle_timeout_seconds" (by simp [readFields])
  have hlimit := hfield .runtime "max_runtime_seconds" (by simp [readFields])
  have hui := hfield .ui "backend" (by simp [readFields])
  have hsync := hfield .sync "backend" (by simp [readFields])
  have hpolicy := hfield .naming "policy" (by simp [readFields])
  have hplugins := hfield .plugins "device_plugins" (by simp [readFields])
  exact {
    mode := hmode ▸ h.mode
    root := hroot ▸ h.root
    loopMode := hloop ▸ h.loopMode
    poll := hpoll ▸ h.poll
    idle := hidle ▸ h.idle
    limit := hlimit ▸ h.limit
    ui := hui ▸ h.ui
    sync := hsync ▸ h.sync
    policy := hpolicy ▸ h.policy
    devicePlugins := hplugins ▸ h.devicePlugins
    desktop := fun v hv => hui ▸ h.desktop v (hmode ▸ hv) }

/-- A field the schema does not look at stays as it is. -/
theorem finish_get {p p' : Payload} {b : Block} {key : String} (hkey : (b, key) ∉ readFields)
    (h : finish p = .ok p') : (p'.blocks b).get? key = (p.blocks b).get? key := by
  obtain ⟨-, htokens, -⟩ := finish_ok.mp h
  obtain ⟨poll, idle, limit, ids, -, -, -, -, rfl⟩ := normalizeTokens_iff.mp htokens
  have hnone : (tokenFields p poll idle limit ids).lookup (b, key) = none := by
    rw [List.lookup_eq_none_iff]
    intro e he
    rw [bne_iff_ne]
    intro heq
    have hkeys : (tokenFields p poll idle limit ids).map Prod.fst ⊆ readFields :=
      List.subset_cons_self _ _
    exact hkey (hkeys (heq ▸ List.mem_map.mpr ⟨e, he, rfl⟩))
  rw [get?_normalForm, hnone, Option.none_or]

section
variable {a : String} {b : Block} {leaf : String} {v : Value} {raw raw' : RawMapping}

/-- What is lost shows in the payload. -/
theorem Spelled.unacceptable (h : Spelled (a, .nested b leaf) v raw raw')
    (hentry : (a, .nested b leaf) ∈ aliases) (hforeign : raw.foreign.contains b.name = true)
    {k : String} {u : Value} (hu : nestedEntries (raw.fields.get? b.name) k = some u)
    (hlost : b.template.get? k ≠ some u)
    (hsame : SameVerdict (validateRawSettings raw) (validateRawSettings raw')) :
    ¬ AcceptableMapping raw := by
  intro hacceptable
  obtain ⟨p', hp'⟩ := acceptableMapping_iff.mp hacceptable
  obtain ⟨rest, hraw, hraw', hblock⟩ := h.resolved hentry
  obtain ⟨w, p, hw, -, hreads, hfinish⟩ := validateRawSettings_iff.mp hp'
  obtain ⟨w', q, hw', -, hreads', hfinish'⟩ := validateRawSettings_iff.mp ((hsame p').mp hp')
  rw [hraw] at hw
  rw [hraw'] at hw'
  obtain ⟨y, hy, rfl⟩ := Option.map_eq_some_iff.mp hw
  obtain rfl := Option.some.inj ((by rw [hy]; rfl : _ = some _).symm.trans hw')
  have hentries : y.entries b k = some u := by
    rw [← hu, ← entries_view, View.entries, hblock y hy b leaf rfl]
    rfl
  have hleaf : k ≠ leaf := by
    rintro rfl
    have htarget : (Target.nested b k).Plain := trivial
    have hungiven := h.ungiven
    rw [getPath?_view htarget, at?_nested, entries_view, hu] at hungiven
    cases hungiven
  have hkey : (b, k) ∉ readFields := fun hmem => hleaf (aliases_leaf hentry hmem)
  have hp := hreads.get b k
  have hq := hreads'.get b k
  rw [entries_put, if_neg hleaf, if_pos hforeign, Option.none_or, ← finish_get hkey hfinish] at hp
  rw [entries_put, if_neg hleaf, hentries, ← finish_get hkey hfinish'] at hq
  exact hlost (hp.symm.trans hq)

/-- What the mapping held besides is at most one more reason to reject the settings. -/
theorem Spelled.rejected (h : Spelled (a, .nested b leaf) v raw raw')
    (hentry : (a, .nested b leaf) ∈ aliases) (hraw : ¬ AcceptableMapping raw) :
    ¬ AcceptableMapping raw' := by
  rintro ⟨w', q, hw', hshaped, hreads, hq⟩
  obtain ⟨rest, hresolved, hresolved', -⟩ := h.resolved hentry
  rw [hresolved'] at hw'
  obtain ⟨y, hy, rfl⟩ := Option.map_eq_some_iff.mp hw'
  have hsub {b' : Block} {k : String} {u : Value}
      (hu : (y.put raw.foreign (.nested b leaf) v).entries b' k = some u) :
      (y.put [] (.nested b leaf) v).entries b' k = some u := by
    by_cases hb : b' = b
    · subst hb
      rw [entries_put] at hu ⊢
      by_cases hk : k = leaf
      · rwa [if_pos hk] at hu ⊢
      · rw [if_neg hk] at hu ⊢
        split at hu
        · cases hu
        · exact hu
    · rwa [entries_put_ne hb] at hu ⊢
  have hshaped' : (y.put raw.foreign (.nested b leaf) v).Shaped := by
    refine ⟨hshaped.field, fun b' => ?_, fun b' k u hu => hshaped.entry b' k u (hsub hu)⟩
    have hblock := hshaped.block b'
    by_cases hb : b' = b
    · subst hb
      simp [View.put]
    · simpa [View.put, hb] using hblock
  refine hraw ⟨_, readPayload (y.put raw.foreign (.nested b leaf) v), by rw [hresolved, hy]; rfl,
    hshaped', hshaped'.reads, hq.congr hreads.mode fun b' key hkey => ?_⟩
  have hget := hshaped'.reads.get b' key
  have hget' := hreads.get b' key
  have hentries : (y.put raw.foreign (.nested b leaf) v).entries b' key =
      (y.put [] (.nested b leaf) v).entries b' key := by
    by_cases hb : b' = b
    · subst hb
      rw [entries_put, entries_put, if_pos (aliases_leaf hentry hkey),
        if_pos (aliases_leaf hentry hkey)]
    · rw [entries_put_ne hb, entries_put_ne hb]
  rw [hentries, ← hget'] at hget
  rw [Payload.field, Payload.field, Dict.getNone, Dict.getNone, Dict.getD, Dict.getD, hget]

end

theorem sameVerdict_of_unacceptable {raw raw' : RawMapping} (h : ¬ AcceptableMapping raw)
    (h' : ¬ AcceptableMapping raw') :
    SameVerdict (validateRawSettings raw) (validateRawSettings raw') := by
  intro p
  constructor
  · intro hp
    exact absurd (acceptableMapping_iff.mpr ⟨p, hp⟩) h
  · intro hp
    exact absurd (acceptableMapping_iff.mpr ⟨p, hp⟩) h'

theorem Spelled.sameVerdict {entry : String × Target} {v : Value} {raw raw' : RawMapping}
    (h : Spelled entry v raw raw') (hentry : entry ∈ aliases) (hlost : NothingLost entry raw) :
    SameVerdict (validateRawSettings raw) (validateRawSettings raw') := by
  obtain ⟨rest, hraw, hraw', hblock⟩ := h.resolved hentry
  refine sameVerdict_of_alike hraw hraw' fun y hy => ?_
  obtain ⟨a, target⟩ := entry
  cases target with
  | top name => exact ⟨rfl, fun _ => Iff.rfl, fun _ _ => rfl⟩
  | nested b leaf =>
    refine put_alike fun hforeign k u hu => hlost b leaf rfl hforeign k u ?_
    rw [← hu, ← entries_view, View.entries, ← hblock y hy b leaf rfl]
    rfl

/-- What the schema accepts it accepts again with an equal payload. A field given by its alias is a
field given by its path if and only if nothing is lost of a mapping that the path leads through, or
the settings are unacceptable whatever that mapping holds. -/
theorem settings_canonical_iff [LawfulLower] :
    (∀ raw p, validateRawSettings raw = .ok p → validateRawSettings (payloadMapping p) = .ok p) ∧
    ∀ entry ∈ aliases, ∀ v raw raw', Spelled entry v raw raw' →
      (SameVerdict (validateRawSettings raw) (validateRawSettings raw') ↔
        NothingLost entry raw ∨ ¬ AcceptableMapping raw) := by
  refine ⟨fun raw p h => validate_again h, fun entry hentry v raw raw' h => ⟨fun hsame => ?_, ?_⟩⟩
  · by_cases hlost : NothingLost entry raw
    · exact .inl hlost
    · unfold NothingLost at hlost
      push Not at hlost
      obtain ⟨b, leaf, htarget, hforeign, k, u, hu, hne⟩ := hlost
      obtain ⟨a, target⟩ := entry
      obtain rfl : target = .nested b leaf := htarget
      exact .inr (h.unacceptable hentry hforeign hu hne hsame)
  · rintro (hlost | hraw)
    · exact h.sameVerdict hentry hlost
    · obtain ⟨a, target⟩ := entry
      cases target with
      | top name =>
        refine h.sameVerdict hentry fun b leaf htarget => ?_
        cases htarget
      | nested b leaf => exact sameVerdict_of_unacceptable hraw (h.rejected hentry hraw)

end

section
attribute [local instance] Interpreter.ascii FloatRuntime.finite lawful_ascii

def nestedChecked (d : Dict) : Bool :=
  Block.all.all fun b => decide ((match d.get? b.name with
    | some (.dict es) => es.map Prod.fst
    | _ => []).Nodup)

theorem nested_of_checked {d : Dict} (h : nestedChecked d = true) : Nested d := by
  intro b es hes
  have hb := List.all_eq_true.mp h b (by cases b <;> decide)
  rw [hes] at hb
  exact of_decide_eq_true hb

/-- Settings with an entry for the backend or its alias, and the other fields of `sync`. -/
def synced (foreign : List String) (sync : List (String × Value)) (more : List (String × Value))
    (h : nestedChecked (Dict.ofEntries ([("mode", .str "headless"),
      ("paths", .dict [("root", .str "/srv")]), ("sync", .dict sync)] ++ more)) = true) :
    RawMapping where
  fields := Dict.ofEntries ([("mode", .str "headless"), ("paths", .dict [("root", .str "/srv")]),
    ("sync", .dict sync)] ++ more)
  foreign
  nested := nested_of_checked h

def aliased (foreign : List String) : RawMapping :=
  synced foreign [("api_token", .str "t")] [("sync_backend", .str "kadi")] (by decide +kernel)

def spelled (foreign : List String) : RawMapping :=
  synced foreign [("api_token", .str "t"), ("backend", .str "kadi")] [] (by decide +kernel)

theorem aliased_spelled (foreign : List String) :
    Spelled ("sync_backend", .nested .sync "backend") (.str "kadi") (aliased foreign)
      (spelled foreign) := by
  have hsync : (aliased foreign).fields.get? "sync" = some (.dict [("api_token", .str "t")]) := rfl
  have hsync' : (spelled foreign).fields.get? "sync" =
      some (.dict [("api_token", .str "t"), ("backend", .str "kadi")]) := rfl
  refine ⟨rfl, rfl, rfl, rfl, rfl, fun k ha hk => ?_, fun b leaf htarget => ?_⟩
  · have hname : k ≠ "sync" := hk
    have halias : k ≠ "sync_backend" := ha
    simp only [aliased, spelled, synced]
    rw [Dict.get?_ofEntries (by decide), Dict.get?_ofEntries (by decide)]
    simp [lookup_cons', hname, halias]
  · obtain ⟨rfl, rfl⟩ := Target.nested.inj htarget
    rw [Block.name, hsync, hsync']
    refine ⟨BlockView.noConfusion, fun k hk => ?_⟩
    simp [nestedEntries, lookup_cons', hk]

/-- Whether settings are accepted, with this token for the synchronisation. -/
def acceptedWith (apiToken : Value) (x : Except SchemaRaised Payload) : Bool :=
  match x with
  | .ok p => (p.field .sync "api_token").pyEq apiToken
  | .error _ => false

theorem settings_canonical_iff_dicts :
    ∃ p, validateRawSettings (aliased []) = .ok p ∧ validateRawSettings (spelled []) = .ok p ∧
      validateRawSettings (payloadMapping p) = .ok p := by
  obtain ⟨hagain, hverdict⟩ := settings_canonical_iff
  have haccepted : acceptedWith (.str "t") (validateRawSettings (aliased [])) = true := by
    decide +kernel
  have hentry : ("sync_backend", Target.nested .sync "backend") ∈ aliases := by simp [aliases]
  cases h : validateRawSettings (aliased []) with
  | error e =>
    rw [h] at haccepted
    cases haccepted
  | ok p =>
    have hsame := (hverdict _ hentry _ _ _ (aliased_spelled [])).mpr
      (.inl fun b leaf _ hforeign => absurd hforeign Bool.false_ne_true)
    exact ⟨p, rfl, (hsame p).mp h, hagain _ p h⟩

/-- A mapping that is no `dict` loses its token where the backend is given by the alias. -/
theorem foreign_token_lost :
    Spelled ("sync_backend", .nested .sync "backend") (.str "kadi") (aliased ["sync"])
        (spelled ["sync"]) ∧
      acceptedWith .none (validateRawSettings (aliased ["sync"])) = true ∧
      acceptedWith (.str "t") (validateRawSettings (spelled ["sync"])) = true ∧
      ¬ SameVerdict (validateRawSettings (aliased ["sync"]))
        (validateRawSettings (spelled ["sync"])) := by
  have hlost : acceptedWith .none (validateRawSettings (aliased ["sync"])) = true := by
    decide +kernel
  have hkept : acceptedWith .none (validateRawSettings (spelled ["sync"])) = false := by
    decide +kernel
  refine ⟨aliased_spelled _, hlost, by decide +kernel, fun hsame => ?_⟩
  cases h : validateRawSettings (aliased ["sync"]) with
  | error e =>
    rw [h] at hlost
    cases hlost
  | ok p =>
    rw [h] at hlost
    rw [(hsame p).mp h] at hkept
    exact Bool.false_ne_true (hkept.symm.trans hlost)

end

end DpostV2.Startup.RawSettings
