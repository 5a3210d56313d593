import DpostV2.Startup.SettingsSchema

/-!
# Raw settings

`validate_raw_settings` of any mapping. A field may hold a mapping that is no `dict`, and `float()`
is any that leaves floats as they are, so that infinite ones and numbers of other classes are
among its values; with dicts and finite floats this is `Settings.validateRawSettings`. The aliases
are read off a view of the mapping: what `get` gives, whatever the order of the entries.
-/

namespace DpostV2.Startup.RawSettings

open Settings

/-- The keys of the mapping in a block are distinct. -/
def Nested (d : Dict) : Prop :=
  ∀ (b : Block) es, d.get? b.name = some (.dict es) → (es.map Prod.fst).Nodup

/-- A mapping of settings; the fields in `foreign` hold a mapping that is no `dict`. -/
structure RawMapping where
  fields : Dict
  foreign : List String := []
  nested : Nested fields

section
variable [Interpreter]

def validateRawSettings [FloatRuntime] (raw : RawMapping) : Except SchemaRaised Payload :=
  validateMapping raw.foreign raw.fields

/-- With dicts and finite floats it is the schema of the settings service. -/
theorem validateRawSettings_plain (raw : RawMapping) (h : raw.foreign = []) :
    @validateRawSettings _ .finite raw = Settings.validateRawSettings raw.fields := by
  unfold validateRawSettings
  rw [h]
  rfl

end

-- ---------------------------------------------------------------------------
-- The aliases on a view
-- ---------------------------------------------------------------------------

def isBlock (k : String) : Bool := Block.all.any (·.name == k)

inductive Target where
  | top (name : String)
  | nested (block : Block) (leaf : String)

def Target.path : Target → List String
  | top name => [name]
  | nested block leaf => [block.name, leaf]

/-- No block is a field at the top. -/
def Target.Plain : Target → Prop
  | top name => isBlock name = false
  | nested _ _ => True

def aliases : List (String × Target) :=
  [("runtime_mode", .top "mode"), ("runtime_profile", .top "profile"),
    ("ui_backend", .nested .ui "backend"), ("sync_backend", .nested .sync "backend")]

theorem aliases_path : aliases.map (fun entry => (entry.1, entry.2.path)) = aliasToCanonical := rfl

/-- What a mapping gives for a block. -/
inductive BlockView where
  | absent
  | other
  | mapping (entries : String → Option Value)

/-- What a mapping gives, whatever the order of its entries. -/
@[ext] structure View where
  field : String → Option Value
  block : Block → BlockView

def blockView : Option Value → BlockView
  | none => .absent
  | some (.dict entries) => .mapping fun key => entries.lookup key
  | some _ => .other

def view (d : Dict) : View where
  field k := if isBlock k then none else d.get? k
  block b := blockView (d.get? b.name)

namespace View

def at? (w : View) : Target → Option Value
  | .top name => w.field name
  | .nested b leaf =>
    match w.block b with
    | .mapping entries => entries leaf
    | _ => none

def drop (w : View) (k : String) : View := { w with field := Function.update w.field k none }

/-- What stays of a block when one of its fields is set. -/
def kept (foreign : List String) (w : View) (b : Block) : String → Option Value :=
  match w.block b with
  | .mapping entries => if foreign.contains b.name then fun _ => none else entries
  | _ => fun _ => none

def put (foreign : List String) (w : View) : Target → Value → View
  | .top name, v => { w with field := Function.update w.field name (some v) }
  | .nested b leaf, v =>
    let entries := Function.update (w.kept foreign b) leaf (some v)
    { w with block := Function.update w.block b (.mapping entries) }

/-- One alias; `none` where it collides with its canonical field. -/
def resolve (foreign : List String) (w : View) (entry : String × Target) : Option View :=
  match w.field entry.1 with
  | none => some w
  | some v =>
    match (w.drop entry.1).at? entry.2 with
    | some u => if u.pyEq v then some (w.drop entry.1) else none
    | none => some ((w.drop entry.1).put foreign entry.2 v)

end View

theorem isBlock_name (b : Block) : isBlock b.name = true := by
  cases b <;> decide

theorem name_injective {b b' : Block} (h : b.name = b'.name) : b = b' := by
  revert h
  cases b <;> cases b' <;> decide

theorem get?_pop (d : Dict) (k key : String) :
    (d.pop k).get? key = if key = k then none else d.get? key := by
  change (d.entries.filter fun e => e.1 != k).lookup key =
    if key = k then none else d.entries.lookup key
  induction d.entries with
  | nil => simp
  | cons e entries ih =>
    obtain ⟨k', v⟩ := e
    by_cases hk' : k' = k
    · subst hk'
      rw [List.filter_cons_of_neg (by simp), ih, List.lookup_cons]
      by_cases hkey : key = k'
      · simp [hkey]
      · simp [beq_eq_false_iff_ne.mpr hkey, hkey]
    · rw [List.filter_cons_of_pos (by simpa using hk'), List.lookup_cons, List.lookup_cons, ih]
      by_cases hkey : key = k'
      · simp [hkey, hk']
      · simp [beq_eq_false_iff_ne.mpr hkey]

theorem name_ne {k : String} (hk : isBlock k = false) (b : Block) : b.name ≠ k := by
  rintro rfl
  rw [isBlock_name] at hk
  cases hk

theorem view_pop {d : Dict} {k : String} (hk : isBlock k = false) :
    view (d.pop k) = (view d).drop k := by
  unfold view View.drop
  congr 1
  · funext key
    by_cases hkey : key = k
    · simp [get?_pop, hkey]
    · simp [get?_pop, hkey]
  · funext b
    rw [get?_pop, if_neg (name_ne hk b)]

theorem view_set {d : Dict} {k : String} (hk : isBlock k = false) (v : Value) :
    view (d.set k v) = { view d with field := Function.update (view d).field k (some v) } := by
  unfold view
  congr 1
  · funext key
    by_cases hkey : key = k
    · simp [hkey, hk]
    · simp [hkey]
  · funext b
    rw [Dict.get?_set, if_neg (name_ne hk b)]

theorem view_set_block (d : Dict) (b : Block) (v : Value) :
    view (d.set b.name v) =
      { view d with block := Function.update (view d).block b (blockView (some v)) } := by
  unfold view
  congr 1
  · funext key
    by_cases hkey : key = b.name
    · simp [hkey, isBlock_name]
    · simp [hkey]
  · funext b'
    by_cases hb : b' = b
    · simp [hb]
    · have hname : b'.name ≠ b.name := fun h => hb (name_injective h)
      simp [hb, hname]

theorem aliases_plain : ∀ entry ∈ aliases, isBlock entry.1 = false ∧ entry.2.Plain := by
  simp only [aliases, List.forall_mem_cons]
  have hmode : isBlock "mode" = false := by decide
  have hprofile : isBlock "profile" = false := by decide
  exact ⟨⟨by decide, hmode⟩, ⟨by decide, hprofile⟩, ⟨by decide, trivial⟩, ⟨by decide, trivial⟩,
    by simp⟩

theorem getPath?_view {target : Target} (h : target.Plain) (d : Dict) :
    getPath? (.dict d.entries) target.path = (view d).at? target := by
  cases target with
  | top k =>
    have hk : isBlock k = false := h
    simp [Target.path, getPath?, View.at?, view, hk, Dict.get?]
  | nested b leaf =>
    simp only [Target.path, getPath?, View.at?, view, Dict.get?]
    cases d.entries.lookup b.name with
    | none => rfl
    | some v => cases v <;> simp [getPath?, blockView]

theorem setPath_view {target : Target} (h : target.Plain) (foreign : List String) (d : Dict)
    (v : Value) :
    view (Dict.ofEntries (setPath foreign d.entries target.path v)) =
      (view d).put foreign target v := by
  cases target with
  | top k =>
    have hset : setPath foreign d.entries [k] v = (d.set k v).entries := rfl
    rw [Target.path, hset, Dict.ofEntries_entries, view_set h]
    rfl
  | nested b leaf =>
    -- the entries below, by the view of them
    obtain ⟨below, hset, hbelow⟩ : ∃ below,
        setPath foreign d.entries [b.name, leaf] v =
          (d.set b.name (.dict (setEntry leaf v below))).entries ∧
        (fun key => below.lookup key) = (view d).kept foreign b := by
      refine ⟨_, rfl, ?_⟩
      simp only [View.kept, view, Dict.get?]
      cases d.entries.lookup b.name with
      | none => rfl
      | some value =>
        cases value
        case dict below =>
          simp only [blockView]
          by_cases hforeign : foreign.contains b.name = true
          · rw [if_pos hforeign, if_pos hforeign]
            rfl
          · rw [if_neg hforeign, if_neg hforeign]
        all_goals rfl
    have hentries : (fun key => (setEntry leaf v below).lookup key) =
        Function.update (fun key => below.lookup key) leaf (some v) := by
      funext key
      rw [lookup_setEntry]
      by_cases hkey : key = leaf <;> simp [hkey]
    rw [Target.path, hset, Dict.ofEntries_entries, view_set_block, blockView, hentries, hbelow]
    rfl

section
variable [Interpreter]

/-- One alias is resolved as the view has it. -/
theorem normalizeAlias_view {entry : String × Target} (hplain : isBlock entry.1 = false)
    (htarget : entry.2.Plain) (foreign : List String) (d : Dict) :
    (normalizeAlias foreign d (entry.1, entry.2.path)).toOption.map view =
      (view d).resolve foreign entry := by
  have hfield : (view d).field entry.1 = d.get? entry.1 := by simp [view, hplain]
  unfold normalizeAlias View.resolve
  rw [hfield]
  cases d.get? entry.1 with
  | none => rfl
  | some aliasValue =>
    simp only [getPath?_view htarget, view_pop hplain]
    cases ((view d).drop entry.1).at? entry.2 with
    | none => simp [Except.toOption, setPath_view htarget, view_pop hplain]
    | some canonicalValue =>
      by_cases hsame : canonicalValue.pyEq aliasValue = true
      · simp [hsame, Except.toOption, view_pop hplain]
      · simp [hsame, Except.toOption]

omit [Interpreter] in
theorem foldlM_view {f : Dict → String × List String → Except SchemaRaised Dict}
    {g : View → String × Target → Option View} {entries : List (String × Target)}
    (h : ∀ entry ∈ entries, ∀ d, (f d (entry.1, entry.2.path)).toOption.map view = g (view d) entry)
    (d : Dict) :
    ((entries.map fun entry => (entry.1, entry.2.path)).foldlM f d).toOption.map view =
      entries.foldlM g (view d) := by
  induction entries generalizing d with
  | nil => rfl
  | cons entry entries ih =>
    obtain ⟨hentry, hrest⟩ := List.forall_mem_cons.mp h
    have hstep := hentry d
    rw [List.map_cons, List.foldlM_cons, List.foldlM_cons, ← hstep]
    cases f d (entry.1, entry.2.path) with
    | error e => rfl
    | ok d' => exact ih hrest d'

/-- What the aliases leave is a matter of the view. -/
theorem normalizeAliases_view (raw : RawMapping) :
    (normalizeAliases raw.foreign raw.fields).toOption.map view =
      aliases.foldlM (View.resolve raw.foreign) (view raw.fields) := by
  rw [normalizeAliases, ← aliases_path]
  exact foldlM_view (fun entry hentry d =>
    normalizeAlias_view (aliases_plain entry hentry).1 (aliases_plain entry hentry).2 _ d) _

omit [Interpreter] in
theorem setPath_nested {d : Dict} (h : Nested d) {target : Target} (htarget : target.Plain)
    (foreign : List String) (v : Value) :
    Nested (Dict.ofEntries (setPath foreign d.entries target.path v)) := by
  intro b es hes
  cases target with
  | top k =>
    have hset : setPath foreign d.entries [k] v = (d.set k v).entries := rfl
    rw [Target.path, hset, Dict.ofEntries_entries, Dict.get?_set, if_neg (name_ne htarget b)] at hes
    exact h b es hes
  | nested b' leaf =>
    obtain ⟨below, hset, hbelow⟩ : ∃ below,
        setPath foreign d.entries [b'.name, leaf] v =
          (d.set b'.name (.dict (setEntry leaf v below))).entries ∧ (below.map Prod.fst).Nodup := by
      refine ⟨_, rfl, ?_⟩
      split
      · next es hes =>
        split
        · exact List.nodup_nil
        · exact h b' es hes
      · exact List.nodup_nil
    rw [Target.path, hset, Dict.ofEntries_entries, Dict.get?_set] at hes
    split at hes
    · cases Option.some.inj hes
      exact setEntry_nodup hbelow
    · exact h b es hes

theorem normalizeAlias_nested {foreign : List String} {d d' : Dict} {entry : String × Target}
    (hplain : isBlock entry.1 = false) (htarget : entry.2.Plain) (h : Nested d)
    (hok : normalizeAlias foreign d (entry.1, entry.2.path) = .ok d') : Nested d' := by
  unfold normalizeAlias at hok
  split at hok
  · exact Except.ok.inj hok ▸ h
  · next aliasValue hvalue =>
    have hpop : Nested (d.pop entry.1) := by
      intro b es hes
      rw [get?_pop, if_neg (name_ne hplain b)] at hes
      exact h b es hes
    dsimp only at hok
    split at hok
    · split at hok
      · exact Except.ok.inj hok ▸ hpop
      · cases hok
    · obtain rfl := Except.ok.inj hok
      exact setPath_nested hpop htarget foreign aliasValue

theorem normalizeAliases_nested {raw : RawMapping} {canonical : Dict}
    (h : normalizeAliases raw.foreign raw.fields = .ok canonical) : Nested canonical := by
  have hfold {entries : List (String × Target)} {d d' : Dict} (hd : Nested d)
      (hentries : ∀ entry ∈ entries, isBlock entry.1 = false ∧ entry.2.Plain)
      (hok : (entries.map fun entry => (entry.1, entry.2.path)).foldlM
        (normalizeAlias raw.foreign) d = .ok d') : Nested d' := by
    induction entries generalizing d with
    | nil => exact except_pure_ok.mp hok ▸ hd
    | cons entry entries ih =>
      obtain ⟨⟨hplain, htarget⟩, hrest⟩ := List.forall_mem_cons.mp hentries
      rw [List.map_cons, List.foldlM_cons] at hok
      obtain ⟨middle, hmiddle, hok⟩ := except_bind_ok.mp hok
      exact ih (normalizeAlias_nested hplain htarget hd hmiddle) hrest hok
  rw [normalizeAliases, ← aliases_path] at h
  exact hfold raw.nested aliases_plain h

end

end DpostV2.Startup.RawSettings
