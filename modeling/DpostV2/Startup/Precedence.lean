import DpostV2.Startup.SettingsOutcome

/-!
# The precedence of the sources

What `_merge_sources` comes to, path by path. A merge of two dicts shows at each path what the
incoming one has there, or else what the target had, and fails where one has a mapping and the
other has none; from this the four sources follow one after the other.
-/

namespace DpostV2.Startup.Settings

-- ---------------------------------------------------------------------------
-- Paths
-- ---------------------------------------------------------------------------

/-- What a path leads to. -/
inductive Found where
  | mapping
  | leaf (v : Value)

def Found.isMapping : Found → Bool
  | .mapping => true
  | .leaf _ => false

def Found.of : Value → Found
  | .dict _ => .mapping
  | v => .leaf v

def look : Option Value → List String → Option Found
  | none, _ => none
  | some v, [] => some (Found.of v)
  | some (.dict entries), key :: path => look (entries.lookup key) path
  | some _, _ :: _ => none

mutual
/-- No dict of the value has a key twice. -/
def DistinctKeys : Value → Prop
  | .dict entries => (entries.map Prod.fst).Nodup ∧ EntriesDistinct entries
  | _ => True
def EntriesDistinct : List (String × Value) → Prop
  | [] => True
  | (_, v) :: rest => DistinctKeys v ∧ EntriesDistinct rest
end

@[simp] theorem look_none (path : List String) : look none path = none := by
  cases path <;> rfl

@[simp] theorem look_nil (v : Value) : look (some v) [] = some (Found.of v) := by
  cases v <;> rfl

@[simp] theorem look_dict_cons (entries : List (String × Value)) (key : String)
    (path : List String) :
      look (some (.dict entries)) (key :: path) = look (entries.lookup key) path :=
  rfl

theorem look_leaf_cons {v : Value} (hleaf : (Found.of v).isMapping = false) (key : String)
    (path : List String) : look (some v) (key :: path) = none := by
  cases v with
  | dict entries => exact nomatch hleaf
  | _ => rfl

/-- A path that leads anywhere leads through mappings. -/
theorem look_block {old : Option Value} {path : List String} {key : String} {f : Found}
    (h : look old (path ++ [key]) = some f) : look old path = some .mapping := by
  induction path generalizing old with
  | nil =>
    match old with
    | none => exact nomatch h
    | some (.dict entries) => rfl
  | cons first path ih =>
    match old with
    | none => exact nomatch h
    | some (.dict entries) => exact ih h

-- ---------------------------------------------------------------------------
-- One merge
-- ---------------------------------------------------------------------------

/-- A path with a mapping on one side and none on the other. -/
def Clash (old new : Option Value) : Prop :=
  ∃ path f g, look old path = some f ∧ look new path = some g ∧ f.isMapping ≠ g.isMapping

/-- Each path of the merged value leads where the new one does, or else where the old one did. -/
def Overlaid (old new merged : Option Value) : Prop :=
  ∀ path, look merged path = (look new path).or (look old path)

theorem not_clash_none_left (new : Option Value) : ¬ Clash none new := by
  rintro ⟨path, f, g, hf, -⟩
  rw [look_none] at hf
  exact nomatch hf

theorem not_clash_none_right (old : Option Value) : ¬ Clash old none := by
  rintro ⟨path, f, g, -, hg, -⟩
  rw [look_none] at hg
  exact nomatch hg

theorem clash_of_found {v w : Value}
    (h : (Found.of v).isMapping ≠ (Found.of w).isMapping) : Clash (some v) (some w) :=
  ⟨[], _, _, look_nil v, look_nil w, h⟩

theorem not_clash_leaves {v w : Value} (hv : (Found.of v).isMapping = false)
    (hw : (Found.of w).isMapping = false) : ¬ Clash (some v) (some w) := by
  rintro ⟨path, f, g, hf, hg, hne⟩
  cases path with
  | nil =>
    obtain rfl := Option.some.inj ((look_nil v).symm.trans hf)
    obtain rfl := Option.some.inj ((look_nil w).symm.trans hg)
    exact hne (hv.trans hw.symm)
  | cons key path =>
    rw [look_leaf_cons hv] at hf
    exact nomatch hf

theorem clash_dict {target entries : List (String × Value)} :
    Clash (some (.dict target)) (some (.dict entries)) ↔
      ∃ key, Clash (target.lookup key) (entries.lookup key) := by
  constructor
  · rintro ⟨path, f, g, hf, hg, hne⟩
    cases path with
    | nil =>
      obtain rfl := Option.some.inj ((look_nil _).symm.trans hf)
      obtain rfl := Option.some.inj ((look_nil _).symm.trans hg)
      exact absurd rfl hne
    | cons key path => exact ⟨key, path, f, g, hf, hg, hne⟩
  · rintro ⟨key, path, f, g, hf, hg, hne⟩
    exact ⟨key :: path, f, g, hf, hg, hne⟩

theorem overlaid_dict {target entries merged : List (String × Value)} :
    Overlaid (some (.dict target)) (some (.dict entries)) (some (.dict merged)) ↔
      ∀ key, Overlaid (target.lookup key) (entries.lookup key) (merged.lookup key) := by
  constructor
  · exact fun h key path => h (key :: path)
  · intro h path
    cases path with
    | nil => rfl
    | cons key path => exact h key path

theorem overlaid_none (old : Option Value) : Overlaid old none old := by
  intro path
  rw [look_none, Option.none_or]

theorem overlaid_fresh (v : Value) : Overlaid none (some v) (some v) := by
  intro path
  rw [look_none, Option.or_none]

theorem overlaid_leaf {v w : Value} (hv : (Found.of v).isMapping = false) :
    Overlaid (some v) (some w) (some w) := by
  intro path
  cases path with
  | nil => rw [look_nil, Option.some_or]
  | cons key path => rw [look_leaf_cons hv, Option.or_none]

-- ---------------------------------------------------------------------------
-- What a merge assigns
-- ---------------------------------------------------------------------------

/-- The paths a merge assigns, and records: a leaf, or a block that is new, where the block
around it is known. -/
def Assigns (old new : Option Value) (path : List String) : Prop :=
  (∃ f, look new path = some f ∧ (f.isMapping = true → look old path = none)) ∧
    (path ≠ [] → look old path.dropLast = some .mapping)

/-- The path in the words of the code. -/
def recordedName (pathPrefix : String) (path : List String) : String :=
  path.foldl dotted pathPrefix

/-- The names of these paths are recorded with the source, and no others change. -/
def Recorded (assigned : List String → Prop) (pathPrefix sourceName : String)
    (provenance provenance' : Dict) : Prop :=
  ∀ name, ((∃ path, assigned path ∧ recordedName pathPrefix path = name) →
      provenance'.get? name = some (.str sourceName)) ∧
    ((¬ ∃ path, assigned path ∧ recordedName pathPrefix path = name) →
      provenance'.get? name = provenance.get? name)

theorem assigns_none (old : Option Value) (path : List String) : ¬ Assigns old none path := by
  rintro ⟨⟨f, hf, -⟩, -⟩
  rw [look_none] at hf
  exact nomatch hf

theorem assigns_dict_cons {target entries : List (String × Value)} {key : String}
    {path : List String} :
    Assigns (some (.dict target)) (some (.dict entries)) (key :: path) ↔
      Assigns (target.lookup key) (entries.lookup key) path := by
  unfold Assigns
  cases path with
  | nil => simp [Found.of]
  | cons next path => simp

theorem not_assigns_dict_nil {target entries : List (String × Value)} :
    ¬ Assigns (some (.dict target)) (some (.dict entries)) [] := by
  rintro ⟨⟨f, hf, hnew⟩, -⟩
  obtain rfl := Option.some.inj ((look_nil _).symm.trans hf)
  exact nomatch hnew rfl

/-- What is assigned whole is assigned at its own path only. -/
theorem assigns_whole {old : Option Value} {v : Value}
    (hold : ∀ w, old = some w → (Found.of w).isMapping = false)
    (hnew : (Found.of v).isMapping = true → old = none) {path : List String} :
    Assigns old (some v) path ↔ path = [] := by
  constructor
  · rintro ⟨-, hblock⟩
    by_contra hpath
    have hmapping := hblock hpath
    cases old with
    | none =>
      rw [look_none] at hmapping
      exact nomatch hmapping
    | some w =>
      cases hdrop : path.dropLast with
      | nil =>
        rw [hdrop, look_nil] at hmapping
        have hleaf := hold w rfl
        rw [Option.some.inj hmapping] at hleaf
        exact nomatch hleaf
      | cons key rest =>
        rw [hdrop, look_leaf_cons (hold w rfl)] at hmapping
        exact nomatch hmapping
  · rintro rfl
    refine ⟨⟨_, look_nil v, fun hmapping => ?_⟩, fun h => absurd rfl h⟩
    rw [hnew hmapping, look_none]

theorem Recorded.of_iff {assigned assigned' : List String → Prop} {pathPrefix sourceName : String}
    {provenance provenance' : Dict}
    (h : Recorded assigned pathPrefix sourceName provenance provenance')
    (hiff : ∀ path, assigned path ↔ assigned' path) :
    Recorded assigned' pathPrefix sourceName provenance provenance' := by
  obtain rfl : assigned = assigned' := funext fun path => propext (hiff path)
  exact h

theorem Recorded.nothing {assigned : List String → Prop} (hnone : ∀ path, ¬ assigned path)
    (pathPrefix sourceName : String) (provenance : Dict) :
    Recorded assigned pathPrefix sourceName provenance provenance :=
  fun _ => ⟨fun ⟨path, h, _⟩ => absurd h (hnone path), fun _ => rfl⟩

theorem Recorded.one (pathPrefix sourceName : String) (provenance : Dict) :
    Recorded (· = []) pathPrefix sourceName provenance
      (provenance.set pathPrefix (.str sourceName)) := by
  intro name
  rw [Dict.get?_set]
  constructor
  · rintro ⟨path, rfl, rfl⟩
    exact if_pos rfl
  · exact fun h => if_neg fun hname => h ⟨[], rfl, hname.symm⟩

theorem Recorded.append {first second : List String → Prop} {pathPrefix sourceName : String}
    {p p₁ p₂ : Dict} (h₁ : Recorded first pathPrefix sourceName p p₁)
    (h₂ : Recorded second pathPrefix sourceName p₁ p₂) :
    Recorded (fun path => first path ∨ second path) pathPrefix sourceName p p₂ := by
  intro name
  by_cases hsecond : ∃ path, second path ∧ recordedName pathPrefix path = name
  · refine ⟨fun _ => (h₂ name).1 hsecond, fun h => ?_⟩
    obtain ⟨path, hpath, hname⟩ := hsecond
    exact absurd ⟨path, .inr hpath, hname⟩ h
  · rw [(h₂ name).2 hsecond]
    constructor
    · rintro ⟨path, hpath | hpath, hname⟩
      · exact (h₁ name).1 ⟨path, hpath, hname⟩
      · exact absurd ⟨path, hpath, hname⟩ hsecond
    · exact fun h => (h₁ name).2 fun ⟨path, hpath, hname⟩ => h ⟨path, .inl hpath, hname⟩

/-- The paths below a key, under the name of the key. -/
theorem Recorded.below {assigned : List String → Prop} {pathPrefix key sourceName : String}
    {p p' : Dict} (h : Recorded assigned (dotted pathPrefix key) sourceName p p') :
    Recorded (fun path => ∃ rest, path = key :: rest ∧
      assigned rest) pathPrefix sourceName p p' := by
  intro name
  constructor
  · rintro ⟨path, ⟨rest, rfl, hrest⟩, hname⟩
    exact (h name).1 ⟨rest, hrest, hname⟩
  · exact fun hnone => (h name).2 fun ⟨rest, hrest, hname⟩ =>
      hnone ⟨key :: rest, ⟨rest, rfl, hrest⟩, hname⟩

-- ---------------------------------------------------------------------------
-- The merge of two dicts
-- ---------------------------------------------------------------------------

/-- The outcome of a merge: a clash raises, and otherwise both sides are there and what was
assigned is recorded. -/
structure Merges (old new : Option Value) (pathPrefix sourceName : String) (provenance : Dict)
    (merged : Option Value) (provenance' : Dict) : Prop where
  compatible : ¬ Clash old new
  overlaid : Overlaid old new merged
  recorded : Recorded (Assigns old new) pathPrefix sourceName provenance provenance'

theorem merges_whole {old : Option Value} {v : Value}
    (hold : ∀ w, old = some w → (Found.of w).isMapping = false)
    (hnew : (Found.of v).isMapping = true → old = none)
    (pathPrefix sourceName : String) (provenance : Dict) :
    Merges old (some v) pathPrefix sourceName provenance (some v)
      (provenance.set pathPrefix (.str sourceName)) where
  compatible := by
    cases old with
    | none => exact not_clash_none_left _
    | some w =>
      refine not_clash_leaves (hold w rfl) ?_
      cases hv : (Found.of v).isMapping with
      | false => rfl
      | true => exact absurd (hnew hv) (Option.some_ne_none w)
  overlaid := by
    cases old with
    | none => exact overlaid_fresh v
    | some w => exact overlaid_leaf (hold w rfl)
  recorded :=
    (Recorded.one pathPrefix sourceName provenance).of_iff fun _ =>
      (assigns_whole hold hnew).symm

theorem merges_fresh (v : Value) (pathPrefix sourceName : String) (provenance : Dict) :
    Merges none (some v) pathPrefix sourceName provenance (some v)
      (provenance.set pathPrefix (.str sourceName)) :=
  merges_whole (fun _ h => absurd h.symm (Option.some_ne_none _)) (fun _ => rfl) _ _ _

theorem merges_leaf {old : Option Value} {v : Value}
    (hold : ∀ w, old = some w → (Found.of w).isMapping = false)
    (hleaf : (Found.of v).isMapping = false) (pathPrefix sourceName : String) (provenance : Dict) :
    Merges old (some v) pathPrefix sourceName provenance (some v)
      (provenance.set pathPrefix (.str sourceName)) :=
  merges_whole hold (fun h => absurd (hleaf.symm.trans h) Bool.false_ne_true) _ _ _

/-- One more entry, of a key that does not come again. -/
theorem Merges.entry {key : String} {v : Value} {rest target : List (String × Value)}
    {merged : Value} {target' : List (String × Value)} {pathPrefix sourceName : String}
    {p p₁ p₂ : Dict} (hkey : rest.lookup key = none)
    (h₁ : Merges (target.lookup key) (some v) (dotted pathPrefix key) sourceName p (some merged) p₁)
    (h₂ : Merges (some (.dict (setEntry key merged target))) (some (.dict rest)) pathPrefix
      sourceName p₁ (some (.dict target')) p₂) :
    Merges (some (.dict target)) (some (.dict ((key, v) :: rest))) pathPrefix sourceName p
      (some (.dict target')) p₂ where
  compatible := by
    rw [clash_dict]
    rintro ⟨key', hclash⟩
    by_cases hsame : key' = key
    · subst hsame
      rw [List.lookup_cons_self] at hclash
      exact h₁.compatible hclash
    · rw [List.lookup_cons, beq_eq_false_iff_ne.mpr hsame] at hclash
      refine h₂.compatible (clash_dict.mpr ⟨key', ?_⟩)
      rwa [lookup_setEntry, if_neg hsame]
  overlaid := by
    refine overlaid_dict.mpr fun key' => ?_
    have hafter := overlaid_dict.mp h₂.overlaid key'
    rw [lookup_setEntry] at hafter
    by_cases hsame : key' = key
    · subst hsame
      rw [List.lookup_cons_self]
      rw [if_pos rfl, hkey] at hafter
      intro path
      rw [hafter path, look_none, Option.none_or, h₁.overlaid path]
    · rw [List.lookup_cons, beq_eq_false_iff_ne.mpr hsame]
      rwa [if_neg hsame] at hafter
  recorded := by
    refine (h₁.recorded.below.append h₂.recorded).of_iff fun path => ?_
    cases path with
    | nil => simp [not_assigns_dict_nil]
    | cons key' path =>
      rw [assigns_dict_cons, assigns_dict_cons, lookup_setEntry]
      by_cases hsame : key' = key
      · subst hsame
        simp [hkey, assigns_none]
      · simp [List.lookup_cons, beq_eq_false_iff_ne.mpr hsame, hsame]

theorem clash_head {key : String} {v : Value} {rest target : List (String × Value)}
    (h : Clash (target.lookup key) (some v)) :
    Clash (some (.dict target)) (some (.dict ((key, v) :: rest))) :=
  clash_dict.mpr ⟨key, by rwa [List.lookup_cons_self]⟩

theorem clash_tail {key : String} {v merged : Value} {rest target : List (String × Value)}
    (hkey : rest.lookup key = none)
    (h : Clash (some (.dict (setEntry key merged target))) (some (.dict rest))) :
    Clash (some (.dict target)) (some (.dict ((key, v) :: rest))) := by
  obtain ⟨key', hclash⟩ := clash_dict.mp h
  by_cases hsame : key' = key
  · subst hsame
    rw [hkey] at hclash
    exact absurd hclash (not_clash_none_right _)
  · rw [lookup_setEntry, if_neg hsame] at hclash
    exact clash_dict.mpr ⟨key', by rwa [List.lookup_cons, beq_eq_false_iff_ne.mpr hsame]⟩

section
variable [Interpreter]

omit [Interpreter] in
theorem mergeTypeError_cls (fullPath : String) :
    (mergeTypeError fullPath).isInstance "SettingsMergeTypeError" = true := by
  simp [mergeTypeError, serviceError, Exn.isInstance]

mutual
theorem deepMergeEntry_merges (sourceName pathPrefix key : String)
    (target : List (String × Value)) (provenance : Dict) : (v : Value) → DistinctKeys v →
    (∃ e, deepMergeEntry sourceName pathPrefix key target provenance v = .error e ∧
      e.isInstance "SettingsMergeTypeError" = true ∧ Clash (target.lookup key) (some v)) ∨
    ∃ merged provenance',
      deepMergeEntry sourceName pathPrefix key target provenance v =
        .ok (setEntry key merged target, provenance') ∧
      Merges (target.lookup key) (some v) (dotted pathPrefix key) sourceName provenance
        (some merged) provenance'
  | .dict incoming, hdistinct => by
    unfold deepMergeEntry
    split
    next existing hexisting =>
      rw [hexisting]
      rcases deepMerge_merges sourceName (dotted pathPrefix key) existing provenance incoming
        hdistinct.1 hdistinct.2 with ⟨e, he, hcls, hclash⟩ | ⟨merged, provenance', hok, hmerges⟩
      · exact .inl ⟨e, by rw [he]; rfl, hcls, hclash⟩
      · exact .inr ⟨.dict merged, provenance', by rw [hok]; rfl, hmerges⟩
    next existing hleaf hexisting =>
      rw [hexisting]
      refine .inl ⟨_, rfl, mergeTypeError_cls _, clash_of_found ?_⟩
      cases existing with
      | dict entries => exact absurd rfl (hleaf entries)
      | _ => exact Bool.false_ne_true
    next hexisting =>
      rw [hexisting]
      exact .inr ⟨_, _, rfl, merges_fresh _ _ _ _⟩
  | .none, _ | .bool _, _ | .int _, _ | .float _, _ | .str _, _ | .datetime _, _ | .list _, _
  | .tuple _, _ | .object _ _, _ => by
    unfold deepMergeEntry
    split
    next existing hexisting =>
      rw [hexisting]
      exact .inl ⟨_, rfl, mergeTypeError_cls _, clash_of_found Bool.false_ne_true.symm⟩
    next hleaf =>
      refine .inr ⟨_, _, rfl, merges_leaf (fun w hw => ?_) rfl _ _ _⟩
      cases w with
      | dict entries => exact absurd hw (hleaf entries)
      | _ => rfl
theorem deepMerge_merges (sourceName pathPrefix : String) (target : List (String × Value))
    (provenance : Dict) : (entries : List (String × Value)) → (entries.map Prod.fst).Nodup →
    EntriesDistinct entries →
    (∃ e, deepMerge sourceName pathPrefix target provenance entries = .error e ∧
      e.isInstance "SettingsMergeTypeError" = true ∧
      Clash (some (.dict target)) (some (.dict entries))) ∨
    ∃ target' provenance',
      deepMerge sourceName pathPrefix target provenance entries = .ok (target', provenance') ∧
      Merges (some (.dict target)) (some (.dict entries)) pathPrefix sourceName provenance
        (some (.dict target')) provenance'
  | [], _, _ => by
    refine .inr ⟨target, provenance, rfl, ?_, ?_, ?_⟩
    · rw [clash_dict]
      exact fun ⟨key, h⟩ => not_clash_none_right _ h
    · exact overlaid_dict.mpr fun key => overlaid_none _
    · refine .nothing (fun path => ?_) _ _ _
      cases path with
      | nil => exact not_assigns_dict_nil
      | cons key path =>
        rw [assigns_dict_cons]
        exact assigns_none _ _
  | (key, v) :: rest, hkeys, hdistinct => by
    rw [List.map_cons, List.nodup_cons] at hkeys
    have hkey : rest.lookup key = none := lookup_none_of_not_mem hkeys.1
    unfold deepMerge
    rcases deepMergeEntry_merges sourceName pathPrefix key target provenance v hdistinct.1 with
      ⟨e, he, hcls, hclash⟩ | ⟨merged, p₁, hentry, hmerged⟩
    · exact .inl ⟨e, by rw [he]; rfl, hcls, clash_head hclash⟩
    · rw [hentry]
      rcases deepMerge_merges sourceName pathPrefix (setEntry key merged target) p₁ rest hkeys.2
        hdistinct.2 with ⟨e, he, hcls, hclash⟩ | ⟨target', p₂, hrest, hmerges⟩
      · exact .inl ⟨e, he, hcls, clash_tail hkey hclash⟩
      · exact .inr ⟨target', p₂, hrest, hmerged.entry hkey hmerges⟩
end

end

-- ---------------------------------------------------------------------------
-- One source after the other
-- ---------------------------------------------------------------------------

abbrev NamedEntries := String × List (String × Value)

def NamedEntries.finds (source : NamedEntries) (path : List String) : Option Found :=
  look (some (.dict source.2)) path

def NamedEntries.Distinct (source : NamedEntries) : Prop := DistinctKeys (.dict source.2)

/-- What the last source that defines the path has there. -/
def lastFound (sources : List NamedEntries) (path : List String) : Option Found :=
  sources.reverse.findSome? (·.finds path)

/-- A path is a mapping in one source and none in another. -/
def Incompatible (sources : List NamedEntries) : Prop :=
  ∃ path, ∃ a ∈ sources, ∃ b ∈ sources, ∃ v,
    a.finds path = some .mapping ∧ b.finds path = some (.leaf v)

theorem lastFound_snoc (sources : List NamedEntries) (source : NamedEntries) (path : List String) :
    lastFound (sources ++ [source]) path = (source.finds path).or (lastFound sources path) := by
  unfold lastFound
  rw [List.reverse_append, List.reverse_singleton, List.singleton_append, List.findSome?_cons]
  cases source.finds path <;> rfl

theorem lastFound_isSome {sources : List NamedEntries} {path : List String} :
    (lastFound sources path).isSome ↔ ∃ source ∈ sources, (source.finds path).isSome := by
  simp [lastFound, List.findSome?_isSome_iff]

theorem mem_of_lastFound {sources : List NamedEntries} {path : List String} {f : Found}
    (h : lastFound sources path = some f) : ∃ source ∈ sources, source.finds path = some f := by
  obtain ⟨source, hsource, hf⟩ := List.exists_of_findSome?_eq_some h
  exact ⟨source, List.mem_reverse.mp hsource, hf⟩

theorem isMapping_iff {f : Found} : f.isMapping = true ↔ f = .mapping := by
  cases f <;> simp [Found.isMapping]

/-- Two findings of one path agree on being a mapping. -/
theorem same_kind {sources : List NamedEntries} (h : ¬ Incompatible sources)
    {a b : NamedEntries} (ha : a ∈ sources) (hb : b ∈ sources) {path : List String} {f g : Found}
    (hf : a.finds path = some f) (hg : b.finds path = some g) : f.isMapping = g.isMapping := by
  match f, g with
  | .mapping, .mapping => rfl
  | .leaf _, .leaf _ => rfl
  | .mapping, .leaf v => exact absurd ⟨path, a, ha, b, hb, v, hf, hg⟩ h
  | .leaf v, .mapping => exact absurd ⟨path, b, hb, a, ha, v, hg, hf⟩ h

theorem incompatible_of_clash {sources : List NamedEntries} {a b : NamedEntries}
    (ha : a ∈ sources) (hb : b ∈ sources) (h : Clash (some (.dict a.2)) (some (.dict b.2))) :
    Incompatible sources := by
  obtain ⟨path, f, g, hf, hg, hne⟩ := h
  by_contra hcompatible
  exact hne (same_kind hcompatible ha hb hf hg)

/-- The path shows the sources that were merged. -/
def Shows (merged : List (String × Value)) (sources : List NamedEntries) : Prop :=
  ∀ path, path ≠ [] → look (some (.dict merged)) path = lastFound sources path

theorem clash_merged {merged : List (String × Value)} {sources : List NamedEntries}
    (hshows : Shows merged sources) (hcompatible : ¬ Incompatible sources) {source : NamedEntries} :
    Clash (some (.dict merged)) (some (.dict source.2)) ↔
      ∃ earlier ∈ sources, Clash (some (.dict earlier.2)) (some (.dict source.2)) := by
  constructor
  · rintro ⟨path, f, g, hf, hg, hne⟩
    have hpath : path ≠ [] := by
      rintro rfl
      rw [look_nil] at hf hg
      rw [← Option.some.inj hf, ← Option.some.inj hg] at hne
      exact hne rfl
    rw [hshows path hpath] at hf
    obtain ⟨earlier, hmem, hfound⟩ := mem_of_lastFound hf
    exact ⟨earlier, hmem, path, f, g, hfound, hg, hne⟩
  · rintro ⟨earlier, hmem, path, f, g, hf, hg, hne⟩
    have hpath : path ≠ [] := by
      rintro rfl
      rw [look_nil] at hf hg
      rw [← Option.some.inj hf, ← Option.some.inj hg] at hne
      exact hne rfl
    have hsome : (lastFound sources path).isSome :=
      lastFound_isSome.mpr ⟨earlier, hmem, Option.isSome_iff_exists.mpr ⟨f, hf⟩⟩
    obtain ⟨last, hlast⟩ := Option.isSome_iff_exists.mp hsome
    obtain ⟨later, hlater, hfound⟩ := mem_of_lastFound hlast
    refine ⟨path, last, g, (hshows path hpath).trans hlast, hg, ?_⟩
    rwa [same_kind hcompatible hlater hmem hfound hf]

theorem Incompatible.snoc {sources : List NamedEntries} (h : Incompatible sources)
    (source : NamedEntries) : Incompatible (sources ++ [source]) := by
  obtain ⟨path, a, ha, b, hb, v, hab⟩ := h
  exact ⟨path, a, List.mem_append_left _ ha, b, List.mem_append_left _ hb, v, hab⟩

/-- A new incompatibility is one with the new source. -/
theorem incompatible_snoc {sources : List NamedEntries} {source : NamedEntries}
    (hcompatible : ¬ Incompatible sources) (h : Incompatible (sources ++ [source])) :
    ∃ earlier ∈ sources, Clash (some (.dict earlier.2)) (some (.dict source.2)) := by
  obtain ⟨path, a, ha, b, hb, v, hmapping, hleaf⟩ := h
  rw [List.mem_append, List.mem_singleton] at ha hb
  rcases ha, hb with ⟨ha | rfl, hb | rfl⟩
  · exact absurd ⟨path, a, ha, b, hb, v, hmapping, hleaf⟩ hcompatible
  · exact ⟨a, ha, path, _, _, hmapping, hleaf, Bool.false_ne_true.symm⟩
  · exact ⟨b, hb, path, _, _, hleaf, hmapping, Bool.false_ne_true⟩
  · exact nomatch hmapping.symm.trans hleaf

section
variable [Interpreter]

def mergeAll (sources : List NamedEntries) : Except Exn (List (String × Value) × Dict) :=
  sources.foldlM (fun merged source => deepMerge source.1 "" merged.1 merged.2 source.2)
    ([], Dict.empty)

theorem mergeAll_snoc (sources : List NamedEntries) (source : NamedEntries) :
    mergeAll (sources ++ [source]) =
      mergeAll sources >>= fun merged => deepMerge source.1 "" merged.1 merged.2 source.2 := by
  unfold mergeAll
  rw [List.foldlM_append]
  simp only [List.foldlM_cons, List.foldlM_nil, bind_pure]

/-- The sources clash, or the merge shows the last of them at every path. -/
theorem mergeAll_cases (sources : List NamedEntries)
    (hdistinct : ∀ source ∈ sources, source.Distinct) :
    (∃ e, mergeAll sources = .error e ∧ e.isInstance "SettingsMergeTypeError" = true ∧
        Incompatible sources) ∨
      ∃ merged provenance, mergeAll sources = .ok (merged, provenance) ∧
        ¬ Incompatible sources ∧ Shows merged sources := by
  induction sources using List.reverseRecOn with
  | nil =>
    refine .inr ⟨[], Dict.empty, rfl, nofun, fun path hpath => ?_⟩
    cases path with
    | nil => exact absurd rfl hpath
    | cons key path => exact look_none path
  | append_singleton sources source ih =>
    have hdone : ∀ earlier ∈ sources, earlier.Distinct :=
      fun earlier h => hdistinct earlier (List.mem_append_left _ h)
    have hsource : source.Distinct :=
      hdistinct source (List.mem_append_right _ (List.mem_singleton_self source))
    rcases ih hdone with ⟨e, he, hcls, hclash⟩ | ⟨merged, provenance, hok, hcompatible, hshows⟩
    · exact .inl ⟨e, by rw [mergeAll_snoc, he]; rfl, hcls, hclash.snoc source⟩
    · rw [mergeAll_snoc, hok]
      rcases deepMerge_merges source.1 "" merged provenance source.2 hsource.1 hsource.2 with
        ⟨e, he, hcls, hclash⟩ | ⟨merged', provenance', hok', hmerges⟩
      · obtain ⟨earlier, hmem, hclash⟩ := (clash_merged hshows hcompatible).mp hclash
        exact .inl ⟨e, he, hcls, incompatible_of_clash (List.mem_append_left _ hmem)
          (List.mem_append_right _ (List.mem_singleton_self source)) hclash⟩
      · refine .inr ⟨merged', provenance', hok', fun h => ?_, fun path hpath => ?_⟩
        · exact hmerges.compatible ((clash_merged hshows hcompatible).mpr
            (incompatible_snoc hcompatible h))
        · rw [hmerges.overlaid path, hshows path hpath, lastFound_snoc]
          rfl

/-- No dict of a payload has a key twice. -/
def Payloads.Distinct (payloads : Payloads) : Prop :=
  ∀ source ∈ payloads.inOrder, NamedEntries.Distinct source

/-- The merge fails exactly where two sources define a path incompatibly; otherwise every path
leads where the last source that defines it does. -/
theorem mergeSources_precedence (payloads : Payloads) (hdistinct : payloads.Distinct) :
    ((∃ e, mergeSources payloads = .error e ∧ e.isInstance "SettingsMergeTypeError" = true) ↔
      Incompatible payloads.inOrder) ∧
    (¬ Incompatible payloads.inOrder → ∃ merged provenance,
      mergeSources payloads = .ok (merged, provenance) ∧ ∀ path, path ≠ [] →
        look (some (.dict merged)) path = lastFound payloads.inOrder path ∧
        ((look (some (.dict merged)) path).isSome ↔
          ∃ source ∈ payloads.inOrder, (NamedEntries.finds source path).isSome)) := by
  have hmerge : mergeSources payloads = mergeAll payloads.inOrder := rfl
  rw [hmerge]
  rcases mergeAll_cases payloads.inOrder hdistinct with
    ⟨e, he, hcls, hclash⟩ | ⟨merged, provenance, hok, hcompatible, hshows⟩
  · exact ⟨iff_of_true ⟨e, he, hcls⟩ hclash, fun h => absurd hclash h⟩
  · constructor
    · refine iff_of_false ?_ hcompatible
      rintro ⟨e, he, -⟩
      exact nomatch he.symm.trans hok
    · refine fun _ => ⟨merged, provenance, hok, fun path hpath => ⟨hshows path hpath, ?_⟩⟩
      rw [hshows path hpath]
      exact lastFound_isSome

end

section
attribute [local instance] Interpreter.ascii

/-- A file that names the backend again, and a `None`. -/
def renamedBackend : Payloads where
  defaults := [("mode", .str "headless"), ("ui", .dict [("backend", .str "headless")])]
  file := [("ui", .dict [("backend", .str "tkinter"), ("theme", .dict [])]), ("profile", .none)]
  environment := []
  cli := [("mode", .none)]

theorem renamedBackend_distinct : renamedBackend.Distinct := by
  simp [Payloads.Distinct, Payloads.inOrder, renamedBackend, sourceOrder, NamedEntries.Distinct,
    DistinctKeys, EntriesDistinct]

theorem renamedBackend_precedence :
    ((∃ e, mergeSources renamedBackend = .error e ∧
        e.isInstance "SettingsMergeTypeError" = true) ↔ Incompatible renamedBackend.inOrder) ∧
    (¬ Incompatible renamedBackend.inOrder → ∃ merged provenance,
      mergeSources renamedBackend = .ok (merged, provenance) ∧ ∀ path, path ≠ [] →
        look (some (.dict merged)) path = lastFound renamedBackend.inOrder path ∧
        ((look (some (.dict merged)) path).isSome ↔
          ∃ source ∈ renamedBackend.inOrder, (NamedEntries.finds source path).isSome)) :=
  mergeSources_precedence renamedBackend renamedBackend_distinct

end

end DpostV2.Startup.Settings
