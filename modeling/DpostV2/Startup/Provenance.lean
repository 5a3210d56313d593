import DpostV2.Lib.Separated
import DpostV2.Startup.Precedence

/-!
# The provenance of the settings

The merge records a source where it assigns: a leaf in a block that is known, or a whole block
that is new, but no leaf inside of it. The last source that records the dotted name of a path
is in the map; which leaves find their own source there is `provenance_complete_iff`.
-/

namespace DpostV2.Startup.Settings

-- ---------------------------------------------------------------------------
-- Dotted names
-- ---------------------------------------------------------------------------

def dottedPath (path : List String) : String := String.intercalate "." path

def DotFree (path : List String) : Prop := ∀ key ∈ path, '.' ∉ key.toList

mutual
/-- No key of the value, at any depth, has a dot. -/
def DotFreeKeys : Value → Prop
  | .dict entries => DotFreeEntries entries
  | _ => True
def DotFreeEntries : List (String × Value) → Prop
  | [] => True
  | (key, v) :: rest => '.' ∉ key.toList ∧ DotFreeKeys v ∧ DotFreeEntries rest
end

theorem DotFreeEntries.lookup {entries : List (String × Value)} (h : DotFreeEntries entries)
    {key : String} {v : Value} (hlookup : entries.lookup key = some v) :
    '.' ∉ key.toList ∧ DotFreeKeys v := by
  induction entries with
  | nil => exact nomatch hlookup
  | cons entry rest ih =>
    obtain ⟨key', v'⟩ := entry
    by_cases hsame : key = key'
    · subst hsame
      rw [List.lookup_cons_self] at hlookup
      exact Option.some.inj hlookup ▸ ⟨h.1, h.2.1⟩
    · rw [List.lookup_cons, beq_eq_false_iff_ne.mpr hsame] at hlookup
      exact ih h.2.2 hlookup

theorem dotFree_of_look {v : Value} (h : DotFreeKeys v) {path : List String}
    (hlook : (look (some v) path).isSome) : DotFree path := by
  induction path generalizing v with
  | nil => exact nofun
  | cons key path ih =>
    match v with
    | .dict entries =>
      rw [look_dict_cons] at hlook
      cases hlookup : entries.lookup key with
      | none =>
        rw [hlookup, look_none] at hlook
        exact nomatch hlook
      | some v =>
        rw [hlookup] at hlook
        have hkey := DotFreeEntries.lookup h hlookup
        exact List.forall_mem_cons.mpr ⟨hkey.1, ih hkey.2 hlook⟩

/-- The path as the code names it: without the empty keys before it. -/
def unpadded : List String → List String
  | "" :: key :: rest => unpadded (key :: rest)
  | path => path

/-- No empty key comes before another. -/
def Plain (path : List String) : Prop := unpadded path = path

theorem dottedPath_cons (key next : String) (path : List String) :
    dottedPath (key :: next :: path) = key ++ "." ++ dottedPath (next :: path) := by
  simp [dottedPath, String.intercalate_cons_cons, String.append_assoc]

theorem recordedName_eq {pathPrefix : String} (hne : pathPrefix ≠ "") (path : List String) :
    recordedName pathPrefix path = dottedPath (pathPrefix :: path) := by
  induction path generalizing pathPrefix with
  | nil => simp [recordedName, dottedPath]
  | cons key path ih =>
    have hdotted : dotted pathPrefix key = pathPrefix ++ "." ++ key := by
      simp [dotted, hne]
    have hnonempty : pathPrefix ++ "." ++ key ≠ "" := by
      simp [hne]
    calc recordedName pathPrefix (key :: path)
        = recordedName (pathPrefix ++ "." ++ key) path := by rw [← hdotted]; rfl
      _ = dottedPath ((pathPrefix ++ "." ++ key) :: path) := ih hnonempty
      _ = dottedPath (pathPrefix :: key :: path) := by
        cases path with
        | nil => simp [dottedPath, String.intercalate_cons_cons]
        | cons next path =>
          rw [dottedPath_cons, dottedPath_cons, dottedPath_cons]
          simp only [String.append_assoc]

theorem recordedName_unpadded {path : List String} (hpath : path ≠ []) :
    recordedName "" path = dottedPath (unpadded path) := by
  induction path using unpadded.induct with
  | case1 key rest ih => exact ih (List.cons_ne_nil _ _)
  | case2 path hshort =>
    rw [unpadded.eq_2 path hshort]
    match path with
    | [key] => simp [recordedName, dotted, dottedPath]
    | key :: next :: rest =>
      have hkey : key ≠ "" := by
        rintro rfl
        exact hshort next rest rfl
      exact recordedName_eq hkey _

theorem unpadded_replicate {path : List String} (hplain : Plain path) (hpath : path ≠ [])
    (n : Nat) :
    unpadded (List.replicate n "" ++ path) = path := by
  induction n with
  | zero => exact hplain
  | succ n ih =>
    rw [List.replicate_succ, List.cons_append]
    cases hrest : List.replicate n "" ++ path with
    | nil => exact absurd (List.append_eq_nil_iff.mp hrest).2 hpath
    | cons key rest =>
      rw [hrest] at ih
      exact ih

theorem unpadded_ne_nil {padded : List String} (h : padded ≠ []) : unpadded padded ≠ [] := by
  induction padded using unpadded.induct with
  | case1 key rest ih => exact ih (List.cons_ne_nil _ _)
  | case2 path hshort =>
    rw [unpadded.eq_2 path hshort]
    exact h

theorem plain_unpadded (padded : List String) :
    Plain (unpadded padded) ∧ ∃ n, padded = List.replicate n "" ++ unpadded padded := by
  induction padded using unpadded.induct with
  | case1 key rest ih =>
    obtain ⟨hplain, n, hn⟩ := ih
    exact ⟨hplain, n + 1, congrArg ("" :: ·) hn⟩
  | case2 path hshort =>
    have hsame : unpadded path = path := unpadded.eq_2 path hshort
    rw [Plain, hsame, hsame]
    exact ⟨rfl, 0, rfl⟩

theorem dottedPath_injective {path path' : List String} (hpath : path ≠ []) (hpath' : path' ≠ [])
    (hfree : DotFree path) (hfree' : DotFree path') (h : dottedPath path = dottedPath path') :
    path = path' := by
  have hdot : String.singleton '.' = "." := rfl
  unfold dottedPath at h
  rw [← hdot] at h
  exact joined_injective hpath hpath' hfree hfree' h

/-- The names of two paths meet where one is the other behind empty keys. -/
theorem recordedName_eq_dottedPath {path padded : List String} (hpath : path ≠ [])
    (hpadded : padded ≠ []) (hfree : DotFree path) (hfree' : DotFree padded) :
    recordedName "" padded = dottedPath path ↔
      Plain path ∧ ∃ n, padded = List.replicate n "" ++ path := by
  rw [recordedName_unpadded hpadded]
  constructor
  · intro h
    obtain ⟨hplain, n, hn⟩ := plain_unpadded padded
    have hne : unpadded padded ≠ [] := unpadded_ne_nil hpadded
    have hsub : DotFree (unpadded padded) := fun key hkey =>
      hfree' key (hn ▸ List.mem_append_right _ hkey)
    have hsame := dottedPath_injective hne hpath hsub hfree h
    exact ⟨hsame ▸ hplain, n, hsame ▸ hn⟩
  · rintro ⟨hplain, n, rfl⟩
    rw [unpadded_replicate hplain hpath]

-- ---------------------------------------------------------------------------
-- What the sources record
-- ---------------------------------------------------------------------------

/-- A source after others records a leaf, or a block none of them has, at the top or in a block
one of them has. -/
def Records (before : List NamedEntries) (source : NamedEntries) (path : List String) : Prop :=
  path ≠ [] ∧
  (∃ f, source.finds path = some f ∧ (f = .mapping → ∀ s ∈ before, s.finds path = none)) ∧
  (path.dropLast ≠ [] → ∃ s ∈ before, (s.finds path.dropLast).isSome)

def RecordsName (before : List NamedEntries) (source : NamedEntries) (name : String) : Prop :=
  ∃ path, Records before source path ∧ recordedName "" path = name

/-- The last of the sources that does something, given the ones before it. -/
def LastTo (does : List NamedEntries → NamedEntries → Prop) (sources : List NamedEntries)
    (source : NamedEntries) : Prop :=
  ∃ before after, sources = before ++ source :: after ∧ does before source ∧
    ∀ between later rest, after = between ++ later :: rest →
      ¬ does (before ++ source :: between) later

theorem not_lastTo_nil {does : List NamedEntries → NamedEntries → Prop} {source : NamedEntries} :
    ¬ LastTo does [] source := by
  rintro ⟨before, after, h, -⟩
  exact nomatch (List.append_eq_nil_iff.mp h.symm).2

theorem lastTo_snoc {does : List NamedEntries → NamedEntries → Prop}
    {sources : List NamedEntries} {last source : NamedEntries} :
    LastTo does (sources ++ [last]) source ↔
      (does sources last ∧ source = last) ∨ (¬ does sources last ∧ LastTo does sources source) := by
  constructor
  · rintro ⟨before, after, heq, hdoes, hlater⟩
    rcases List.eq_nil_or_concat after with rfl | ⟨between, end', rfl⟩
    · obtain ⟨rfl, hlast⟩ := List.append_inj' heq rfl
      obtain rfl := List.singleton_inj.mp hlast
      exact .inl ⟨hdoes, rfl⟩
    · rw [List.concat_eq_append] at heq hlater
      have hsplit : sources ++ [last] = (before ++ source :: between) ++ [end'] := by
        simpa using heq
      obtain ⟨rfl, hlast⟩ := List.append_inj' hsplit rfl
      obtain rfl := List.singleton_inj.mp hlast
      refine .inr ⟨hlater between last [] rfl, before, between, rfl, hdoes, ?_⟩
      rintro between' later rest rfl
      exact hlater between' later (rest ++ [last]) (by simp)
  · rintro (⟨hdoes, rfl⟩ | ⟨hnot, before, after, rfl, hdoes, hlater⟩)
    · exact ⟨sources, [], rfl, hdoes, fun between later rest h =>
        absurd h.symm (by simp)⟩
    · refine ⟨before, after ++ [last], by simp, hdoes, fun between later rest h => ?_⟩
      rcases List.eq_nil_or_concat rest with rfl | ⟨rest', end', rfl⟩
      · obtain ⟨rfl, hlast⟩ := List.append_inj' h rfl
        obtain rfl := List.singleton_inj.mp hlast
        exact hnot
      · rw [List.concat_eq_append] at h
        have hsplit : after ++ [last] = (between ++ later :: rest') ++ [end'] := by
          simpa using h
        exact hlater between later rest' (List.append_inj' hsplit rfl).1

theorem LastTo.mem {does : List NamedEntries → NamedEntries → Prop} {sources : List NamedEntries}
    {source : NamedEntries} (h : LastTo does sources source) : source ∈ sources := by
  obtain ⟨before, after, rfl, -⟩ := h
  simp

theorem LastTo.unique {does : List NamedEntries → NamedEntries → Prop}
    {sources : List NamedEntries} {a b : NamedEntries} (ha : LastTo does sources a)
    (hb : LastTo does sources b) : a = b := by
  induction sources using List.reverseRecOn with
  | nil => exact absurd ha not_lastTo_nil
  | append_singleton sources last ih =>
    rcases lastTo_snoc.mp ha with ⟨hlast, rfl⟩ | ⟨hnot, ha⟩ <;>
      rcases lastTo_snoc.mp hb with ⟨hlast', rfl⟩ | ⟨hnot', hb⟩
    · rfl
    · exact absurd hlast hnot'
    · exact absurd hlast' hnot
    · exact ih ha hb

theorem LastTo.congr {does does' : List NamedEntries → NamedEntries → Prop}
    {sources : List NamedEntries} {source : NamedEntries}
    (hiff : ∀ before, ∀ s ∈ sources, does before s ↔ does' before s) :
    LastTo does sources source ↔ LastTo does' sources source := by
  constructor
  all_goals
    rintro ⟨before, after, rfl, hdoes, hlater⟩
    refine ⟨before, after, rfl, ?_, ?_⟩
    · simpa [hiff] using hdoes
    · rintro between later rest rfl
      simpa [hiff] using hlater between later rest rfl

def Defines (path : List String) (_ : List NamedEntries) (source : NamedEntries) : Prop :=
  (source.finds path).isSome

theorem lastFound_iff {sources : List NamedEntries} {path : List String} {f : Found} :
    lastFound sources path = some f ↔
      ∃ source, LastTo (Defines path) sources source ∧ source.finds path = some f := by
  induction sources using List.reverseRecOn with
  | nil => exact iff_of_false nofun fun ⟨source, h, _⟩ => not_lastTo_nil h
  | append_singleton sources last ih =>
    rw [lastFound_snoc]
    simp only [lastTo_snoc, Defines]
    cases hlast : last.finds path with
    | none => simpa using ih
    | some g =>
      constructor
      · intro h
        exact ⟨last, .inl ⟨rfl, rfl⟩, hlast.trans h⟩
      · rintro ⟨source, ⟨-, rfl⟩ | ⟨hnot, -⟩, hfound⟩
        · exact hlast.symm.trans hfound
        · exact absurd rfl hnot

/-- In sources that agree, what is there shows which paths the merge assigns. -/
theorem assigns_iff_records {merged : List (String × Value)} {sources : List NamedEntries}
    {source : NamedEntries} (hshows : Shows merged sources)
    (hcompatible : ¬ Incompatible (sources ++ [source])) {path : List String} :
    Assigns (some (.dict merged)) (some (.dict source.2)) path ↔ Records sources source path := by
  rcases List.eq_nil_or_concat path with rfl | ⟨block, key, rfl⟩
  · exact iff_of_false not_assigns_dict_nil fun h => h.1 rfl
  · rw [List.concat_eq_append]
    have hpath : block ++ [key] ≠ [] := by simp
    have hfresh : look (some (.dict merged)) (block ++ [key]) = none ↔
        ∀ s ∈ sources, s.finds (block ++ [key]) = none := by
      rw [hshows _ hpath, ← Option.not_isSome_iff_eq_none, lastFound_isSome]
      simp
    unfold Assigns Records
    rw [List.dropLast_concat, hfresh]
    constructor
    · rintro ⟨⟨f, hf, hnew⟩, hblock⟩
      refine ⟨hpath, ⟨f, hf, fun hmapping => hnew (isMapping_iff.mpr hmapping)⟩, fun hne => ?_⟩
      have hmapping := hblock hpath
      rw [hshows block hne] at hmapping
      exact lastFound_isSome.mp (Option.isSome_of_eq_some hmapping)
    · rintro ⟨-, ⟨f, hf, hnew⟩, hblock⟩
      refine ⟨⟨f, hf, fun hmapping => hnew (isMapping_iff.mp hmapping)⟩, fun _ => ?_⟩
      by_cases hne : block = []
      · rw [hne]
        rfl
      · obtain ⟨g, hg⟩ := Option.isSome_iff_exists.mp (lastFound_isSome.mpr (hblock hne))
        obtain ⟨s, hs, hfound⟩ := mem_of_lastFound hg
        have hkind := same_kind hcompatible (List.mem_append_left _ hs)
          (List.mem_append_right _ (List.mem_singleton_self source)) hfound (look_block hf)
        rw [hshows block hne, hg, isMapping_iff.mp hkind]

section
variable [Interpreter]

theorem mergeAll_snoc_ok {sources : List NamedEntries} {source : NamedEntries}
    (hdistinct : ∀ s ∈ sources ++ [source], s.Distinct) {merged' : List (String × Value)}
    {provenance' : Dict} (h : mergeAll (sources ++ [source]) = .ok (merged', provenance')) :
    ∃ merged provenance, mergeAll sources = .ok (merged, provenance) ∧ Shows merged sources ∧
      ¬ Incompatible (sources ++ [source]) ∧
      Merges (some (.dict merged)) (some (.dict source.2)) "" source.1 provenance
        (some (.dict merged')) provenance' := by
  have hsource : source.Distinct :=
    hdistinct source (List.mem_append_right _ (List.mem_singleton_self source))
  have hcompatible : ¬ Incompatible (sources ++ [source]) := by
    rcases mergeAll_cases _ hdistinct with ⟨e, he, -⟩ | ⟨_, _, -, hcompatible, -⟩
    · exact nomatch he.symm.trans h
    · exact hcompatible
  rw [mergeAll_snoc] at h
  obtain ⟨⟨merged, provenance⟩, hok, hstep⟩ := except_bind_ok.mp h
  refine ⟨merged, provenance, hok, ?_, hcompatible, ?_⟩
  · rcases mergeAll_cases sources fun s hs => hdistinct s (List.mem_append_left _ hs) with
      ⟨e, he, -⟩ | ⟨_, _, hsame, -, hshows⟩
    · exact nomatch he.symm.trans hok
    · obtain ⟨rfl, -⟩ := Prod.mk.inj (Except.ok.inj (hsame.symm.trans hok))
      exact hshows
  · rcases deepMerge_merges source.1 "" merged provenance source.2 hsource.1 hsource.2 with
      ⟨e, he, -⟩ | ⟨_, _, hsame, hmerges⟩
    · exact nomatch he.symm.trans hstep
    · obtain ⟨rfl, rfl⟩ := Prod.mk.inj (Except.ok.inj (hsame.symm.trans hstep))
      exact hmerges

/-- Under a name stands the last source that records it. -/
theorem mergeAll_provenance {sources : List NamedEntries}
    (hdistinct : ∀ source ∈ sources, source.Distinct) {merged : List (String × Value)}
    {provenance : Dict} (h : mergeAll sources = .ok (merged, provenance)) (name : String)
    (v : Value) :
    provenance.get? name = some v ↔ ∃ source,
      LastTo (fun before s => RecordsName before s name) sources source ∧ v = .str source.1 := by
  induction sources using List.reverseRecOn generalizing merged provenance with
  | nil =>
    obtain ⟨-, rfl⟩ := Prod.mk.inj (Except.ok.inj h)
    exact iff_of_false nofun fun ⟨source, hlast, _⟩ => not_lastTo_nil hlast
  | append_singleton sources last ih =>
    obtain ⟨earlier, known, hok, hshows, hcompatible, hmerges⟩ := mergeAll_snoc_ok hdistinct h
    have hrecorded := hmerges.recorded.of_iff fun path => assigns_iff_records hshows hcompatible
    simp only [lastTo_snoc]
    by_cases hname : RecordsName sources last name
    · rw [(hrecorded name).1 hname]
      constructor
      · exact fun hv => ⟨last, .inl ⟨hname, rfl⟩, (Option.some.inj hv).symm⟩
      · rintro ⟨source, ⟨-, rfl⟩ | ⟨hnot, -⟩, rfl⟩
        · rfl
        · exact absurd hname hnot
    · rw [(hrecorded name).2 hname,
        ih (fun s hs => hdistinct s (List.mem_append_left _ hs)) hok]
      simp [hname]

end

-- ---------------------------------------------------------------------------
-- Which leaves are traced
-- ---------------------------------------------------------------------------

/-- Every leaf has under its dotted name the source its value comes from. -/
def CompleteProvenance (sources : List NamedEntries) (merged : List (String × Value))
    (provenance : Dict) : Prop :=
  ∀ path v, path ≠ [] → look (some (.dict merged)) path = some (.leaf v) →
    ∃ source, LastTo (Defines path) sources source ∧ source.finds path = some (.leaf v) ∧
      provenance.get? (dottedPath path) = some (.str source.1)

/-- The last source that defines the path is the last that records it, or records it behind
empty keys, which the code leaves out of the name. -/
def Traced (sources : List NamedEntries) (path : List String) : Prop :=
  Plain path ∧ ∃ source, LastTo (Defines path) sources source ∧
    LastTo (fun before s => ∃ n, Records before s (List.replicate n "" ++ path)) sources source

theorem recordsName_iff {before : List NamedEntries} {source : NamedEntries} {path : List String}
    (hpath : path ≠ []) (hfree : DotFree path)
    (hkeys : DotFreeKeys (.dict source.2)) :
    RecordsName before source (dottedPath path) ↔
      Plain path ∧ ∃ n, Records before source (List.replicate n "" ++ path) := by
  constructor
  · rintro ⟨padded, hrecords, hname⟩
    obtain ⟨f, hf, -⟩ := hrecords.2.1
    obtain ⟨hplain, n, rfl⟩ := (recordedName_eq_dottedPath hpath hrecords.1 hfree
      (dotFree_of_look hkeys (Option.isSome_of_eq_some hf))).mp hname
    exact ⟨hplain, n, hrecords⟩
  · rintro ⟨hplain, n, hrecords⟩
    obtain ⟨f, hf, -⟩ := hrecords.2.1
    exact ⟨_, hrecords, (recordedName_eq_dottedPath hpath hrecords.1 hfree
      (dotFree_of_look hkeys (Option.isSome_of_eq_some hf))).mpr ⟨hplain, n, rfl⟩⟩

theorem lastTo_recordsName {sources : List NamedEntries}
    (hkeys : ∀ source ∈ sources, DotFreeKeys (.dict source.2))
    {path : List String} (hpath : path ≠ []) (hfree : DotFree path) {source : NamedEntries} :
    LastTo (fun before s => RecordsName before s (dottedPath path)) sources source ↔
      Plain path ∧
        LastTo (fun before s => ∃ n, Records before s (List.replicate n "" ++ path)) sources
          source := by
  rw [LastTo.congr fun before s hs => recordsName_iff hpath hfree (hkeys s hs)]
  by_cases hplain : Plain path
  · simp [hplain]
  · refine iff_of_false ?_ fun h => hplain h.1
    rintro ⟨before, after, -, h, -⟩
    exact hplain h.1

theorem eq_of_name {sources : List NamedEntries} (hnames : (sources.map Prod.fst).Nodup)
    {a b : NamedEntries} (ha : a ∈ sources) (hb : b ∈ sources) (h : a.1 = b.1) : a = b :=
  List.inj_on_of_nodup_map hnames ha hb h

theorem payloads_names (payloads : Payloads) : (payloads.inOrder.map Prod.fst).Nodup := by
  have hnames : payloads.inOrder.map Prod.fst = sourceOrder := rfl
  rw [hnames]
  decide

section
variable [Interpreter]

/-- The provenance is complete where every leaf is traced. -/
theorem provenance_complete_iff (payloads : Payloads) (hdistinct : payloads.Distinct)
    (hkeys : ∀ source ∈ payloads.inOrder, DotFreeKeys (.dict source.2))
    {merged : List (String × Value)} {provenance : Dict}
    (h : mergeSources payloads = .ok (merged, provenance)) :
    CompleteProvenance payloads.inOrder merged provenance ↔
      ∀ path v, path ≠ [] → look (some (.dict merged)) path = some (.leaf v) →
        Traced payloads.inOrder path := by
  have hmerge : mergeAll payloads.inOrder = .ok (merged, provenance) := h
  have hshows : Shows merged payloads.inOrder := by
    rcases mergeAll_cases payloads.inOrder hdistinct with ⟨e, he, -⟩ | ⟨_, _, hsame, -, hshows⟩
    · exact nomatch he.symm.trans hmerge
    · obtain ⟨rfl, -⟩ := Prod.mk.inj (Except.ok.inj (hsame.symm.trans hmerge))
      exact hshows
  refine forall_congr' fun path => forall_congr' fun v => forall_congr' fun hpath =>
    forall_congr' fun hleaf => ?_
  rw [hshows path hpath] at hleaf
  obtain ⟨owner, howner, hfound⟩ := lastFound_iff.mp hleaf
  have hfree : DotFree path :=
    dotFree_of_look (hkeys owner howner.mem) (Option.isSome_of_eq_some hfound)
  constructor
  · rintro ⟨source, hlast, -, hname⟩
    obtain ⟨recorder, hrecorder, hsame⟩ := (mergeAll_provenance hdistinct hmerge _ _).mp hname
    obtain rfl : recorder = source := eq_of_name (payloads_names payloads) hrecorder.mem hlast.mem
      (Value.str.inj hsame).symm
    obtain ⟨hplain, hrecords⟩ := (lastTo_recordsName hkeys hpath hfree).mp hrecorder
    exact ⟨hplain, recorder, hlast, hrecords⟩
  · rintro ⟨hplain, source, hlast, hrecords⟩
    obtain rfl := howner.unique hlast
    have hrecorder := (lastTo_recordsName hkeys hpath hfree).mpr ⟨hplain, hrecords⟩
    exact ⟨owner, howner, hfound,
      (mergeAll_provenance hdistinct hmerge _ _).mpr ⟨owner, hrecorder, rfl⟩⟩

end

section
variable {sources : List NamedEntries} (htop : ∀ source ∈ sources, source.finds [""] = none)
include htop

theorem finds_empty_cons {source : NamedEntries} (hmem : source ∈ sources) (rest : List String) :
    source.finds ("" :: rest) = none := by
  have hnone := htop source hmem
  cases hlookup : source.2.lookup "" with
  | none => rw [NamedEntries.finds, look_dict_cons, hlookup, look_none]
  | some v =>
    rw [NamedEntries.finds, look_dict_cons, hlookup, look_nil] at hnone
    exact nomatch hnone

theorem plain_of_finds {source : NamedEntries} (hmem : source ∈ sources) {path : List String}
    (h : (source.finds path).isSome) : Plain path := by
  refine unpadded.eq_2 path fun key rest heq => ?_
  rw [heq, finds_empty_cons htop hmem] at h
  exact nomatch h

theorem records_behind {before : List NamedEntries} {source : NamedEntries}
    (hmem : source ∈ sources) {path : List String} :
    (∃ n, Records before source (List.replicate n "" ++ path)) ↔ Records before source path := by
  constructor
  · rintro ⟨n, hrecords⟩
    cases n with
    | zero => exact hrecords
    | succ n =>
      obtain ⟨f, hf, -⟩ := hrecords.2.1
      rw [List.replicate_succ, List.cons_append, finds_empty_cons htop hmem] at hf
      exact nomatch hf
  · exact fun hrecords => ⟨0, hrecords⟩

/-- Without an empty key at the top: the last source with the leaf comes after one with its block,
or the leaf is at the top. -/
theorem traced_iff (hnames : (sources.map Prod.fst).Nodup) {path : List String} (hpath : path ≠ [])
    {v : Value} (hleaf : lastFound sources path = some (.leaf v)) :
    Traced sources path ↔ path.dropLast = [] ∨
      ∃ source, LastTo (Defines path) sources source ∧
        ∃ before after, sources = before ++ source :: after ∧
          ∃ s ∈ before, (s.finds path.dropLast).isSome := by
  obtain ⟨source, hlast, hfound⟩ := lastFound_iff.mp hleaf
  have hplain : Plain path :=
    plain_of_finds htop hlast.mem (Option.isSome_of_eq_some hfound)
  constructor
  · rintro ⟨-, owner, howner, hrecords⟩
    by_cases htopLevel : path.dropLast = []
    · exact .inl htopLevel
    · obtain ⟨before, after, heq, hrecords, -⟩ :=
        (LastTo.congr fun before s hs => records_behind htop hs).mp hrecords
      exact .inr ⟨owner, howner, before, after, heq, hrecords.2.2 htopLevel⟩
  · intro h
    refine ⟨hplain, source, hlast, (LastTo.congr fun before s hs => records_behind htop hs).mpr ?_⟩
    obtain ⟨before, after, heq, hdefines, hlater⟩ := hlast
    refine ⟨before, after, heq, ⟨hpath, ⟨_, hfound, nofun⟩, fun hblock => ?_⟩,
      fun between later rest hafter hrecords => ?_⟩
    · obtain ⟨owner, howner, before', after', heq', hknown⟩ := h.resolve_left hblock
      obtain rfl := howner.unique ⟨before, after, heq, hdefines, hlater⟩
      have hnodup : (before ++ owner :: after).Nodup := heq ▸ hnames.of_map
      have hfresh : owner ∉ before ++ after := (List.nodup_middle.mp hnodup).notMem
      obtain ⟨rfl, -⟩ := (List.append_cons_inj_of_notMem
        (fun h => hfresh (List.mem_append_left _ h))
        (fun h => hfresh (List.mem_append_right _ h))).mp (heq.symm.trans heq')
      exact hknown
    · obtain ⟨f, hf, -⟩ := hrecords.2.1
      exact hlater between later rest hafter (Option.isSome_of_eq_some hf)
end

section
attribute [local instance] Interpreter.ascii

/-- A file with a block the defaults lack. -/
def fileBlock : Payloads where
  defaults := [("mode", .str "headless")]
  file := [("ui", .dict [("backend", .str "tkinter")])]
  environment := []
  cli := []

theorem fileBlock_merged : mergeSources fileBlock =
    .ok ([("mode", .str "headless"), ("ui", .dict [("backend", .str "tkinter")])],
      (Dict.empty.set "mode" (.str "defaults")).set "ui" (.str "file")) := rfl

theorem fileBlock_untraced : ∃ merged provenance,
    mergeSources fileBlock = .ok (merged, provenance) ∧
      ¬ CompleteProvenance fileBlock.inOrder merged provenance := by
  refine ⟨_, _, fileBlock_merged, fun h => ?_⟩
  obtain ⟨source, -, -, hname⟩ := h ["ui", "backend"] (.str "tkinter") nofun rfl
  have hdotted : dottedPath ["ui", "backend"] = "ui.backend" := by decide
  rw [hdotted, Dict.get?_set, Dict.get?_set, if_neg (by decide), if_neg (by decide)] at hname
  exact nomatch hname

theorem renamedBackend_merged : mergeSources renamedBackend =
    .ok ([("mode", .none),
        ("ui", .dict [("backend", .str "tkinter"), ("theme", .dict [])]), ("profile", .none)],
      ((((((Dict.empty.set "mode" (.str "defaults")).set "ui" (.str "defaults")).set
        "ui.backend" (.str "file")).set "ui.theme" (.str "file")).set
          "profile" (.str "file")).set "mode" (.str "cli"))) := rfl

theorem renamedBackend_provenance : ∃ merged provenance,
    mergeSources renamedBackend = .ok (merged, provenance) ∧
      (CompleteProvenance renamedBackend.inOrder merged provenance ↔
        ∀ path v, path ≠ [] → look (some (.dict merged)) path = some (.leaf v) →
          Traced renamedBackend.inOrder path) :=
  ⟨_, _, renamedBackend_merged, provenance_complete_iff renamedBackend renamedBackend_distinct
    (by simp [Payloads.inOrder, renamedBackend, sourceOrder, DotFreeKeys, DotFreeEntries])
    renamedBackend_merged⟩

end

end DpostV2.Startup.Settings
