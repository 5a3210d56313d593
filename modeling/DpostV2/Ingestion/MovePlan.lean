import DpostV2.Ingestion.State
import DpostV2.Lib.FirstFit

/-!
# The move plan and the persisted result

`_build_move_plan` says what the persist stage moves,
`_build_persisted_processor_result` what the record names afterwards. Both
walk `final_path` and the force paths to one list of target names. The plan
leaves out an entry whose source or target it has had; the record leaves out
only a repeated target, and `ProcessorResult` strips what it is given.
`movesAndRecordAgree` says when the two name the same files.
-/

namespace DpostV2.Ingestion

/-- `str(target_root / PurePath(source_path).name)` for the root of a target path. -/
def forcePathTarget (candidateTargetPath sourcePath : String) : String :=
  ((PurePath.parse candidateTargetPath).parent.join
    (PurePath.parse (PurePath.parse sourcePath).name)).str

/-- `seen_sources` and `seen_targets` are the two columns of `move_pairs`. -/
def addMove (movePairs : List (String × String)) (sourcePath targetPath : String) :
    List (String × String) :=
  let normalizedSource := normalizePath sourcePath
  let normalizedTarget := normalizePath targetPath
  if normalizedSource ∈ movePairs.map Prod.fst ∨ normalizedTarget ∈ movePairs.map Prod.snd then
    movePairs
  else movePairs ++ [(normalizedSource, normalizedTarget)]

def buildMovePlan (candidateTargetPath : String) (candidate : Candidate)
    (processorResult : Option ProcessorResult) : List (String × String) :=
  match processorResult with
  | none => [(candidate.sourcePath, candidateTargetPath)]
  | some result =>
    result.forcePaths.foldl
      (fun movePairs sourcePath =>
        addMove movePairs sourcePath (forcePathTarget candidateTargetPath sourcePath))
      (addMove [] result.finalPath candidateTargetPath)

/-- The loop over `force_paths` of `_build_persisted_processor_result`. -/
def forceTargets (candidateTargetPath : String) (seenTargets : List String) :
    List String → List String
  | [] => []
  | sourcePath :: rest =>
    let targetPath := forwardSlashes (forcePathTarget candidateTargetPath sourcePath)
    if targetPath ∈ seenTargets then forceTargets candidateTargetPath seenTargets rest
    else targetPath :: forceTargets candidateTargetPath (targetPath :: seenTargets) rest

def buildPersistedProcessorResult (state : IngestionState) :
    Except Exn (Option ProcessorResult) :=
  match state.processorResult, state.candidate with
  | some result, some candidate =>
    match candidate.targetPath with
    | none => .ok (some result)
    | some targetPath => do
      let persisted ← ProcessorResult.make targetPath result.datatype
        ((forceTargets targetPath [targetPath] result.forcePaths).map .str)
      return some persisted
  | processorResult, _ => .ok processorResult

-- ---------------------------------------------------------------------------
-- Which targets are moved to
-- ---------------------------------------------------------------------------

/-- The name a force path has at the destination. -/
def nameTarget (targetPath sourcePath : String) : String :=
  forwardSlashes (forcePathTarget targetPath sourcePath)

theorem normalizePath_forcePathTarget (targetPath sourcePath : String) :
    normalizePath (forcePathTarget targetPath sourcePath) = nameTarget targetPath sourcePath := by
  simp [normalizePath, forcePathTarget, nameTarget]

/-- Each artifact of a result with its target, in the order they are added. -/
def artifactMoves (targetPath : String) (result : ProcessorResult) : List (String × String) :=
  (normalizePath result.finalPath, normalizePath targetPath) ::
    result.forcePaths.map fun f => (normalizePath f, nameTarget targetPath f)

theorem addMove_eq (plan : List (String × String)) (source target : String) :
    addMove plan source target =
      FirstFit.add plan (normalizePath source, normalizePath target) := rfl

theorem buildMovePlan_firstFit {targetPath : String} {candidate : Candidate}
    {result : ProcessorResult} : buildMovePlan targetPath candidate (some result) =
      firstFit (artifactMoves targetPath result) := by
  have hstep : ∀ plan f, addMove plan f (forcePathTarget targetPath f) =
      FirstFit.add plan (normalizePath f, nameTarget targetPath f) := by
    intro plan f
    rw [addMove_eq, normalizePath_forcePathTarget]
  simp only [buildMovePlan, hstep, firstFit, artifactMoves, List.foldl_cons, List.foldl_map,
    addMove_eq]

-- ---------------------------------------------------------------------------
-- Which targets are recorded
-- ---------------------------------------------------------------------------

theorem mem_forceTargets {targetPath : String} {forcePaths seen : List String} {t : String} :
    t ∈ forceTargets targetPath seen forcePaths ↔
      t ∉ seen ∧ ∃ f ∈ forcePaths, nameTarget targetPath f = t := by
  induction forcePaths generalizing seen with
  | nil => simp [forceTargets]
  | cons f forcePaths ih =>
    have hname : forwardSlashes (forcePathTarget targetPath f) = nameTarget targetPath f := rfl
    simp only [forceTargets, hname, List.exists_mem_cons_iff]
    split
    · rename_i hseen
      rw [ih]
      constructor
      · rintro ⟨hns, hex⟩
        exact ⟨hns, .inr hex⟩
      · rintro ⟨hns, rfl | hex⟩
        · exact absurd hseen hns
        · exact ⟨hns, hex⟩
    · rename_i hnew
      rw [List.mem_cons, ih, List.mem_cons, not_or]
      constructor
      · rintro (rfl | ⟨⟨-, hns⟩, hex⟩)
        · exact ⟨hnew, .inl rfl⟩
        · exact ⟨hns, .inr hex⟩
      · rintro ⟨hns, hor⟩
        by_cases ht : t = nameTarget targetPath f
        · exact .inl ht
        · rcases hor with h | hex
          · exact absurd h.symm ht
          · exact .inr ⟨⟨ht, hns⟩, hex⟩

theorem make_ok {finalPath datatype : String} {forcePaths : List String} {r : ProcessorResult}
    (h : ProcessorResult.make finalPath datatype (forcePaths.map .str) = .ok r) :
    r.finalPath = finalPath ∧ r.datatype = datatype ∧ r.forcePaths = forcePaths.map strip := by
  unfold ProcessorResult.make at h
  split at h
  · cases h
  · split at h
    · cases h
    · obtain ⟨ps, hps, h⟩ := except_bind_ok.mp h
      cases h
      exact ⟨rfl, rfl, stripForcePaths_strs hps⟩

-- ---------------------------------------------------------------------------
-- Agreement
-- ---------------------------------------------------------------------------

/-- What the route stage leaves behind it: a target path that normalizing does not change. -/
structure Routed (state : IngestionState) (candidate : Candidate) (targetPath : String) : Prop where
  candidate_eq : state.candidate = some candidate
  target_eq : candidate.targetPath = some targetPath
  normal : normalizePath targetPath = targetPath

def MovedTo (plan : List (String × String)) (p : PurePath) : Prop :=
  ∃ m ∈ plan, PurePath.parse m.2 = p

def RecordedIn (result : ProcessorResult) (p : PurePath) : Prop :=
  PurePath.parse result.finalPath = p ∨ ∃ f ∈ result.forcePaths, PurePath.parse f = p

/-- The moves that are made, and the names that are recorded: `strip` is what
`ProcessorResult` does to a force path. -/
structure NamesRecorded (targetPath : String) (result : ProcessorResult)
    (moves : List (String × String)) : Prop where
  recorded_moved : ∀ f ∈ result.forcePaths, nameTarget targetPath f ≠ targetPath →
    ∃ m ∈ moves, PurePath.parse m.2 = PurePath.parse (strip (nameTarget targetPath f))
  moved_recorded : ∀ m ∈ moves, PurePath.parse targetPath = PurePath.parse m.2 ∨
    ∃ g ∈ result.forcePaths, nameTarget targetPath g ≠ targetPath ∧
      PurePath.parse (strip (nameTarget targetPath g)) = PurePath.parse m.2

/-- The same where a normalized source says the name: what is moved to is the target
path, and the name of every force path that is not the final path. -/
structure Consistent (targetPath : String) (result : ProcessorResult) : Prop where
  recorded_moved : ∀ f ∈ result.forcePaths, nameTarget targetPath f ≠ targetPath →
    PurePath.parse targetPath = PurePath.parse (strip (nameTarget targetPath f)) ∨
      ∃ g ∈ result.forcePaths, normalizePath g ≠ normalizePath result.finalPath ∧
        PurePath.parse (nameTarget targetPath g) = PurePath.parse (strip (nameTarget targetPath f))
  moved_recorded : ∀ f ∈ result.forcePaths, normalizePath f ≠ normalizePath result.finalPath →
    PurePath.parse targetPath = PurePath.parse (nameTarget targetPath f) ∨
      ∃ g ∈ result.forcePaths, nameTarget targetPath g ≠ targetPath ∧
        PurePath.parse (strip (nameTarget targetPath g)) = PurePath.parse (nameTarget targetPath f)

section
variable {targetPath : String} {candidate : Candidate} {result : ProcessorResult}

theorem recordedIn_iff {persisted : ProcessorResult} {datatype : String}
    (h : ProcessorResult.make targetPath datatype
      ((forceTargets targetPath [targetPath] result.forcePaths).map .str) = .ok persisted) :
    RecordedIn persisted p ↔ PurePath.parse targetPath = p ∨ ∃ f ∈ result.forcePaths,
      nameTarget targetPath f ≠ targetPath ∧
        PurePath.parse (strip (nameTarget targetPath f)) = p := by
  obtain ⟨hfinal, -, hforce⟩ := make_ok h
  unfold RecordedIn
  rw [hfinal, hforce]
  simp only [List.mem_map, mem_forceTargets, List.mem_singleton]
  constructor
  · rintro (h | ⟨_, ⟨t, ⟨ht, f, hf, rfl⟩, rfl⟩, hp⟩)
    · exact .inl h
    · exact .inr ⟨f, hf, ht, hp⟩
  · rintro (h | ⟨f, hf, ht, hp⟩)
    · exact .inl h
    · exact .inr ⟨_, ⟨_, ⟨ht, f, hf, rfl⟩, rfl⟩, hp⟩

/-- Without backslashes the normalized source determines the name. -/
theorem nameTarget_congr (hf : NoBackslash f) (hg : NoBackslash g)
    (h : normalizePath f = normalizePath g) :
    nameTarget targetPath f = nameTarget targetPath g := by
  have hparse : PurePath.parse f = PurePath.parse g := by
    rw [← parse_normalizePath hf, h, parse_normalizePath hg]
  simp [nameTarget, forcePathTarget, hparse]

theorem artifactMoves_determined (hforce : ∀ f ∈ result.forcePaths, NoBackslash f) :
    ∀ e ∈ result.forcePaths.map (fun f => (normalizePath f, nameTarget targetPath f)),
      ∀ e' ∈ result.forcePaths.map (fun f => (normalizePath f, nameTarget targetPath f)),
        e.1 = e'.1 → e = e' := by
  simp only [List.forall_mem_map]
  intro f hf g hg heq
  exact Prod.ext heq (nameTarget_congr (hforce f hf) (hforce g hg) heq)

theorem agree_iff {persisted : ProcessorResult} {datatype : String}
    (h : ProcessorResult.make targetPath datatype
      ((forceTargets targetPath [targetPath] result.forcePaths).map .str) = .ok persisted)
    {moves : List (String × String)}
    (htarget : MovedTo moves (PurePath.parse targetPath)) :
    (∀ p, MovedTo moves p ↔ RecordedIn persisted p) ↔ NamesRecorded targetPath result moves := by
  have hrec : ∀ p, RecordedIn persisted p ↔ _ := fun p => recordedIn_iff h
  constructor
  · intro hagree
    constructor
    · intro f hf ht
      exact (hagree _).mpr ((hrec _).mpr (.inr ⟨f, hf, ht, rfl⟩))
    · intro m hm
      exact (hrec _).mp ((hagree _).mp ⟨m, hm, rfl⟩)
  · intro hnames p
    rw [hrec]
    constructor
    · rintro ⟨m, hm, rfl⟩
      exact hnames.moved_recorded m hm
    · rintro (rfl | ⟨f, hf, ht, rfl⟩)
      · exact htarget
      · exact hnames.recorded_moved f hf ht

theorem movedTo_target (hn : normalizePath targetPath = targetPath) :
    MovedTo (firstFit (artifactMoves targetPath result)) (PurePath.parse targetPath) :=
  ⟨_, FirstFit.mem_head, by rw [hn]⟩

theorem namesRecorded_iff_selection :
    NamesRecorded targetPath result (firstFit (artifactMoves targetPath result)) ↔
      ∃ chosen, Selection (artifactMoves targetPath result) chosen ∧
        NamesRecorded targetPath result chosen := by
  constructor
  · exact fun h => ⟨_, FirstFit.selection, h⟩
  · rintro ⟨chosen, hselection, hnames⟩
    have hmem : ∀ m, m ∈ firstFit (artifactMoves targetPath result) ↔ m ∈ chosen :=
      fun m => FirstFit.mem_iff_of_selection hselection
    constructor
    · intro f hf ht
      obtain ⟨m, hm, heq⟩ := hnames.recorded_moved f hf ht
      exact ⟨m, (hmem m).mpr hm, heq⟩
    · intro m hm
      exact hnames.moved_recorded m ((hmem m).mp hm)

/-- A path is moved to iff it is the target path or the name of another source than the
final path's. -/
theorem mem_targets_iff (hn : normalizePath targetPath = targetPath)
    (hforce : ∀ f ∈ result.forcePaths, NoBackslash f) {t : String} :
    t ∈ (firstFit (artifactMoves targetPath result)).map Prod.snd ↔
      t = targetPath ∨ ∃ f ∈ result.forcePaths,
        normalizePath f ≠ normalizePath result.finalPath ∧ nameTarget targetPath f = t := by
  rw [artifactMoves, FirstFit.mem_targets_of_determined (artifactMoves_determined hforce)]
  constructor
  · rintro (h | ⟨e, he, hne, rfl⟩)
    · exact .inl (h.trans hn)
    · obtain ⟨f, hf, rfl⟩ := List.mem_map.mp he
      exact .inr ⟨f, hf, hne, rfl⟩
  · rintro (h | ⟨f, hf, hne, rfl⟩)
    · exact .inl (h.trans hn.symm)
    · exact .inr ⟨_, List.mem_map_of_mem hf, hne, rfl⟩

theorem namesRecorded_iff_consistent (hn : normalizePath targetPath = targetPath)
    (hforce : ∀ f ∈ result.forcePaths, NoBackslash f) :
    NamesRecorded targetPath result (firstFit (artifactMoves targetPath result)) ↔
      Consistent targetPath result := by
  constructor
  · intro hnames
    constructor
    · intro f hf ht
      obtain ⟨m, hm, heq⟩ := hnames.recorded_moved f hf ht
      rw [← heq]
      rcases (mem_targets_iff hn hforce).mp (List.mem_map_of_mem hm) with h | ⟨g, hg, hne, h⟩
      · exact .inl (by rw [h])
      · exact .inr ⟨g, hg, hne, by rw [h]⟩
    · intro f hf hne
      obtain ⟨m, hm, heq⟩ := List.mem_map.mp
        ((mem_targets_iff hn hforce).mpr (.inr ⟨f, hf, hne, rfl⟩))
      rw [← heq]
      exact hnames.moved_recorded m hm
  · intro hconsistent
    constructor
    · intro f hf ht
      rcases hconsistent.recorded_moved f hf ht with h | ⟨g, hg, hne, h⟩
      · obtain ⟨m, hm, heq⟩ := List.mem_map.mp ((mem_targets_iff hn hforce).mpr (.inl rfl))
        exact ⟨m, hm, by rw [heq, h]⟩
      · obtain ⟨m, hm, heq⟩ := List.mem_map.mp
          ((mem_targets_iff hn hforce).mpr (.inr ⟨g, hg, hne, rfl⟩))
        exact ⟨m, hm, by rw [heq, h]⟩
    · intro m hm
      rcases (mem_targets_iff hn hforce).mp (List.mem_map_of_mem hm) with h | ⟨f, hf, hne, h⟩
      · exact .inl (by rw [h])
      · rw [← h]
        exact hconsistent.moved_recorded f hf hne

end

/-- The plan and the record name the same files where the names recorded are those of
the one selection of artifacts. For force paths without backslashes that is `Consistent`. -/
theorem movesAndRecordAgree {state : IngestionState} {candidate : Candidate}
    {targetPath : String} {result persisted : ProcessorResult}
    (hrouted : Routed state candidate targetPath) (hresult : state.processorResult = some result)
    (hpersisted : buildPersistedProcessorResult state = .ok (some persisted)) :
    ((∀ p, MovedTo (buildMovePlan targetPath candidate (some result)) p ↔
        RecordedIn persisted p) ↔
      ∃ chosen, Selection (artifactMoves targetPath result) chosen ∧
        NamesRecorded targetPath result chosen) ∧
    ((∀ f ∈ result.forcePaths, NoBackslash f) →
      ((∀ p, MovedTo (buildMovePlan targetPath candidate (some result)) p ↔
          RecordedIn persisted p) ↔
        Consistent targetPath result)) := by
  have hn := hrouted.normal
  have hmake : ProcessorResult.make targetPath result.datatype
      ((forceTargets targetPath [targetPath] result.forcePaths).map .str) = .ok persisted := by
    simp only [buildPersistedProcessorResult, hresult, hrouted.candidate_eq,
      hrouted.target_eq] at hpersisted
    obtain ⟨r, hr, hpersisted⟩ := except_bind_ok.mp hpersisted
    rw [hr, ← Option.some.inj (except_pure_ok.mp hpersisted)]
  rw [buildMovePlan_firstFit, agree_iff hmake (movedTo_target hn)]
  exact ⟨namesRecorded_iff_selection, namesRecorded_iff_consistent hn⟩

section

theorem unspaced_token : Unspaced "t" := by decide

theorem csv_nonblank : blank "csv" = false := by decide

def routedCandidate (targetPath sourcePath : String) : Candidate :=
  { identityToken := "t", sourcePath, eventKind := "created", observedAt := 0,
    targetPath := some targetPath, identityToken_ok := unspaced_token }

def routedState (targetPath : String) (result : ProcessorResult) : IngestionState :=
  { event := Dict.empty, processorResult := some result,
    candidate := some (routedCandidate targetPath result.finalPath) }

theorem routedState_routed (hn : normalizePath targetPath = targetPath) :
    Routed (routedState targetPath result) (routedCandidate targetPath result.finalPath)
      targetPath :=
  ⟨rfl, rfl, hn⟩

def pair (directory forcePath : String) (hf : blank (directory ++ "x.csv") = false)
    (hp : forcePath ≠ "" ∧ strip forcePath = forcePath) : ProcessorResult :=
  { finalPath := directory ++ "x.csv", datatype := "csv", forcePaths := [forcePath],
    finalPath_ok := hf, datatype_ok := csv_nonblank, forcePaths_ok := by simpa using hp }

theorem consistent_pair :
    Consistent "/out/x.csv" (pair "/in/" "/in/x.ngb" (by decide) (by decide)) := by
  have hmem : ∀ f, f ∈ (pair "/in/" "/in/x.ngb" (by decide) (by decide)).forcePaths →
      f = "/in/x.ngb" := fun f hf => List.mem_singleton.mp hf
  constructor
  · intro f hf _
    rw [hmem f hf]
    exact .inr ⟨"/in/x.ngb", .head _, by decide +kernel, by decide +kernel⟩
  · intro f hf _
    rw [hmem f hf]
    exact .inr ⟨"/in/x.ngb", .head _, by decide +kernel, by decide +kernel⟩

/-- Two spellings of `/in/a/x`, after another file of the name `a\x`: the plan drops the
first spelling for its target and so moves the second one. -/
def spellings (directory : String) (forcePaths : List String)
    (hf : blank (directory ++ "y") = false)
    (hp : ∀ p ∈ forcePaths, p ≠ "" ∧ strip p = p) : ProcessorResult :=
  { finalPath := directory ++ "y", datatype := "csv", forcePaths,
    finalPath_ok := hf, datatype_ok := csv_nonblank, forcePaths_ok := hp }

theorem spellings_selection : Selection
    (artifactMoves "/out/y" (spellings "/in/" ["/other/a\\x", "/in/a\\x", "/in/a/x"]
      (by decide) (by decide)))
    [("/in/y", "/out/y"), ("/other/a/x", "/out/a/x"), ("/in/a/x", "/out/x")] := by
  have hkept : firstFit (artifactMoves "/out/y"
      (spellings "/in/" ["/other/a\\x", "/in/a\\x", "/in/a/x"] (by decide) (by decide))) =
      [("/in/y", "/out/y"), ("/other/a/x", "/out/a/x"), ("/in/a/x", "/out/x")] := by
    decide +kernel
  exact hkept ▸ FirstFit.selection

theorem spellings_recorded : NamesRecorded "/out/y"
    (spellings "/in/" ["/other/a\\x", "/in/a\\x", "/in/a/x"] (by decide) (by decide))
    [("/in/y", "/out/y"), ("/other/a/x", "/out/a/x"), ("/in/a/x", "/out/x")] := by
  constructor
  · decide +kernel
  · decide +kernel

theorem pair_persisted :
    buildPersistedProcessorResult (routedState "/out/x.csv"
        (pair "/in/" "/in/x.ngb" (by decide) (by decide))) =
      .ok (some (pair "/out/" "/out/x.ngb" (by decide) (by decide))) := by
  decide +kernel

theorem spellings_persisted :
    buildPersistedProcessorResult (routedState "/out/y"
        (spellings "/in/" ["/other/a\\x", "/in/a\\x", "/in/a/x"] (by decide) (by decide))) =
      .ok (some (spellings "/out/" ["/out/a/x", "/out/x"] (by decide) (by decide))) := by
  decide +kernel

theorem movesAndRecordAgree_pair :
    (∀ p, MovedTo (buildMovePlan "/out/x.csv" (routedCandidate "/out/x.csv" "/in/x.csv")
        (some (pair "/in/" "/in/x.ngb" (by decide) (by decide)))) p ↔
      RecordedIn (pair "/out/" "/out/x.ngb" (by decide) (by decide)) p) ∧
    (∀ p, MovedTo (buildMovePlan "/out/y" (routedCandidate "/out/y" "/in/y") (some
        (spellings "/in/" ["/other/a\\x", "/in/a\\x", "/in/a/x"] (by decide) (by decide)))) p ↔
      RecordedIn (spellings "/out/" ["/out/a/x", "/out/x"] (by decide) (by decide)) p) :=
  ⟨((movesAndRecordAgree (routedState_routed (by decide +kernel)) rfl pair_persisted).2
      (by simp only [pair, List.forall_mem_singleton, NoBackslash]; decide)).mpr consistent_pair,
    (movesAndRecordAgree (routedState_routed (by decide +kernel)) rfl spellings_persisted).1.mpr
      ⟨_, spellings_selection, spellings_recorded⟩⟩

/-- `final_path` is listed among the force paths and the target has another
name: the record names `/out/x.csv`, which nothing is moved to. -/
theorem recordedNotMoved :
    Routed (routedState "/out/y.csv" (pair "/in/" "/in/x.csv" (by decide) (by decide)))
      (routedCandidate "/out/y.csv" "/in/x.csv") "/out/y.csv" ∧
    ∃ persisted, buildPersistedProcessorResult
        (routedState "/out/y.csv" (pair "/in/" "/in/x.csv" (by decide) (by decide))) =
          .ok (some persisted) ∧
      RecordedIn persisted (PurePath.parse "/out/x.csv") ∧
      ¬MovedTo (buildMovePlan "/out/y.csv" (routedCandidate "/out/y.csv" "/in/x.csv")
        (some (pair "/in/" "/in/x.csv" (by decide) (by decide))))
          (PurePath.parse "/out/x.csv") := by
  refine ⟨routedState_routed (by decide +kernel), _, rfl, .inr ⟨"/out/x.csv", .head _, rfl⟩, ?_⟩
  rintro ⟨m, hm, hp⟩
  have hplan : m ∈ [("/in/x.csv", "/out/y.csv")] := hm
  rw [List.mem_singleton.mp hplan] at hp
  exact absurd hp (by decide +kernel)

end

end DpostV2.Ingestion
