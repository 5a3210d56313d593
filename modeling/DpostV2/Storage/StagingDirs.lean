import DpostV2.Lib.DateTime
import DpostV2.Lib.Lexical
import DpostV2.Lib.Regex
import DpostV2.Storage.FileOps

/-!
# The staging directories

`derive_staging_layout` places the buckets of a device below a root, `cleanup_candidates` filters
what may be deleted. The filter keeps the active directories and what is in them, and does not look
at what they are in: `cleanup_safe_iff`.
-/

namespace DpostV2.StagingDirs

-- ---------------------------------------------------------------------------
-- Resolved paths
-- ---------------------------------------------------------------------------

/-- A path without `..`, by its root and its names. -/
abbrev Resolved := PathRoot × FsPath

/-- What a call finds around it: the working directory, and the home a `~` or `~user` stands for. -/
structure System where
  cwd : Resolved
  home : String → Option PurePath
  cwd_names : Names cwd.2

/-- `path.relative_to(root)` does not raise. -/
def isWithin (path root : Resolved) : Bool := path.1 = root.1 && decide (root.2 <+: path.2)

theorem isWithin_iff {path root : Resolved} :
    isWithin path root = true ↔ path.1 = root.1 ∧ root.2 <+: path.2 := by
  simp [isWithin]

theorem isWithin_trans {a b c : Resolved} (hab : isWithin a b = true) (hbc : isWithin b c = true) :
    isWithin a c = true := by
  rw [isWithin_iff] at *
  exact ⟨hab.1.trans hbc.1, hbc.2.trans hab.2⟩

theorem isWithin_antisymm {a b : Resolved} (hab : isWithin a b = true) (hba : isWithin b a = true) :
    a = b := by
  rw [isWithin_iff] at *
  exact Prod.ext hab.1 (hba.2.eq_of_length_le hab.2.length_le)

theorem isWithin_self (a : Resolved) : isWithin a a = true :=
  isWithin_iff.mpr ⟨rfl, List.prefix_rfl⟩

/-- `path.resolve(strict=False)`, where a relative path starts from `base`; of a leading `//` one
slash is left. -/
def resolveFrom (base : Resolved) (path : PurePath) : Except Exn Resolved :=
  if path.parts.any fun part => part.toList.contains (Char.ofNat 0) then
    .error (valueError "embedded null byte")
  else if path.root = .relative then .ok (base.1, FsPath.walk base.2 path.parts)
  else .ok (.slash, FsPath.walk [] path.parts)

def expanduser (system : System) (path : PurePath) : Except Exn PurePath :=
  FileOps.expanduser { root := [], home := system.home, crossDevice := fun _ _ => false } path

/-- `Path(raw).expanduser().resolve(strict=False)`. -/
def resolvePath (system : System) (raw : String) : Except Exn Resolved := do
  let path ← expanduser system (PurePath.parse raw)
  resolveFrom system.cwd path

theorem walk_names {names : List String} (h : Names names) (base : FsPath) :
    FsPath.walk base names = base ++ names := by
  induction names generalizing base with
  | nil => simp [FsPath.walk]
  | cons name rest ih =>
    have hstep : FsPath.walk base (name :: rest) = FsPath.walk (base ++ [name]) rest := by
      simp [FsPath.walk, h name List.mem_cons_self]
    rw [hstep, ih fun s hs => h s (List.mem_cons_of_mem _ hs)]
    simp

theorem names_walk {base : FsPath} (hbase : Names base) (parts : List String) :
    Names (FsPath.walk base parts) := by
  induction parts generalizing base with
  | nil => exact hbase
  | cons part rest ih =>
    refine ih ?_
    dsimp only
    split_ifs with hup
    · exact fun s hs => hbase s (List.dropLast_subset _ hs)
    · intro s hs
      rcases List.mem_append.mp hs with hs | hs
      · exact hbase s hs
      · exact List.mem_singleton.mp hs ▸ hup

theorem names_resolveFrom {base path' : Resolved} {path : PurePath} (hbase : Names base.2)
    (h : resolveFrom base path = .ok path') : Names path'.2 := by
  unfold resolveFrom at h
  split_ifs at h
  · obtain rfl := Except.ok.inj h
    exact names_walk hbase _
  · obtain rfl := Except.ok.inj h
    exact names_walk (fun _ hs => absurd hs List.not_mem_nil) _

-- ---------------------------------------------------------------------------
-- The layout
-- ---------------------------------------------------------------------------

structure StagingLayout where
  root : Resolved
  intake : Resolved
  staging : Resolved
  processed : Resolved
  rejected : Resolved
  archive : Resolved
  deriving DecidableEq

structure Date where
  year : Nat
  month : Nat
  day : Nat
  deriving DecidableEq, Repr

def Date.isoformat (d : Date) : String :=
  String.ofList (DateTime.pad4 d.year ++ '-' :: DateTime.pad2 d.month ++ '-' :: DateTime.pad2 d.day)

def stagingError (cls message : String) : Exn :=
  { mro := [cls, "StagingDirsError", "RuntimeError", "Exception"], message }

/-- A character of `[A-Za-z0-9_-]`. -/
def isTokenChar (c : Char) : Bool := isWordChar c || c == '-'

section
variable [Interpreter]

def validateToken (fieldName value : String) : Except Exn String :=
  if blank value then
    .error (stagingError "StagingDirsTokenError" (fieldName ++ " must be non-empty"))
  else if (strip value).toList.all isTokenChar then .ok (strip value)
  else .error (stagingError "StagingDirsTokenError"
    ("unsupported token value for " ++ fieldName ++ ": " ++ Interpreter.reprOf value))

end

def Resolved.text (path : Resolved) : String :=
  String.ofList (path.1.text ++ ['/'].intercalate (path.2.map String.toList))

def guardRootScope (root path : Resolved) : Except Exn Resolved :=
  let resolved : Resolved := (path.1, FsPath.walk [] path.2)
  if isWithin resolved root then .ok resolved
  else .error (stagingError "StagingDirsSafetyError"
    ("path escapes configured root: " ++ Resolved.text resolved))

def below (root : Resolved) (names : List String) : Resolved := (root.1, root.2 ++ names)

/-- `archive_override`, or the directory of that name in the partition. -/
def archivePath (system : System) (root : Resolved) (partition : List String)
    (archiveOverride : Option String) : Except Exn Resolved :=
  match archiveOverride with
  | none => .ok (below root (partition ++ ["archive"]))
  | some raw => do
    let path ← expanduser system (PurePath.parse raw)
    resolveFrom root path

/-- `mkdir` of the buckets in order; `failure` is what it says of a path. -/
def provision (failure : Resolved → Option String) : List Resolved → Except Exn Unit
  | [] => .ok ()
  | path :: rest => match failure path with
    | some text => .error (stagingError "StagingDirsProvisionError"
        ("failed to provision directories: " ++ text))
    | none => provision failure rest

/-- `create_on_demand` is `none`, or what `mkdir` says of a path. -/
def deriveStagingLayout [Interpreter] (system : System) (root profile mode : String)
    (processingDate : Date) (deviceToken : String)
    (createOnDemand : Option (Resolved → Option String)) (archiveOverride : Option String) :
    Except Exn StagingLayout := do
  let rootPath ← resolvePath system root
  -- `if not str(root_path)`: a resolved path is not empty
  let normalizedProfile ← validateToken "profile" profile
  let normalizedMode ← validateToken "mode" mode
  let normalizedDevice ← validateToken "device_token" deviceToken
  let dateToken := processingDate.isoformat
  let partition := [normalizedProfile, normalizedMode, normalizedDevice]
  let archive ← archivePath system rootPath partition archiveOverride
  let intake ← guardRootScope rootPath (below rootPath (partition ++ ["intake", dateToken]))
  let staging ← guardRootScope rootPath (below rootPath (partition ++ ["staging", dateToken]))
  let processed ← guardRootScope rootPath (below rootPath (partition ++ ["processed"]))
  let rejected ← guardRootScope rootPath (below rootPath (partition ++ ["rejected"]))
  let archive ← guardRootScope rootPath archive
  provision (createOnDemand.getD fun _ => none) [intake, staging, processed, rejected, archive]
  return { root := rootPath, intake, staging, processed, rejected, archive }

-- ---------------------------------------------------------------------------
-- Cleanup
-- ---------------------------------------------------------------------------

def isCandidate (layout : StagingLayout) (candidate : Resolved) : Bool :=
  isWithin candidate layout.root &&
    !(isWithin candidate layout.intake || isWithin candidate layout.staging)

def cleanupCandidates (system : System) (layout : StagingLayout) :
    List String → Except Exn (List Resolved)
  | [] => .ok []
  | rawPath :: rest => do
    let candidate ← resolvePath system rawPath
    let filtered ← cleanupCandidates system layout rest
    return if isCandidate layout candidate then candidate :: filtered else filtered

theorem mem_cleanupCandidates {system : System} {layout : StagingLayout}
    {candidates : List String} {paths : List Resolved}
    (h : cleanupCandidates system layout candidates = .ok paths) (path : Resolved) :
    path ∈ paths ↔ isCandidate layout path = true ∧
      ∃ raw ∈ candidates, resolvePath system raw = .ok path := by
  induction candidates generalizing paths with
  | nil =>
    obtain rfl := Except.ok.inj h
    simp
  | cons raw rest ih =>
    obtain ⟨candidate, hcandidate, h⟩ := except_bind_ok.mp h
    obtain ⟨filtered, hfiltered, h⟩ := except_bind_ok.mp h
    obtain rfl := except_pure_ok.mp h
    have hrest := ih hfiltered
    have hraw : ∀ p, resolvePath system raw = .ok p ↔ p = candidate := fun p => by
      rw [hcandidate, Except.ok.injEq, eq_comm]
    simp only [List.exists_mem_cons_iff, hraw]
    split_ifs with hkept
    · rw [List.mem_cons, hrest]
      constructor
      · rintro (rfl | ⟨hcand, hex⟩)
        · exact ⟨hkept, .inl rfl⟩
        · exact ⟨hcand, .inr hex⟩
      · rintro ⟨hcand, rfl | hex⟩
        · exact .inl rfl
        · exact .inr ⟨hcand, hex⟩
    · rw [hrest]
      refine and_congr_right fun hcand => ⟨.inr, ?_⟩
      rintro (rfl | hex)
      · exact absurd hcand hkept
      · exact hex

-- ---------------------------------------------------------------------------
-- Where the active directories are
-- ---------------------------------------------------------------------------

theorem validateToken_names [Interpreter] {fieldName value token : String}
    (h : validateToken fieldName value = .ok token) : token ≠ ".." := by
  unfold validateToken at h
  split_ifs at h with hblank hchars
  obtain rfl := Except.ok.inj h
  intro hdots
  rw [hdots] at hchars
  exact absurd hchars (by decide)

theorem isoformat_names (d : Date) : d.isoformat ≠ ".." := by
  intro h
  have hlength := congrArg (fun s => s.toList.length) h
  simp [Date.isoformat, DateTime.pad4, DateTime.pad2] at hlength

theorem guardRootScope_ok {root path path' : Resolved} (hnames : Names path.2)
    (h : guardRootScope root path = .ok path') : path' = path := by
  unfold guardRootScope at h
  dsimp only at h
  split_ifs at h
  obtain rfl := Except.ok.inj h
  exact Prod.ext rfl (by simpa using walk_names hnames [])

/-- The active directories are the days of `intake` and `staging` in one partition. -/
structure Partitioned (layout : StagingLayout) : Prop where
  names : ∃ (partition : List String) (day : String),
    layout.intake = below layout.root (partition ++ ["intake", day]) ∧
      layout.staging = below layout.root (partition ++ ["staging", day])

theorem deriveStagingLayout_partitioned [Interpreter] {system : System}
    {root profile mode deviceToken : String} {processingDate : Date}
    {createOnDemand : Option (Resolved → Option String)} {archiveOverride : Option String}
    {layout : StagingLayout}
    (h : deriveStagingLayout system root profile mode processingDate deviceToken createOnDemand
      archiveOverride = .ok layout) : Partitioned layout := by
  simp only [deriveStagingLayout, except_bind_ok, except_pure_ok] at h
  obtain ⟨rootPath, hroot, profile', hprofile, mode', hmode, device', hdevice, _, -, intake,
    hintake, staging, hstaging, _, -, _, -, _, -, _, -, rfl⟩ := h
  have hrootNames : Names rootPath.2 := by
    obtain ⟨path, -, hpath⟩ := except_bind_ok.mp hroot
    exact names_resolveFrom system.cwd_names hpath
  have hnames : ∀ bucket, bucket ≠ ".." → Names (rootPath.2 ++
      ([profile', mode', device'] ++ [bucket, processingDate.isoformat])) := by
    intro bucket hbucket s hs
    rcases List.mem_append.mp hs with hs | hs
    · exact hrootNames s hs
    · simp only [List.mem_append, List.mem_cons, List.not_mem_nil, or_false] at hs
      rcases hs with (rfl | rfl | rfl) | rfl | rfl
      · exact validateToken_names hprofile
      · exact validateToken_names hmode
      · exact validateToken_names hdevice
      · exact hbucket
      · exact isoformat_names _
  exact ⟨[profile', mode', device'], processingDate.isoformat,
    guardRootScope_ok (hnames "intake" (by decide)) hintake,
    guardRootScope_ok (hnames "staging" (by decide)) hstaging⟩

section
variable {layout : StagingLayout}

theorem Partitioned.intake_within (h : Partitioned layout) :
    isWithin layout.intake layout.root = true ∧ isWithin layout.staging layout.root = true := by
  obtain ⟨partition, day, hintake, hstaging⟩ := h.names
  rw [hintake, hstaging]
  exact ⟨isWithin_iff.mpr ⟨rfl, List.prefix_append ..⟩,
    isWithin_iff.mpr ⟨rfl, List.prefix_append ..⟩⟩

/-- Neither active directory lies in the other. -/
theorem Partitioned.apart (h : Partitioned layout) :
    isWithin layout.intake layout.staging = false ∧
      isWithin layout.staging layout.intake = false := by
  obtain ⟨partition, day, hintake, hstaging⟩ := h.names
  constructor
  · rw [hintake, hstaging, Bool.eq_false_iff, ne_eq, isWithin_iff]
    rintro ⟨-, hprefix⟩
    have heq := hprefix.eq_of_length (by simp [below])
    simp [below] at heq
  · rw [hintake, hstaging, Bool.eq_false_iff, ne_eq, isWithin_iff]
    rintro ⟨-, hprefix⟩
    have heq := hprefix.eq_of_length (by simp [below])
    simp [below] at heq

-- ---------------------------------------------------------------------------
-- What cleaning up leaves in place
-- ---------------------------------------------------------------------------

/-- What is gone when the paths are deleted recursively. -/
def deleted (paths : List Resolved) (path : Resolved) : Prop :=
  ∃ p ∈ paths, isWithin path p = true

/-- No path touches an active directory, and every path is strictly inside the root. -/
structure LeavesActive (layout : StagingLayout) (paths : List Resolved) : Prop where
  apart : ∀ p ∈ paths, ∀ active ∈ [layout.intake, layout.staging],
    p ≠ active ∧ ¬isWithin p active = true ∧ ¬isWithin active p = true
  inside : ∀ p ∈ paths, isWithin p layout.root = true ∧ p ≠ layout.root
  inPlace : ∀ path ∈ [layout.root, layout.intake, layout.staging], ¬deleted paths path

/-- The root, or a directory that leads from it to an active one. -/
def Encloses (layout : StagingLayout) (path : Resolved) : Prop :=
  isWithin path layout.root = true ∧
    ((isWithin layout.intake path = true ∧ path ≠ layout.intake) ∨
      (isWithin layout.staging path = true ∧ path ≠ layout.staging))

instance (layout : StagingLayout) (path : Resolved) : Decidable (Encloses layout path) :=
  inferInstanceAs (Decidable (_ ∧ _))

/-- What encloses an active directory is a candidate: the filter looks the other way. -/
theorem Encloses.isCandidate (h : Partitioned layout) {path : Resolved}
    (hpath : Encloses layout path) : isCandidate layout path = true := by
  obtain ⟨hwithin, habove⟩ := hpath
  have hintake : ¬isWithin path layout.intake = true := by
    intro hin
    rcases habove with ⟨hup, hne⟩ | ⟨hup, -⟩
    · exact hne (isWithin_antisymm hin hup)
    · exact absurd (isWithin_trans hup hin) (by simp [h.apart.2])
  have hstaging : ¬isWithin path layout.staging = true := by
    intro hin
    rcases habove with ⟨hup, -⟩ | ⟨hup, hne⟩
    · exact absurd (isWithin_trans hup hin) (by simp [h.apart.1])
    · exact hne (isWithin_antisymm hin hup)
  simp [StagingDirs.isCandidate, hwithin, hintake, hstaging]

theorem leavesActive_of_not_encloses (h : Partitioned layout) {paths : List Resolved}
    (hcandidates : ∀ p ∈ paths, isCandidate layout p = true)
    (hclear : ∀ p ∈ paths, ¬Encloses layout p) : LeavesActive layout paths := by
  have hparts : ∀ p ∈ paths, isWithin p layout.root = true ∧
      isWithin p layout.intake = false ∧ isWithin p layout.staging = false := by
    intro p hp
    simpa [isCandidate] using hcandidates p hp
  have hup : ∀ p ∈ paths, ∀ active ∈ [layout.intake, layout.staging],
      ¬isWithin active p = true := by
    intro p hp active hactive hwithin
    obtain ⟨hroot, hintake, hstaging⟩ := hparts p hp
    refine hclear p hp ⟨hroot, ?_⟩
    rcases List.mem_cons.mp hactive with rfl | hactive
    · exact .inl ⟨hwithin, fun heq => by simp [heq, isWithin_self] at hintake⟩
    · obtain rfl := List.mem_singleton.mp hactive
      exact .inr ⟨hwithin, fun heq => by simp [heq, isWithin_self] at hstaging⟩
  have hroot : ∀ p ∈ paths, ¬isWithin layout.root p = true := fun p hp hwithin =>
    hup p hp layout.intake List.mem_cons_self (isWithin_trans h.intake_within.1 hwithin)
  refine ⟨fun p hp active hactive => ?_, fun p hp => ⟨(hparts p hp).1, ?_⟩, ?_⟩
  · have hin : ¬isWithin p active = true := by
      rcases List.mem_cons.mp hactive with rfl | hactive
      · simp [(hparts p hp).2.1]
      · obtain rfl := List.mem_singleton.mp hactive
        simp [(hparts p hp).2.2]
    exact ⟨fun heq => hin (heq ▸ isWithin_self _), hin, hup p hp active hactive⟩
  · rintro rfl
    exact hroot _ hp (isWithin_self _)
  · rintro path hpath ⟨p, hp, hwithin⟩
    rcases List.mem_cons.mp hpath with rfl | hactive
    · exact hroot p hp hwithin
    · exact hup p hp path hactive hwithin

theorem LeavesActive.not_encloses {paths : List Resolved} (h : LeavesActive layout paths)
    {p : Resolved} (hp : p ∈ paths) : ¬Encloses layout p := by
  rintro ⟨-, ⟨hwithin, -⟩ | ⟨hwithin, -⟩⟩
  · exact (h.apart p hp layout.intake (by simp)).2.2 hwithin
  · exact (h.apart p hp layout.staging (by simp)).2.2 hwithin

end

/-- Cleaning up leaves the active directories and the root in place if and only if no candidate is
the root or a directory that leads from it to an active one. -/
theorem cleanup_safe_iff [Interpreter] (system system' : System) (root profile mode : String)
    (processingDate : Date) (deviceToken : String)
    (createOnDemand : Option (Resolved → Option String)) (archiveOverride : Option String)
    (layout : StagingLayout)
    (hlayout : deriveStagingLayout system root profile mode processingDate deviceToken
      createOnDemand
      archiveOverride = .ok layout)
    (candidates : List String) (paths : List Resolved)
    (hpaths : cleanupCandidates system' layout candidates = .ok paths) :
    LeavesActive layout paths ↔
      ∀ raw ∈ candidates, ∀ p, resolvePath system' raw = .ok p → ¬Encloses layout p := by
  have hpartitioned := deriveStagingLayout_partitioned hlayout
  have hmem := mem_cleanupCandidates hpaths
  constructor
  · intro h raw hraw p hp hencloses
    have hreturned := (hmem p).mpr ⟨hencloses.isCandidate hpartitioned, raw, hraw, hp⟩
    exact h.not_encloses hreturned hencloses
  · intro hclear
    refine leavesActive_of_not_encloses hpartitioned (fun p hp => ((hmem p).mp hp).1) fun p hp => ?_
    obtain ⟨-, raw, hraw, hresolved⟩ := (hmem p).mp hp
    exact hclear raw hraw p hresolved

section
attribute [local instance] Interpreter.ascii

/-- A process in the root directory that knows no home. -/
def plainSystem : System where
  cwd := (.slash, [])
  home _ := none
  cwd_names := fun _ hs => absurd hs List.not_mem_nil

def sampleLayout : StagingLayout where
  root := (.slash, ["srv"])
  intake := (.slash, ["srv", "qa", "headless", "xrd", "intake", "2026-03-04"])
  staging := (.slash, ["srv", "qa", "headless", "xrd", "staging", "2026-03-04"])
  processed := (.slash, ["srv", "qa", "headless", "xrd", "processed"])
  rejected := (.slash, ["srv", "qa", "headless", "xrd", "rejected"])
  archive := (.slash, ["srv", "qa", "headless", "xrd", "archive"])

theorem sampleLayout_derived :
    deriveStagingLayout plainSystem "/srv" "qa" "headless" ⟨2026, 3, 4⟩ "xrd" none none =
      .ok sampleLayout := by decide +kernel

theorem cleanup_safe_archive :
    LeavesActive sampleLayout [(.slash, ["srv", "qa", "headless", "xrd", "archive", "old"])] := by
  have hpaths : cleanupCandidates plainSystem sampleLayout ["/srv/qa/headless/xrd/archive/old"] =
      .ok [(.slash, ["srv", "qa", "headless", "xrd", "archive", "old"])] := by decide +kernel
  refine (cleanup_safe_iff _ _ _ _ _ _ _ _ _ _ sampleLayout_derived _ _ hpaths).mpr ?_
  intro raw hraw p hp
  obtain rfl := List.mem_singleton.mp hraw
  have hresolved : resolvePath plainSystem "/srv/qa/headless/xrd/archive/old" =
      .ok (.slash, ["srv", "qa", "headless", "xrd", "archive", "old"]) := by decide +kernel
  obtain rfl := Except.ok.inj (hresolved.symm.trans hp)
  decide +kernel

/-- The directory of all days of `intake` is a candidate, and so is the root. -/
theorem intake_parent_returned :
    deriveStagingLayout plainSystem "/srv" "qa" "headless" ⟨2026, 3, 4⟩ "xrd" none none =
      .ok sampleLayout ∧
    cleanupCandidates plainSystem sampleLayout ["/srv/qa/headless/xrd/intake", "/srv"] =
      .ok [(.slash, ["srv", "qa", "headless", "xrd", "intake"]), (.slash, ["srv"])] ∧
    isWithin sampleLayout.intake (.slash, ["srv", "qa", "headless", "xrd", "intake"]) = true ∧
    ¬LeavesActive sampleLayout
      [(.slash, ["srv", "qa", "headless", "xrd", "intake"]), (.slash, ["srv"])] := by
  refine ⟨sampleLayout_derived, by decide +kernel, by decide +kernel, fun h => ?_⟩
  exact h.not_encloses List.mem_cons_self (by decide +kernel)

end

end DpostV2.StagingDirs
