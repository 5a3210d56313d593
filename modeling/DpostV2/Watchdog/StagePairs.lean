import DpostV2.Lib.Disk
import DpostV2.Lib.Items
import DpostV2.Lib.Splits
import DpostV2.Lib.Split
import DpostV2.Lib.FileName

/-!
# Staging directories

`create_unique_stage_dir` makes the directory of a batch, `reconstruct_pairs_from_stage` looks
for the pairs in it when a processor has forgotten the batch. Files with one stem are paired
first, what is left over in the order of the modification times. No file is in two pairs, and
only the side with more files has any left over; a batch in which every pair has a stem of its
own is found again (`reconstruct_recovers`).
-/

namespace DpostV2.Watchdog

open Items (last)

theorem zip_fst_initial {α β : Type} (xs : List α) (ys : List β) :
    (xs.zip ys).map Prod.fst <+: xs := by
  rw [List.zip_eq_zip_take_min, List.map_fst_zip (by simp)]
  exact List.take_prefix _ _

theorem zip_snd_initial {α β : Type} (xs : List α) (ys : List β) :
    (xs.zip ys).map Prod.snd <+: ys := by
  rw [List.zip_eq_zip_take_min, List.map_snd_zip (by simp)]
  exact List.take_prefix _ _

-- ---------------------------------------------------------------------------
-- Making a directory
-- ---------------------------------------------------------------------------

/-- What the disk answers to `exists()` and `mkdir()`. -/
structure StageDisk where
  present : PurePath → Except Exn Bool
  mkdir : PurePath → Except Exn Unit

/-- The loop of `create_unique_stage_dir` over the indices that are left. -/
def StageDisk.createFrom (disk : StageDisk) (baseDir : PurePath) (stem marker : String) :
    List Nat → Except Exn PurePath
  | [] => do
    let candidate := baseDir.slash (stem ++ marker)
    disk.mkdir candidate
    return candidate
  | idx :: rest => do
    let candidate := baseDir.slash (stem ++ marker ++ toString idx)
    if ← disk.present candidate then disk.createFrom baseDir stem marker rest
    else
      disk.mkdir candidate
      return candidate

def createUniqueStageDir (disk : StageDisk) (baseDir : PurePath) (stem marker : String)
    (maxIndex : Nat) : Except Exn PurePath :=
  disk.createFrom baseDir stem marker (List.range' 1 (maxIndex - 1))

theorem createUniqueStageDir_ok {disk : StageDisk} {baseDir stageDir : PurePath}
    {stem marker : String} {maxIndex : Nat}
    (h : createUniqueStageDir disk baseDir stem marker maxIndex = .ok stageDir) :
    ∃ index : String, '/' ∉ index.toList ∧ stageDir = baseDir.slash (stem ++ marker ++ index) := by
  unfold createUniqueStageDir at h
  generalize List.range' 1 (maxIndex - 1) = indices at h
  induction indices with
  | nil =>
    obtain ⟨_, -, h⟩ := except_bind_ok.mp h
    cases h
    exact ⟨"", by simp, by simp⟩
  | cons idx rest ih =>
    obtain ⟨present, -, h⟩ := except_bind_ok.mp h
    cases present with
    | true => exact ih h
    | false =>
      obtain ⟨_, -, h⟩ := except_bind_ok.mp h
      cases h
      exact ⟨toString idx, not_slash_digits idx, rfl⟩

-- ---------------------------------------------------------------------------
-- Pairing the files of a directory
-- ---------------------------------------------------------------------------

/-- A directory with its entries, in the order of `iterdir()`. -/
structure StageDir where
  path : PurePath
  entries : List PurePath
  distinct : entries.Nodup
  inside : ∀ entry ∈ entries, entry.parent = path

/-- Every file has its modification time. -/
def StatsAll (stat : PurePath → Except Exn Seconds) (items : List PurePath) : Prop :=
  ∀ item ∈ items, ∃ mtime, stat item = .ok mtime

/-- The error of the first file whose `stat()` fails. -/
def FirstFailure (stat : PurePath → Except Exn Seconds) (items : List PurePath) (e : Exn) : Prop :=
  ∃ before item after, items = before ++ item :: after ∧ StatsAll stat before ∧
    stat item = .error e

/-- `sorted(items, key=lambda p: p.stat().st_mtime)`: every key is taken before two are compared. -/
def byMtime (stat : PurePath → Except Exn Seconds) (items : List PurePath) :
    Except Exn (List PurePath) := do
  let keyed ← items.mapM fun item => do return (item, ← stat item)
  return (keyed.mergeSort fun p q => decide (p.2 ≤ q.2)).map Prod.fst

section
variable {α : Type} [DecidableEq α]

/-- How the loop over the left items stands. -/
structure Matching (α : Type) where
  pairs : List (α × α) := []
  unmatchedLeft : List α := []
  usedRight : List α := []

variable (stem : α → String)

/-- `{p.stem: p for p in right_items}.get(key)`. -/
def rightByStem (rights : List α) (key : String) : Option α :=
  last (rights.map fun p => (stem p, p)) key

def matchLeft (rights : List α) (m : Matching α) (left : α) : Matching α :=
  match rightByStem stem rights (stem left) with
  | some right =>
    if right ∈ m.usedRight then { m with unmatchedLeft := m.unmatchedLeft ++ [left] }
    else { m with pairs := m.pairs ++ [(left, right)], usedRight := m.usedRight ++ [right] }
  | none => { m with unmatchedLeft := m.unmatchedLeft ++ [left] }

def matchStems (lefts rights : List α) : Matching α := lefts.foldl (matchLeft stem rights) {}

def pairItems (lefts rights : List α) : List (α × α) :=
  let m := matchStems stem lefts rights
  let remainingRight := rights.filter fun p => p ∉ m.usedRight
  m.pairs ++ m.unmatchedLeft.zip remainingRight

/-- `name.split(marker)[0]`. -/
def stagePrefix (marker name : String) : String :=
  String.ofList ((Split.split [marker.toList] name.toList).headD [])

def runtimeError (message : String) : Exn :=
  { mro := ["RuntimeError", "Exception"], message }

/-- `reconstruct_pairs_from_stage` once the files of both sides are sorted. -/
def pairSorted (marker leftLabel rightLabel : String) (dir : StageDir)
    (leftItems rightItems : List PurePath) : Except Exn (String × List (PurePath × PurePath)) :=
  if leftItems.isEmpty || rightItems.isEmpty then
    .error (runtimeError ("Stage directory " ++ dir.path.str ++ " missing expected files"))
  else
    let pairs := pairItems PurePath.stem leftItems rightItems
    if pairs.isEmpty then
      .error (runtimeError ("No " ++ leftLabel ++ "/" ++ rightLabel ++
        " pairs found in staging folder " ++ dir.path.str))
    else .ok (stagePrefix marker dir.path.name, pairs)

/-- `reconstruct_pairs_from_stage`. -/
def reconstructPairs (stat : PurePath → Except Exn Seconds)
    (leftFilter rightFilter : PurePath → Bool) (marker leftLabel rightLabel : String)
    (dir : StageDir) : Except Exn (String × List (PurePath × PurePath)) := do
  let leftItems ← byMtime stat (dir.entries.filter leftFilter)
  let rightItems ← byMtime stat (dir.entries.filter rightFilter)
  pairSorted marker leftLabel rightLabel dir leftItems rightItems

-- ---------------------------------------------------------------------------
-- The loop
-- ---------------------------------------------------------------------------

variable {stem} {lefts rights : List α} {m : Matching α}

/-- Where the left items are that the loop has seen, and which right items it has used. -/
structure Matched (stem : α → String) (rights seen : List α) (m : Matching α) : Prop where
  seen : Splits seen m.unmatchedLeft (m.pairs.map Prod.fst)
  used : m.usedRight = m.pairs.map Prod.snd
  distinct : m.usedRight.Nodup
  stems : ∀ pair ∈ m.pairs, rightByStem stem rights (stem pair.1) = some pair.2
  unmatched : ∀ left ∈ m.unmatchedLeft, ∀ right,
    rightByStem stem rights (stem left) = some right → right ∈ m.usedRight

theorem matched_matchLeft {seen : List α} (h : Matched stem rights seen m) (left : α) :
    Matched stem rights (seen ++ [left]) (matchLeft stem rights m left) := by
  unfold matchLeft
  cases hright : rightByStem stem rights (stem left) with
  | none =>
    refine ⟨h.seen.keep left, h.used, h.distinct, h.stems, ?_⟩
    intro other hother right hother'
    rcases List.mem_append.mp hother with hmem | hmem
    · exact h.unmatched other hmem right hother'
    · rw [List.mem_singleton.mp hmem, hright] at hother'
      cases hother'
  | some right =>
    by_cases hused : right ∈ m.usedRight
    · simp only [hused, if_true]
      refine ⟨h.seen.keep left, h.used, h.distinct, h.stems, ?_⟩
      intro other hother right' hother'
      rcases List.mem_append.mp hother with hmem | hmem
      · exact h.unmatched other hmem right' hother'
      · rw [List.mem_singleton.mp hmem, hright] at hother'
        exact Option.some.inj hother' ▸ hused
    · simp only [hused, if_false]
      refine ⟨?_, by simp [h.used], ?_, ?_, fun other hother right' hright' => ?_⟩
      · simpa using h.seen.snocDropped left
      · simpa using h.distinct.concat hused
      · intro pair hpair
        rcases List.mem_append.mp hpair with hmem | hmem
        · exact h.stems pair hmem
        · rw [List.mem_singleton.mp hmem]
          exact hright
      · exact List.mem_append_left _ (h.unmatched other hother right' hright')

theorem matched_matchStems (lefts rights : List α) :
    Matched stem rights lefts (matchStems stem lefts rights) := by
  suffices h : ∀ (seen : List α) (m : Matching α), Matched stem rights seen m →
      Matched stem rights (seen ++ lefts) (lefts.foldl (matchLeft stem rights) m) by
    simpa [matchStems] using h [] {} ⟨.nil, rfl, by simp, by simp, by simp⟩
  induction lefts with
  | nil => simp
  | cons left lefts ih =>
    intro seen m hm
    simpa using ih _ _ (matched_matchLeft hm left)

-- ---------------------------------------------------------------------------
-- The pairs
-- ---------------------------------------------------------------------------

/-- Each item is in one pair at most, the shorter side has none left over, and a stem that is on
both sides joins a pair. -/
structure Paired (stem : α → String) (lefts rights : List α) (pairs : List (α × α)) : Prop where
  left : (pairs.map Prod.fst).Nodup
  right : (pairs.map Prod.snd).Nodup
  among : ∀ pair ∈ pairs, pair.1 ∈ lefts ∧ pair.2 ∈ rights
  length : pairs.length = min lefts.length rights.length
  stems : ∀ left ∈ lefts, ∀ right ∈ rights, stem left = stem right →
    ∃ pair ∈ pairs, stem pair.1 = stem left ∧ stem pair.2 = stem left

omit [DecidableEq α] in
theorem rightByStem_mem {key : String} {right : α} (h : rightByStem stem rights key = some right) :
    right ∈ rights ∧ stem right = key := by
  obtain ⟨p, hp, heq⟩ := List.mem_map.mp (Items.mem_of_last h)
  cases heq
  exact ⟨hp, rfl⟩

omit [DecidableEq α] in
theorem rightByStem_isSome (stem : α → String) {right : α} (h : right ∈ rights) :
    ∃ right', rightByStem stem rights (stem right) = some right' := by
  refine Option.isSome_iff_exists.mp (Items.last_isSome_iff.mpr ?_)
  simpa using ⟨right, h, rfl⟩

namespace Matched

variable (hm : Matched stem rights lefts m)

include hm

omit [DecidableEq α] in
theorem used_mem {right : α} (hright : right ∈ m.usedRight) : right ∈ rights := by
  rw [hm.used] at hright
  obtain ⟨pair, hpair, rfl⟩ := List.mem_map.mp hright
  exact (rightByStem_mem (hm.stems pair hpair)).1

/-- The right items that are used, and those that are left for the second pass. -/
theorem remaining (hrights : rights.Nodup) :
    rights.Perm (m.usedRight ++ rights.filter fun p => p ∉ m.usedRight) := by
  have hfilter : (rights.filter fun p => p ∈ m.usedRight).Perm m.usedRight := by
    refine (List.perm_ext_iff_of_nodup (hrights.filter _) hm.distinct).mpr fun right => ?_
    simpa using hm.used_mem
  simpa using ((List.filter_append_perm (fun p => decide (p ∈ m.usedRight)) rights).symm).trans
    (hfilter.append_right _)

omit [DecidableEq α] in
theorem stems_joined {left right : α} (hleft : left ∈ lefts) (hright : right ∈ rights)
    (heq : stem left = stem right) :
    ∃ pair ∈ m.pairs, stem pair.1 = stem left ∧ stem pair.2 = stem left := by
  obtain ⟨right', hright'⟩ := rightByStem_isSome stem hright
  rw [← heq] at hright'
  obtain ⟨-, hstem'⟩ := rightByStem_mem hright'
  rcases hm.seen.mem_iff.mp hleft with hmem | hmem
  · -- the right item of this stem has been used for an earlier left one
    have hmem' := hm.unmatched left hmem right' hright'
    rw [hm.used] at hmem'
    obtain ⟨pair, hpair, rfl⟩ := List.mem_map.mp hmem'
    obtain ⟨-, hstem⟩ := rightByStem_mem (hm.stems pair hpair)
    exact ⟨pair, hpair, hstem.symm.trans hstem', hstem'⟩
  · obtain ⟨pair, hpair, rfl⟩ := List.mem_map.mp hmem
    obtain ⟨-, hstem⟩ := rightByStem_mem (hm.stems pair hpair)
    exact ⟨pair, hpair, rfl, hstem⟩

end Matched

theorem pairItems_paired (hlefts : lefts.Nodup) (hrights : rights.Nodup) :
    Paired stem lefts rights (pairItems stem lefts rights) := by
  have hm : Matched stem rights lefts (matchStems stem lefts rights) :=
    matched_matchStems lefts rights
  unfold pairItems
  generalize matchStems stem lefts rights = m at hm
  have hremaining := hm.remaining hrights
  have hleft : (m.pairs.map Prod.fst ++ m.unmatchedLeft).Nodup :=
    (hm.seen.counted.trans List.perm_append_comm).nodup_iff.mp hlefts
  have hright : (m.usedRight ++ rights.filter fun p => p ∉ m.usedRight).Nodup :=
    hremaining.nodup_iff.mp hrights
  refine ⟨?_, ?_, fun pair hpair => ?_, ?_, fun left hleft right hright heq => ?_⟩
  · rw [List.map_append]
    exact hleft.sublist ((zip_fst_initial _ _).sublist.append_left _)
  · rw [List.map_append, ← hm.used]
    exact hright.sublist ((zip_snd_initial _ _).sublist.append_left _)
  · rcases List.mem_append.mp hpair with hmem | hmem
    · refine ⟨hm.seen.mem_iff.mpr (.inr (List.mem_map_of_mem hmem)), hm.used_mem ?_⟩
      rw [hm.used]
      exact List.mem_map_of_mem hmem
    · obtain ⟨hunmatched, hfree⟩ := List.of_mem_zip hmem
      exact ⟨hm.seen.mem_iff.mpr (.inl hunmatched), (List.mem_filter.mp hfree).1⟩
  · have hlengths := hm.seen.length_eq
    have hlengths' := hremaining.length_eq
    simp only [List.length_append, List.length_zip, List.length_map, hm.used]
      at hlengths hlengths' ⊢
    omega
  · obtain ⟨pair, hpair, hstems⟩ := hm.stems_joined hleft hright heq
    exact ⟨pair, List.mem_append_left _ hpair, hstems⟩

omit [DecidableEq α] in
theorem Paired.perm {lefts' rights' : List α} {pairs : List (α × α)}
    (h : Paired stem lefts rights pairs) (hlefts : lefts.Perm lefts')
    (hrights : rights.Perm rights') : Paired stem lefts' rights' pairs where
  left := h.left
  right := h.right
  among pair hpair := by
    rw [← hlefts.mem_iff, ← hrights.mem_iff]
    exact h.among pair hpair
  length := by rw [h.length, hlefts.length_eq, hrights.length_eq]
  stems left hleft right hright :=
    h.stems left (hlefts.mem_iff.mpr hleft) right (hrights.mem_iff.mpr hright)

omit [DecidableEq α] in
/-- Where the sides have no file in common, no file is in two pairs. -/
theorem Paired.once {pairs : List (α × α)} (h : Paired stem lefts rights pairs)
    (hdisjoint : ∀ left ∈ lefts, left ∉ rights) :
    (pairs.map Prod.fst ++ pairs.map Prod.snd).Nodup := by
  refine List.nodup_append.mpr ⟨h.left, h.right, ?_⟩
  rintro file hleft _ hright rfl
  obtain ⟨pair, hpair, rfl⟩ := List.mem_map.mp hleft
  obtain ⟨pair', hpair', heq⟩ := List.mem_map.mp hright
  exact hdisjoint _ (h.among pair hpair).1 (heq ▸ (h.among pair' hpair').2)

end

-- ---------------------------------------------------------------------------
-- The modification times
-- ---------------------------------------------------------------------------

section
variable {stat : PurePath → Except Exn Seconds} {items : List PurePath}

theorem statsAll_or_firstFailure (stat : PurePath → Except Exn Seconds) (items : List PurePath) :
    StatsAll stat items ∨ ∃ e, FirstFailure stat items e := by
  induction items with
  | nil => exact .inl (by simp [StatsAll])
  | cons item items ih =>
    cases hstat : stat item with
    | error e => exact .inr ⟨e, [], item, items, rfl, by simp [StatsAll], hstat⟩
    | ok mtime =>
      have hitem : ∃ mtime, stat item = .ok mtime := ⟨mtime, hstat⟩
      rcases ih with hall | ⟨e, before, failing, after, rfl, hbefore, hfailing⟩
      · exact .inl (List.forall_mem_cons.mpr ⟨hitem, hall⟩)
      · exact .inr ⟨e, item :: before, failing, after, rfl,
          List.forall_mem_cons.mpr ⟨hitem, hbefore⟩, hfailing⟩

theorem byMtime_ok (items : List PurePath) (h : StatsAll stat items) :
    ∃ sorted, byMtime stat items = .ok sorted ∧ sorted.Perm items := by
  have hkeyed : ∃ keyed, (items.mapM fun item => do return (item, ← stat item)) = .ok keyed ∧
      keyed.map Prod.fst = items := by
    induction items with
    | nil => exact ⟨[], rfl, rfl⟩
    | cons item items ih =>
      obtain ⟨⟨mtime, hstat⟩, hrest⟩ := List.forall_mem_cons.mp h
      obtain ⟨keyed, hkeyed, hfst⟩ := ih hrest
      refine ⟨(item, mtime) :: keyed, ?_, by rw [List.map_cons, hfst]⟩
      rw [List.mapM_cons, hstat, hkeyed]
      rfl
  obtain ⟨keyed, hkeyed, hfst⟩ := hkeyed
  refine ⟨(keyed.mergeSort fun p q => decide (p.2 ≤ q.2)).map Prod.fst, ?_, ?_⟩
  · rw [byMtime, hkeyed]
    rfl
  · exact hfst ▸ (List.mergeSort_perm keyed _).map Prod.fst

theorem byMtime_error {e : Exn} (h : FirstFailure stat items e) :
    byMtime stat items = .error e := by
  have hkeyed : (items.mapM fun item => do return (item, ← stat item)) = .error e := by
    obtain ⟨before, item, after, rfl, hbefore, hstat⟩ := h
    induction before with
    | nil =>
      rw [List.nil_append, List.mapM_cons, hstat]
      rfl
    | cons first before ih =>
      obtain ⟨⟨mtime, hfirst⟩, hbefore⟩ := List.forall_mem_cons.mp hbefore
      rw [List.cons_append, List.mapM_cons, hfirst, ih hbefore]
      rfl
  rw [byMtime, hkeyed]
  rfl

end

-- ---------------------------------------------------------------------------
-- The pairs of a directory
-- ---------------------------------------------------------------------------

/-- The first file of the two sides whose `stat()` fails, the left side first. -/
theorem firstFailure_append {stat : PurePath → Except Exn Seconds} {lefts rights : List PurePath}
    {e : Exn} (h : FirstFailure stat (lefts ++ rights) e) :
    FirstFailure stat lefts e ∨ StatsAll stat lefts ∧ FirstFailure stat rights e := by
  obtain ⟨before, item, after, heq, hbefore, hstat⟩ := h
  rcases List.append_eq_append_iff.mp heq with ⟨rest, hbefore', hrights⟩ | ⟨rest, hlefts, hafter⟩
  · subst hbefore'
    refine .inr ⟨fun left hleft => hbefore left (List.mem_append_left _ hleft), rest, item, after,
      hrights, fun right hright => hbefore right (List.mem_append_right _ hright), hstat⟩
  · cases rest with
    | nil =>
      rw [List.append_nil] at hlefts
      rw [List.nil_append] at hafter
      exact .inr ⟨hlefts ▸ hbefore, [], item, after, hafter.symm, by simp [StatsAll], hstat⟩
    | cons first rest =>
      obtain ⟨rfl, rfl⟩ := List.cons.inj hafter
      exact .inl ⟨before, item, rest, hlefts, hbefore, hstat⟩

section
variable {stat : PurePath → Except Exn Seconds} {leftFilter rightFilter : PurePath → Bool}
  {dir : StageDir}

theorem reconstructPairs_failed {e : Exn}
    (h : FirstFailure stat (dir.entries.filter leftFilter ++ dir.entries.filter rightFilter) e)
    (marker leftLabel rightLabel : String) :
    reconstructPairs stat leftFilter rightFilter marker leftLabel rightLabel dir = .error e := by
  unfold reconstructPairs
  rcases firstFailure_append h with hleft | ⟨hall, hright⟩
  · rw [byMtime_error hleft]
    rfl
  · obtain ⟨leftItems, hleft, -⟩ := byMtime_ok _ hall
    rw [hleft, byMtime_error hright]
    rfl

theorem reconstructPairs_sorted
    (h : StatsAll stat (dir.entries.filter leftFilter ++ dir.entries.filter rightFilter))
    (marker leftLabel rightLabel : String) :
    ∃ leftItems rightItems, leftItems.Perm (dir.entries.filter leftFilter) ∧
      rightItems.Perm (dir.entries.filter rightFilter) ∧
      reconstructPairs stat leftFilter rightFilter marker leftLabel rightLabel dir =
        pairSorted marker leftLabel rightLabel dir leftItems rightItems := by
  obtain ⟨leftItems, hleft, hlefts⟩ :=
    byMtime_ok (dir.entries.filter leftFilter) fun p hp => h p (List.mem_append_left _ hp)
  obtain ⟨rightItems, hright, hrights⟩ :=
    byMtime_ok (dir.entries.filter rightFilter) fun p hp => h p (List.mem_append_right _ hp)
  refine ⟨leftItems, rightItems, hlefts, hrights, ?_⟩
  rw [reconstructPairs, hleft, hright]
  rfl

theorem reconstructPairs_missing
    (h : StatsAll stat (dir.entries.filter leftFilter ++ dir.entries.filter rightFilter))
    (hmissing : dir.entries.filter leftFilter = [] ∨ dir.entries.filter rightFilter = [])
    (marker leftLabel rightLabel : String) :
    reconstructPairs stat leftFilter rightFilter marker leftLabel rightLabel dir =
      .error (runtimeError ("Stage directory " ++ dir.path.str ++ " missing expected files")) := by
  obtain ⟨leftItems, rightItems, hlefts, hrights, hresult⟩ :=
    reconstructPairs_sorted h marker leftLabel rightLabel
  have hempty : (leftItems.isEmpty || rightItems.isEmpty) = true := by
    rcases hmissing with hmissing | hmissing
    · rw [hmissing, List.perm_nil] at hlefts
      simp [hlefts]
    · rw [hmissing, List.perm_nil] at hrights
      simp [hrights]
  exact hresult.trans (if_pos hempty)

theorem reconstructPairs_ok
    (h : StatsAll stat (dir.entries.filter leftFilter ++ dir.entries.filter rightFilter))
    (hleft : dir.entries.filter leftFilter ≠ []) (hright : dir.entries.filter rightFilter ≠ [])
    (marker leftLabel rightLabel : String) :
    ∃ pairs, Paired PurePath.stem (dir.entries.filter leftFilter)
        (dir.entries.filter rightFilter) pairs ∧
      reconstructPairs stat leftFilter rightFilter marker leftLabel rightLabel dir =
        .ok (stagePrefix marker dir.path.name, pairs) := by
  obtain ⟨leftItems, rightItems, hlefts, hrights, hresult⟩ :=
    reconstructPairs_sorted h marker leftLabel rightLabel
  have hpaired : Paired PurePath.stem (dir.entries.filter leftFilter)
      (dir.entries.filter rightFilter) (pairItems PurePath.stem leftItems rightItems) :=
    (pairItems_paired (hlefts.nodup_iff.mpr (dir.distinct.filter _))
      (hrights.nodup_iff.mpr (dir.distinct.filter _))).perm hlefts hrights
  refine ⟨_, hpaired, hresult.trans ((if_neg ?_).trans (if_neg ?_))⟩
  · rw [Bool.or_eq_true, List.isEmpty_iff, List.isEmpty_iff, not_or]
    refine ⟨fun hnil => hleft ?_, fun hnil => hright ?_⟩
    · rwa [hnil, List.nil_perm] at hlefts
    · rwa [hnil, List.nil_perm] at hrights
  · rw [List.isEmpty_iff, ← ne_eq, ← List.length_pos_iff, hpaired.length]
    exact lt_min (List.length_pos_iff.mpr hleft) (List.length_pos_iff.mpr hright)

end

/-- The call raises what `stat()` of a matching file raises, or that one side has no files, and
otherwise returns as many pairs as the smaller side has files. -/
theorem reconstruct_complete (stat : PurePath → Except Exn Seconds)
    (leftFilter rightFilter : PurePath → Bool) (marker leftLabel rightLabel : String)
    (dir : StageDir) :
    let lefts := dir.entries.filter leftFilter
    let rights := dir.entries.filter rightFilter
    let result := reconstructPairs stat leftFilter rightFilter marker leftLabel rightLabel dir
    (∃ e, FirstFailure stat (lefts ++ rights) e ∧ result = .error e) ∨
    (StatsAll stat (lefts ++ rights) ∧ (lefts = [] ∨ rights = []) ∧ result =
      .error (runtimeError ("Stage directory " ++ dir.path.str ++ " missing expected files"))) ∨
    (StatsAll stat (lefts ++ rights) ∧ (lefts ≠ [] ∧ rights ≠ []) ∧ ∃ pairs,
      Paired PurePath.stem lefts rights pairs ∧
      ((∀ file ∈ lefts, file ∉ rights) → (pairs.map Prod.fst ++ pairs.map Prod.snd).Nodup) ∧
      result = .ok (stagePrefix marker dir.path.name, pairs)) := by
  intro lefts rights result
  rcases statsAll_or_firstFailure stat (lefts ++ rights) with hall | ⟨e, hfirst⟩
  · by_cases hmissing : lefts = [] ∨ rights = []
    · exact .inr (.inl ⟨hall, hmissing, reconstructPairs_missing hall hmissing _ _ _⟩)
    · obtain ⟨hleft, hright⟩ := not_or.mp hmissing
      obtain ⟨pairs, hpaired, hresult⟩ :=
        reconstructPairs_ok hall hleft hright marker leftLabel rightLabel
      exact .inr (.inr ⟨hall, ⟨hleft, hright⟩, pairs, hpaired, hpaired.once, hresult⟩)
  · exact .inl ⟨e, hfirst, reconstructPairs_failed hfirst _ _ _⟩

/-- A batch of which every pair has a stem of its own is found again. -/
theorem reconstruct_recovers {stat : PurePath → Except Exn Seconds}
    (leftFilter rightFilter : PurePath → Bool) (marker leftLabel rightLabel : String)
    (dir : StageDir) {batch : List (PurePath × PurePath)} (hne : batch ≠ [])
    (hstat : StatsAll stat dir.entries)
    (hlefts : (dir.entries.filter leftFilter).Perm (batch.map Prod.fst))
    (hrights : (dir.entries.filter rightFilter).Perm (batch.map Prod.snd))
    (hstems : ∀ pair ∈ batch, pair.1.stem = pair.2.stem)
    (hdistinct : (batch.map fun pair => pair.1.stem).Nodup) :
    ∃ pairs, pairs.Perm batch ∧
      reconstructPairs stat leftFilter rightFilter marker leftLabel rightLabel dir =
        .ok (stagePrefix marker dir.path.name, pairs) := by
  have hall : StatsAll stat
      (dir.entries.filter leftFilter ++ dir.entries.filter rightFilter) := by
    intro item hitem
    rcases List.mem_append.mp hitem with hmem | hmem <;>
      exact hstat item (List.mem_filter.mp hmem).1
  have hleft : dir.entries.filter leftFilter ≠ [] := fun hempty => by
    rw [hempty, List.nil_perm, List.map_eq_nil_iff] at hlefts
    exact hne hlefts
  have hright : dir.entries.filter rightFilter ≠ [] := fun hempty => by
    rw [hempty, List.nil_perm, List.map_eq_nil_iff] at hrights
    exact hne hrights
  obtain ⟨pairs, hpaired, hresult⟩ :=
    reconstructPairs_ok hall hleft hright marker leftLabel rightLabel
  refine ⟨pairs, ?_, hresult⟩
  have hpaired := hpaired.perm hlefts hrights
  -- the pair of a stem is the only one of the batch with that stem
  have honly : ∀ pair ∈ batch, ∀ other ∈ batch, pair.1.stem = other.1.stem → pair = other :=
    fun pair hpair other hother heq => List.inj_on_of_nodup_map hdistinct hpair hother heq
  have hsubset : batch ⊆ pairs := by
    intro pair hpair
    obtain ⟨found, hfound, hstem, hstem'⟩ := hpaired.stems pair.1 (List.mem_map_of_mem hpair)
      pair.2 (List.mem_map_of_mem hpair) (hstems pair hpair)
    obtain ⟨hleft, hright⟩ := hpaired.among found hfound
    obtain ⟨other, hother, hfst⟩ := List.mem_map.mp hleft
    obtain ⟨other', hother', hsnd⟩ := List.mem_map.mp hright
    rw [← hfst] at hstem
    rw [← hsnd, ← hstems other' hother'] at hstem'
    obtain rfl := honly other hother pair hpair hstem
    obtain rfl := honly other' hother' other hother hstem'
    have heq : found = other' := Prod.ext hfst.symm hsnd.symm
    exact heq ▸ hfound
  have hnodup : batch.Nodup := hdistinct.of_map
  refine ((List.subperm_of_subset hnodup hsubset).perm_of_length_le ?_).symm
  rw [hpaired.length]
  simp

end DpostV2.Watchdog
