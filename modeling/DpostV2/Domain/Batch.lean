import DpostV2.Domain.Outcome
import DpostV2.Lib.DateTime
import Mathlib.Algebra.BigOperators.Group.List.Basic

/-!
# Batch outcomes

`build_batch_outcome` counts the members of a batch twice: once for all of them and once by the
texts their metadata has under the grouping keys. Both are a count of members at each key
(`counts_eq`, `lookup_grouped`), from which `batch_adds_up` follows.
-/

namespace DpostV2.Domain

-- ---------------------------------------------------------------------------
-- Counts
-- ---------------------------------------------------------------------------

structure BatchCounts where
  total : Nat := 0
  success : Nat := 0
  rejected : Nat := 0
  failed : Nat := 0
  retry : Nat := 0
  deriving DecidableEq, Repr

namespace BatchCounts

/-- `counts[status.value]`. -/
def of (counts : BatchCounts) : ProcessingStatus → Nat
  | .success => counts.success
  | .rejected => counts.rejected
  | .failed => counts.failed
  | .retry => counts.retry

/-- `counts["total"] += 1` and `counts[status.value] += 1`. -/
def add (counts : BatchCounts) (status : ProcessingStatus) : BatchCounts :=
  let counts := { counts with total := counts.total + 1 }
  match status with
  | .success => { counts with success := counts.success + 1 }
  | .rejected => { counts with rejected := counts.rejected + 1 }
  | .failed => { counts with failed := counts.failed + 1 }
  | .retry => { counts with retry := counts.retry + 1 }

def sum (counts : BatchCounts) : Nat :=
  counts.success + counts.rejected + counts.failed + counts.retry

/-- The counts of a list of statuses. -/
def tally (statuses : List ProcessingStatus) : BatchCounts where
  total := statuses.length
  success := statuses.count .success
  rejected := statuses.count .rejected
  failed := statuses.count .failed
  retry := statuses.count .retry

@[simp] theorem tally_of (statuses : List ProcessingStatus) (status : ProcessingStatus) :
    (tally statuses).of status = statuses.count status := by
  cases status <;> rfl

theorem add_tally (statuses : List ProcessingStatus) (status : ProcessingStatus) :
    (tally statuses).add status = tally (statuses ++ [status]) := by
  cases status <;> simp [tally, add]

@[simp] theorem add_of (counts : BatchCounts) (status status' : ProcessingStatus) :
    (counts.add status).of status' = counts.of status' + if status = status' then 1 else 0 := by
  cases status <;> cases status' <;> rfl

theorem tally_perm {statuses statuses' : List ProcessingStatus} (h : statuses.Perm statuses') :
    tally statuses = tally statuses' := by
  simp [tally, h.length_eq, h.count_eq]

theorem tally_sum (statuses : List ProcessingStatus) :
    (tally statuses).sum = statuses.length := by
  induction statuses with
  | nil => rfl
  | cons status statuses ih =>
    simp only [tally, sum, List.length_cons] at ih ⊢
    cases status <;> simp <;> omega

end BatchCounts

-- ---------------------------------------------------------------------------
-- The batch outcome
-- ---------------------------------------------------------------------------

inductive BatchStatus where
  | completed
  | partialFailure
  | failed
  deriving DecidableEq, Repr

abbrev GroupedCounts := List (List String × BatchCounts)

structure BatchOutcome where
  batchId : String
  startedAt : DateTime
  completedAt : DateTime
  members : List ProcessingOutcome
  counts : BatchCounts
  groupedCounts : GroupedCounts
  status : BatchStatus

def batchError (cls message : String) : Exn :=
  { mro := [cls, "BatchModelError", "ValueError", "Exception"], message }

abbrev batchMetadataError := batchError "BatchMetadataError"

def duplicateError (candidateId : String) : Exn :=
  batchError "BatchMemberDuplicateError"
    ("Duplicate batch member identity '" ++ candidateId ++ "'.")

def countError : Exn :=
  batchError "BatchCountConsistencyError" "Expected batch count does not match unique member total."

def deriveStatus (counts : BatchCounts) : BatchStatus :=
  let failures := counts.failed + counts.rejected
  if counts.total = 0 then .failed
  else if failures = 0 ∧ counts.retry = 0 then .completed
  else if failures = counts.total then .failed
  else .partialFailure

def validateMetadata (batchId : String) (startedAt completedAt : Option DateTime) :
    Except Exn (DateTime × DateTime) :=
  if batchId = "" then .error (batchMetadataError "batch_id must be non-empty.")
  else match startedAt, completedAt with
    | some startedAt, some completedAt => do
      if ← completedAt.less startedAt then
        throw (batchMetadataError "completed_at must be >= started_at.")
      return (startedAt, completedAt)
    | _, _ => .error (batchMetadataError "started_at and completed_at are required.")

def groupKey (groupingKeys : List String) (outcome : ProcessingOutcome) : List String :=
  groupingKeys.map outcome.metadata.getText

/-- One member in the counts of its group, which `setdefault` appends where it is missing. -/
def addToGroup (key : List String) (status : ProcessingStatus) : GroupedCounts → GroupedCounts
  | [] => [(key, BatchCounts.add {} status)]
  | (key', counts) :: rest =>
    if key' = key then (key', counts.add status) :: rest
    else (key', counts) :: addToGroup key status rest

def accumulateGroupCounts (members : List ProcessingOutcome) (groupingKeys : List String) :
    GroupedCounts :=
  members.foldl (fun grouped outcome =>
    addToGroup (groupKey groupingKeys outcome) outcome.status grouped) []

/-- The loop over the members, with the ids and the counts so far. -/
def countMembers (seenIds : List String) (counts : BatchCounts) :
    List ProcessingOutcome → Except Exn BatchCounts
  | [] => .ok counts
  | outcome :: rest =>
    if outcome.candidateId ∈ seenIds then .error (duplicateError outcome.candidateId)
    else countMembers (outcome.candidateId :: seenIds) (counts.add outcome.status) rest

def validateCount (expectedCount : Option Int) (total : Nat) : Except Exn Unit :=
  match expectedCount with
  | some expected => if expected ≠ total then .error countError else .ok ()
  | none => .ok ()

def buildBatchOutcome (batchId : String) (startedAt completedAt : Option DateTime)
    (members : List ProcessingOutcome) (groupingKeys : List String) (expectedCount : Option Int) :
    Except Exn BatchOutcome := do
  let times ← validateMetadata batchId startedAt completedAt
  let counts ← countMembers [] {} members
  validateCount expectedCount counts.total
  return {
    batchId, members, counts
    startedAt := times.1
    completedAt := times.2
    groupedCounts := accumulateGroupCounts members groupingKeys
    status := deriveStatus counts }

-- ---------------------------------------------------------------------------
-- The members
-- ---------------------------------------------------------------------------

def statuses (members : List ProcessingOutcome) : List ProcessingStatus := members.map (·.status)

def ids (members : List ProcessingOutcome) : List String := members.map (·.candidateId)

theorem countMembers_ok {seenIds : List String} {members : List ProcessingOutcome}
    (counted : List ProcessingStatus) (hnodup : (ids members).Nodup)
    (hfresh : ∀ id ∈ ids members, id ∉ seenIds) :
    countMembers seenIds (.tally counted) members = .ok (.tally (counted ++ statuses members)) := by
  induction members generalizing seenIds counted with
  | nil => simp [countMembers, statuses]
  | cons outcome rest ih =>
    obtain ⟨hnotin, hnodup⟩ := List.nodup_cons.mp hnodup
    have hhead := hfresh _ List.mem_cons_self
    have hrest : ∀ id ∈ ids rest, id ∉ outcome.candidateId :: seenIds := by
      intro id hid hseen
      rcases List.mem_cons.mp hseen with rfl | hseen
      · exact hnotin hid
      · exact hfresh id (List.mem_cons_of_mem _ hid) hseen
    rw [countMembers, if_neg hhead, BatchCounts.add_tally, ih _ hnodup hrest]
    simp [statuses]

theorem countMembers_error {seenIds : List String} {members : List ProcessingOutcome}
    (counts : BatchCounts) (h : ¬((ids members).Nodup ∧ ∀ id ∈ ids members, id ∉ seenIds)) :
    ∃ id, countMembers seenIds counts members = .error (duplicateError id) := by
  induction members generalizing seenIds counts with
  | nil => exact absurd ⟨List.nodup_nil, fun _ hid => absurd hid List.not_mem_nil⟩ h
  | cons outcome rest ih =>
    rw [countMembers]
    by_cases hseen : outcome.candidateId ∈ seenIds
    · exact ⟨_, if_pos hseen⟩
    · rw [if_neg hseen]
      refine ih _ fun ⟨hnodup, hfresh⟩ => h ⟨List.nodup_cons.mpr ⟨fun hid => ?_, hnodup⟩, ?_⟩
      · exact hfresh _ hid List.mem_cons_self
      · intro id hid hin
        rcases List.mem_cons.mp hid with rfl | hid
        · exact hseen hin
        · exact hfresh id hid (List.mem_cons_of_mem _ hin)

-- ---------------------------------------------------------------------------
-- The groups
-- ---------------------------------------------------------------------------

def inGroup (groupingKeys : List String) (members : List ProcessingOutcome) (key : List String) :
    List ProcessingOutcome :=
  members.filter (groupKey groupingKeys · = key)

/-- One entry for each group of members, with the counts of the group. -/
structure Grouped (groupingKeys : List String) (members : List ProcessingOutcome)
    (grouped : GroupedCounts) : Prop where
  nodup : (grouped.map Prod.fst).Nodup
  mem_iff : ∀ key counts, (key, counts) ∈ grouped ↔ inGroup groupingKeys members key ≠ [] ∧
    counts = .tally (statuses (inGroup groupingKeys members key))

theorem addToGroup_keys (key : List String) (status : ProcessingStatus) (grouped : GroupedCounts) :
    (addToGroup key status grouped).map Prod.fst =
      if key ∈ grouped.map Prod.fst then grouped.map Prod.fst
        else grouped.map Prod.fst ++ [key] := by
  induction grouped with
  | nil => simp [addToGroup]
  | cons entry rest ih =>
    obtain ⟨key', counts⟩ := entry
    by_cases h : key' = key
    · simp [addToGroup, h]
    · have hne : ¬key = key' := fun heq => h heq.symm
      simp only [addToGroup, h, if_false, List.map_cons, ih, List.mem_cons, hne, false_or]
      split <;> simp

/-- The entry of the group is counted up, or starts from nothing, and no other is touched. -/
theorem mem_addToGroup {key : List String} {status : ProcessingStatus} {grouped : GroupedCounts}
    (hnodup : (grouped.map Prod.fst).Nodup) (key' : List String) (counts : BatchCounts) :
    (key', counts) ∈ addToGroup key status grouped ↔
      if key' = key then
        (∃ before, (key, before) ∈ grouped ∧ counts = before.add status) ∨
          key ∉ grouped.map Prod.fst ∧ counts = BatchCounts.add {} status
      else (key', counts) ∈ grouped := by
  induction grouped with
  | nil => by_cases h : key' = key <;> simp [addToGroup, h]
  | cons entry rest ih =>
    obtain ⟨first, before⟩ := entry
    obtain ⟨hnotin, hnodup⟩ := List.nodup_cons.mp hnodup
    have habsent : ∀ c, (first, c) ∉ rest := fun c hc => hnotin (List.mem_map.mpr ⟨_, hc, rfl⟩)
    by_cases hfirst : first = key
    · subst hfirst
      by_cases h : key' = first
      · subst h
        simp [addToGroup, habsent]
      · simp [addToGroup, h]
    · have hne : ¬key = first := fun heq => hfirst heq.symm
      by_cases h : key' = key
      · subst h
        simp only [addToGroup, hfirst, if_false, List.mem_cons, Prod.mk.injEq, hne, false_and,
          false_or, ih hnodup, if_true, List.map_cons]
      · simp only [addToGroup, hfirst, if_false, List.mem_cons, ih hnodup, h]

theorem inGroup_concat (groupingKeys : List String) (members : List ProcessingOutcome)
    (outcome : ProcessingOutcome) (key : List String) :
    inGroup groupingKeys (members ++ [outcome]) key = inGroup groupingKeys members key ++
      if groupKey groupingKeys outcome = key then [outcome] else [] := by
  rw [inGroup, List.filter_append, inGroup]
  by_cases h : groupKey groupingKeys outcome = key <;> simp [h]

theorem Grouped.add {groupingKeys : List String} {members : List ProcessingOutcome}
    {grouped : GroupedCounts} (h : Grouped groupingKeys members grouped)
    (outcome : ProcessingOutcome) :
    Grouped groupingKeys (members ++ [outcome])
      (addToGroup (groupKey groupingKeys outcome) outcome.status grouped) := by
  constructor
  · rw [addToGroup_keys]
    split
    · exact h.nodup
    · next hnotin => exact List.nodup_append.mpr ⟨h.nodup, by simp, by
        rintro a ha b hb rfl
        exact hnotin (List.mem_singleton.mp hb ▸ ha)⟩
  · intro key counts
    rw [mem_addToGroup h.nodup, inGroup_concat]
    by_cases hkey : key = groupKey groupingKeys outcome
    · subst hkey
      have hkeys : groupKey groupingKeys outcome ∈ grouped.map Prod.fst ↔
          inGroup groupingKeys members (groupKey groupingKeys outcome) ≠ [] := by
        simp [List.mem_map, Prod.exists, h.mem_iff]
      simp only [if_true, h.mem_iff, hkeys]
      by_cases hnone : inGroup groupingKeys members (groupKey groupingKeys outcome) = []
      · have hfirst : BatchCounts.add {} outcome.status = .tally [outcome.status] :=
          BatchCounts.add_tally [] outcome.status
        simp [hnone, statuses, hfirst]
      · simp [hnone, statuses, BatchCounts.add_tally]
    · have hne : ¬groupKey groupingKeys outcome = key := fun heq => hkey heq.symm
      simp [hkey, hne, h.mem_iff]

theorem accumulate_concat (members : List ProcessingOutcome) (outcome : ProcessingOutcome)
    (groupingKeys : List String) :
    accumulateGroupCounts (members ++ [outcome]) groupingKeys =
      addToGroup (groupKey groupingKeys outcome) outcome.status
        (accumulateGroupCounts members groupingKeys) := by
  simp [accumulateGroupCounts]

theorem accumulate_grouped (members : List ProcessingOutcome) (groupingKeys : List String) :
    Grouped groupingKeys members (accumulateGroupCounts members groupingKeys) := by
  induction members using List.reverseRecOn with
  | nil => exact ⟨List.nodup_nil, by simp [accumulateGroupCounts, inGroup]⟩
  | append_singleton members outcome ih =>
    rw [accumulate_concat]
    exact ih.add outcome

theorem sum_addToGroup (key : List String) (status status' : ProcessingStatus)
    (grouped : GroupedCounts) :
    ((addToGroup key status grouped).map fun entry => entry.2.of status').sum =
      (grouped.map fun entry => entry.2.of status').sum + if status = status' then 1 else 0 := by
  induction grouped with
  | nil =>
    have hzero : BatchCounts.of {} status' = 0 := by cases status' <;> rfl
    simp [addToGroup, hzero]
  | cons entry rest ih =>
    obtain ⟨key', counts⟩ := entry
    by_cases h : key' = key
    · simp only [addToGroup, h, if_true, List.map_cons, List.sum_cons, BatchCounts.add_of]
      omega
    · simp only [addToGroup, h, if_false, List.map_cons, List.sum_cons, ih]
      omega

/-- Over all groups each status is counted as often as over all members. -/
theorem grouped_sum (members : List ProcessingOutcome) (groupingKeys : List String)
    (status : ProcessingStatus) :
    ((accumulateGroupCounts members groupingKeys).map fun entry => entry.2.of status).sum =
      (statuses members).count status := by
  induction members using List.reverseRecOn with
  | nil => rfl
  | append_singleton members outcome ih =>
    rw [accumulate_concat, sum_addToGroup, ih, statuses, statuses, List.map_append,
      List.count_append]
    simp [List.count_singleton]

theorem Grouped.total {groupingKeys : List String} {members : List ProcessingOutcome}
    {grouped : GroupedCounts} (h : Grouped groupingKeys members grouped)
    {entry : List String × BatchCounts} (hentry : entry ∈ grouped) :
    entry.2.total = entry.2.sum := by
  obtain ⟨key, counts⟩ := entry
  obtain ⟨-, rfl⟩ := (h.mem_iff key counts).mp hentry
  exact (BatchCounts.tally_sum _).symm

theorem Grouped.mem_keys {groupingKeys : List String} {members : List ProcessingOutcome}
    {grouped : GroupedCounts} (h : Grouped groupingKeys members grouped) (key : List String) :
    key ∈ grouped.map Prod.fst ↔ ∃ outcome ∈ members, groupKey groupingKeys outcome = key := by
  have hkey : key ∈ grouped.map Prod.fst ↔ inGroup groupingKeys members key ≠ [] := by
    simp [List.mem_map, Prod.exists, h.mem_iff]
  rw [hkey]
  simp [inGroup]

/-- The groups of a batch do not depend on the order of its members. -/
theorem Grouped.perm {groupingKeys : List String} {members members' : List ProcessingOutcome}
    {grouped grouped' : GroupedCounts} (h : Grouped groupingKeys members grouped)
    (h' : Grouped groupingKeys members' grouped') (hperm : members.Perm members') :
    grouped.Perm grouped' := by
  refine (List.perm_ext_iff_of_nodup h.nodup.of_map h'.nodup.of_map).mpr ?_
  rintro ⟨key, counts⟩
  have hgroup : (inGroup groupingKeys members key).Perm (inGroup groupingKeys members' key) :=
    hperm.filter _
  have hnil : inGroup groupingKeys members key ≠ [] ↔ inGroup groupingKeys members' key ≠ [] := by
    rw [← List.length_pos_iff, ← List.length_pos_iff, hgroup.length_eq]
  rw [h.mem_iff, h'.mem_iff, hnil, statuses, statuses, BatchCounts.tally_perm (hgroup.map _)]

-- ---------------------------------------------------------------------------
-- The status
-- ---------------------------------------------------------------------------

section
variable {counts : BatchCounts}

theorem deriveStatus_completed (h : counts.sum = counts.total) :
    deriveStatus counts = .completed ↔ counts.total ≠ 0 ∧ counts.total = counts.success := by
  rw [BatchCounts.sum] at h
  rw [deriveStatus]
  split_ifs <;> simp only [false_iff, true_iff] <;> omega

theorem deriveStatus_failed (h : counts.sum = counts.total) :
    deriveStatus counts = .failed ↔ counts.total = 0 ∨ counts.success = 0 ∧ counts.retry = 0 := by
  rw [BatchCounts.sum] at h
  rw [deriveStatus]
  split_ifs <;> simp only [false_iff, true_iff] <;> omega

theorem deriveStatus_partialFailure (counts : BatchCounts) :
    deriveStatus counts = .partialFailure ↔
      deriveStatus counts ≠ .completed ∧ deriveStatus counts ≠ .failed := by
  cases deriveStatus counts <;> simp

end

section
variable {members : List ProcessingOutcome}

theorem tally_completed :
    deriveStatus (.tally (statuses members)) = .completed ↔
      members ≠ [] ∧ ∀ outcome ∈ members, outcome.status = .success := by
  have hall : (statuses members).length = (statuses members).count .success ↔
      ∀ outcome ∈ members, outcome.status = .success := by
    rw [eq_comm, List.count_eq_length]
    simp [statuses, eq_comm (a := ProcessingStatus.success)]
  have hnil : (statuses members).length ≠ 0 ↔ members ≠ [] := by simp [statuses]
  rw [deriveStatus_completed (BatchCounts.tally_sum _), ← hall, ← hnil]
  rfl

theorem tally_failed :
    deriveStatus (.tally (statuses members)) = .failed ↔ members = [] ∨
      ∀ outcome ∈ members, outcome.status = .failed ∨ outcome.status = .rejected := by
  have hall : (statuses members).count .success = 0 ∧ (statuses members).count .retry = 0 ↔
      ∀ outcome ∈ members, outcome.status = .failed ∨ outcome.status = .rejected := by
    simp only [List.count_eq_zero, statuses, List.mem_map, not_exists, not_and]
    refine ⟨fun ⟨hsuccess, hretry⟩ outcome hin => ?_, fun h => ⟨?_, ?_⟩⟩
    · cases hstatus : outcome.status with
      | success => exact absurd hstatus (hsuccess outcome hin)
      | retry => exact absurd hstatus (hretry outcome hin)
      | failed => exact .inl rfl
      | rejected => exact .inr rfl
    · intro outcome hin hstatus
      simpa [hstatus] using h outcome hin
    · intro outcome hin hstatus
      simpa [hstatus] using h outcome hin
  have hnil : (statuses members).length = 0 ↔ members = [] := by simp [statuses]
  rw [deriveStatus_failed (BatchCounts.tally_sum _), ← hall, ← hnil]
  rfl

end

-- ---------------------------------------------------------------------------
-- The batch
-- ---------------------------------------------------------------------------

section
variable {batchId : String} {startedAt completedAt : Option DateTime}
  {members : List ProcessingOutcome} {groupingKeys : List String} {expectedCount : Option Int}
  {outcome : BatchOutcome}

theorem tally_total (members : List ProcessingOutcome) :
    (BatchCounts.tally (statuses members)).total = members.length := by
  simp [BatchCounts.tally, statuses]

theorem countMembers_nodup (h : (ids members).Nodup) :
    countMembers [] {} members = .ok (.tally (statuses members)) :=
  countMembers_ok [] h fun _ _ => List.not_mem_nil

theorem countMembers_duplicate (h : ¬(ids members).Nodup) :
    ∃ id, countMembers [] {} members = .error (duplicateError id) :=
  countMembers_error {} fun hnodup => h hnodup.1

/-- A call that returns has met every id once, and its counts are those of its members. -/
structure Built (members : List ProcessingOutcome) (groupingKeys : List String)
    (outcome : BatchOutcome) : Prop where
  nodup : (ids members).Nodup
  counts : outcome.counts = .tally (statuses members)
  groupedCounts : outcome.groupedCounts = accumulateGroupCounts members groupingKeys
  status : outcome.status = deriveStatus (.tally (statuses members))

theorem buildBatchOutcome_ok
    (h : buildBatchOutcome batchId startedAt completedAt members groupingKeys expectedCount =
      .ok outcome) :
    (∃ times, validateMetadata batchId startedAt completedAt = .ok times) ∧
      validateCount expectedCount members.length = .ok () ∧ Built members groupingKeys outcome := by
  obtain ⟨times, htimes, h⟩ := except_bind_ok.mp h
  obtain ⟨counts, hcounts, h⟩ := except_bind_ok.mp h
  obtain ⟨⟨⟩, hcount, h⟩ := except_bind_ok.mp h
  obtain rfl := except_pure_ok.mp h
  by_cases hnodup : (ids members).Nodup
  · rw [countMembers_nodup hnodup] at hcounts
    obtain rfl := Except.ok.inj hcounts
    rw [tally_total] at hcount
    exact ⟨⟨times, htimes⟩, hcount, hnodup, rfl, rfl, rfl⟩
  · obtain ⟨id, hid⟩ := countMembers_duplicate hnodup
    rw [hid] at hcounts
    cases hcounts

theorem buildBatchOutcome_nodup (groupingKeys : List String) {times : DateTime × DateTime}
    (hnodup : (ids members).Nodup)
    (htimes : validateMetadata batchId startedAt completedAt = .ok times)
    (hcount : validateCount expectedCount members.length = .ok ()) :
    ∃ outcome, buildBatchOutcome batchId startedAt completedAt members groupingKeys expectedCount =
      .ok outcome := by
  simp only [buildBatchOutcome, except_bind_ok, except_pure_ok]
  exact ⟨_, times, htimes, _, countMembers_nodup hnodup, (), by rwa [tally_total], rfl⟩

/-- The groups of a batch say of each of them what the counts say of all members. -/
structure GroupsAddUp (members : List ProcessingOutcome) (groupingKeys : List String)
    (outcome : BatchOutcome) : Prop where
  distinct : (outcome.groupedCounts.map Prod.fst).Nodup
  keys : ∀ key, key ∈ outcome.groupedCounts.map Prod.fst ↔
    ∃ member ∈ members, groupKey groupingKeys member = key
  total : ∀ entry ∈ outcome.groupedCounts, entry.2.total = entry.2.sum
  sum : ∀ status, (outcome.groupedCounts.map fun entry => entry.2.of status).sum =
    outcome.counts.of status

theorem Built.groupsAddUp (h : Built members groupingKeys outcome) :
    GroupsAddUp members groupingKeys outcome := by
  have hgrouped := accumulate_grouped members groupingKeys
  rw [← h.groupedCounts] at hgrouped
  refine ⟨hgrouped.nodup, hgrouped.mem_keys, fun _ => hgrouped.total, fun status => ?_⟩
  rw [h.groupedCounts, grouped_sum, h.counts, BatchCounts.tally_of]

/-- The same groups with the same counts, in any order. -/
structure SameCounts (outcome outcome' : BatchOutcome) : Prop where
  counts : outcome'.counts = outcome.counts
  groupedCounts : outcome'.groupedCounts.Perm outcome.groupedCounts
  status : outcome'.status = outcome.status

theorem Built.sameCounts {members' : List ProcessingOutcome} {outcome' : BatchOutcome}
    (h : Built members groupingKeys outcome) (h' : Built members' groupingKeys outcome')
    (hperm : members'.Perm members) : SameCounts outcome outcome' := by
  have htally : BatchCounts.tally (statuses members') = .tally (statuses members) :=
    BatchCounts.tally_perm (hperm.map _)
  refine ⟨by rw [h.counts, h'.counts, htally], ?_, by rw [h.status, h'.status, htally]⟩
  rw [h.groupedCounts, h'.groupedCounts]
  exact (accumulate_grouped members' groupingKeys).perm
    (accumulate_grouped members groupingKeys) hperm

theorem duplicate_iff {times : DateTime × DateTime}
    (h : validateMetadata batchId startedAt completedAt = .ok times) :
    (∃ e, buildBatchOutcome batchId startedAt completedAt members groupingKeys expectedCount =
      .error e ∧ e.isInstance "BatchMemberDuplicateError" = true) ↔ ¬(ids members).Nodup := by
  constructor
  · rintro ⟨e, he, hclass⟩ hnodup
    rw [buildBatchOutcome, h, countMembers_nodup hnodup] at he
    simp only [bind, Except.bind, validateCount] at he
    split at he
    · next herror =>
      split at herror
      · split at herror
        · obtain rfl := (Except.error.inj herror).trans (Except.error.inj he)
          simp [countError, batchError, Exn.isInstance] at hclass
        · cases herror
      · cases herror
    · cases he
  · intro hnodup
    obtain ⟨id, hid⟩ := countMembers_duplicate hnodup
    refine ⟨duplicateError id, ?_, by simp [duplicateError, batchError, Exn.isInstance]⟩
    rw [buildBatchOutcome, h, hid]
    rfl

/-- Whatever the members and the grouping, the counts, the groups and the status of a batch agree
with its members and do not depend on their order, and a batch is refused for a repeated id exactly
when it has one. -/
theorem batch_adds_up (batchId : String) (startedAt completedAt : Option DateTime)
    (members : List ProcessingOutcome) (groupingKeys : List String) (expectedCount : Option Int) :
    (∀ outcome,
      buildBatchOutcome batchId startedAt completedAt members groupingKeys expectedCount =
        .ok outcome →
      outcome.counts.total = members.length ∧ outcome.counts.total = outcome.counts.sum ∧
        GroupsAddUp members groupingKeys outcome ∧
        (outcome.status = .completed ↔
          members ≠ [] ∧ ∀ member ∈ members, member.status = .success) ∧
        (outcome.status = .failed ↔ members = [] ∨
          ∀ member ∈ members, member.status = .failed ∨ member.status = .rejected) ∧
        (outcome.status = .partialFailure ↔
          outcome.status ≠ .completed ∧ outcome.status ≠ .failed) ∧
        ∀ members', members'.Perm members → ∃ outcome',
          buildBatchOutcome batchId startedAt completedAt members' groupingKeys expectedCount =
            .ok outcome' ∧ SameCounts outcome outcome') ∧
      ∀ times, validateMetadata batchId startedAt completedAt = .ok times →
        ((∃ e, buildBatchOutcome batchId startedAt completedAt members groupingKeys expectedCount =
          .error e ∧ e.isInstance "BatchMemberDuplicateError" = true) ↔
            ¬(members.map (·.candidateId)).Nodup) := by
  refine ⟨fun outcome h => ?_, fun times htimes => duplicate_iff htimes⟩
  obtain ⟨⟨times, htimes⟩, hcount, hbuilt⟩ := buildBatchOutcome_ok h
  refine ⟨?_, ?_, hbuilt.groupsAddUp, ?_, ?_, ?_, fun members' hperm => ?_⟩
  · rw [hbuilt.counts, tally_total]
  · rw [hbuilt.counts, BatchCounts.tally_sum]
    rfl
  · rw [hbuilt.status, tally_completed]
  · rw [hbuilt.status, tally_failed]
  · rw [hbuilt.status, deriveStatus_partialFailure]
  · have hnodup' : (ids members').Nodup := (hperm.map _).nodup_iff.mpr hbuilt.nodup
    rw [← hperm.length_eq] at hcount
    obtain ⟨outcome', h'⟩ := buildBatchOutcome_nodup groupingKeys hnodup' htimes hcount
    exact ⟨outcome', h', hbuilt.sameCounts (buildBatchOutcome_ok h').2.2 hperm⟩

end

/-- Noon of one day. -/
def noon : DateTime := ⟨{ year := 2026, month := 3, day := 4, hour := 12 }, by decide⟩

def sampleMembers : List ProcessingOutcome :=
  [sampleRetry, { sampleRetry with candidateId := "cand-2", accepted := rfl }]

/-- One member is grouped with another one, and a repeated id is refused. -/
theorem batch_adds_up_retries :
    (∃ outcome, buildBatchOutcome "batch-1" (some noon) (some noon) sampleMembers ["profile"] none =
      .ok outcome ∧ outcome.counts.total = 2 ∧ GroupsAddUp sampleMembers ["profile"] outcome) ∧
      ∃ e, buildBatchOutcome "batch-1" (some noon) (some noon) [sampleRetry, sampleRetry] [] none =
        .error e ∧ e.isInstance "BatchMemberDuplicateError" = true := by
  have hnoon : validateMetadata "batch-1" (some noon) (some noon) = .ok (noon, noon) := by
    decide +kernel
  have hids : (ids sampleMembers).Nodup := by decide
  obtain ⟨outcome, h⟩ := buildBatchOutcome_nodup ["profile"] hids hnoon
    (rfl : validateCount none sampleMembers.length = .ok ())
  have hlaws := (batch_adds_up _ _ _ _ _ _).1 outcome h
  exact ⟨⟨outcome, h, hlaws.1, hlaws.2.2.1⟩,
    ((batch_adds_up _ _ _ _ _ _).2 _ hnoon).mpr (by decide)⟩

end DpostV2.Domain
