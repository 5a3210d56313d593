import DpostV2.Records.LocalRecord
import Mathlib.Data.List.Chain
import Mathlib.Data.List.Induction

/-!
# The history of a record

Mutations are attempted one after another, each with a timestamp of its own; one that fails
leaves the record in place. `history_kept`: what the record is at the end is told by
the attempts that went through, and its timestamps are in order where no zone among
them changes its offset.
-/

namespace DpostV2.Records

abbrev Attempt := Mutation × DateTime

/-- The status and the reason code a processing result brings. -/
def Mutation.result : Mutation → Option (RecordProcessingStatus × Option String)
  | .applyProcessingResult status reasonCode => some (status, reasonCode)
  | .markSynced | .markUnsynced => none

/-- Where a sync transition leads. -/
def Mutation.target : Mutation → Option SyncStatus
  | .applyProcessingResult .. => none
  | .markSynced => some .synced
  | .markUnsynced => some .unsynced

/-- The record after an attempt. -/
def LocalRecord.attempted (record : LocalRecord) (attempt : Attempt) : LocalRecord :=
  match attempt.1.run record attempt.2 with
  | .ok record' => record'
  | .error _ => record

def LocalRecord.after (record : LocalRecord) (attempts : List Attempt) : LocalRecord :=
  attempts.foldl LocalRecord.attempted record

/-- The mutations of the attempts that go through. -/
def LocalRecord.successes (record : LocalRecord) : List Attempt → List Mutation
  | [] => []
  | attempt :: rest =>
    match attempt.1.run record attempt.2 with
    | .ok record' => attempt.1 :: record'.successes rest
    | .error _ => record.successes rest

/-- The time of creation, and the timestamps of the attempts that go through. -/
def LocalRecord.times (record : LocalRecord) : List Attempt → List DateTime
  | [] => [record.updatedAt]
  | attempt :: rest =>
    match attempt.1.run record attempt.2 with
    | .ok record' => record.updatedAt :: record'.times rest
    | .error _ => record.times rest

-- ---------------------------------------------------------------------------
-- One attempt
-- ---------------------------------------------------------------------------

/-- What a mutation does to the two statuses: a result sets the one, and a transition moves the
other to where it is not. -/
structure Transitioned (m : Mutation) (record record' : LocalRecord) : Prop where
  result : (record'.processingStatus, record'.lastReasonCode) =
    m.result.getD (record.processingStatus, record.lastReasonCode)
  status : record'.syncStatus = m.target.getD record.syncStatus
  moved : ∀ target, m.target = some target → record.syncStatus ≠ target

theorem Mutation.run_transitioned {m : Mutation} {record record' : LocalRecord} {t : DateTime}
    (h : m.run record t = .ok record') : Transitioned m record record' := by
  cases m with
  | applyProcessingResult status reasonCode =>
    obtain ⟨_, -, h⟩ := except_bind_ok.mp h
    cases except_pure_ok.mp h
    exact ⟨rfl, rfl, nofun⟩
  | markSynced =>
    simp only [Mutation.run, Records.markSynced] at h
    split at h
    · cases h
    · rename_i hstatus
      obtain ⟨_, -, h⟩ := except_bind_ok.mp h
      cases except_pure_ok.mp h
      refine ⟨rfl, rfl, ?_⟩
      rintro _ ⟨⟩
      exact hstatus
  | markUnsynced =>
    simp only [Mutation.run, Records.markUnsynced] at h
    split at h
    · cases h
    · rename_i hstatus
      obtain ⟨_, -, h⟩ := except_bind_ok.mp h
      cases except_pure_ok.mp h
      refine ⟨rfl, rfl, ?_⟩
      rintro _ ⟨⟩
      exact hstatus

theorem after_snoc (record : LocalRecord) (attempts : List Attempt) (attempt : Attempt) :
    record.after (attempts ++ [attempt]) = (record.after attempts).attempted attempt := by
  simp [LocalRecord.after]

/-- The last attempt adds itself where it goes through. -/
theorem successes_snoc (record : LocalRecord) (attempts : List Attempt) (attempt : Attempt) :
    record.successes (attempts ++ [attempt]) = record.successes attempts ++
      match attempt.1.run (record.after attempts) attempt.2 with
      | .ok _ => [attempt.1]
      | .error _ => [] := by
  induction attempts generalizing record with
  | nil =>
    simp only [LocalRecord.after, List.foldl_nil, List.nil_append, LocalRecord.successes]
  | cons first rest ih =>
    have hafter : record.after (first :: rest) = (record.attempted first).after rest := rfl
    rw [hafter, List.cons_append]
    cases hrun : first.1.run record first.2 with
    | ok record' =>
      have hattempted : record.attempted first = record' := by
        simp [LocalRecord.attempted, hrun]
      simp [LocalRecord.successes, hrun, hattempted, ih]
    | error e =>
      have hattempted : record.attempted first = record := by
        simp [LocalRecord.attempted, hrun]
      simp [LocalRecord.successes, hrun, hattempted, ih]

-- ---------------------------------------------------------------------------
-- Histories
-- ---------------------------------------------------------------------------

/-- `a <= b`, where the two can be compared. -/
def NotAfter (a b : DateTime) : Prop := DateTime.less b a = .ok false

theorem NotAfter.refl (t : DateTime) : NotAfter t t := DateTime.less_self t

/-- No zone gives two of the times different offsets. -/
def Agreeing (times : List DateTime) : Prop := ∀ a ∈ times, ∀ b ∈ times, DateTime.Agree a b

instance (times : List DateTime) : Decidable (Agreeing times) :=
  inferInstanceAs (Decidable (∀ a ∈ times, ∀ b ∈ times, DateTime.Agree a b))

/-- The record after the attempts, told from the one created and the mutations that went
through. -/
structure History (created : LocalRecord) (attempts : List Attempt) : Prop where
  revision : (created.after attempts).revision = (created.successes attempts).length
  recordId : (created.after attempts).recordId = created.recordId
  sourceIdentity : (created.after attempts).sourceIdentity = created.sourceIdentity
  canonicalName : (created.after attempts).canonicalName = created.canonicalName
  createdAt : (created.after attempts).createdAt = created.createdAt
  metadata : (created.after attempts).metadata = created.metadata
  adjacent : ∀ early attempt late, attempts = early ++ attempt :: late →
    NotAfter (created.after early).updatedAt ((created.after early).attempted attempt).updatedAt
  /-- The first transition leaves `unsynced`, and each one where the one before it led. -/
  alternating : (.unsynced ::
    (created.successes attempts).filterMap Mutation.target).IsChain (· ≠ ·)
  synced : (created.after attempts).syncStatus =
    ((created.successes attempts).filterMap Mutation.target).getLastD .unsynced
  result : ((created.after attempts).processingStatus, (created.after attempts).lastReasonCode) =
    ((created.successes attempts).filterMap Mutation.result).getLastD (.pending, none)

/-- The timestamps from the creation on. -/
structure Ordered (created : LocalRecord) (attempts : List Attempt) : Prop where
  sinceCreation : NotAfter (created.after attempts).createdAt (created.after attempts).updatedAt
  monotone : ∀ early late, attempts = early ++ late →
    NotAfter (created.after early).updatedAt (created.after attempts).updatedAt

/-- An attempt that goes through does not set the time back, and another one leaves it. -/
theorem attempted_notAfter (record : LocalRecord) (attempt : Attempt) :
    NotAfter record.updatedAt (record.attempted attempt).updatedAt := by
  unfold LocalRecord.attempted
  cases hrun : attempt.1.run record attempt.2 with
  | ok record' =>
    have hmutated := Mutation.run_ok hrun
    rw [hmutated.updatedAt]
    exact hmutated.progression
  | error e => exact .refl _

theorem History.created {recordId sourceIdentity canonicalName : String} {createdAt : DateTime}
    {metadata : Option Dict} {created : LocalRecord}
    (h : createRecord recordId sourceIdentity canonicalName createdAt metadata = .ok created) :
    History created [] := by
  obtain ⟨_, -, h⟩ := except_bind_ok.mp h
  cases except_pure_ok.mp h
  exact ⟨rfl, rfl, rfl, rfl, rfl, rfl, fun _ _ _ _ => attempted_notAfter .., .singleton _, rfl, rfl⟩

theorem getLastD_append_toList {α : Type} (l : List α) (a : Option α) (d : α) :
    (l ++ a.toList).getLastD d = a.getD (l.getLastD d) := by
  cases a <;> simp

theorem filterMap_snoc {α β : Type} (f : α → Option β) (l : List α) (a : α) :
    (l ++ [a]).filterMap f = l.filterMap f ++ (f a).toList := by
  rw [List.filterMap_append]
  cases h : f a <;> simp [h]

/-- A transition that leaves where the last one led goes on with the chain. -/
theorem alternating_snoc {targets : List SyncStatus} {target : Option SyncStatus}
    (h : (.unsynced :: targets).IsChain (· ≠ ·))
    (hmoved : ∀ t, target = some t → targets.getLastD .unsynced ≠ t) :
    (.unsynced :: (targets ++ target.toList)).IsChain (· ≠ ·) := by
  rw [← List.cons_append, List.isChain_append]
  refine ⟨h, by cases target <;> simp, ?_⟩
  intro last hlast t ht
  have heq : targets.getLastD .unsynced = last := by
    rw [List.getLast?_cons, Option.mem_some_iff] at hlast
    rw [← hlast, List.getLastD_eq_getLast?]
  have htarget : target = some t := by
    cases target with
    | none => simp at ht
    | some t' => simpa using ht
  exact heq ▸ hmoved t htarget

variable {created record' : LocalRecord} {attempts : List Attempt} {attempt : Attempt}

theorem History.failed (h : History created attempts) {e : Exn}
    (hrun : attempt.1.run (created.after attempts) attempt.2 = .error e) :
    History created (attempts ++ [attempt]) := by
  have hafter : created.after (attempts ++ [attempt]) = created.after attempts := by
    rw [after_snoc]
    simp [LocalRecord.attempted, hrun]
  have hsuccesses : created.successes (attempts ++ [attempt]) = created.successes attempts := by
    simp [successes_snoc, hrun]
  constructor
  case revision => rw [hafter, hsuccesses, h.revision]
  case recordId => rw [hafter, h.recordId]
  case sourceIdentity => rw [hafter, h.sourceIdentity]
  case canonicalName => rw [hafter, h.canonicalName]
  case createdAt => rw [hafter, h.createdAt]
  case metadata => rw [hafter, h.metadata]
  case adjacent => exact fun _ _ _ _ => attempted_notAfter ..
  case alternating =>
    rw [hsuccesses]
    exact h.alternating
  case synced => rw [hafter, hsuccesses, h.synced]
  case result => rw [hafter, hsuccesses, h.result]

theorem History.succeeded (h : History created attempts)
    (hrun : attempt.1.run (created.after attempts) attempt.2 = .ok record') :
    History created (attempts ++ [attempt]) := by
  have hafter : created.after (attempts ++ [attempt]) = record' := by
    rw [after_snoc]
    simp [LocalRecord.attempted, hrun]
  have hsuccesses : created.successes (attempts ++ [attempt]) =
      created.successes attempts ++ [attempt.1] := by
    simp [successes_snoc, hrun]
  have hmutated := Mutation.run_ok hrun
  have htransitioned := Mutation.run_transitioned hrun
  constructor
  case revision =>
    rw [hafter, hsuccesses, hmutated.revision, h.revision]
    simp
  case recordId => rw [hafter, hmutated.recordId, h.recordId]
  case sourceIdentity => rw [hafter, hmutated.sourceIdentity, h.sourceIdentity]
  case canonicalName => rw [hafter, hmutated.canonicalName, h.canonicalName]
  case createdAt => rw [hafter, hmutated.createdAt, h.createdAt]
  case metadata => rw [hafter, hmutated.metadata, h.metadata]
  case adjacent => exact fun _ _ _ _ => attempted_notAfter ..
  case alternating =>
    rw [hsuccesses, filterMap_snoc]
    refine alternating_snoc h.alternating fun target htarget => ?_
    rw [← h.synced]
    exact htransitioned.moved target htarget
  case synced =>
    rw [hafter, hsuccesses, filterMap_snoc, getLastD_append_toList, htransitioned.status, h.synced]
  case result =>
    rw [hafter, hsuccesses, filterMap_snoc, getLastD_append_toList, htransitioned.result, h.result]

theorem History.of_created {recordId sourceIdentity canonicalName : String} {createdAt : DateTime}
    {metadata : Option Dict}
    (hcreated : createRecord recordId sourceIdentity canonicalName createdAt metadata = .ok created)
    (attempts : List Attempt) : History created attempts := by
  induction attempts using List.reverseRecOn with
  | nil => exact .created hcreated
  | append_singleton attempts attempt ih =>
    cases hrun : attempt.1.run (created.after attempts) attempt.2 with
    | ok record' => exact ih.succeeded hrun
    | error e => exact ih.failed hrun

-- ---------------------------------------------------------------------------
-- Timestamps
-- ---------------------------------------------------------------------------

theorem updatedAt_mem_times (record : LocalRecord) (attempts : List Attempt) :
    record.updatedAt ∈ record.times attempts := by
  induction attempts with
  | nil => exact List.mem_singleton_self _
  | cons attempt rest ih =>
    unfold LocalRecord.times
    cases attempt.1.run record attempt.2 with
    | ok record' => exact List.mem_cons_self
    | error e => exact ih

/-- The time a record is at after some of the attempts is one of the times. -/
theorem after_mem_times (record : LocalRecord) (early late : List Attempt) :
    (record.after early).updatedAt ∈ record.times (early ++ late) := by
  induction early generalizing record with
  | nil => exact updatedAt_mem_times record late
  | cons attempt rest ih =>
    have hrest := ih (record.attempted attempt)
    rw [List.cons_append]
    change ((record.attempted attempt).after rest).updatedAt ∈ _
    unfold LocalRecord.times
    unfold LocalRecord.attempted at hrest ⊢
    cases hrun : attempt.1.run record attempt.2 with
    | ok record' =>
      rw [hrun] at hrest
      exact List.mem_cons_of_mem _ hrest
    | error e =>
      rw [hrun] at hrest
      exact hrest

/-- By induction on the attempts between the two: each is not before the last, and the times
agree pairwise. -/
theorem monotone_of_agreeing (early late rest : List Attempt)
    (hagree : Agreeing (created.times (early ++ late ++ rest))) :
    NotAfter (created.after early).updatedAt (created.after (early ++ late)).updatedAt := by
  induction late using List.reverseRecOn generalizing rest with
  | nil =>
    rw [List.append_nil]
    exact .refl _
  | append_singleton late attempt ih =>
    have hearly : (created.after early).updatedAt ∈
        created.times (early ++ (late ++ [attempt]) ++ rest) := by
      rw [List.append_assoc]
      exact after_mem_times ..
    have hmiddle : (created.after (early ++ late)).updatedAt ∈
        created.times (early ++ (late ++ [attempt]) ++ rest) := by
      rw [← List.append_assoc, List.append_assoc (early ++ late)]
      exact after_mem_times ..
    have hlast : (created.after (early ++ (late ++ [attempt]))).updatedAt ∈
        created.times (early ++ (late ++ [attempt]) ++ rest) := after_mem_times ..
    have hbefore : NotAfter (created.after early).updatedAt
      (created.after (early ++ late)).updatedAt :=
      ih ([attempt] ++ rest) (by simpa using hagree)
    have hstep : NotAfter (created.after (early ++ late)).updatedAt
        (created.after (early ++ (late ++ [attempt]))).updatedAt := by
      rw [← List.append_assoc, after_snoc]
      exact attempted_notAfter ..
    exact DateTime.less_trans (hagree _ hlast _ hmiddle) (hagree _ hmiddle _ hearly)
      (hagree _ hlast _ hearly) hstep hbefore

theorem ordered_of_agreeing {recordId sourceIdentity canonicalName : String} {createdAt : DateTime}
    {metadata : Option Dict}
    (hcreated : createRecord recordId sourceIdentity canonicalName createdAt metadata = .ok created)
    (hagree : Agreeing (created.times attempts)) : Ordered created attempts := by
  have hmonotone : ∀ early late, attempts = early ++ late →
      NotAfter (created.after early).updatedAt (created.after attempts).updatedAt := by
    rintro early late rfl
    exact monotone_of_agreeing early late [] (by rwa [List.append_nil])
  refine ⟨?_, hmonotone⟩
  have hfirst : created.updatedAt = created.createdAt := by
    obtain ⟨_, -, hpure⟩ := except_bind_ok.mp hcreated
    cases except_pure_ok.mp hpure
    rfl
  rw [(History.of_created hcreated attempts).createdAt, ← hfirst]
  exact hmonotone [] attempts rfl

theorem history_kept (recordId sourceIdentity canonicalName : String) (createdAt : DateTime)
    (metadata : Option Dict) (created : LocalRecord)
    (hcreated : createRecord recordId sourceIdentity canonicalName createdAt metadata = .ok created)
    (attempts : List Attempt) :
    History created attempts ∧ (Agreeing (created.times attempts) → Ordered created attempts) :=
  ⟨.of_created hcreated attempts, ordered_of_agreeing hcreated⟩

-- ---------------------------------------------------------------------------
-- A night with an hour twice
-- ---------------------------------------------------------------------------

def newRecord (createdAt : DateTime) : LocalRecord where
  recordId := "r"
  sourceIdentity := "s"
  canonicalName := "c"
  syncStatus := .unsynced
  processingStatus := .pending
  revision := 0
  createdAt
  updatedAt := createdAt
  metadata := some Dict.empty

/-- The second transition fails, and the last is in the zone of the creation. -/
theorem syncedTwice_kept :
    History (newRecord dayBefore) [(.markSynced, dayBefore), (.markSynced, halfPastTwo),
      (.applyProcessingResult .failed (some "late"), halfPastTwo),
        (.markUnsynced, quarterPastOne)] ∧
    Ordered (newRecord dayBefore) [(.markSynced, dayBefore), (.markSynced, halfPastTwo),
      (.applyProcessingResult .failed (some "late"), halfPastTwo),
        (.markUnsynced, quarterPastOne)] :=
  let kept := history_kept "r" "s" "c" dayBefore none (newRecord dayBefore) rfl
    [(.markSynced, dayBefore), (.markSynced, halfPastTwo),
      (.applyProcessingResult .failed (some "late"), halfPastTwo), (.markUnsynced, quarterPastOne)]
  ⟨kept.1, kept.2 (by decide +kernel)⟩

/-- Both transitions go through, and the record was updated before it was created. -/
theorem createdAfterUpdate :
    createRecord "r" "s" "c" halfPastTwo none = .ok (newRecord halfPastTwo) ∧
    (newRecord halfPastTwo).successes [(.markSynced, quarterPastOne),
      (.markUnsynced, twentyPastTwo)] =
      [.markSynced, .markUnsynced] ∧
    ¬Ordered (newRecord halfPastTwo)
      [(.markSynced, quarterPastOne), (.markUnsynced, twentyPastTwo)] := by
  refine ⟨rfl, by decide +kernel, fun h => ?_⟩
  have hbefore : DateTime.less twentyPastTwo halfPastTwo = .ok true := by decide +kernel
  have hordered : DateTime.less twentyPastTwo halfPastTwo = .ok false := h.sinceCreation
  cases hbefore.symm.trans hordered

end DpostV2.Records
