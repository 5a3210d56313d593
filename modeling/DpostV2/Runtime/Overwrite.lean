import DpostV2.Ingestion.Moves
import DpostV2.Runtime.Engine

/-!
# What a move finds at its target

Nothing in the engine asks whether a target is taken. `Turn.clear` is what
has to hold when an ingestion comes to its persist stage for its moves to
find their targets free, and for what is persisted to stay (`persisted_kept`).
-/

namespace DpostV2.Runtime

open DpostV2.Ingestion

-- ---------------------------------------------------------------------------
-- The targets of a plan
-- ---------------------------------------------------------------------------

/-- No file stands at a planned target. -/
def vacantTargets (ops : FileOps) (fs : Fs) (plan : List (String × String)) : Bool :=
  plan.all fun m => match ops.resolveScopedPath m.2 with
    | .ok t => !fs.isFile t
    | .error _ => true

/-- The second target is neither the first nor below it. -/
def apart (ops : FileOps) (m m' : String × String) : Bool :=
  match ops.resolveScopedPath m.2, ops.resolveScopedPath m'.2 with
  | .ok t, .ok t' => !t.isPrefixOf t'
  | _, _ => true

def clearPlan (ops : FileOps) (fs : Fs) (plan : List (String × String)) : Bool :=
  vacantTargets ops fs plan && decide (plan.Pairwise fun m m' => apart ops m m' = true)

/-- No planned source is the path or a directory it is in. -/
def unsourced (ops : FileOps) (p : FsPath) (plan : List (String × String)) : Bool :=
  plan.all fun m => match ops.resolveScopedPath m.1 with
    | .ok s => !s.isPrefixOf p
    | .error _ => true

section
variable [Interpreter] {D : Type} (env : Environment D) (settings : RuntimeSettings)

/-- The state and the world an ingestion comes to its persist stage with, if it does. -/
def Turn.persistStart (turn : Turn D) (w : RuntimeWorld D) :
    Option (IngestionState × RuntimeWorld D) :=
  match (beforePersist (stageSettings settings) turn.ingestion.initialState).run
    (runtimeExec env settings) (turn.begin w) with
  | (.ok (some state), w') => some (state, w')
  | _ => none

def Turn.clear (turn : Turn D) (w : RuntimeWorld D) : Bool :=
  (turn.persistStart env settings w).all fun (state, w') =>
    clearPlan settings.fileOps w'.files (plannedMoves state)

def Turn.sparing (p : FsPath) (turn : Turn D) (w : RuntimeWorld D) : Bool :=
  (turn.persistStart env settings w).all fun (state, _) =>
    unsourced settings.fileOps p (plannedMoves state)

/-- Whenever a move is made no file stands at its target. -/
def Turn.MovesFree (turn : Turn D) (w : RuntimeWorld D) : Prop :=
  ∀ t₁ source target r t₂ t, turn.trace env settings w = t₁ ++ ⟨.moveFile source target, r⟩ :: t₂ →
    settings.fileOps.resolveScopedPath target = .ok t →
    (Prog.after (runtimeExec env settings) (turn.begin w) t₁).files.isFile t = false

theorem moveFile_files (source target : String) (w : RuntimeWorld D) :
    (runtimeExec env settings (.moveFile source target) w).2.files =
      ((settings.fileOps.move source target).run w.files).2 := by
  have hexec : runtimeExec env settings (.moveFile source target) w =
      (moveFile settings source target).run w := rfl
  rw [hexec]
  simp only [moveFile, Eff.run_bind, Eff.run_attempt]
  split <;> rfl

/-- What the moves made so far leave free, and what they leave alone. -/
theorem moves_vacant {done : List (String × String)} {t : List CallStep} (ht : MovesDone done t)
    {w : RuntimeWorld D} {p : FsPath} (hp : w.files.isFile p = false)
    (hdone : ∀ m ∈ done, ∀ t', settings.fileOps.resolveScopedPath m.2 = .ok t' → ¬t' <+: p) :
    (Prog.after (runtimeExec env settings) w t).files.isFile p = false := by
  induction ht generalizing w with
  | nil => exact hp
  | @cons source target r plan t _ _ ih =>
    rw [Prog.after_cons]
    refine ih ?_ fun m hm => hdone m (List.mem_cons_of_mem _ hm)
    rw [moveFile_files]
    exact FileOps.move_vacant hp (hdone (source, target) (by simp))

theorem Turn.persistStart_eq {turn : Turn D} {w : RuntimeWorld D} {q : List CallStep}
    (h : (beforePersist (stageSettings settings) turn.ingestion.initialState).Ends q
        (.ok (some state)))
    (hq : Prog.Played (runtimeExec env settings) (turn.begin w) q) :
    turn.persistStart env settings w =
      some (state, Prog.after (runtimeExec env settings) (turn.begin w) q) := by
  unfold Turn.persistStart
  rw [Prog.run_of_ends h hq]

/-- A move of an ingestion: where the persist stage started, and the moves before it. -/
theorem Turn.moveAt {turn : Turn D} {w : RuntimeWorld D} {r : Call.Res (.moveFile source target)}
    (h : turn.trace env settings w = t₁ ++ ⟨.moveFile source target, r⟩ :: t₂) :
    ∃ state q m done rest, turn.persistStart env settings w =
        some (state, Prog.after (runtimeExec env settings) (turn.begin w) q) ∧
      plannedMoves state = done ++ (source, target) :: rest ∧ MovesDone done m ∧ t₁ = q ++ m := by
  obtain ⟨_, state, q, m, done, rest, hi, hq, hplan, hm, rfl⟩ :=
    (turn.ingestionRun env settings w).moveAt rfl h
  cases hi
  have hplayed := turn.played env settings w
  rw [h, Prog.played_append, Prog.played_append] at hplayed
  exact ⟨state, q, m, done, rest, Turn.persistStart_eq env settings hq hplayed.1.1, hplan, hm, rfl⟩

theorem Turn.clear_free {turn : Turn D} {w : RuntimeWorld D}
    (hclear : turn.clear env settings w = true) : turn.MovesFree env settings w := by
  intro t₁ source target r t₂ t ht htarget
  obtain ⟨state, q, m, done, rest, hstart, hplan, hm, rfl⟩ := Turn.moveAt env settings ht
  rw [Turn.clear, hstart] at hclear
  simp only [Option.all_some, clearPlan, hplan, Bool.and_eq_true, decide_eq_true_eq] at hclear
  obtain ⟨hvacant, hapart⟩ := hclear
  rw [Prog.after_append]
  refine moves_vacant env settings hm ?_ ?_
  · have hv := List.all_eq_true.mp hvacant (source, target) (by simp)
    simpa [htarget] using hv
  · intro m' hm' t' ht' hpre
    have ha := (List.pairwise_append.mp hapart).2.2 m' hm' (source, target) (by simp)
    simp only [apart, ht', htarget, Bool.not_eq_true'] at ha
    rw [List.isPrefixOf_iff_prefix.mpr hpre] at ha
    cases ha

-- ---------------------------------------------------------------------------
-- What stays
-- ---------------------------------------------------------------------------

/-- What is behind the other ports does not touch the path. -/
structure Environment.Leaves (env : Environment D) (p : FsPath) : Prop where
  clock : ∀ o, (env.clock o).2.files.node p = o.files.node p
  selectProcessor : ∀ c o, (env.selectProcessor c o).2.files.node p = o.files.node p
  prepare : ∀ x d o, (env.prepare x d o).2.files.node p = o.files.node p
  canProcess : ∀ x d o, (env.canProcess x d o).2.files.node p = o.files.node p
  process : ∀ x d c o, (env.process x d c o).2.files.node p = o.files.node p
  syncRecord : ∀ s db o, (env.syncRecord s db o).2.files.node p = o.files.node p
  emit : ∀ a b c o, (env.emit a b c o).2.files.node p = o.files.node p

variable {env} in
theorem exec_leaves {p : FsPath} (h : env.Leaves p) {c : Call} (hc : c.isMove = false)
    (w : RuntimeWorld D) : (runtimeExec env settings c w).2.files.node p = w.files.node p := by
  have hrun : runtimeExec env settings c w = (runtimeCall env settings c).run w := rfl
  cases c with
  | moveFile => cases hc
  | fsFacts path =>
    rw [hrun]
    simp only [runtimeCall, readRuntimeFileFacts, clockSeconds, Eff.run_bind, run_ask, Eff.run_get]
    split <;> exact h.clock _
  | selectProcessor candidate => exact h.selectProcessor ..
  | now => exact h.clock _
  | prepare => exact h.prepare ..
  | canProcess => exact h.canProcess ..
  | process => exact h.process ..
  | emitSyncError => exact h.emit ..
  | triggerSync state =>
    rw [hrun]
    simp only [runtimeCall, triggerSync]
    cases state.recordId with
    | none => rfl
    | some recordId =>
      simp only
      split
      · rfl
      · simp only [Eff.run_bind, Eff.run_get, Eff.run_attempt, run_ask]
        split
        · simp only [Eff.run_bind, run_withRecords, markRuntimeRecordUnsynced_ok]
          exact h.syncRecord ..
        · split
          · exact h.syncRecord ..
          · simp only [Eff.run_bind, run_withRecords, markRuntimeRecordUnsynced_ok]
            exact h.syncRecord ..
  | _ => rfl

variable {env settings} in
/-- Along an ingestion that is clear and spares the path, a file stays where it is. -/
theorem Turn.keeps {turn : Turn D} {w : RuntimeWorld D} {p : FsPath} {content : Bytes}
    (henv : env.Leaves p) (hclear : turn.clear env settings w = true)
    (hspare : turn.sparing env settings p w = true)
    (hp : (turn.begin w).files.node p = some (.file content)) :
    (turn.run env settings w).files.node p = some (.file content) := by
  have hpre : ∀ t u, turn.trace env settings w = t ++ u →
      (Prog.after (runtimeExec env settings) (turn.begin w) t).files.node p =
        some (.file content) := by
    intro t
    induction t using List.reverseRecOn with
    | nil => exact fun _ _ => hp
    | append_singleton t e ih =>
      intro u ht
      rw [List.append_assoc] at ht
      have hat := ih _ ht
      rw [Prog.after_append, Prog.after_cons, Prog.after_nil]
      obtain ⟨c, r⟩ := e
      by_cases hc : c.isMove = true
      · cases c with
        | moveFile source target =>
          rw [moveFile_files]
          refine FileOps.move_keeps hat ?_ ?_
          · intro s hs hbegins
            obtain ⟨state, _, _, _, _, hstart, hplan, -, -⟩ := Turn.moveAt env settings ht
            rw [Turn.sparing, hstart] at hspare
            have hu := List.all_eq_true.mp hspare (source, target) (by simp [hplan])
            simp only [hs, Bool.not_eq_true'] at hu
            rw [List.isPrefixOf_iff_prefix.mpr hbegins] at hu
            cases hu
          · rintro t' ht' rfl
            have hfree := Turn.clear_free env settings hclear _ _ _ _ _ _ ht ht'
            rw [Fs.isFile_iff.mpr ⟨_, hat⟩] at hfree
            cases hfree
        | _ => cases hc
      · rw [exec_leaves settings henv (by simpa using hc)]
        exact hat
  rw [turn.run_eq]
  exact hpre _ [] (List.append_nil _).symm

/-- Every ingestion is clear when its turn comes. -/
def clearRun (w : RuntimeWorld D) : List (Turn D) → Bool
  | [] => true
  | turn :: rest => turn.clear env settings w && clearRun (turn.run env settings w) rest

def sparingRun (p : FsPath) (w : RuntimeWorld D) : List (Turn D) → Bool
  | [] => true
  | turn :: rest => turn.sparing env settings p w && sparingRun p (turn.run env settings w) rest

/-- Every move of a run finds its target free. -/
def FreeRun (w : RuntimeWorld D) : List (Turn D) → Prop
  | [] => True
  | turn :: rest => turn.MovesFree env settings w ∧ FreeRun (turn.run env settings w) rest

/-- A run whose ingestions come to their persist stages with free targets
overwrites nothing, and every file that it does not move and nobody else
touches is there at its end. -/
theorem persisted_kept (w : RuntimeWorld D) (turns : List (Turn D))
    (hclear : clearRun env settings w turns = true) :
    FreeRun env settings w turns ∧ ∀ p content, env.Leaves p →
      (∀ turn ∈ turns, ∀ o, (turn.change o).files.node p = o.files.node p) →
      sparingRun env settings p w turns = true → w.files.node p = some (.file content) →
      (turns.foldl (Turn.run env settings) w).files.node p = some (.file content) := by
  induction turns generalizing w with
  | nil => exact ⟨trivial, fun _ _ _ _ _ h => h⟩
  | cons turn rest ih =>
    rw [clearRun, Bool.and_eq_true] at hclear
    obtain ⟨hfree, hkept⟩ := ih _ hclear.2
    refine ⟨⟨Turn.clear_free env settings hclear.1, hfree⟩, ?_⟩
    intro p content henv hchange hspare hp
    rw [sparingRun, Bool.and_eq_true] at hspare
    refine hkept p content henv (fun t ht => hchange t (List.mem_cons_of_mem _ ht)) hspare.2 ?_
    refine Turn.keeps henv hclear.1 hspare.1 ?_
    rw [← hp]
    exact hchange turn (by simp) w.toOutside

end

section
variable [Interpreter] {D : Type} (env : Environment D) (settings : RuntimeSettings)

/-- Whether a move of the trace found a file at its target. -/
def occupiedMove (w : RuntimeWorld D) : List CallStep → Bool
  | [] => false
  | e :: t => (match e.1 with
    | .moveFile _ target => match settings.fileOps.resolveScopedPath target with
      | .ok p => w.files.isFile p
      | .error _ => false
    | _ => false) || occupiedMove (runtimeExec env settings e.1 w).2 t

variable {env settings} in
theorem occupiedMove_at {w : RuntimeWorld D} {t : List CallStep}
    (h : occupiedMove env settings w t = true) : ∃ t₁ source target r t₂ p,
      t = t₁ ++ ⟨.moveFile source target, r⟩ :: t₂ ∧
      settings.fileOps.resolveScopedPath target = .ok p ∧
      (Prog.after (runtimeExec env settings) w t₁).files.isFile p = true := by
  induction t generalizing w with
  | nil => cases h
  | cons e t ih =>
    rw [occupiedMove, Bool.or_eq_true] at h
    rcases h with h | h
    · obtain ⟨c, r⟩ := e
      cases c with
      | moveFile source target =>
        simp only at h
        split at h
        · rename_i p hp
          exact ⟨[], source, target, r, t, p, rfl, hp, h⟩
        · cases h
      | _ => cases h
    · obtain ⟨t₁, source, target, r, t₂, p, rfl, hp, hf⟩ := ih h
      exact ⟨e :: t₁, source, target, r, t₂, p, rfl, hp, hf⟩

variable {env settings} in
theorem Turn.not_free {turn : Turn D} {w : RuntimeWorld D}
    (h : occupiedMove env settings (turn.begin w) (turn.trace env settings w) = true) :
    ¬turn.MovesFree env settings w := by
  intro hfree
  obtain ⟨t₁, source, target, r, t₂, p, ht, hp, hfile⟩ := occupiedMove_at h
  rw [hfree t₁ source target r t₂ p ht hp] at hfile
  cases hfile

end

section
attribute [local instance] Interpreter.ascii

theorem defaultDevice_leaves (p : FsPath) : defaultDevice.Leaves p :=
  ⟨fun _ => rfl, fun _ _ => rfl, fun _ _ _ => rfl, fun _ _ _ => rfl, fun _ _ _ _ => rfl,
    fun _ _ _ => rfl, fun _ _ _ _ => rfl⟩

/-- One file persisted earlier, and one that is still to come. -/
def persistedAndNew : RuntimeWorld Unit :=
  .start (dropFile ["in", "y.csv"] [2] (dropFile ["out", "x.csv"] [1]
    { files := Fs.empty, devices := () }))

def ingestNew : Turn Unit where
  change o := o
  ingestion := arrival "/in/y.csv" (by decide +kernel)

theorem ingestNew_clear :
    clearRun defaultDevice toOut persistedAndNew [ingestNew] = true := by
  decide +kernel

theorem ingestNew_sparing :
    sparingRun defaultDevice toOut ["out", "x.csv"] persistedAndNew [ingestNew] = true := by
  decide +kernel

theorem persistedAndNew_file :
    persistedAndNew.files.node ["out", "x.csv"] = some (.file [1]) := by
  decide +kernel

/-- A file of another name is ingested, and the persisted one stays. -/
theorem persisted_kept_names :
    FreeRun defaultDevice toOut persistedAndNew [ingestNew] ∧
      ([ingestNew].foldl (Turn.run defaultDevice toOut) persistedAndNew).files.node
        ["out", "x.csv"] = some (.file [1]) :=
  have h := persisted_kept defaultDevice toOut persistedAndNew [ingestNew] ingestNew_clear
  ⟨h.1, h.2 ["out", "x.csv"] [1] (defaultDevice_leaves _)
    (fun _ ht _ => List.mem_singleton.mp ht ▸ rfl) ingestNew_sparing persistedAndNew_file⟩

/-- A file of one name that arrives once and once more, with other content. -/
def arrives (content : Bytes) : Turn Unit where
  change := dropFile ["in", "x.csv"] content
  ingestion := arrival "/in/x.csv" inX_ok

def emptyDisk : RuntimeWorld Unit := .start { files := Fs.empty, devices := () }

def firstPersisted : RuntimeWorld Unit := (arrives [1]).run defaultDevice toOut emptyDisk

theorem arrives_occupied : occupiedMove defaultDevice toOut ((arrives [2]).begin firstPersisted)
    ((arrives [2]).trace defaultDevice toOut firstPersisted) = true := by
  decide +kernel

theorem firstPersisted_file :
    firstPersisted.files.node ["out", "x.csv"] = some (.file [1]) := by
  decide +kernel

theorem arrives_file : ((arrives [2]).run defaultDevice toOut firstPersisted).files.node
    ["out", "x.csv"] = some (.file [2]) := by
  decide +kernel

/-- The second of two files of one name is moved over the first. -/
theorem sameNameOverwrites :
    ¬FreeRun defaultDevice toOut emptyDisk [arrives [1], arrives [2]] ∧
      firstPersisted.files.node ["out", "x.csv"] = some (.file [1]) ∧
      ((arrives [2]).run defaultDevice toOut firstPersisted).files.node ["out", "x.csv"] =
        some (.file [2]) :=
  ⟨fun h => Turn.not_free arrives_occupied h.2.1, firstPersisted_file, arrives_file⟩

end

end DpostV2.Runtime
