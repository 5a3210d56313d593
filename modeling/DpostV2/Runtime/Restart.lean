import DpostV2.Runtime.Tracking

/-!
# Records across restarts

A process numbers the revisions it saves from its own map, which starts
empty, and the store compares with what earlier processes have left.
`saves_decided` says which saves that refuses.
-/

namespace DpostV2.Runtime

open DpostV2.Ingestion

section
variable [Interpreter] {D : Type}

def Lifetime.run (w : RuntimeWorld D) (life : Lifetime D) : RuntimeWorld D :=
  life.turns.foldl (Turn.run life.env life.settings) w.restart

omit [Interpreter] in
theorem Known.restart {w : RuntimeWorld D} (h : Known w.records) : Known w.restart.records :=
  ⟨fun _ _ hr => by simp [RuntimeWorld.restart] at hr, h.stored⟩

theorem turns_known (env : Environment D) (settings : RuntimeSettings) (turns : List (Turn D))
    {w : RuntimeWorld D} (hk : Known w.records) :
    Known (turns.foldl (Turn.run env settings) w).records := by
  induction turns using List.reverseRecOn with
  | nil => exact hk
  | append_singleton turns turn ih =>
    rw [List.foldl_append]
    exact turn.run_known env settings ih

theorem lifetimes_known (past : List (Lifetime D)) {w : RuntimeWorld D} (hk : Known w.records) :
    Known (past.foldl Lifetime.run w).records := by
  induction past using List.reverseRecOn with
  | nil => exact hk
  | append_singleton past life ih =>
    rw [List.foldl_append]
    exact turns_known life.env life.settings life.turns ih.restart

/-- Every save of an ingestion succeeds exactly where its record is not one
that earlier processes have stored and this one has not. -/
def SavesDecided (env : Environment D) (settings : RuntimeSettings) (turn : Turn D)
    (w : RuntimeWorld D) : Prop :=
  ∀ t₁ payload r t₂, turn.trace env settings w = t₁ ++ ⟨.saveRecord payload, r⟩ :: t₂ →
    (¬Failed r ↔ Savable (Prog.after (runtimeExec env settings) (turn.begin w) t₁).records
      (resolveRuntimeRecordId payload))

/-- Whatever processes ran before on the store, and whatever this one has ingested. -/
theorem saves_decided (outside : Outside D) (past : List (Lifetime D)) (env : Environment D)
    (settings : RuntimeSettings) (turns : List (Turn D)) (turn : Turn D) :
    SavesDecided env settings turn (turns.foldl (Turn.run env settings)
      (past.foldl Lifetime.run (.start outside)).restart) := by
  have hk := turns_known env settings turns
    (lifetimes_known past (w := .start outside) known_start).restart
  generalize turns.foldl (Turn.run env settings) _ = w at hk
  intro t₁ payload r t₂ ht
  have hplayed := turn.played env settings w
  have hf := turn.expected env settings w ⟨.saveRecord payload, r⟩ (by simp [ht]) payload rfl
  have hk := turn.known_at env settings ht hk
  rw [ht, Prog.played_append] at hplayed
  generalize Prog.after (runtimeExec env settings) (turn.begin w) t₁ = w₁ at *
  have hr : r = ((saveRecord (env.updatedAt w₁.toOutside) payload).run w₁.records).1 := hplayed.2.1
  constructor
  · intro hok
    by_contra hs
    obtain ⟨exc, hrun⟩ := saveRecord_run_refused hk hf hs (env.updatedAt w₁.toOutside)
    rw [hrun] at hr
    rw [hr] at hok
    exact hok rfl
  · intro hs
    obtain ⟨stored, -, hrun⟩ := saveRecord_run hk hf hs (env.updatedAt w₁.toOutside)
    rw [hrun] at hr
    rw [hr]
    exact Bool.true_eq_false_eq_False

end

section
attribute [local instance] Interpreter.ascii

def arrivesAgain : Turn Unit where
  change := dropFile ["in", "x.csv"] [1]
  ingestion := arrival "/in/x.csv" inX_ok

def firstLifetime : Lifetime Unit where
  env := defaultDevice
  settings := toOut
  turns := [arrivesAgain]

def afterRestart : RuntimeWorld Unit :=
  (firstLifetime.run (.start { files := Fs.empty, devices := () })).restart

def saveFails : CallStep → Bool
  | ⟨.saveRecord _, .ok r⟩ => !r.success
  | _ => false

/-- The file that comes back after a restart is moved, and its record is not saved. -/
theorem movedAndNotSaved :
    (arrivesAgain.trace defaultDevice toOut afterRestart).any saveFails = true ∧
      (arrivesAgain.run defaultDevice toOut afterRestart).files.present ["in", "x.csv"] =
        false := by
  decide +kernel

end

end DpostV2.Runtime
