import DpostV2.Startup.Release

/-!
# Shutting down

The hooks of a composed runtime behind their two entries: `shutdown_all` of the bundle and
`shutdown` of the runtime handle, each with a latch of its own. `shutdown_complete_iff` says when
a first call reaches every adapter: a method that is bound twice is called twice, and a hook that
raises is the last one called.
-/

namespace DpostV2.Startup

structure Shutting (W : Type) where
  hasRun : Bool := false
  shutdownCompleted : Bool := false
  composing : Composing W

def Shutting.initial {W : Type} (w : W) : Shutting W := { composing := Composing.initial w }

inductive Entry where
  | bundle
  | runtimeHandle
  deriving DecidableEq, Repr

section
variable {W : Type} (exec : (c : ComposeCall) → W → c.Res × W) (hooks : List Hook)

/-- The closure `shutdown_all`. -/
def shutdownOnce : Eff Exn (Shutting W) Unit := fun s =>
  if s.hasRun then (.ok (), s)
  else
    let r := (shutdownAll exec hooks).run s.composing
    (r.1, { s with hasRun := true, composing := r.2 })

/-- `RuntimeHost.shutdown`. -/
def hostShutdown : Eff Exn (Shutting W) Unit := fun s =>
  if s.shutdownCompleted then (.ok (), s)
  else (shutdownOnce exec hooks).run { s with shutdownCompleted := true }

def Entry.call : Entry → Eff Exn (Shutting W) Unit
  | .bundle => shutdownOnce exec hooks
  | .runtimeHandle => hostShutdown exec hooks

def callEntries (entries : List Entry) (s : Shutting W) : Shutting W :=
  entries.foldl (fun s entry => ((entry.call exec hooks).run s).2) s

end

/-- Whatever is called first, and whatever is called after it, the hooks of all adapters have been
called once, the last bound first. -/
def ShutsDown {W : Type} (exec : (c : ComposeCall) → W → c.Res × W) (bindings : Bindings)
    (w : W) : Prop :=
  ∀ entries, entries ≠ [] →
    hooksReleased (callEntries exec (buildShutdownHooks bindings) entries
      (Shutting.initial w)).composing.log = (adapterHooks bindings).reverse

-- ---------------------------------------------------------------------------
-- Which hooks return
-- ---------------------------------------------------------------------------

section
variable {W : Type} (exec : (c : ComposeCall) → W → c.Res × W)

inductive AllReturn : List Hook → W → W → Prop
  | nil : AllReturn [] w w
  | cons : AllReturn rest w w₁ → exec (.shutdown hook) w₁ = (.ok (), w₂) →
      AllReturn (hook :: rest) w w₂

/-- The first hook raises after the others have returned. -/
def RaisesLast (called : List Hook) (w : W) : Prop :=
  ∃ hook rest w₁ e w₂, called = hook :: rest ∧ AllReturn exec rest w w₁ ∧
    exec (.shutdown hook) w₁ = (.error e, w₂)

/-- Every adapter's hook is registered once, and none raises but the one that is called last. -/
def Undisturbed (bindings : Bindings) (w : W) : Prop :=
  buildShutdownHooks bindings = adapterHooks bindings ∧
    ∃ w', AllReturn exec (buildShutdownHooks bindings).tail w w'

/-- What is registered again is bound before all hooks that are not, so that it is called after
them, and the last of them raises. -/
def CutShort (bindings : Bindings) (w : W) : Prop :=
  adapterHooks bindings <:+ buildShutdownHooks bindings ∧ RaisesLast exec (adapterHooks bindings) w

variable {exec} {hooks called : List Hook} {w w₁ w₂ : W}

theorem AllReturn.unique (h : AllReturn exec hooks w w₁) (h' : AllReturn exec hooks w w₂) :
    w₁ = w₂ := by
  induction h generalizing w₂ with
  | nil =>
    cases h'
    rfl
  | cons _ hcall ih =>
    cases h' with
    | cons hrest' hcall' =>
      cases ih hrest'
      exact (Prod.mk.inj (hcall.symm.trans hcall')).2

theorem AllReturn.suffix (h : AllReturn exec hooks w w₁) (hsuffix : called <:+ hooks) :
    ∃ w', AllReturn exec called w w' := by
  induction h with
  | nil =>
    rw [List.suffix_nil] at hsuffix
    subst hsuffix
    exact ⟨_, .nil⟩
  | cons hrest hcall ih =>
    rcases List.suffix_cons_iff.mp hsuffix with rfl | hsuffix
    · exact ⟨_, .cons hrest hcall⟩
    · exact ih hsuffix

theorem RaisesLast.not_allReturn (h : RaisesLast exec called w) (hsuffix : called <:+ hooks) :
    ¬ AllReturn exec hooks w w₂ := by
  intro hall
  obtain ⟨hook, rest, w', e, _, rfl, hrest, hraises⟩ := h
  obtain ⟨_, hcalled⟩ := hall.suffix hsuffix
  cases hcalled with
  | cons hrest' hreturns =>
    cases hrest.unique hrest'
    exact nomatch hraises.symm.trans hreturns

theorem RaisesLast.of_tail (h : RaisesLast exec called w) (hsuffix : called <:+ hooks)
    (hrest : AllReturn exec hooks.tail w w₂) : called = hooks := by
  cases hooks with
  | nil => exact List.suffix_nil.mp hsuffix
  | cons hook rest =>
    rcases List.suffix_cons_iff.mp hsuffix with heq | hlt
    · exact heq
    · exact absurd hrest (h.not_allReturn hlt)

theorem RaisesLast.unique {called' : List Hook} (h : RaisesLast exec called w)
    (h' : RaisesLast exec called' w) (hsuffix : called <:+ hooks) (hsuffix' : called' <:+ hooks) :
    called = called' := by
  wlog hle : called <:+ called' generalizing called called'
  · have hge := (List.suffix_or_suffix_of_suffix hsuffix hsuffix').resolve_left hle
    exact (this h' h hsuffix' hsuffix hge).symm
  · obtain ⟨hook, rest, w', _, _, rfl, hrest, -⟩ := h'
    rcases List.suffix_cons_iff.mp hle with heq | hlt
    · exact heq
    · exact absurd hrest (h.not_allReturn hlt)

-- ---------------------------------------------------------------------------
-- One call
-- ---------------------------------------------------------------------------

variable (exec)

theorem shutdownAll_cons (hook : Hook) (rest : List Hook) (s : Composing W) :
    (shutdownAll exec (hook :: rest)).run s =
      match (shutdownAll exec rest).run s with
      | (.ok _, s') => ((exec (.shutdown hook) s'.world).1, s'.answered exec (.shutdown hook))
      | (.error e, s') => (.error e, s') := by
  simp only [shutdownAll, Eff.run_bind]
  cases (shutdownAll exec rest).run s with
  | mk x s' => cases x <;> rfl

theorem hooksReleased_answered (s : Composing W) (hook : Hook) :
    hooksReleased (s.answered exec (.shutdown hook)).log = hooksReleased s.log ++ [hook] := by
  simp [Traced.answered, hooksReleased]

/-- The hooks are called up to the first one that raises. -/
theorem shutdownAll_run (hooks : List Hook) (s : Composing W) :
    (∃ w', AllReturn exec hooks s.world w' ∧ ((shutdownAll exec hooks).run s).1 = .ok () ∧
        ((shutdownAll exec hooks).run s).2.world = w' ∧
        hooksReleased ((shutdownAll exec hooks).run s).2.log =
          hooksReleased s.log ++ hooks.reverse) ∨
      ∃ called e, called <:+ hooks ∧ RaisesLast exec called s.world ∧
        ((shutdownAll exec hooks).run s).1 = .error e ∧
        hooksReleased ((shutdownAll exec hooks).run s).2.log =
          hooksReleased s.log ++ called.reverse := by
  induction hooks with
  | nil => exact .inl ⟨s.world, .nil, rfl, rfl, (List.append_nil _).symm⟩
  | cons hook rest ih =>
    rw [shutdownAll_cons]
    rcases ih with ⟨w', hall, hok, rfl, hlog⟩ | ⟨called, e, hsuffix, hraises, herror, hlog⟩
    · cases hr : (shutdownAll exec rest).run s with
      | mk x s' =>
        rw [hr] at hall hok hlog
        cases hok
        have hreleased : hooksReleased (s'.answered exec (.shutdown hook)).log =
            hooksReleased s.log ++ (hook :: rest).reverse := by
          rw [hooksReleased_answered, hlog, List.reverse_cons, List.append_assoc]
        cases hcall : exec (.shutdown hook) s'.world with
        | mk answer w₁ =>
          cases answer with
          | ok =>
            refine .inl ⟨w₁, .cons hall hcall, ?_, ?_, hreleased⟩
            · simp [hcall]
            · simp [Traced.answered, hcall]
          | error e =>
            refine .inr ⟨hook :: rest, e, List.suffix_rfl,
              ⟨hook, rest, _, e, w₁, rfl, hall, hcall⟩, ?_, hreleased⟩
            simp [hcall]
    · cases hr : (shutdownAll exec rest).run s with
      | mk x s' =>
        rw [hr] at herror hlog
        cases herror
        exact .inr ⟨called, e, hsuffix.trans (List.suffix_cons _ _), hraises, rfl, hlog⟩

-- ---------------------------------------------------------------------------
-- Every sequence of calls
-- ---------------------------------------------------------------------------

variable (hooks)

def Shutting.Fresh (s : Shutting W) : Prop := s.hasRun = false ∧ s.shutdownCompleted = false

theorem Entry.call_fresh (entry : Entry) {s : Shutting W} (h : s.Fresh) :
    ((entry.call exec hooks).run s).2.hasRun = true ∧
      ((entry.call exec hooks).run s).2.composing =
        ((shutdownAll exec hooks).run s.composing).2 := by
  obtain ⟨hrun, hcompleted⟩ := h
  cases entry <;>
    simp [Entry.call, Eff.run, hostShutdown, shutdownOnce, hrun, hcompleted]

/-- Behind the latch of `shutdown_all` nothing is called. -/
theorem Entry.call_latched (entry : Entry) {s : Shutting W} (h : s.hasRun = true) :
    ((entry.call exec hooks).run s).2.hasRun = true ∧
      ((entry.call exec hooks).run s).2.composing = s.composing := by
  cases entry with
  | bundle => simp [Entry.call, Eff.run, shutdownOnce, h]
  | runtimeHandle =>
    cases hcompleted : s.shutdownCompleted <;>
      simp [Entry.call, Eff.run, hostShutdown, shutdownOnce, h, hcompleted]

theorem callEntries_latched (entries : List Entry) {s : Shutting W} (h : s.hasRun = true) :
    (callEntries exec hooks entries s).composing = s.composing := by
  induction entries generalizing s with
  | nil => rfl
  | cons entry rest ih =>
    have hcall := entry.call_latched exec hooks h
    exact (ih hcall.1).trans hcall.2

theorem callEntries_first {entries : List Entry} (hne : entries ≠ []) {s : Shutting W}
    (h : s.Fresh) :
    (callEntries exec hooks entries s).composing =
      ((shutdownAll exec hooks).run s.composing).2 := by
  cases entries with
  | nil => exact absurd rfl hne
  | cons entry rest =>
    have hcall := entry.call_fresh exec hooks h
    exact (callEntries_latched exec hooks rest hcall.1).trans hcall.2

theorem shutsDown_iff {bindings : Bindings} :
    ShutsDown exec bindings w ↔
      hooksReleased ((shutdownAll exec (buildShutdownHooks bindings)).run
        (Composing.initial w)).2.log = (adapterHooks bindings).reverse := by
  have hfirst : ∀ entries, entries ≠ [] → _ := fun entries hne =>
    callEntries_first exec (buildShutdownHooks bindings) hne (s := Shutting.initial w) ⟨rfl, rfl⟩
  constructor
  · intro h
    have hcall := h [.bundle] (by simp)
    rwa [hfirst _ (by simp)] at hcall
  · intro h entries hne
    rw [hfirst entries hne]
    exact h

end

/-- Every adapter is shut down once where its hook is registered once and no hook raises before the
last, or where what is registered again is cut off by a hook that raises. -/
theorem shutdown_complete_iff {W : Type} (exec : (c : ComposeCall) → W → c.Res × W)
    (bindings : Bindings) (w : W) :
    ShutsDown exec bindings w ↔ Undisturbed exec bindings w ∨ CutShort exec bindings w := by
  have hdistinct := buildShutdownHooks_eraseDups bindings
  rw [shutsDown_iff]
  rcases shutdownAll_run exec (buildShutdownHooks bindings) (Composing.initial w) with
    ⟨w', hall, -, -, hlog⟩ | ⟨called, e, hsuffix, hraises, -, hlog⟩
  · rw [hlog]
    constructor
    · intro hreleased
      have hsame : buildShutdownHooks bindings = adapterHooks bindings :=
        List.reverse_injective hreleased
      exact .inl ⟨hsame, hall.suffix (List.tail_suffix _)⟩
    · rintro (⟨hsame, -⟩ | ⟨hsuffix, hraises⟩)
      · exact congrArg List.reverse hsame
      · exact absurd hall (hraises.not_allReturn hsuffix)
  · rw [hlog]
    constructor
    · intro hreleased
      have hcalled : called = adapterHooks bindings := List.reverse_injective hreleased
      subst hcalled
      exact .inr ⟨hsuffix, hraises⟩
    · rintro (⟨hsame, w', hrest⟩ | ⟨hsuffix', hraises'⟩)
      · exact congrArg List.reverse ((hraises.of_tail hsuffix hrest).trans hsame)
      · exact congrArg List.reverse (hraises.unique hraises' hsuffix hsuffix')

def quiet : (c : ComposeCall) → Unit → c.Res × Unit
  | .factory _, _ => (.ok none, ())
  | .healthcheck .., _ | .shutdown _, _ => (.ok (), ())
  | .resolveDeviceScopeForPc .., _ => (.ok [], ())
  | .appFactory .., _ | .defaultAppFactory .., _ => (.ok .none, ())

def closable : Adapter where
  getattr name := if name = "close" then some { id := 3, callable := true, bound := true } else none
  callable := false
  mapping := none

/-- One object behind two ports is closed twice. -/
theorem shared_closed_twice :
    hooksReleased (callEntries quiet
      (buildShutdownHooks [("storage", some closable), ("sync", some closable)]) [.bundle]
      (Shutting.initial ())).composing.log = [3, 3] ∧
    ¬ ShutsDown quiet [("storage", some closable), ("sync", some closable)] () := by
  have hcalled : hooksReleased (callEntries quiet
      (buildShutdownHooks [("storage", some closable), ("sync", some closable)]) [.bundle]
      (Shutting.initial ())).composing.log = [3, 3] := by decide
  refine ⟨hcalled, fun h => ?_⟩
  have hreached := h [.bundle] (by simp)
  rw [hcalled] at hreached
  exact absurd hreached (by decide)

end DpostV2.Startup
