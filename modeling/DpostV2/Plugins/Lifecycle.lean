import DpostV2.Plugins.Host

/-!
# Lifecycle steps alternate

A plugin is activated, shut down, activated again, and is in the active set
between the two. `lifecycle_kept_iff`: every call keeps this but a shutdown
in which a hook raises after another plugin has been shut down.
-/

namespace DpostV2.Plugins

abbrev HookLog := List (Step LifecycleStep LifecycleStep.Res)

/-- The steps of a plugin that completed. -/
def phases (log : HookLog) (pluginId : String) : List Phase :=
  log.filterMap fun e => if e.1.pluginId = pluginId ∧ e.2.isOk then some e.1.phase else none

/-- The hooks of a plugin that completed. -/
def hookPhases (log : HookLog) (pluginId : String) : List Phase :=
  log.filterMap fun e =>
    if e.1.isHook ∧ e.1.pluginId = pluginId ∧ e.2.isOk then some e.1.phase else none

def AlternatesFrom : Phase → List Phase → Prop
  | _, [] => True
  | phase, p :: ps => p = phase ∧ AlternatesFrom phase.other ps

theorem AlternatesFrom.snoc {first p : Phase} {ps : List Phase} (h : AlternatesFrom first ps)
    (hp : p = match ps.getLast? with | none => first | some last => last.other) :
    AlternatesFrom first (ps ++ [p]) := by
  induction ps generalizing first with
  | nil => exact ⟨hp, trivial⟩
  | cons q ps ih =>
    obtain ⟨rfl, h⟩ := h
    refine ⟨rfl, ih h ?_⟩
    rw [hp, List.getLast?_cons]
    cases ps.getLast? <;> rfl

section
variable {catalog : PluginCatalogSnapshot} {log : HookLog} {step : LifecycleStep} {p : String}

theorem phases_completed : phases (log ++ [⟨step, .ok ()⟩]) p =
    phases log p ++ if step.pluginId = p then [step.phase] else [] := by
  unfold phases
  rw [List.filterMap_append]
  split
  · rename_i h
    simp [h, Except.isOk, Except.toBool]
  · rename_i h
    simp [h]

theorem phases_raised {e : Exn} : phases (log ++ [⟨step, .error e⟩]) p = phases log p := by
  simp [phases, List.filterMap_append, Except.isOk, Except.toBool]

/-- The log of a host that has `current` as its active plugins. -/
structure Follows (catalog : PluginCatalogSnapshot) (current : Finset String) (log : HookLog) :
    Prop where
  alternates : ∀ p, AlternatesFrom .activate (phases log p)
  active : ∀ p, p ∈ current ↔ (phases log p).getLast? = some .activate
  registered : current ⊆ catalog.knownPluginIds
  /-- A step without a call is one of a plugin without the hook. -/
  unhooked : ∀ e ∈ log, ∀ d ∈ catalog.descriptors, d.pluginId = e.1.pluginId →
    d.exports e.1.phase = true → e.1.isHook = true

theorem Follows.raised {current : Finset String} {e : Exn} (h : Follows catalog current log)
    (hook : step.isHook = true) : Follows catalog current (log ++ [⟨step, .error e⟩]) where
  alternates p := by
    rw [phases_raised]
    exact h.alternates p
  active p := by
    rw [phases_raised]
    exact h.active p
  registered := h.registered
  unhooked := by
    intro e' he d hd hid hexports
    rcases List.mem_append.mp he with he | he
    · exact h.unhooked e' he d hd hid hexports
    · cases List.mem_singleton.mp he
      exact hook

/-- A plugin's step has completed that is due. -/
theorem Follows.completed {current current' : Finset String} {d : PluginDescriptor}
    (h : Follows catalog current log) (hd : d ∈ catalog.descriptors)
    (hid : step.pluginId = d.pluginId) (hhook : step.isHook = d.exports step.phase)
    (hdue : step.phase = if d.pluginId ∈ current then .shutdown else .activate)
    (hcurrent : ∀ p, p ∈ current' ↔
      if p = d.pluginId then step.phase = .activate else p ∈ current) :
    Follows catalog current' (log ++ [⟨step, .ok ()⟩]) where
  alternates p := by
    rw [phases_completed]
    split
    · rename_i hp
      refine (h.alternates p).snoc ?_
      have hactive := h.active p
      rw [← hp, hid] at hactive
      rw [hdue]
      cases hlast : (phases log p).getLast? with
      | none =>
        rw [← hp, hid] at hlast
        rw [hlast] at hactive
        simp [hactive]
      | some last =>
        rw [← hp, hid] at hlast
        rw [hlast] at hactive
        cases last <;> simp_all [Phase.other]
    · simpa using h.alternates p
  active p := by
    rw [hcurrent, phases_completed, hid]
    by_cases hp : p = d.pluginId
    · simp [hp]
    · simp only [if_neg hp, if_neg (Ne.symm hp), List.append_nil]
      exact h.active p
  registered := by
    intro p hp
    have hmem := (hcurrent p).mp hp
    split at hmem
    · rename_i hpd
      rw [hpd]
      exact List.mem_toFinset.mpr (List.mem_map_of_mem hd)
    · exact h.registered hmem
  unhooked := by
    intro e he d' hd' hid' hexports
    rcases List.mem_append.mp he with he | he
    · exact h.unhooked e he d' hd' hid' hexports
    · cases List.mem_singleton.mp he
      rw [catalog.unique hd' hd (hid'.trans hid)] at hexports
      rw [hhook]
      exact hexports

theorem Follows.shutDown {current : Finset String} {d : PluginDescriptor}
    (h : Follows catalog current log) (hd : d ∈ catalog.descriptors)
    (hactive : d.pluginId ∈ current) :
    Follows catalog (current.erase d.pluginId) (log ++ [⟨d.shutdownStep, .ok ()⟩]) := by
  refine h.completed hd (by simp) (by simp) (by simp [hactive]) ?_
  intro p
  by_cases hp : p = d.pluginId <;> simp [hp]

theorem Follows.activated {current : Finset String} {d : PluginDescriptor} (profile : Value)
    (h : Follows catalog current log) (hd : d ∈ catalog.descriptors)
    (hactive : d.pluginId ∉ current) :
    Follows catalog (insert d.pluginId current) (log ++ [⟨d.activateStep profile, .ok ()⟩]) := by
  refine h.completed hd (by simp) (by simp) (by simp [hactive]) ?_
  intro p
  by_cases hp : p = d.pluginId <;> simp [hp]

end

-- ---------------------------------------------------------------------------
-- The operations
-- ---------------------------------------------------------------------------

section
variable {W : Type} {hooks : (step : LifecycleStep) → W → step.Res × W} {step : LifecycleStep}

theorem takeStep_error {w : W} {e : Exn} (h : (takeStep hooks step w).1 = .error e) :
    step.isHook = true := by
  unfold takeStep at h
  split at h
  · assumption
  · cases h

/-- A step completes, or a hook raises. -/
theorem perform_attempt {s : Host W} {R : Except Exn Unit → Host W → Prop}
    (hok : (takeStep hooks step s.world).1 = .ok () →
      R (.ok ())
        { s with world := (takeStep hooks step s.world).2, log := s.log ++ [⟨step, .ok ()⟩] })
    (herr : ∀ e, (takeStep hooks step s.world).1 = .error e → step.isHook = true →
      R (.error e)
        { s with world := (takeStep hooks step s.world).2, log := s.log ++ [⟨step, .error e⟩] })
    {E : Exn → Host W → Prop} : Triple (perform hooks step).attempt s R E := by
  refine .attempt (.perform ?_ ?_)
  · rintro ⟨⟩ h
    have hr := hok h
    rw [← h] at hr ⊢
    exact hr
  · intro e h
    have hr := herr e h (takeStep_error h)
    rw [← h] at hr ⊢
    exact hr

end

section
variable [Interpreter] {W : Type} {hooks : (step : LifecycleStep) → W → step.Res × W}
  {catalog : PluginCatalogSnapshot} {s : Host W}

theorem removePlugins_follows {ids : List String} {current : Finset String}
    (h : Follows catalog current s.log) (hnodup : ids.Nodup) (hids : ∀ p ∈ ids, p ∈ current) :
    Triple (removePlugins hooks catalog ids current) s
      (fun current' s' => Follows catalog current' s'.log ∧ current' ⊆ current)
      (fun _ s' => Follows catalog s'.state.active s'.log) := by
  induction ids generalizing current s with
  | nil => exact .pure ⟨h, fun _ hp => hp⟩
  | cons pluginId rest ih =>
    obtain ⟨hfirst, hrest⟩ := List.nodup_cons.mp hnodup
    have hactive := hids pluginId (List.mem_cons_self ..)
    obtain ⟨d, hd, hget, rfl⟩ := getPlugin_ok (h.registered hactive)
    unfold removePlugins
    rw [hget, Eff.lift_ok_bind]
    refine .bind (perform_attempt (R := fun x s' =>
      (∃ e, x = .error e ∧ Follows catalog current s'.log) ∨ x = .ok () ∧
        Follows catalog (current.erase d.pluginId) s'.log) ?_ ?_) ?_
    · exact fun _ => .inr ⟨rfl, h.shutDown hd hactive⟩
    · exact fun e _ hhook => .inl ⟨e, rfl, h.raised hhook⟩
    · rintro _ s' (⟨e, rfl, h'⟩ | ⟨rfl, h'⟩)
      · exact .bind (Q := fun _ s' => Follows catalog s'.state.active s'.log) (.write h')
          fun _ _ h'' => .raise h''
      · refine (ih h' hrest ?_).mono ?_ fun _ _ h'' => h''
        · intro p hp
          refine Finset.mem_erase.mpr ⟨?_, hids p (List.mem_cons_of_mem _ hp)⟩
          rintro rfl
          exact hfirst hp
        · rintro current' s'' ⟨h'', hsub⟩
          exact ⟨h'', hsub.trans (Finset.erase_subset _ _)⟩

theorem addPlugins_follows {profile : Value} {ids : List String} {current : Finset String}
    (h : Follows catalog current s.log) (hnodup : ids.Nodup) (hids : ∀ p ∈ ids, p ∉ current)
    (hknown : ∀ p ∈ ids, p ∈ catalog.knownPluginIds) :
    Triple (addPlugins hooks catalog profile ids current) s
      (fun current' s' => Follows catalog current' s'.log)
      (fun _ s' => Follows catalog s'.state.active s'.log) := by
  induction ids generalizing current s with
  | nil => exact .pure h
  | cons pluginId rest ih =>
    obtain ⟨hfirst, hrest⟩ := List.nodup_cons.mp hnodup
    have hactive := hids pluginId (List.mem_cons_self ..)
    obtain ⟨d, hd, hget, rfl⟩ := getPlugin_ok (hknown pluginId (List.mem_cons_self ..))
    unfold addPlugins
    rw [hget, Eff.lift_ok_bind]
    refine .bind (perform_attempt (R := fun x s' =>
      (∃ e, x = .error e ∧ Follows catalog current s'.log) ∨ x = .ok () ∧
        Follows catalog (insert d.pluginId current) s'.log) ?_ ?_) ?_
    · exact fun _ => .inr ⟨rfl, h.activated profile hd hactive⟩
    · exact fun e _ hhook => .inl ⟨e, rfl, h.raised hhook⟩
    · rintro _ s' (⟨e, rfl, h'⟩ | ⟨rfl, h'⟩)
      · exact .bind (Q := fun _ s' => Follows catalog s'.state.active s'.log) (.write h')
          fun _ _ h'' => .raise h''
      · refine ih h' hrest ?_ fun p hp => hknown p (List.mem_cons_of_mem _ hp)
        intro p hp hmem
        rcases Finset.mem_insert.mp hmem with rfl | hmem
        · exact hfirst hp
        · exact hids p (List.mem_cons_of_mem _ hp) hmem

theorem activateProfile_follows {profile : Value} {known : Option (List Value)}
    {allow deny : List Value} (h : Follows catalog s.state.active s.log) :
    Triple (activateProfile hooks catalog profile known allow deny) s
      (fun _ s' => Follows catalog s'.state.active s'.log)
      (fun _ s' => Follows catalog s'.state.active s'.log) := by
  unfold activateProfile
  refine .bind (Q := fun selection s' =>
    s = s' ∧ selectPluginsForProfile catalog profile known allow deny = .ok selection)
    (.lift (fun _ hs => ⟨rfl, hs⟩) fun _ _ => h) ?_
  rintro selection _ ⟨rfl, hselection⟩
  refine .bind (Q := fun state s' => s.state = state ∧ s = s') (.read ⟨rfl, rfl⟩) ?_
  rintro _ _ ⟨rfl, rfl⟩
  refine .bind (removePlugins_follows h ?_ ?_) ?_
  · exact List.nodup_reverse.mpr (Finset.sort_nodup ..)
  · intro p hp
    simp only [List.mem_reverse, Finset.mem_sort, Finset.mem_sdiff] at hp
    exact hp.1
  rintro current s' ⟨h', hsub⟩
  refine .bind (addPlugins_follows h' (Finset.sort_nodup ..) ?_ ?_) ?_
  · intro p hp hcurrent
    simp only [Finset.mem_sort, Finset.mem_sdiff] at hp
    exact hp.2 (hsub hcurrent)
  · intro p hp
    simp only [Finset.mem_sort, Finset.mem_sdiff] at hp
    exact selected_registered hselection hp.1
  · intro current' s'' h''
    exact .bind (Q := fun _ s' => Follows catalog s'.state.active s'.log) (.write h'')
      fun _ _ h => .pure h

end

-- ---------------------------------------------------------------------------
-- Shutdown
-- ---------------------------------------------------------------------------

section
variable {W : Type} (hooks : (step : LifecycleStep) → W → step.Res × W)
  (catalog : PluginCatalogSnapshot)

/-- What the shutdown of a plugin comes to. -/
def shutdownAnswer (pluginId : String) (w : W) : Except Exn Unit × W :=
  match getPlugin catalog pluginId with
  | .ok descriptor => takeStep hooks descriptor.shutdownStep w
  | .error e => (.error e, w)

/-- The plugins can be shut down one after the other. -/
def AllShutDown : List String → W → Prop
  | [], _ => True
  | pluginId :: rest, w => (shutdownAnswer hooks catalog pluginId w).1 = .ok () ∧
      AllShutDown rest (shutdownAnswer hooks catalog pluginId w).2

/-- No hook raises, or that of the first plugin does. -/
def FirstOrNone : List String → W → Prop
  | [], _ => True
  | pluginId :: rest, w => (shutdownAnswer hooks catalog pluginId w).1 = .ok () →
      AllShutDown hooks catalog rest (shutdownAnswer hooks catalog pluginId w).2

theorem AllShutDown.firstOrNone {hooks : (step : LifecycleStep) → W → step.Res × W}
    {catalog : PluginCatalogSnapshot} {ids : List String} {w : W}
    (h : AllShutDown hooks catalog ids w) : FirstOrNone hooks catalog ids w := by
  cases ids with
  | nil => trivial
  | cons pluginId rest => exact fun _ => h.2

end

/-- For each plugin the completed steps alternate, and so do its completed hooks if it exports
both; the active plugins are those whose last completed step was their activation. -/
structure InStep (catalog : PluginCatalogSnapshot) (s : Host W) : Prop where
  alternates : ∀ p, AlternatesFrom .activate (phases s.log p)
  hooks : ∀ d ∈ catalog.descriptors, d.onActivate = true → d.onShutdown = true →
    AlternatesFrom .activate (hookPhases s.log d.pluginId)
  active : ∀ p, p ∈ s.state.active ↔ (phases s.log p).getLast? = some .activate

theorem Follows.inStep {catalog : PluginCatalogSnapshot} {s : Host W}
    (h : Follows catalog s.state.active s.log) : InStep catalog s where
  alternates := h.alternates
  hooks := by
    intro d hd hactivate hshutdown
    have hboth : ∀ phase, d.exports phase = true := by rintro ⟨⟩ <;> assumption
    have heq : hookPhases s.log d.pluginId = phases s.log d.pluginId := by
      apply List.filterMap_congr
      intro e he
      by_cases hid : e.1.pluginId = d.pluginId
      · simp [h.unhooked e he d hd hid.symm (hboth _)]
      · simp [hid]
    rw [heq]
    exact h.alternates _
  active := h.active

theorem Follows.initial {W : Type} (catalog : PluginCatalogSnapshot) (w : W) :
    Follows catalog (Host.initial w).state.active (Host.initial w).log where
  alternates _ := trivial
  active p := by simp [Host.initial, phases]
  registered := Finset.empty_subset _
  unhooked := by simp [Host.initial]

section
variable [Interpreter] {W : Type} {hooks : (step : LifecycleStep) → W → step.Res × W}
  {catalog : PluginCatalogSnapshot} {s : Host W}

theorem shutdownPlugins_follows {ids : List String} {current : Finset String}
    (h : Follows catalog current s.log) (hnodup : ids.Nodup) (hids : ∀ p ∈ ids, p ∈ current) :
    Triple (shutdownPlugins hooks catalog ids) s
      (fun _ s' => s'.state = s.state ∧ AllShutDown hooks catalog ids s.world ∧
        Follows catalog (current \ ids.toFinset) s'.log)
      (fun _ s' => s'.state = s.state ∧ ¬AllShutDown hooks catalog ids s.world ∧
        ∃ done ⊆ current, Follows catalog (current \ done) s'.log ∧
          (done = ∅ ↔ FirstOrNone hooks catalog ids s.world)) := by
  induction ids generalizing current s with
  | nil => exact .pure ⟨rfl, trivial, by simpa using h⟩
  | cons pluginId rest ih =>
    obtain ⟨hfirst, hrest⟩ := List.nodup_cons.mp hnodup
    have hactive := hids pluginId (List.mem_cons_self ..)
    obtain ⟨d, hd, hget, rfl⟩ := getPlugin_ok (h.registered hactive)
    have hanswer : shutdownAnswer hooks catalog d.pluginId s.world =
        takeStep hooks d.shutdownStep s.world := by
      unfold shutdownAnswer
      rw [hget]
    unfold shutdownPlugins AllShutDown FirstOrNone
    rw [hget, Eff.lift_ok_bind, hanswer]
    refine .bind (perform_attempt (R := fun x s' => s'.state = s.state ∧
      ((∃ e, x = .error e ∧ (takeStep hooks d.shutdownStep s.world).1 = .error e ∧
        Follows catalog current s'.log) ∨
      x = .ok () ∧ (takeStep hooks d.shutdownStep s.world).1 = .ok () ∧
        s'.world = (takeStep hooks d.shutdownStep s.world).2 ∧
        Follows catalog (current.erase d.pluginId) s'.log)) ?_ ?_) ?_
    · exact fun hok => ⟨rfl, .inr ⟨rfl, hok, rfl, h.shutDown hd hactive⟩⟩
    · exact fun e herr hhook => ⟨rfl, .inl ⟨e, rfl, herr, h.raised hhook⟩⟩
    · rintro _ s' ⟨hstate, ⟨e, rfl, herr, h'⟩ | ⟨rfl, hok, hworld, h'⟩⟩
      · refine .raise ⟨hstate, ?_, ∅, Finset.empty_subset _, by simpa using h', ?_⟩
        · rintro ⟨hok, -⟩
          rw [herr] at hok
          cases hok
        · simp [hanswer, herr]
      · refine (ih h' hrest ?_).mono ?_ ?_
        · intro p hp
          refine Finset.mem_erase.mpr ⟨?_, hids p (List.mem_cons_of_mem _ hp)⟩
          rintro rfl
          exact hfirst hp
        · rintro _ s'' ⟨hstate', hall, h''⟩
          rw [hworld] at hall
          refine ⟨hstate'.trans hstate, ⟨hok, hall⟩, ?_⟩
          rwa [List.toFinset_cons, Finset.sdiff_insert, ← Finset.erase_sdiff_comm]
        · rintro _ s'' ⟨hstate', hnot, done, hdone, h'', -⟩
          rw [hworld] at hnot
          refine ⟨hstate'.trans hstate, fun hall => hnot hall.2, insert d.pluginId done, ?_, ?_, ?_⟩
          · exact Finset.insert_subset hactive (hdone.trans (Finset.erase_subset _ _))
          · rwa [Finset.sdiff_insert, ← Finset.erase_sdiff_comm]
          · simp [hanswer, hok, hnot]

/-- The shutdown that keeps every plugin in step. -/
def ShutdownClean (hooks : (step : LifecycleStep) → W → step.Res × W)
    (catalog : PluginCatalogSnapshot) (s : Host W) : Prop :=
  FirstOrNone hooks catalog (sorted s.state.active).reverse s.world

theorem shutdown_follows (h : Follows catalog s.state.active s.log) :
    let s' := ((shutdown hooks catalog).run s).2
    (ShutdownClean hooks catalog s → Follows catalog s'.state.active s'.log) ∧
      (¬ShutdownClean hooks catalog s → ¬InStep catalog s') := by
  have hmem : ∀ p, p ∈ s.state.active.sort.reverse ↔ p ∈ s.state.active := by simp
  have hnodup : s.state.active.sort.reverse.Nodup := List.nodup_reverse.mpr (Finset.sort_nodup ..)
  have htriple : Triple (shutdown hooks catalog) s
      (fun _ s' => ShutdownClean hooks catalog s ∧ Follows catalog s'.state.active s'.log)
      (fun _ s' => s'.state = s.state ∧ ∃ done ⊆ s.state.active,
        Follows catalog (s.state.active \ done) s'.log ∧
          (done = ∅ ↔ ShutdownClean hooks catalog s)) := by
    unfold shutdown
    refine .bind (Q := fun state s' => s.state = state ∧ s = s') (.read ⟨rfl, rfl⟩) ?_
    rintro _ _ ⟨rfl, rfl⟩
    refine .bind ((shutdownPlugins_follows h hnodup fun p hp => (hmem p).mp hp).mono
      (fun _ _ hq => hq) ?_) ?_
    · rintro _ s' ⟨hstate, -, hdone⟩
      exact ⟨hstate, hdone⟩
    · rintro _ s' ⟨hstate, hall, h'⟩
      refine .write ⟨hall.firstOrNone, ?_⟩
      have hempty : s.state.active \ s.state.active.sort.reverse.toFinset = ∅ := by
        rw [Finset.sdiff_eq_empty_iff_subset]
        intro p hp
        simpa using hp
      rwa [hempty] at h'
  rcases htriple.run with ⟨_, -, hclean, h'⟩ | ⟨_, -, hstate, done, hdone, h', hiff⟩
  · exact ⟨fun _ => h', fun hnot => absurd hclean hnot⟩
  · constructor
    · intro hclean
      rw [hiff.mpr hclean, Finset.sdiff_empty] at h'
      rwa [hstate]
    · intro hnot hstep
      -- some plugin has been shut down and is still in the active set
      obtain ⟨p, hp⟩ := Finset.nonempty_iff_ne_empty.mpr fun hempty => hnot (hiff.mp hempty)
      have hlast := (h'.active p).not.mp fun hmem => (Finset.mem_sdiff.mp hmem).2 hp
      refine hlast ((hstep.active p).mp ?_)
      rw [hstate]
      exact hdone hp

theorem call_follows (call : HostCall) (h : Follows catalog s.state.active s.log)
    (hclean : call = .shutdown → ShutdownClean hooks catalog s) :
    Follows catalog (call.after hooks catalog s).state.active (call.after hooks catalog s).log := by
  cases call with
  | activateProfile profile known allow deny =>
    rcases (activateProfile_follows h).run with ⟨_, -, h'⟩ | ⟨_, -, h'⟩ <;> exact h'
  | shutdown => exact (shutdown_follows h).1 (hclean rfl)

-- ---------------------------------------------------------------------------
-- Runs
-- ---------------------------------------------------------------------------

/-- The host is in step after every call. -/
def KeepsStep (hooks : (step : LifecycleStep) → W → step.Res × W) (catalog : PluginCatalogSnapshot)
    (calls : List HostCall) (s : Host W) : Prop :=
  ∀ done rest, calls = done ++ rest → InStep catalog (afterCalls hooks catalog done s)

/-- In every shutdown of the run no hook raises, or that of the first plugin does. -/
def ShutdownsClean (hooks : (step : LifecycleStep) → W → step.Res × W)
    (catalog : PluginCatalogSnapshot) (calls : List HostCall) (s : Host W) : Prop :=
  ∀ done rest, calls = done ++ .shutdown :: rest →
    ShutdownClean hooks catalog (afterCalls hooks catalog done s)

theorem keepsStep_iff_clean {calls : List HostCall} (h : Follows catalog s.state.active s.log) :
    KeepsStep hooks catalog calls s ↔ ShutdownsClean hooks catalog calls s := by
  induction calls generalizing s with
  | nil =>
    constructor
    · intro _ done rest heq
      simp at heq
    · intro _ done rest heq
      obtain ⟨rfl, rfl⟩ := List.append_eq_nil_iff.mp heq.symm
      exact h.inStep
  | cons call calls ih =>
    constructor
    · intro hkeeps
      have hclean : call = .shutdown → ShutdownClean hooks catalog s := by
        rintro rfl
        by_contra hnot
        exact (shutdown_follows h).2 hnot (hkeeps [.shutdown] calls rfl)
      have hrest : KeepsStep hooks catalog calls (call.after hooks catalog s) := by
        intro done rest heq
        exact hkeeps (call :: done) rest (by rw [heq]; rfl)
      intro done rest heq
      rcases List.cons_eq_append_iff.mp heq with ⟨rfl, hcons⟩ | ⟨done', rfl, heq'⟩
      · cases hcons
        exact hclean rfl
      · exact (ih (call_follows call h hclean)).mp hrest done' rest heq'
    · intro hclean
      have hfirst : call = .shutdown → ShutdownClean hooks catalog s := by
        rintro rfl
        exact hclean [] calls rfl
      have hrest : ShutdownsClean hooks catalog calls (call.after hooks catalog s) := by
        intro done rest heq
        exact hclean (call :: done) rest (by rw [heq]; rfl)
      intro done rest heq
      rcases List.cons_eq_append_iff.mp heq with ⟨rfl, rfl⟩ | ⟨done', rfl, heq'⟩
      · exact h.inStep
      · exact (ih (call_follows call h hfirst)).mpr hrest done' rest heq'

/-- Every call of every run keeps the plugins in step if and only if no shutdown of it raises
after it has shut a plugin down. -/
theorem lifecycle_kept_iff (hooks : (step : LifecycleStep) → W → step.Res × W)
    (catalog : PluginCatalogSnapshot) (calls : List HostCall) (w : W) :
    KeepsStep hooks catalog calls (Host.initial w) ↔
      ShutdownsClean hooks catalog calls (Host.initial w) :=
  keepsStep_iff_clean (Follows.initial catalog w)

end

section
attribute [local instance] Interpreter.ascii

def twoPlugins : PluginCatalogSnapshot where
  descriptors := [⟨"device.a", .device, [], true, true⟩, ⟨"device.b", .device, [], true, true⟩]
  nodup := by decide

theorem select_two : ∃ selection,
    selectPluginsForProfile twoPlugins (.str "default") none [] [] = .ok selection ∧
      selection.selectedIds = {"device.a", "device.b"} := by
  have hprofile : normalizeProfile (.str "default") = .ok "default" := by decide +kernel
  have hknown : normalizeKnownProfiles none twoPlugins = .ok {"default"} := rfl
  unfold selectPluginsForProfile
  simp only [hprofile, hknown, bind, Except.bind]
  rw [if_neg (by simp)]
  have hnone : ∀ label, normalizePluginIds [] label = .ok ∅ := fun _ => rfl
  simp only [hnone]
  rw [if_neg (by simp), if_neg (by simp)]
  refine ⟨_, rfl, ?_⟩
  ext p
  simp [PluginSelectionResult.selectedIds, twoPlugins, selectionReason]

def activateDefault : HostCall := .activateProfile (.str "default") none [] []

/-- The shutdown hook of the first device always raises. -/
def busyHook (step : LifecycleStep) (_ : Unit) : step.Res × Unit :=
  match step with
  | .onShutdown "device.a" => (.error (valueError "still busy"), ())
  | _ => (.ok (), ())

theorem sort_two : ({"device.a", "device.b"} : Finset String).sort = ["device.a", "device.b"] := by
  rw [Finset.sort_insert (· ≤ ·) (by simp) (by simp), Finset.sort_singleton]

/-- Both devices active, after their hooks. -/
def bothActive : Host Unit where
  state := { active := {"device.a", "device.b"} }
  world := ()
  log := [⟨.onActivate "device.a" (.str "default"), .ok ()⟩,
    ⟨.onActivate "device.b" (.str "default"), .ok ()⟩]

theorem activateDefault_after :
    activateDefault.after busyHook twoPlugins (Host.initial ()) = bothActive := by
  obtain ⟨selection, hselection, hids⟩ := select_two
  simp only [activateDefault, HostCall.after, activateProfile, hselection, Eff.lift_ok_bind]
  rw [Eff.run_bind, Traced.run_read]
  simp only [Host.initial, hids, Finset.empty_sdiff, Finset.sdiff_empty, sort_two,
    Finset.sort_empty, List.reverse_nil]
  have hpair : ({"device.a", "device.b"} : Finset String) = {"device.b", "device.a"} :=
    Finset.pair_comm _ _
  unfold bothActive
  rw [hpair]
  rfl

/-- The second device's hook has run, and the device is active still. -/
theorem shutDownTwice :
    let s := afterCalls busyHook twoPlugins [activateDefault, .shutdown] (Host.initial ())
    "device.b" ∈ s.state.active ∧ hookPhases s.log "device.b" = [.activate, .shutdown] ∧
      ¬KeepsStep busyHook twoPlugins [activateDefault, .shutdown] (Host.initial ()) := by
  have hafter : afterCalls busyHook twoPlugins [activateDefault, .shutdown] (Host.initial ()) =
      { bothActive with
        log := bothActive.log ++ [⟨.onShutdown "device.b", .ok ()⟩] ++
          [⟨.onShutdown "device.a", .error (valueError "still busy")⟩] } := by
    show HostCall.shutdown.after busyHook twoPlugins (activateDefault.after busyHook twoPlugins
      (Host.initial ())) = _
    rw [activateDefault_after]
    simp only [HostCall.after, shutdown]
    rw [Eff.run_bind, Traced.run_read]
    simp only [bothActive, sort_two]
    rfl
  have hactive : "device.b" ∈ bothActive.state.active := by simp [bothActive]
  refine ⟨by rw [hafter]; exact hactive, by rw [hafter]; rfl, ?_⟩
  intro hkeeps
  have hstep := hkeeps [activateDefault, .shutdown] [] rfl
  rw [hafter] at hstep
  have hlast := (hstep.active "device.b").mp hactive
  cases hlast

end

end DpostV2.Plugins
