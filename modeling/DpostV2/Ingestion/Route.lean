import DpostV2.Ingestion.Stages
import DpostV2.Lib.Lexical

/-!
# Where the route stage leads

The force-path policy compares lower-case texts and leaves `..` in a path, and
nothing looks at the default target. So the target of a routed candidate lies in
an allowed root just when the path that was asked for leads there by itself
(`routed_inside_iff`).
-/

namespace DpostV2.Ingestion

section
variable [Interpreter]

def routeWith (routeRoot filename : String) : (c : Call) → Unit → c.Res × Unit
  | .selectRoute _, w => (.ok (some routeRoot), w)
  | .buildFilename _, w => (.ok filename, w)
  | _, w => (.error (typeError "the stage has no such callable"), w)

def overrideOf (event : Dict) : Option String :=
  match event.getNone "force_path" with
  | .none => none
  | v => if blank (pyStr v) then none else some (pyStr v)

/-- The path an event asks for: its override, or the filename under the route root. -/
def requestedPath (event : Dict) (routeRoot filename : String) : PurePath :=
  PurePath.parse (normalizePath ((overrideOf event).getD
    ((PurePath.parse routeRoot).join (PurePath.parse filename)).str))

def rootPath (root : String) : PurePath := PurePath.parse (normalizePath root)

/-- A target is in an allowed root, and a default target below the route root. -/
def RoutedInside (allowedRoots : List String) (event : Dict) (routeRoot : String)
    (target : PurePath) : Prop :=
  (∃ root ∈ allowedRoots, target.Within (rootPath root)) ∧
    (overrideOf event = none → ∃ levels, target.LevelsBelow (rootPath routeRoot) (levels + 1))

/-- The path asked for leads there by itself. -/
def AsksInside (allowedRoots : List String) (event : Dict) (routeRoot filename : String) : Prop :=
  (∃ root ∈ allowedRoots, ∃ levels,
    (requestedPath event routeRoot filename).LeadsBelow (rootPath root) levels) ∧
  (overrideOf event = none → ∃ levels,
    (requestedPath event routeRoot filename).LeadsBelow (rootPath routeRoot) (levels + 1))

theorem evaluateForcePath_cases (event : Dict) (allowedRoots : List String)
    (defaultTarget : String) :
    (evaluateForcePath (event.getNone "force_path") allowedRoots defaultTarget
      none).normalizedPath =
        some (normalizePath ((overrideOf event).getD defaultTarget)) ∨
      (evaluateForcePath (event.getNone "force_path") allowedRoots defaultTarget
        none).decisionType =
        .rejectOverride := by
  unfold evaluateForcePath overrideOf
  generalize event.getNone "force_path" = override
  cases override with
  | none => exact .inl rfl
  | _ =>
    simp only
    split
    · rename_i hblank
      exact .inl (by simp)
    · rename_i hblank
      split
      · exact .inr rfl
      · split
        · exact .inr rfl
        · exact .inl (by simp)

/-- The stage routes a candidate to the path asked for. -/
theorem route_target {allowedRoots : List String} {state next : IngestionState}
    {routeRoot filename : String}
    (h : ((runRouteStage allowedRoots state).run (routeWith routeRoot filename) ()).1 =
      .ok (.continueTo "persist" next)) :
    ∃ candidate target, next.candidate = some candidate ∧ candidate.targetPath = some target ∧
      PurePath.parse target = requestedPath state.event routeRoot filename := by
  unfold runRouteStage at h
  cases hcandidate : state.candidate with
  | none =>
    rw [hcandidate] at h
    exact absurd (Except.ok.inj h) terminal_ne_continueTo
  | some candidate =>
    rw [hcandidate] at h
    simp only [call, Prog.lift, Prog.bind_act, Prog.bind_ok, Prog.run, routeWith,
      Option.getD_some] at h
    split at h
    · exact absurd (Except.ok.inj h) terminal_ne_continueTo
    simp only [Prog.run, Prog.bind_ok, routeWith] at h
    split at h
    · exact absurd (Except.ok.inj h) terminal_ne_continueTo
    rename_i hdecision
    rcases evaluateForcePath_cases state.event allowedRoots
      ((PurePath.parse routeRoot).join (PurePath.parse filename)).str with hpath | hreject
    · simp only [hpath] at h
      generalize hroute : candidate.withRoute _ _ = routed at h
      unfold Candidate.withRoute at hroute
      split at hroute
      · subst hroute
        cases h
      · split at hroute
        · subst hroute
          cases h
        · subst hroute
          cases Option.some.inj (congrArg StageDirective.state (Except.ok.inj h))
          exact ⟨_, _, rfl, rfl, parse_normalizePath (normalizePath_noBackslash _)⟩
    · exact absurd hreject hdecision

theorem routed_inside_iff (allowedRoots : List String) (state next : IngestionState)
    (routeRoot filename : String)
    (h : ((runRouteStage allowedRoots state).run (routeWith routeRoot filename) ()).1 =
      .ok (.continueTo "persist" next)) :
    (∃ candidate target, next.candidate = some candidate ∧ candidate.targetPath = some target ∧
      RoutedInside allowedRoots state.event routeRoot (PurePath.parse target)) ↔
    AsksInside allowedRoots state.event routeRoot filename := by
  obtain ⟨candidate, target, hcandidate, htarget, hpath⟩ := route_target h
  have hiff : RoutedInside allowedRoots state.event routeRoot (PurePath.parse target) ↔
      AsksInside allowedRoots state.event routeRoot filename := by
    rw [hpath]
    simp only [RoutedInside, AsksInside, PurePath.Within, PurePath.levelsBelow_iff]
  rw [← hiff]
  constructor
  · rintro ⟨c, t, hc, ht, hinside⟩
    rw [hcandidate] at hc
    cases hc
    rw [htarget] at ht
    cases ht
    exact hinside
  · exact fun hinside => ⟨candidate, target, hcandidate, htarget, hinside⟩

end

section
attribute [local instance] Interpreter.ascii

def resolvedState (event : Dict) : IngestionState where
  event := event
  candidate := some
    { identityToken := "t", sourcePath := "/in/x.csv", eventKind := "created", observedAt := 0,
      pluginId := some "p", processorKey := some "p", identityToken_ok := unspaced_token }

def forcedTo (path : String) : Dict := Dict.ofEntries [("force_path", .str path)]

theorem asksInside_default : AsksInside ["/out"] Dict.empty "/out" "x.csv" :=
  have hroot : (requestedPath Dict.empty "/out" "x.csv").root = (rootPath "/out").root := by
    decide +kernel
  have hparts : (requestedPath Dict.empty "/out" "x.csv").parts = ["out"] ++ ["x.csv"] := by
    decide +kernel
  have hout : resolveParts (rootPath "/out").isAbsolute ["out"] = (rootPath "/out").resolved := by
    decide +kernel
  ⟨⟨"/out", .head _, 1, hroot, ["out"], ["x.csv"], hparts, hout, rfl⟩,
    fun _ => ⟨0, hroot, ["out"], ["x.csv"], hparts, hout, rfl⟩⟩

theorem routed_inside_default : ∃ (next : IngestionState) (candidate : Candidate) (target : String),
    next.candidate = some candidate ∧ candidate.targetPath = some target ∧
      RoutedInside ["/out"] Dict.empty "/out" (PurePath.parse target) := by
  obtain ⟨next, hnext⟩ : ∃ next, ((runRouteStage ["/out"] (resolvedState Dict.empty)).run
      (routeWith "/out" "x.csv") ()).1 = .ok (.continueTo "persist" next) := ⟨_, rfl⟩
  exact ⟨next, (routed_inside_iff ["/out"] (resolvedState Dict.empty) next "/out" "x.csv" hnext).mpr
    asksInside_default⟩

/-- Up to letter case `/out/../etc/x` begins with `/out/`, and the override is
applied. A final path that ends in `..` gives a default target above the route root. -/
theorem routeEscapes :
    (∃ next candidate, ((runRouteStage ["/out"] (resolvedState (forcedTo "/out/../etc/x"))).run
        (routeWith "/out" "x.csv") ()).1 = .ok (.continueTo "persist" next) ∧
      next.candidate = some candidate ∧ candidate.targetPath = some "/out/../etc/x" ∧
      ¬RoutedInside ["/out"] (forcedTo "/out/../etc/x") "/out" (PurePath.parse "/out/../etc/x")) ∧
    ∃ next candidate, ((runRouteStage ["/out"] (resolvedState Dict.empty)).run
        (routeWith "/out" (PurePath.parse "/in/..").name) ()).1 = .ok (.continueTo "persist" next) ∧
      next.candidate = some candidate ∧ candidate.targetPath = some "/out/.." ∧
      ¬RoutedInside ["/out"] Dict.empty "/out" (PurePath.parse "/out/..") := by
  refine ⟨⟨_, _, rfl, rfl, rfl, ?_⟩, _, _, rfl, rfl, rfl, ?_⟩
  · rintro ⟨⟨root, hroot, hwithin⟩, -⟩
    obtain rfl := List.mem_singleton.mp hroot
    exact absurd hwithin.isSuffixOf (by decide +kernel)
  · rintro ⟨⟨root, hroot, hwithin⟩, -⟩
    obtain rfl := List.mem_singleton.mp hroot
    exact absurd hwithin.isSuffixOf (by decide +kernel)

end

end DpostV2.Ingestion
