import DpostV2.Lib.PurePath

/-!
# The force-path policy

`evaluate_force_path`: an override is taken when it lies under an allowed
root, compared as lower-case texts.
-/

namespace DpostV2.Ingestion

inductive ForcePathDecisionType where
  | applyOverride
  | ignoreOverride
  | rejectOverride
  deriving DecidableEq, Repr

def ForcePathDecisionType.value : ForcePathDecisionType → String
  | .applyOverride => "apply_override"
  | .ignoreOverride => "ignore_override"
  | .rejectOverride => "reject_override"

structure ForcePathDecision where
  decisionType : ForcePathDecisionType
  normalizedPath : Option String
  reasonCode : String

section
variable [Interpreter]

/-- `text.rstrip("/")`. -/
def rstripSlash (s : String) : String := String.ofList (s.toList.rdropWhile (· == '/'))

def isUnderRoot (pathValue root : String) : Bool :=
  let normalizedPath := rstripSlash (Interpreter.lower (normalizePath pathValue))
  let normalizedRoot := rstripSlash (Interpreter.lower (normalizePath root))
  normalizedPath == normalizedRoot ||
    (normalizedRoot.toList ++ ['/']).isPrefixOf normalizedPath.toList

def evaluateForcePath (overridePath : Value) (allowedRoots : List String) (defaultTarget : String)
    (conflictProbe : Option (String → Bool)) : ForcePathDecision :=
  let fallbackTarget := normalizePath defaultTarget
  match overridePath with
  | .none => { decisionType := .ignoreOverride, normalizedPath := some fallbackTarget,
               reasonCode := "override_not_provided" }
  | override =>
    if blank (pyStr override) then
      { decisionType := .ignoreOverride, normalizedPath := some fallbackTarget,
        reasonCode := "override_not_provided" }
    else
      let normalizedOverride := normalizePath (pyStr override)
      if !allowedRoots.any (isUnderRoot normalizedOverride) then
        { decisionType := .rejectOverride, normalizedPath := none,
          reasonCode := "outside_allowed_roots" }
      else if conflictProbe.any fun probe => probe normalizedOverride then
        { decisionType := .rejectOverride, normalizedPath := none,
          reasonCode := "override_conflict" }
      else { decisionType := .applyOverride, normalizedPath := some normalizedOverride,
             reasonCode := "override_applied" }

/-- A path the policy lets through has been normalized once. -/
theorem evaluateForcePath_normal {overridePath : Value} {allowedRoots : List String}
    {defaultTarget : String} {conflictProbe : Option (String → Bool)}
    (h : (evaluateForcePath overridePath allowedRoots defaultTarget conflictProbe).normalizedPath =
      some p) : ∃ raw, p = normalizePath raw := by
  unfold evaluateForcePath at h
  simp only at h
  split at h
  · exact ⟨_, (Option.some.inj h).symm⟩
  · split at h
    · exact ⟨_, (Option.some.inj h).symm⟩
    · split at h
      · cases h
      · split at h
        · cases h
        · exact ⟨_, (Option.some.inj h).symm⟩

end

end DpostV2.Ingestion
