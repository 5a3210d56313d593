import DpostV2.Lib.Python
import Mathlib.Algebra.Order.Floor.Ring
import Mathlib.Data.Rat.Floor
import Mathlib.Tactic.Linarith

/-!
# The retry planner

`plan_retry` with exact numbers; only `math.pow` knows the range of a double, and raises
`OverflowError` beyond it. The delay is clamped first and rounded afterwards. The last section
follows the planner from the first attempt on, and says for which configurations it keeps to
its schedule (`on_schedule_iff`).
-/

namespace DpostV2.Ingestion.RetryPlanner

structure RetryPlannerConfig where
  maxAttempts : Int
  baseDelaySeconds : Seconds
  maxDelaySeconds : Seconds
  backoffFactor : Seconds := 2
  jitterRatio : Seconds := 0

inductive RetryTerminalType where
  | retry
  | stopRetrying
  deriving DecidableEq, Repr

structure RetryPlan where
  terminalType : RetryTerminalType
  delaySeconds : Seconds
  nextAttempt : Int
  reasonCode : String
  deriving DecidableEq, Repr

def retryPlannerError (cls message : String) : Exn :=
  { mro := [cls, "RetryPlannerError", "ValueError", "Exception"], message }

def configError (message : String) : Exn := retryPlannerError "RetryPlannerConfigError" message

def validateConfig (config : RetryPlannerConfig) : Except Exn Unit :=
  if config.maxAttempts ≤ 0 then .error (configError "max_attempts must be greater than zero.")
  else if config.baseDelaySeconds < 0 ∨ config.maxDelaySeconds < 0 then
    .error (configError "Delay values must be non-negative.")
  else if config.backoffFactor ≤ 0 then
    .error (configError "backoff_factor must be greater than zero.")
  else if config.jitterRatio < 0 then .error (configError "jitter_ratio must be non-negative.")
  else .ok ()

def largestDouble : Seconds := ((2 ^ 53 - 1) * 2 ^ 971 : Nat)

/-- `math.pow`. -/
def mathPow (x : Seconds) (n : Nat) : Except Exn Seconds :=
  if largestDouble < x ^ n then
    .error { mro := ["OverflowError", "ArithmeticError", "Exception"],
             message := "math range error" }
  else .ok (x ^ n)

section
-- What `_deterministic_rng(text).uniform(-span, span)` gives.
variable (uniform : String → Seconds → Seconds)

/-- The delay before the clamp, of a delay without jitter. -/
def jitteredDelay (config : RetryPlannerConfig) (attemptIndex : Int) (seed : String)
    (baseDelay : Seconds) : Seconds :=
  if config.jitterRatio > 0 then
    baseDelay + uniform (seed ++ "|" ++ toString attemptIndex) (baseDelay * config.jitterRatio)
  else baseDelay

def clampedDelay (config : RetryPlannerConfig) (jittered : Seconds) : Seconds :=
  min (max jittered 0) config.maxDelaySeconds

/-- The check for an infinite or undefined product never applies to exact numbers. -/
def planRetry (config : RetryPlannerConfig) (attemptIndex : Int) (retryable : Bool)
    (seed : String) :
    Except Exn RetryPlan := do
  validateConfig config
  if attemptIndex < 0 then
    .error (retryPlannerError "RetryPlannerAttemptError" "attempt_index must be non-negative.")
  else if !retryable then
    return { terminalType := .stopRetrying, delaySeconds := 0, nextAttempt := attemptIndex,
             reasonCode := "non_retryable" }
  else if config.maxAttempts ≤ attemptIndex then
    return { terminalType := .stopRetrying, delaySeconds := 0, nextAttempt := attemptIndex,
             reasonCode := "attempt_cap_reached" }
  else do
    let factor ← mathPow config.backoffFactor attemptIndex.toNat
    let jittered := jitteredDelay uniform config attemptIndex seed
      (config.baseDelaySeconds * factor)
    return { terminalType := .retry, delaySeconds := pyRound6 (clampedDelay config jittered),
             nextAttempt := attemptIndex + 1, reasonCode := "retry_scheduled" }

-- ---------------------------------------------------------------------------
-- Rounding
-- ---------------------------------------------------------------------------

/-- `round(q)`: to the even neighbour on a tie. -/
def halfEven (q : Seconds) : Int :=
  if q - ⌊q⌋ < 1 / 2 then ⌊q⌋ else if 1 / 2 < q - ⌊q⌋ then ⌊q⌋ + 1
    else if ⌊q⌋ % 2 = 0 then ⌊q⌋ else ⌊q⌋ + 1

theorem pyRound6_eq (q : Seconds) : pyRound6 q = halfEven (q * 1000000) / 1000000 := rfl

theorem floor_le_halfEven (q : Seconds) : ⌊q⌋ ≤ halfEven q := by
  unfold halfEven
  split_ifs <;> omega

theorem halfEven_le_floor (q : Seconds) : halfEven q ≤ ⌊q⌋ + 1 := by
  unfold halfEven
  split_ifs <;> omega

theorem halfEven_mono {p q : Seconds} (h : p ≤ q) : halfEven p ≤ halfEven q := by
  rcases (Int.floor_mono h).lt_or_eq with hlt | heq
  · calc halfEven p ≤ ⌊p⌋ + 1 := halfEven_le_floor p
      _ ≤ ⌊q⌋ := hlt
      _ ≤ halfEven q := floor_le_halfEven q
  · have hrest : p - ⌊p⌋ ≤ q - ⌊q⌋ := by
      rw [heq]
      linarith
    unfold halfEven
    rw [heq] at hrest ⊢
    split_ifs <;> first | omega | linarith

theorem pyRound6_mono {p q : Seconds} (h : p ≤ q) : pyRound6 p ≤ pyRound6 q := by
  rw [pyRound6_eq, pyRound6_eq]
  have hscaled : halfEven (p * 1000000) ≤ halfEven (q * 1000000) :=
    halfEven_mono (by linarith)
  have hcast : (halfEven (p * 1000000) : Seconds) ≤ halfEven (q * 1000000) :=
    by exact_mod_cast hscaled
  linarith

theorem pyRound6_zero : pyRound6 0 = 0 := by decide +kernel

example : pyRound6 (7 / 10000000) = 1 / 1000000 := by decide +kernel

theorem pyRound6_nonneg {q : Seconds} (h : 0 ≤ q) : 0 ≤ pyRound6 q := by
  rw [← pyRound6_zero]
  exact pyRound6_mono h

/-- A clamped delay is rounded beyond the bound where both the bound and the delay are. -/
theorem rounded_le_iff {config : RetryPlannerConfig} (hmax : 0 ≤ config.maxDelaySeconds)
    (jittered : Seconds) :
    pyRound6 (clampedDelay config jittered) ≤ config.maxDelaySeconds ↔
      pyRound6 config.maxDelaySeconds ≤ config.maxDelaySeconds ∨
        pyRound6 jittered ≤ config.maxDelaySeconds := by
  unfold clampedDelay
  rcases le_total jittered 0 with hneg | hpos
  · rw [max_eq_right hneg, min_eq_left hmax, pyRound6_zero]
    have hrounded : pyRound6 jittered ≤ 0 := pyRound6_zero ▸ pyRound6_mono hneg
    exact iff_of_true hmax (.inr (hrounded.trans hmax))
  · rw [max_eq_left hpos]
    rcases le_total jittered config.maxDelaySeconds with hle | hge
    · rw [min_eq_left hle]
      exact ⟨.inr, fun h => h.elim (pyRound6_mono hle).trans id⟩
    · rw [min_eq_right hge]
      exact ⟨.inl, fun h => h.elim id (pyRound6_mono hge).trans⟩

-- ---------------------------------------------------------------------------
-- The schedule
-- ---------------------------------------------------------------------------

section
variable (config : RetryPlannerConfig) (seed : String)

/-- The attempt index after so many calls, each with the `next_attempt` of the one before. -/
def attemptAfter : Nat → Except Exn Int
  | 0 => .ok 0
  | n + 1 => do
    let attemptIndex ← attemptAfter n
    let plan ← planRetry uniform config attemptIndex true seed
    return plan.nextAttempt

def nthPlan (n : Nat) : Except Exn RetryPlan := do
  let attemptIndex ← attemptAfter uniform config seed n
  planRetry uniform config attemptIndex true seed

structure OnSchedule : Prop where
  retried : ∀ n : Nat, n < config.maxAttempts → ∃ plan, nthPlan uniform config seed n = .ok plan ∧
    plan.terminalType = .retry ∧ plan.nextAttempt = n + 1 ∧ plan.reasonCode = "retry_scheduled"
  stopped : ∀ n : Nat, config.maxAttempts ≤ n → ∃ plan, nthPlan uniform config seed n = .ok plan ∧
    plan.terminalType = .stopRetrying ∧ plan.nextAttempt = config.maxAttempts ∧
    plan.reasonCode = "attempt_cap_reached"
  delays : ∀ attemptIndex retryable plan,
    planRetry uniform config attemptIndex retryable seed = .ok plan →
    0 ≤ plan.delaySeconds ∧ plan.delaySeconds ≤ config.maxDelaySeconds
  errors : ∀ attemptIndex retryable e,
    planRetry uniform config attemptIndex retryable seed = .error e →
    e.isInstance "RetryPlannerError" = true

/-- No power the schedule comes to is beyond a double. -/
def PowerFits : Prop := config.backoffFactor ^ (config.maxAttempts.toNat - 1) ≤ largestDouble

/-- The bound is not rounded up, or no delay it bounds comes near it. -/
def RoundingFits : Prop :=
  pyRound6 config.maxDelaySeconds ≤ config.maxDelaySeconds ∨
    ∀ n : Nat, n < config.maxAttempts → pyRound6 (jitteredDelay uniform config n seed
      (config.baseDelaySeconds * config.backoffFactor ^ n)) ≤ config.maxDelaySeconds

end

-- ---------------------------------------------------------------------------
-- One call of a valid configuration
-- ---------------------------------------------------------------------------

section
variable {uniform} {config : RetryPlannerConfig} {seed : String}

theorem validateConfig_ok : validateConfig config = .ok () ↔
    0 < config.maxAttempts ∧ 0 ≤ config.baseDelaySeconds ∧ 0 ≤ config.maxDelaySeconds ∧
      0 < config.backoffFactor ∧ 0 ≤ config.jitterRatio := by
  unfold validateConfig
  split_ifs with hmax hdelay hfactor hjitter
  · exact iff_of_false nofun fun h => absurd h.1 (not_lt.mpr hmax)
  · refine iff_of_false nofun fun h => ?_
    rcases hdelay with hbase | hmax
    · exact absurd h.2.1 (not_le.mpr hbase)
    · exact absurd h.2.2.1 (not_le.mpr hmax)
  · exact iff_of_false nofun fun h => absurd h.2.2.2.1 (not_lt.mpr hfactor)
  · exact iff_of_false nofun fun h => absurd h.2.2.2.2 (not_le.mpr hjitter)
  · rw [not_or, not_lt, not_lt] at hdelay
    exact iff_of_true rfl ⟨not_le.mp hmax, hdelay.1, hdelay.2, not_le.mp hfactor, not_lt.mp hjitter⟩

theorem planRetry_negative (hvalid : validateConfig config = .ok ()) {attemptIndex : Int}
    (hneg : attemptIndex < 0) (retryable : Bool) :
    planRetry uniform config attemptIndex retryable seed =
      .error (retryPlannerError "RetryPlannerAttemptError" "attempt_index must be non-negative.")
        := by
  simp only [planRetry, hvalid, if_pos hneg]
  rfl

theorem planRetry_nonRetryable (hvalid : validateConfig config = .ok ()) {attemptIndex : Int}
    (hpos : 0 ≤ attemptIndex) :
    planRetry uniform config attemptIndex false seed =
      .ok { terminalType := .stopRetrying, delaySeconds := 0, nextAttempt := attemptIndex,
            reasonCode := "non_retryable" } := by
  simp only [planRetry, hvalid, if_neg (not_lt.mpr hpos)]
  rfl

theorem planRetry_capped (hvalid : validateConfig config = .ok ()) {attemptIndex : Int}
    (hcap : config.maxAttempts ≤ attemptIndex) :
    planRetry uniform config attemptIndex true seed =
      .ok { terminalType := .stopRetrying, delaySeconds := 0, nextAttempt := attemptIndex,
            reasonCode := "attempt_cap_reached" } := by
  have hpos : ¬ attemptIndex < 0 :=
    not_lt.mpr ((validateConfig_ok.mp hvalid).1.le.trans hcap)
  simp only [planRetry, hvalid, if_neg hpos, if_pos hcap]
  rfl

/-- Below the cap only the power decides. -/
theorem planRetry_scheduled (hvalid : validateConfig config = .ok ()) {n : Nat}
    (hcap : n < config.maxAttempts) :
    planRetry uniform config n true seed =
      (mathPow config.backoffFactor n).map fun factor =>
        { terminalType := .retry, nextAttempt := n + 1, reasonCode := "retry_scheduled",
          delaySeconds := pyRound6 (clampedDelay config
            (jitteredDelay uniform config n seed (config.baseDelaySeconds * factor))) } := by
  have hpos : ¬ (n : Int) < 0 := by omega
  simp only [planRetry, hvalid, if_neg hpos, if_neg (not_le.mpr hcap),
    Int.toNat_natCast]
  cases mathPow config.backoffFactor n <;> rfl

theorem mathPow_fits {x : Seconds} {n : Nat} (h : x ^ n ≤ largestDouble) :
    mathPow x n = .ok (x ^ n) :=
  if_neg (not_lt.mpr h)

example : (mathPow 2 1024).isOk = false := by decide +kernel

/-- The last power is the largest, or none is larger than one. -/
theorem PowerFits.pow_le (hfits : PowerFits config) (hvalid : validateConfig config = .ok ())
    {n : Nat} (hcap : n < config.maxAttempts) : config.backoffFactor ^ n ≤ largestDouble := by
  have hfactor : 0 < config.backoffFactor := (validateConfig_ok.mp hvalid).2.2.2.1
  rcases le_total config.backoffFactor 1 with hsmall | hbig
  · calc config.backoffFactor ^ n ≤ 1 := pow_le_one₀ hfactor.le hsmall
      _ ≤ largestDouble := by decide +kernel
  · calc config.backoffFactor ^ n ≤ config.backoffFactor ^ (config.maxAttempts.toNat - 1) :=
          pow_le_pow_right₀ hbig (by omega)
      _ ≤ largestDouble := hfits

theorem planRetry_retry (hvalid : validateConfig config = .ok ()) (hfits : PowerFits config)
    {n : Nat} (hcap : n < config.maxAttempts) :
    planRetry uniform config n true seed =
      .ok { terminalType := .retry, nextAttempt := n + 1, reasonCode := "retry_scheduled",
            delaySeconds := pyRound6 (clampedDelay config (jitteredDelay uniform config n seed
              (config.baseDelaySeconds * config.backoffFactor ^ n))) } := by
  rw [planRetry_scheduled hvalid hcap, mathPow_fits (hfits.pow_le hvalid hcap)]
  rfl

-- ---------------------------------------------------------------------------
-- All calls of a valid configuration
-- ---------------------------------------------------------------------------

/-- What a call comes to when the powers fit. -/
theorem planRetry_cases (hvalid : validateConfig config = .ok ()) (hfits : PowerFits config)
    (attemptIndex : Int) (retryable : Bool) :
    planRetry uniform config attemptIndex retryable seed =
        .error (retryPlannerError "RetryPlannerAttemptError" "attempt_index must be non-negative.")
          ∨
      (∃ plan, planRetry uniform config attemptIndex retryable seed = .ok plan ∧
        plan.delaySeconds = 0) ∨
      ∃ (n : Nat) (plan : RetryPlan), (n : Int) < config.maxAttempts ∧
        planRetry uniform config attemptIndex retryable seed = .ok plan ∧
        plan.delaySeconds = pyRound6 (clampedDelay config (jitteredDelay uniform config n seed
          (config.baseDelaySeconds * config.backoffFactor ^ n))) := by
  rcases lt_or_ge attemptIndex 0 with hneg | hpos
  · exact .inl (planRetry_negative hvalid hneg retryable)
  · cases retryable with
    | false => exact .inr (.inl ⟨_, planRetry_nonRetryable hvalid hpos, rfl⟩)
    | true =>
      rcases le_or_gt config.maxAttempts attemptIndex with hcap | hcap
      · exact .inr (.inl ⟨_, planRetry_capped hvalid hcap, rfl⟩)
      · obtain ⟨n, rfl⟩ := Int.eq_ofNat_of_zero_le hpos
        exact .inr (.inr ⟨n, _, hcap, planRetry_retry hvalid hfits hcap, rfl⟩)

theorem clampedDelay_nonneg (hmax : 0 ≤ config.maxDelaySeconds) (jittered : Seconds) :
    0 ≤ clampedDelay config jittered :=
  le_min (le_max_right _ _) hmax

/-- The schedule counts up to the cap and stays there. -/
theorem attemptAfter_eq (hvalid : validateConfig config = .ok ()) (hfits : PowerFits config)
    (n : Nat) : attemptAfter uniform config seed n = .ok (min n config.maxAttempts) := by
  have hmax : 0 < config.maxAttempts := (validateConfig_ok.mp hvalid).1
  induction n with
  | zero => exact congrArg Except.ok (min_eq_left hmax.le).symm
  | succ n ih =>
    have hstep : attemptAfter uniform config seed (n + 1) =
        (planRetry uniform config (min n config.maxAttempts) true seed).map (·.nextAttempt) := by
      simp only [attemptAfter, ih]
      rfl
    rw [hstep]
    rcases lt_or_ge (n : Int) config.maxAttempts with hlt | hge
    · rw [min_eq_left hlt.le, planRetry_retry hvalid hfits hlt]
      exact congrArg Except.ok (min_eq_left (by push_cast; omega)).symm
    · rw [min_eq_right hge, planRetry_capped hvalid le_rfl]
      exact congrArg Except.ok (min_eq_right (by push_cast; omega)).symm

theorem nthPlan_eq (hvalid : validateConfig config = .ok ()) (hfits : PowerFits config) (n : Nat) :
    nthPlan uniform config seed n =
      planRetry uniform config (min n config.maxAttempts) true seed := by
  simp only [nthPlan, attemptAfter_eq hvalid hfits]
  rfl

/-- The last call before the cap raises what `math.pow` raises. -/
theorem powerFits_of_errors (hvalid : validateConfig config = .ok ())
    (herrors : ∀ attemptIndex retryable e,
      planRetry uniform config attemptIndex retryable seed = .error e →
      e.isInstance "RetryPlannerError" = true) : PowerFits config := by
  by_contra hbeyond
  have hmax : 0 < config.maxAttempts := (validateConfig_ok.mp hvalid).1
  have hlast : ((config.maxAttempts.toNat - 1 : Nat) : Int) < config.maxAttempts := by omega
  have hpow : mathPow config.backoffFactor (config.maxAttempts.toNat - 1) =
      .error { mro := ["OverflowError", "ArithmeticError", "Exception"],
               message := "math range error" } := if_pos (not_le.mp hbeyond)
  have hraised := herrors _ true _ ((planRetry_scheduled hvalid hlast).trans
    (congrArg (Except.map _) hpow))
  revert hraised
  decide

/-- The planner keeps to its schedule where the powers stay below the largest double and the
rounding leaves the bound alone. -/
theorem on_schedule_iff (config : RetryPlannerConfig) (hvalid : validateConfig config = .ok ())
    (uniform : String → Seconds → Seconds) (seed : String) :
    OnSchedule uniform config seed ↔ PowerFits config ∧ RoundingFits uniform config seed := by
  have hmax : 0 ≤ config.maxDelaySeconds := (validateConfig_ok.mp hvalid).2.2.1
  constructor
  · intro h
    have hfits : PowerFits config := powerFits_of_errors hvalid h.errors
    refine ⟨hfits, ?_⟩
    by_cases hround : pyRound6 config.maxDelaySeconds ≤ config.maxDelaySeconds
    · exact .inl hround
    · refine .inr fun n hn => ?_
      have hle := (h.delays n true _ (planRetry_retry hvalid hfits hn)).2
      exact ((rounded_le_iff hmax _).mp hle).resolve_left hround
  · rintro ⟨hfits, hround⟩
    refine ⟨fun n hn => ?_, fun n hn => ?_, fun attemptIndex retryable plan hplan => ?_,
      fun attemptIndex retryable e he => ?_⟩
    · rw [nthPlan_eq hvalid hfits, min_eq_left hn.le]
      exact ⟨_, planRetry_retry hvalid hfits hn, rfl, rfl, rfl⟩
    · rw [nthPlan_eq hvalid hfits, min_eq_right hn]
      exact ⟨_, planRetry_capped hvalid le_rfl, rfl, rfl, rfl⟩
    · rcases planRetry_cases hvalid hfits attemptIndex retryable with
        hneg | ⟨stop, hstop, hzero⟩ | ⟨n, retry, hn, hretry, hdelay⟩
      · exact nomatch hneg.symm.trans hplan
      · obtain rfl : stop = plan := Except.ok.inj (hstop.symm.trans hplan)
        exact ⟨hzero.ge, hzero.le.trans hmax⟩
      · obtain rfl : retry = plan := Except.ok.inj (hretry.symm.trans hplan)
        rw [hdelay]
        exact ⟨pyRound6_nonneg (clampedDelay_nonneg hmax _),
          (rounded_le_iff hmax _).mpr (hround.imp id fun h => h n hn)⟩
    · rcases planRetry_cases hvalid hfits attemptIndex retryable with
        hneg | ⟨stop, hstop, -⟩ | ⟨n, retry, -, hretry, -⟩
      · obtain rfl := Except.error.inj (hneg.symm.trans he)
        decide
      · exact nomatch hstop.symm.trans he
      · exact nomatch hretry.symm.trans he

end

end

/-- Three attempts of at most a minute. -/
theorem minute_on_schedule :
    OnSchedule (fun _ _ => 0) { maxAttempts := 3, baseDelaySeconds := 1, maxDelaySeconds := 60 }
        "seed" ↔
      PowerFits { maxAttempts := 3, baseDelaySeconds := 1, maxDelaySeconds := 60 } ∧
        RoundingFits (fun _ _ => 0)
          { maxAttempts := 3, baseDelaySeconds := 1, maxDelaySeconds := 60 } "seed" :=
  on_schedule_iff _ (by decide +kernel) _ _

/-- The attempt after 2 to the 1023 raises what the planner does not announce. -/
theorem power_beyond_double :
    validateConfig { maxAttempts := 1025, baseDelaySeconds := 1, maxDelaySeconds := 60 } = .ok () ∧
      ¬ OnSchedule (fun _ _ => 0)
          { maxAttempts := 1025, baseDelaySeconds := 1, maxDelaySeconds := 60 } "seed" := by
  refine ⟨by decide +kernel, fun h => ?_⟩
  have hraised : planRetry (fun _ _ => 0)
      { maxAttempts := 1025, baseDelaySeconds := 1, maxDelaySeconds := 60 } 1024 true "seed" =
      .error { mro := ["OverflowError", "ArithmeticError", "Exception"],
               message := "math range error" } := by decide +kernel
  exact absurd (h.errors _ _ _ hraised) (by decide)

/-- A bound below the sixth place is rounded up. -/
theorem bound_rounded_up :
    validateConfig { maxAttempts := 1, baseDelaySeconds := 1, maxDelaySeconds := 7 / 10000000 } =
        .ok () ∧
      ¬ OnSchedule (fun _ _ => 0)
          { maxAttempts := 1, baseDelaySeconds := 1, maxDelaySeconds := 7 / 10000000 } "seed" := by
  refine ⟨by decide +kernel, fun h => ?_⟩
  have hplan : planRetry (fun _ _ => 0)
      { maxAttempts := 1, baseDelaySeconds := 1, maxDelaySeconds := 7 / 10000000 } 0 true "seed" =
      .ok { terminalType := .retry, delaySeconds := 1 / 1000000, nextAttempt := 1,
            reasonCode := "retry_scheduled" } := by decide +kernel
  exact absurd (h.delays _ _ _ hplan).2 (by decide +kernel)

end DpostV2.Ingestion.RetryPlanner
