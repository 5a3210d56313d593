import DpostV2.Lib.BestMatch
import DpostV2.Lib.Regex
import DpostV2.Lib.Raises
import Mathlib.Data.String.Basic

/-!
# The rule engines

`decide_route` and `derive_prefix`: rules with predicates over facts, a priority and an id. Both
check all rules, sort them, take those that match and choose the one of the highest priority.
`decide_route_picks` and `derive_prefix_picks` say without a sort what they answer.
-/

namespace DpostV2.Domain

-- ---------------------------------------------------------------------------
-- Rules
-- ---------------------------------------------------------------------------

/-- `x` raises an exception of this class. -/
def Fails (cls : String) (x : Except Exn α) : Prop := ∃ e, x = .error e ∧ e.isInstance cls = true

@[simp] theorem fails_ok (cls : String) (a : α) : ¬Fails cls (.ok a : Except Exn α) := by
  simp [Fails]

@[simp] theorem fails_error (cls : String) (e : Exn) :
    Fails cls (.error e : Except Exn α) ↔ e.isInstance cls = true := by
  simp [Fails]

/-- What a predicate expects, by the texts of its values. -/
inductive Expected where
  | scalar (value : String)
  | collection (values : List String)
  deriving DecidableEq, Repr

/-- What both engines read of a rule; the priority is `none` where it is no integer. -/
structure RuleHead where
  ruleId : String
  priority : Option Int
  predicates : List (String × Expected)
  deriving DecidableEq, Repr

abbrev Facts := String → Option String

def holds (facts : Facts) (predicate : String × Expected) : Bool :=
  match predicate.2, facts predicate.1 with
  | .scalar value, some actual => actual == value
  | .collection values, some actual => values.contains actual
  | _, none => false

def RuleHead.matchesFacts (facts : Facts) (head : RuleHead) : Bool :=
  head.predicates.all (holds facts)

/-- The texts in which the checks of the two engines differ. -/
structure RuleTexts where
  cls : String
  base : String
  predicates : String
  key : String
  values : String

def RuleTexts.error (texts : RuleTexts) (message : String) : Exn :=
  { mro := [texts.cls, texts.base, "ValueError", "Exception"], message }

def checkPredicates (texts : RuleTexts) : List (String × Expected) → Except Exn Unit
  | [] => .ok ()
  | (key, expected) :: rest =>
    if key = "" then .error (texts.error texts.key)
    else if expected = .collection [] then .error (texts.error texts.values)
    else checkPredicates texts rest

/-- `_validate_rule`; `extra` are the checks between those of the predicates. -/
def validateRule (texts : RuleTexts) (seenIds : List String) (head : RuleHead)
    (extra : Except Exn Unit) : Except Exn Unit :=
  if head.ruleId = "" then .error (texts.error "Rule id must be non-empty.")
  else if head.ruleId ∈ seenIds then .error (texts.error "Rule ids must be unique.")
  else if head.priority = none then .error (texts.error "Rule priority must be an integer.")
  else if head.predicates = [] then .error (texts.error texts.predicates)
  else do
    extra
    checkPredicates texts head.predicates

/-- The loop over the rules, with the ids seen so far; `check` is what follows a valid rule. -/
def validateRules {ρ : Type} (texts : RuleTexts) (head : ρ → RuleHead)
    (extra check : ρ → Except Exn Unit) (seenIds : List String) : List ρ → Except Exn Unit
  | [] => .ok ()
  | rule :: rest => do
    validateRule texts seenIds (head rule) (extra rule)
    check rule
    validateRules texts head extra check ((head rule).ruleId :: seenIds) rest

/-- A rule that is well formed by itself. -/
structure RuleHead.Valid (head : RuleHead) : Prop where
  named : head.ruleId ≠ ""
  ranked : head.priority ≠ none
  predicated : head.predicates ≠ []
  keyed : ∀ predicate ∈ head.predicates, predicate.1 ≠ "" ∧ predicate.2 ≠ .collection []

theorem checkPredicates_ok {texts : RuleTexts} {predicates : List (String × Expected)} :
    checkPredicates texts predicates = .ok () ↔
      ∀ predicate ∈ predicates, predicate.1 ≠ "" ∧ predicate.2 ≠ .collection [] := by
  induction predicates with
  | nil => simp [checkPredicates]
  | cons predicate rest ih =>
    obtain ⟨key, expected⟩ := predicate
    simp only [checkPredicates, List.forall_mem_cons, ← ih]
    split_ifs <;> simp [*]

theorem validateRule_ok {texts : RuleTexts} {seenIds : List String} {head : RuleHead}
    {extra : Except Exn Unit} :
    validateRule texts seenIds head extra = .ok () ↔
      head.Valid ∧ head.ruleId ∉ seenIds ∧ extra = .ok () := by
  constructor
  · intro h
    unfold validateRule at h
    split_ifs at h with hid hseen hpriority hpredicates
    obtain ⟨⟨⟩, hextra, h⟩ := except_bind_ok.mp h
    exact ⟨⟨hid, hpriority, hpredicates, checkPredicates_ok.mp h⟩, hseen, hextra⟩
  · rintro ⟨hvalid, hseen, rfl⟩
    rw [validateRule, if_neg hvalid.named, if_neg hseen, if_neg hvalid.ranked,
      if_neg hvalid.predicated]
    exact checkPredicates_ok.mpr hvalid.keyed

section
variable {ρ : Type} {texts : RuleTexts} {head : ρ → RuleHead} {extra check : ρ → Except Exn Unit}
  {rules : List ρ}

theorem validateRules_ok {seenIds : List String} :
    validateRules texts head extra check seenIds rules = .ok () ↔
      (rules.map fun rule => (head rule).ruleId).Nodup ∧
        ∀ rule ∈ rules, (head rule).Valid ∧ (head rule).ruleId ∉ seenIds ∧
          extra rule = .ok () ∧ check rule = .ok () := by
  induction rules generalizing seenIds with
  | nil => simp [validateRules]
  | cons rule rest ih =>
    have hstep : validateRules texts head extra check seenIds (rule :: rest) = .ok () ↔
        validateRule texts seenIds (head rule) (extra rule) = .ok () ∧ check rule = .ok () ∧
          validateRules texts head extra check ((head rule).ruleId :: seenIds) rest = .ok () := by
      simp only [validateRules, except_bind_ok]
      exact ⟨fun ⟨⟨⟩, h, ⟨⟩, h', h''⟩ => ⟨h, h', h''⟩, fun ⟨h, h', h''⟩ => ⟨(), h, (), h', h''⟩⟩
    rw [hstep, validateRule_ok, ih, List.map_cons, List.nodup_cons, List.forall_mem_cons]
    simp only [List.mem_map, not_exists, not_and, List.mem_cons, not_or]
    constructor
    · rintro ⟨⟨hvalid, hseen, hextra⟩, hcheck, hnodup, hrest⟩
      exact ⟨⟨fun rule' hrule' => (hrest rule' hrule').2.1.1, hnodup⟩,
        ⟨hvalid, hseen, hextra, hcheck⟩, fun rule' hrule' =>
          ⟨(hrest rule' hrule').1, (hrest rule' hrule').2.1.2, (hrest rule' hrule').2.2⟩⟩
    · rintro ⟨⟨hne, hnodup⟩, ⟨hvalid, hseen, hextra, hcheck⟩, hrest⟩
      exact ⟨⟨hvalid, hseen, hextra⟩, hcheck, hnodup, fun rule' hrule' =>
        ⟨(hrest rule' hrule').1, ⟨hne rule' hrule', (hrest rule' hrule').2.1⟩,
          (hrest rule' hrule').2.2⟩⟩

end

-- ---------------------------------------------------------------------------
-- The rules that match
-- ---------------------------------------------------------------------------

section
variable {ρ : Type}

def rankingOf (head : ρ → RuleHead) : Ranking ρ String where
  priority rule := (head rule).priority.getD 0
  ident rule := (head rule).ruleId

/-- The matching rules in the order they are sorted in. -/
def matchesOf (head : ρ → RuleHead) (facts : Facts) (rules : List ρ) : List ρ :=
  (sortedBy (rankingOf head) rules).filter fun rule => (head rule).matchesFacts facts

/-- The matching rules in the order they are given in. -/
def matching (head : ρ → RuleHead) (facts : Facts) (rules : List ρ) : List ρ :=
  rules.filter fun rule => (head rule).matchesFacts facts

def distinctIds (head : ρ → RuleHead) (rules : List ρ) : Prop :=
  (rules.map fun rule => (head rule).ruleId).Nodup

variable {head : ρ → RuleHead} {facts : Facts} {rules rules' : List ρ}

theorem mem_matchesOf (rule : ρ) :
    rule ∈ matchesOf head facts rules ↔ rule ∈ matching head facts rules := by
  simp only [matchesOf, matching, List.mem_filter, (sortedBy_perm_self rules).mem_iff]

theorem matchesOf_sorted (head : ρ → RuleHead) (facts : Facts) (rules : List ρ) :
    (matchesOf head facts rules).Pairwise fun rule rule' =>
      (rankingOf head).key rule ≤ (rankingOf head).key rule' :=
  (sortedBy_pairwise rules).filter _

theorem matchesOf_nodup (h : distinctIds head rules) : (matchesOf head facts rules).Nodup :=
  ((sortedBy_perm_self rules).nodup_iff.mpr h.of_map).filter _

theorem matchesOf_eq_nil : matchesOf head facts rules = [] ↔ matching head facts rules = [] := by
  simp only [List.eq_nil_iff_forall_not_mem, mem_matchesOf]

theorem choose_matching_nothing :
    choose (rankingOf head)
      (matchesOf head facts rules) = .nothing ↔ matching head facts rules = [] := by
  rw [choose_nothing, matchesOf_eq_nil]

theorem choose_matching_sole (h : distinctIds head rules) (rule : ρ) :
    choose (rankingOf head) (matchesOf head facts rules) = .sole rule ↔
      Sole (rankingOf head) (matching head facts rules) rule := by
  rw [choose_sole (matchesOf_sorted head facts rules) (matchesOf_nodup h), sole_congr mem_matchesOf]

theorem choose_matching_tied (h : distinctIds head rules) :
    choose (rankingOf head) (matchesOf head facts rules) = .tied ↔
      Tied (rankingOf head) (matching head facts rules) := by
  rw [choose_tied (matchesOf_sorted head facts rules) (matchesOf_nodup h), tied_congr mem_matchesOf]

theorem matchesOf_perm (h : distinctIds head rules) (hperm : rules.Perm rules') :
    matchesOf head facts rules = matchesOf head facts rules' :=
  congrArg (List.filter _) (sortedBy_perm h hperm)

/-- Wherever a rule stands that does not match, the others match as without it. -/
theorem matchesOf_insert {rule : ρ} {before after : List ρ}
    (h : distinctIds head (before ++ rule :: after))
    (hrule : (head rule).matchesFacts facts = false) :
    matchesOf head facts (before ++ rule :: after) = matchesOf head facts (before ++ after) := by
  rw [matchesOf_perm h List.perm_middle]
  refine filter_sortedBy_cons ?_ hrule
  exact (List.perm_middle.map _).nodup_iff.mp h

end

-- ---------------------------------------------------------------------------
-- Routes
-- ---------------------------------------------------------------------------

structure RouteRule extends RuleHead where
  destinations : List String
  deriving DecidableEq, Repr

inductive RouteDecisionKind where
  | matched
  | defaulted
  | rejected
  deriving DecidableEq, Repr

structure RouteDecision where
  kind : RouteDecisionKind
  destinations : List String
  matchedRuleId : Option String
  diagnostics : List String
  deriving DecidableEq, Repr

def routingError (cls message : String) : Exn :=
  { mro := [cls, "RoutingRuleError", "ValueError", "Exception"], message }

def routeTexts : RuleTexts where
  cls := "RoutingRuleConfigurationError"
  base := "RoutingRuleError"
  predicates := "Rule predicates must be non-empty."
  key := "Predicate keys must be non-empty."
  values := "Collection predicate values must be non-empty."

def routeAmbiguity : Exn :=
  routingError "RoutingRuleAmbiguityError"
    "Multiple matching route rules share the same top priority."

def routeNotFound : Exn :=
  routingError "RoutingRuleNotFoundError"
    "No routing rule matched and no default route was configured."

def validateDestinations (fullmatch : String → Bool) : List String → Except Exn Unit
  | [] => .ok ()
  | destination :: rest =>
    if fullmatch destination then validateDestinations fullmatch rest
    else .error (routingError "RoutingDestinationValidationError"
      ("Destination token '" ++ destination ++ "' violates allowed format."))

def requireDestinations (rule : RouteRule) : Except Exn Unit :=
  if rule.destinations = [] then .error (routeTexts.error "Rule destinations must be non-empty.")
  else .ok ()

/-- What follows the checks of the rules. -/
def routeFor (fullmatch : String → Bool) (matched : List RouteRule)
    (defaultDestinations : Option (List String)) : Except Exn RouteDecision :=
  match choose (rankingOf RouteRule.toRuleHead) matched, defaultDestinations with
  | .sole selected, _ =>
    .ok ⟨.matched, selected.destinations, some selected.ruleId, matched.map (·.ruleId)⟩
  | .tied, _ => .error routeAmbiguity
  | .nothing, none => .error routeNotFound
  | .nothing, some destinations => do
    validateDestinations fullmatch destinations
    return ⟨.defaulted, destinations, none, ["default"]⟩

def decideRoute [Regex] (routeFacts : Facts) (rules : List RouteRule)
    (defaultDestinations : Option (List String)) (destinationPattern : String) :
    Except Exn RouteDecision := do
  let fullmatch ← compile destinationPattern
  validateRules routeTexts RouteRule.toRuleHead requireDestinations
    (fun rule => validateDestinations fullmatch rule.destinations) [] rules
  routeFor fullmatch (matchesOf RouteRule.toRuleHead routeFacts rules) defaultDestinations

-- ---------------------------------------------------------------------------
-- Prefixes
-- ---------------------------------------------------------------------------

structure PrefixRule extends RuleHead where
  token : String
  deriving DecidableEq, Repr

inductive PrefixDecisionKind where
  | derived
  | fallback
  | rejected
  deriving DecidableEq, Repr

structure PrefixDecision where
  kind : PrefixDecisionKind
  token : Option String
  matchedRuleId : Option String
  diagnostics : List String
  deriving DecidableEq, Repr

def prefixError (cls message : String) : Exn :=
  { mro := [cls, "PrefixPolicyError", "ValueError", "Exception"], message }

def prefixTexts : RuleTexts where
  cls := "PrefixRuleConfigurationError"
  base := "PrefixPolicyError"
  predicates := "Rule conditions must be non-empty."
  key := "Condition keys must be non-empty."
  values := "Collection condition values must be non-empty."

def prefixAmbiguity : Exn :=
  prefixError "PrefixRuleAmbiguityError"
    "Multiple matching prefix rules share the same top priority."

def prefixNotFound : Exn :=
  prefixError "PrefixDerivationNotFoundError"
    "No prefix rule matched and no fallback prefix was configured."

def validateToken (fullmatch : String → Bool) (token : String) : Except Exn Unit :=
  if fullmatch token then .ok ()
  else .error (prefixError "PrefixTokenFormatError"
    ("Derived prefix '" ++ token ++ "' violates configured token format."))

/-- What follows the checks of the rules. -/
def prefixFor (fullmatch : String → Bool) (matched : List PrefixRule)
    (fallbackPrefix : Option String) : Except Exn PrefixDecision :=
  match choose (rankingOf PrefixRule.toRuleHead) matched, fallbackPrefix with
  | .sole selected, _ => do
    validateToken fullmatch selected.token
    return ⟨.derived, some selected.token, some selected.ruleId, matched.map (·.ruleId)⟩
  | .tied, _ => .error prefixAmbiguity
  | .nothing, none => .error prefixNotFound
  | .nothing, some token => do
    validateToken fullmatch token
    return ⟨.fallback, some token, none, ["fallback"]⟩

def derivePrefix [Regex] (attributes : Facts) (rules : List PrefixRule)
    (fallbackPrefix : Option String) (tokenPattern : String) : Except Exn PrefixDecision := do
  validateRules prefixTexts PrefixRule.toRuleHead (fun _ => .ok ()) (fun _ => .ok ()) [] rules
  let fullmatch ← compile tokenPattern
  prefixFor fullmatch (matchesOf PrefixRule.toRuleHead attributes rules) fallbackPrefix

-- ---------------------------------------------------------------------------
-- What the checks of the rules raise
-- ---------------------------------------------------------------------------

section
variable {ρ : Type} {texts : RuleTexts}

def RuleTexts.Raised (texts : RuleTexts) (e : Exn) : Prop := ∃ message, e = texts.error message

theorem checkPredicates_raises (predicates : List (String × Expected)) :
    RaisesIn texts.Raised (checkPredicates texts predicates) := by
  induction predicates with
  | nil => exact .ok _
  | cons predicate rest ih =>
    unfold checkPredicates
    split_ifs
    · exact .error ⟨_, rfl⟩
    · exact .error ⟨_, rfl⟩
    · exact ih

theorem validateRule_raises {seenIds : List String} {head : RuleHead} {extra : Except Exn Unit}
    (h : RaisesIn texts.Raised extra) :
    RaisesIn texts.Raised (validateRule texts seenIds head extra) := by
  unfold validateRule
  split_ifs
  · exact .error ⟨_, rfl⟩
  · exact .error ⟨_, rfl⟩
  · exact .error ⟨_, rfl⟩
  · exact .error ⟨_, rfl⟩
  · exact h.bind fun _ _ => checkPredicates_raises _

/-- The checks raise their own error, or what follows a valid rule does. -/
theorem validateRules_raises {P : Exn → Prop} {head : ρ → RuleHead}
    {extra check : ρ → Except Exn Unit} {rules : List ρ} (seenIds : List String)
    (htexts : ∀ e, texts.Raised e → P e) (hextra : ∀ rule, RaisesIn texts.Raised (extra rule))
    (hcheck : ∀ rule, RaisesIn P (check rule)) :
    RaisesIn P (validateRules texts head extra check seenIds rules) := by
  induction rules generalizing seenIds with
  | nil => exact .ok _
  | cons rule rest ih =>
    refine ((validateRule_raises (hextra rule)).mono htexts).bind fun _ _ => ?_
    exact (hcheck rule).bind fun _ _ => ih _

end

theorem validateDestinations_raises (fullmatch : String → Bool) (destinations : List String) :
    RaisesIn (fun e => ∃ message, e = routingError "RoutingDestinationValidationError" message)
      (validateDestinations fullmatch destinations) := by
  induction destinations with
  | nil => exact .ok _
  | cons destination rest ih =>
    unfold validateDestinations
    split_ifs
    · exact ih
    · exact .error ⟨_, rfl⟩

theorem validateDestinations_ok {fullmatch : String → Bool} {destinations : List String} :
    validateDestinations fullmatch destinations = .ok () ↔
      ∀ destination ∈ destinations, fullmatch destination = true := by
  induction destinations with
  | nil => simp [validateDestinations]
  | cons destination rest ih =>
    simp only [validateDestinations, List.forall_mem_cons, ← ih]
    split_ifs with h <;> simp [h]

theorem compile_raises [Regex] (pattern : String) :
    RaisesIn (fun e => e.mro = ["error", "Exception"]) (compile pattern) := by
  unfold compile
  split
  · exact .ok _
  · exact .error rfl

-- ---------------------------------------------------------------------------
-- The choice of a route
-- ---------------------------------------------------------------------------

/-- Every rule is valid, no two share an id, and every destination is one the pattern matches. -/
structure RoutesWellFormed (fullmatch : String → Bool) (rules : List RouteRule) : Prop where
  distinct : distinctIds RouteRule.toRuleHead rules
  valid : ∀ rule ∈ rules, rule.Valid
  destined : ∀ rule ∈ rules, rule.destinations ≠ []
  matched : ∀ rule ∈ rules, ∀ destination ∈ rule.destinations, fullmatch destination = true

theorem requireDestinations_ok {rule : RouteRule} :
    requireDestinations rule = .ok () ↔ rule.destinations ≠ [] := by
  unfold requireDestinations
  split_ifs with h <;> simp [h]

theorem requireDestinations_raises (rule : RouteRule) :
    RaisesIn routeTexts.Raised (requireDestinations rule) := by
  unfold requireDestinations
  split_ifs
  · exact .error ⟨_, rfl⟩
  · exact .ok _

theorem validateRoutes_ok {fullmatch : String → Bool} {rules : List RouteRule} :
    validateRules routeTexts RouteRule.toRuleHead requireDestinations
      (fun rule => validateDestinations fullmatch rule.destinations) [] rules = .ok () ↔
      RoutesWellFormed fullmatch rules := by
  rw [validateRules_ok]
  simp only [List.not_mem_nil, not_false_eq_true, true_and, requireDestinations_ok,
    validateDestinations_ok]
  constructor
  · exact fun ⟨hdistinct, h⟩ => ⟨hdistinct, fun r hr => (h r hr).1, fun r hr => (h r hr).2.1,
      fun r hr => (h r hr).2.2⟩
  · exact fun ⟨hdistinct, hvalid, hdestined, hmatched⟩ =>
      ⟨hdistinct, fun r hr => ⟨hvalid r hr, hdestined r hr, hmatched r hr⟩⟩

section
variable [Regex] (routeFacts : Facts) (rules : List RouteRule)
  (defaultDestinations : Option (List String)) (destinationPattern : String)

/-- The pattern compiles, and the rules are well formed with it. -/
def RoutesAccepted : Prop :=
  ∃ fullmatch, compile destinationPattern = .ok fullmatch ∧ RoutesWellFormed fullmatch rules

/-- Refused rules raise an error of their own checks, of a destination or of the pattern. -/
def RouteRefused (e : Exn) : Prop :=
  routeTexts.Raised e ∨ (∃ message, e = routingError "RoutingDestinationValidationError" message) ∨
    e.mro = ["error", "Exception"]

variable {routeFacts rules defaultDestinations destinationPattern}

variable (routeFacts defaultDestinations) in
theorem decideRoute_refused (h : ¬RoutesAccepted rules destinationPattern) :
    ∃ e, decideRoute routeFacts rules defaultDestinations destinationPattern = .error e ∧
      RouteRefused e := by
  unfold decideRoute
  cases hcompile : compile destinationPattern with
  | error e => exact ⟨e, rfl, .inr (.inr (compile_raises _ _ hcompile))⟩
  | ok fullmatch =>
    cases hrules : validateRules routeTexts RouteRule.toRuleHead requireDestinations
      (fun rule => validateDestinations fullmatch rule.destinations) [] rules with
    | ok u => exact absurd ⟨fullmatch, hcompile, validateRoutes_ok.mp hrules⟩ h
    | error e =>
      refine ⟨e, by simp [bind, Except.bind, hrules], ?_⟩
      refine validateRules_raises (P := RouteRefused) [] (fun e he => .inl he)
        requireDestinations_raises (fun rule => ?_) e hrules
      exact (validateDestinations_raises _ _).mono fun e he => .inr (.inl he)

theorem decideRoute_accepted {fullmatch : String → Bool}
    (hcompile : compile destinationPattern = .ok fullmatch)
    (h : RoutesWellFormed fullmatch rules) :
    decideRoute routeFacts rules defaultDestinations destinationPattern =
      routeFor fullmatch (matchesOf RouteRule.toRuleHead routeFacts rules) defaultDestinations := by
  simp only [decideRoute, hcompile, bind, Except.bind, validateRoutes_ok.mpr h]

omit [Regex] in
theorem RouteRefused.not_fails {e : Exn} {cls : String} (h : RouteRefused e)
    (hcls : cls ∉ ["RoutingRuleConfigurationError", "RoutingDestinationValidationError",
      "RoutingRuleError", "ValueError", "error", "Exception"]) :
    ¬Fails cls (.error e : Except Exn RouteDecision) := by
  simp only [List.mem_cons, not_or] at hcls
  rw [fails_error]
  intro hclass
  rcases h with ⟨message, rfl⟩ | ⟨message, rfl⟩ | hmro
  · simp [RuleTexts.error, routeTexts, Exn.isInstance, hcls] at hclass
  · simp [routingError, Exn.isInstance, hcls] at hclass
  · simp [Exn.isInstance, hmro, hcls] at hclass

omit [Regex] in
theorem routeFor_matched {fullmatch : String → Bool} {matched : List RouteRule}
    (hdistinct : distinctIds RouteRule.toRuleHead rules) (hmatched : ∀ rule ∈ matched, rule ∈ rules)
    (hsorted : matched.Pairwise fun rule rule' =>
      (rankingOf RouteRule.toRuleHead).key rule ≤ (rankingOf RouteRule.toRuleHead).key rule')
    (hnodup : matched.Nodup) {rule : RouteRule} (hrule : rule ∈ rules) :
    (∃ diagnostics, routeFor fullmatch matched defaultDestinations =
      .ok ⟨.matched, rule.destinations, some rule.ruleId, diagnostics⟩) ↔
      choose (rankingOf RouteRule.toRuleHead) matched = .sole rule := by
  constructor
  · rintro ⟨diagnostics, h⟩
    unfold routeFor at h
    split at h
    · next selected hchoice =>
      have hid := Option.some.inj (congrArg RouteDecision.matchedRuleId (Except.ok.inj h))
      have hselected := ((choose_sole hsorted hnodup selected).mp hchoice).1
      rw [hchoice, List.inj_on_of_nodup_map hdistinct (hmatched _ hselected) hrule hid]
    · cases h
    · cases h
    · obtain ⟨-, -, h⟩ := except_bind_ok.mp h
      cases h
  · intro h
    exact ⟨matched.map (·.ruleId), by simp [routeFor, h]⟩

omit [Regex] in
theorem routeFor_ambiguous {fullmatch : String → Bool} {matched : List RouteRule} :
    Fails "RoutingRuleAmbiguityError"
      (routeFor fullmatch matched defaultDestinations) ↔
      choose (rankingOf RouteRule.toRuleHead) matched = .tied := by
  constructor
  · rintro ⟨e, h, hclass⟩
    unfold routeFor at h
    split at h
    · cases h
    · next hchoice => exact hchoice
    · cases h
      simp [routeNotFound, routingError, Exn.isInstance] at hclass
    · next destinations _ =>
      cases hvalid : validateDestinations fullmatch destinations with
      | ok u => rw [hvalid] at h; cases h
      | error e' =>
        rw [hvalid] at h
        cases h
        obtain ⟨message, rfl⟩ := validateDestinations_raises _ _ _ hvalid
        simp [routingError, Exn.isInstance] at hclass
  · intro h
    exact ⟨routeAmbiguity, by simp [routeFor, h],
      by simp [routeAmbiguity, routingError, Exn.isInstance]⟩

omit [Regex] in
theorem routeFor_defaulted {fullmatch : String → Bool} {matched : List RouteRule}
    (destinations : List String) :
    routeFor fullmatch matched defaultDestinations =
      .ok ⟨.defaulted, destinations, none, ["default"]⟩ ↔
      choose (rankingOf RouteRule.toRuleHead) matched = .nothing ∧
        defaultDestinations = some destinations ∧
          ∀ destination ∈ destinations, fullmatch destination = true := by
  unfold routeFor
  split
  · next hchoice => simp [hchoice]
  · next hchoice => simp [hchoice]
  · next hchoice => simp [hchoice]
  · next given hchoice =>
    simp only [hchoice, except_bind_ok, except_pure_ok, RouteDecision.mk.injEq, true_and, and_true,
      Option.some.injEq, ← validateDestinations_ok]
    constructor
    · rintro ⟨⟨⟩, hvalid, rfl⟩
      exact ⟨rfl, hvalid⟩
    · rintro ⟨rfl, hvalid⟩
      exact ⟨(), hvalid, rfl⟩

omit [Regex] in
theorem routeFor_notFound {fullmatch : String → Bool} {matched : List RouteRule} :
    Fails "RoutingRuleNotFoundError"
      (routeFor fullmatch matched defaultDestinations) ↔
      choose (rankingOf RouteRule.toRuleHead) matched = .nothing ∧ defaultDestinations = none := by
  constructor
  · rintro ⟨e, h, hclass⟩
    unfold routeFor at h
    split at h
    · cases h
    · cases h
      simp [routeAmbiguity, routingError, Exn.isInstance] at hclass
    · next hchoice => exact ⟨hchoice, rfl⟩
    · next destinations _ =>
      cases hvalid : validateDestinations fullmatch destinations with
      | ok u => rw [hvalid] at h; cases h
      | error e' =>
        rw [hvalid] at h
        cases h
        obtain ⟨message, rfl⟩ := validateDestinations_raises _ _ _ hvalid
        simp [routingError, Exn.isInstance] at hclass
  · rintro ⟨hchoice, rfl⟩
    exact ⟨routeNotFound, by simp [routeFor, hchoice],
      by simp [routeNotFound, routingError, Exn.isInstance]⟩

omit [Regex] in
theorem RoutesWellFormed.perm {fullmatch : String → Bool} {rules' : List RouteRule}
    (h : RoutesWellFormed fullmatch rules) (hperm : rules.Perm rules') :
    RoutesWellFormed fullmatch rules' where
  distinct := (hperm.map _).nodup_iff.mp h.distinct
  valid rule hrule := h.valid rule (hperm.mem_iff.mpr hrule)
  destined rule hrule := h.destined rule (hperm.mem_iff.mpr hrule)
  matched rule hrule := h.matched rule (hperm.mem_iff.mpr hrule)

omit [Regex] in
theorem RoutesWellFormed.without {fullmatch : String → Bool} {rule : RouteRule}
    {before after : List RouteRule} (h : RoutesWellFormed fullmatch (before ++ rule :: after)) :
    RoutesWellFormed fullmatch (before ++ after) := by
  have hsub : (before ++ after).Sublist (before ++ rule :: after) :=
    (List.sublist_cons_self rule after).append_left before
  exact {
    distinct := h.distinct.sublist (hsub.map _)
    valid := fun r hr => h.valid r (hsub.mem hr)
    destined := fun r hr => h.destined r (hsub.mem hr)
    matched := fun r hr => h.matched r (hsub.mem hr) }

variable (routeFacts rules defaultDestinations destinationPattern) in
/-- What a route is decided by. -/
structure RouteLaws : Prop where
  matched : ∀ rule ∈ rules,
    (∃ diagnostics, decideRoute routeFacts rules defaultDestinations destinationPattern =
      .ok ⟨.matched, rule.destinations, some rule.ruleId, diagnostics⟩) ↔
    RoutesAccepted rules destinationPattern ∧
      Sole (rankingOf RouteRule.toRuleHead) (matching RouteRule.toRuleHead routeFacts rules) rule
  ambiguous :
    Fails "RoutingRuleAmbiguityError"
      (decideRoute routeFacts rules defaultDestinations destinationPattern) ↔
    RoutesAccepted rules destinationPattern ∧
      Tied (rankingOf RouteRule.toRuleHead) (matching RouteRule.toRuleHead routeFacts rules)
  defaulted : ∀ destinations,
    decideRoute routeFacts rules defaultDestinations destinationPattern =
      .ok ⟨.defaulted, destinations, none, ["default"]⟩ ↔
    matching RouteRule.toRuleHead routeFacts rules = [] ∧
      defaultDestinations = some destinations ∧
      ∃ fullmatch, compile destinationPattern = .ok fullmatch ∧ RoutesWellFormed fullmatch rules ∧
        ∀ destination ∈ destinations, fullmatch destination = true
  notFound :
    Fails "RoutingRuleNotFoundError"
      (decideRoute routeFacts rules defaultDestinations destinationPattern) ↔
    RoutesAccepted rules destinationPattern ∧
      matching RouteRule.toRuleHead routeFacts rules = [] ∧ defaultDestinations = none
  invalidDefault : ∀ fullmatch, compile destinationPattern = .ok fullmatch →
    RoutesWellFormed fullmatch rules → matching RouteRule.toRuleHead routeFacts rules = [] →
    ∀ destinations, defaultDestinations = some destinations →
      ¬(∀ destination ∈ destinations, fullmatch destination = true) →
      Fails "RoutingDestinationValidationError"
        (decideRoute routeFacts rules defaultDestinations destinationPattern)
  perm : RoutesAccepted rules destinationPattern → ∀ rules', rules.Perm rules' →
    decideRoute routeFacts rules' defaultDestinations destinationPattern =
      decideRoute routeFacts rules defaultDestinations destinationPattern
  insert : ∀ rule before after, rules = before ++ after →
    RoutesAccepted (before ++ rule :: after) destinationPattern →
    rule.matchesFacts routeFacts = false →
    decideRoute routeFacts (before ++ rule :: after) defaultDestinations destinationPattern =
      decideRoute routeFacts rules defaultDestinations destinationPattern

theorem routeLaws : RouteLaws routeFacts rules defaultDestinations destinationPattern where
  matched rule hrule := by
    by_cases haccepted : RoutesAccepted rules destinationPattern
    · obtain ⟨fullmatch, hcompile, hwell⟩ := haccepted
      rw [decideRoute_accepted hcompile hwell, routeFor_matched hwell.distinct
        (fun r hr => List.mem_of_mem_filter ((mem_matchesOf r).mp hr)) (matchesOf_sorted _ _ _)
        (matchesOf_nodup hwell.distinct) hrule, choose_matching_sole hwell.distinct]
      exact (and_iff_right ⟨fullmatch, hcompile, hwell⟩).symm
    · obtain ⟨e, he, -⟩ := decideRoute_refused routeFacts defaultDestinations haccepted
      simp [he, haccepted]
  ambiguous := by
    by_cases haccepted : RoutesAccepted rules destinationPattern
    · obtain ⟨fullmatch, hcompile, hwell⟩ := haccepted
      rw [decideRoute_accepted hcompile hwell, routeFor_ambiguous,
        choose_matching_tied hwell.distinct]
      exact (and_iff_right ⟨fullmatch, hcompile, hwell⟩).symm
    · obtain ⟨e, he, hrefused⟩ := decideRoute_refused routeFacts defaultDestinations haccepted
      rw [he]
      exact iff_of_false (hrefused.not_fails (by decide)) fun h => haccepted h.1
  defaulted destinations := by
    by_cases haccepted : RoutesAccepted rules destinationPattern
    · obtain ⟨fullmatch, hcompile, hwell⟩ := haccepted
      rw [decideRoute_accepted hcompile hwell, routeFor_defaulted, choose_matching_nothing]
      refine and_congr_right fun _ => and_congr_right fun _ =>
        ⟨fun h => ⟨_, hcompile, hwell, h⟩, ?_⟩
      rintro ⟨fullmatch', hcompile', -, h⟩
      obtain rfl := Except.ok.inj (hcompile.symm.trans hcompile')
      exact h
    · obtain ⟨e, he, -⟩ := decideRoute_refused routeFacts defaultDestinations haccepted
      rw [he]
      refine iff_of_false (by simp) fun ⟨_, _, fullmatch, hcompile, hwell, _⟩ => ?_
      exact haccepted ⟨fullmatch, hcompile, hwell⟩
  notFound := by
    by_cases haccepted : RoutesAccepted rules destinationPattern
    · obtain ⟨fullmatch, hcompile, hwell⟩ := haccepted
      rw [decideRoute_accepted hcompile hwell, routeFor_notFound, choose_matching_nothing]
      exact (and_iff_right ⟨fullmatch, hcompile, hwell⟩).symm
    · obtain ⟨e, he, hrefused⟩ := decideRoute_refused routeFacts defaultDestinations haccepted
      rw [he]
      exact iff_of_false (hrefused.not_fails (by decide)) fun h => haccepted h.1
  invalidDefault fullmatch hcompile hwell hnone destinations hdefault hinvalid := by
    rw [decideRoute_accepted hcompile hwell, hdefault]
    cases hvalid : validateDestinations fullmatch destinations with
    | ok u => exact absurd (validateDestinations_ok.mp hvalid) hinvalid
    | error e =>
      obtain ⟨message, rfl⟩ := validateDestinations_raises _ _ _ hvalid
      refine ⟨routingError "RoutingDestinationValidationError" message, ?_,
        by simp [routingError, Exn.isInstance]⟩
      simp only [routeFor, choose_matching_nothing.mpr hnone, hvalid, bind, Except.bind]
  perm := by
    rintro ⟨fullmatch, hcompile, hwell⟩ rules' hperm
    rw [decideRoute_accepted hcompile hwell, decideRoute_accepted hcompile (hwell.perm hperm),
      matchesOf_perm hwell.distinct hperm]
  insert := by
    rintro rule before after rfl ⟨fullmatch, hcompile, hwell⟩ hrule
    rw [decideRoute_accepted hcompile hwell, decideRoute_accepted hcompile hwell.without,
      matchesOf_insert hwell.distinct hrule]

end

-- ---------------------------------------------------------------------------
-- The choice of a prefix
-- ---------------------------------------------------------------------------

/-- Every rule is valid, and no two share an id; their prefixes are not looked at. -/
structure PrefixesWellFormed (rules : List PrefixRule) : Prop where
  distinct : distinctIds PrefixRule.toRuleHead rules
  valid : ∀ rule ∈ rules, rule.Valid

theorem validatePrefixes_ok {rules : List PrefixRule} :
    validateRules prefixTexts PrefixRule.toRuleHead (fun _ => .ok ()) (fun _ => .ok ()) [] rules =
      .ok () ↔ PrefixesWellFormed rules := by
  rw [validateRules_ok]
  simp only [List.not_mem_nil, not_false_eq_true, and_true]
  exact ⟨fun ⟨hdistinct, hvalid⟩ => ⟨hdistinct, hvalid⟩,
    fun ⟨hdistinct, hvalid⟩ => ⟨hdistinct, hvalid⟩⟩

theorem PrefixesWellFormed.perm {rules rules' : List PrefixRule} (h : PrefixesWellFormed rules)
    (hperm : rules.Perm rules') : PrefixesWellFormed rules' where
  distinct := (hperm.map _).nodup_iff.mp h.distinct
  valid rule hrule := h.valid rule (hperm.mem_iff.mpr hrule)

theorem PrefixesWellFormed.without {rule : PrefixRule} {before after : List PrefixRule}
    (h : PrefixesWellFormed (before ++ rule :: after)) : PrefixesWellFormed (before ++ after) := by
  have hsub : (before ++ after).Sublist (before ++ rule :: after) :=
    (List.sublist_cons_self rule after).append_left before
  exact ⟨h.distinct.sublist (hsub.map _), fun r hr => h.valid r (hsub.mem hr)⟩

section
variable [Regex] (attributes : Facts) (rules : List PrefixRule) (fallbackPrefix : Option String)
  (tokenPattern : String)

/-- The rules are well formed, and the pattern compiles. -/
def PrefixesAccepted (fullmatch : String → Bool) : Prop :=
  compile tokenPattern = .ok fullmatch ∧ PrefixesWellFormed rules

def PrefixRefused (e : Exn) : Prop := prefixTexts.Raised e ∨ e.mro = ["error", "Exception"]

theorem derivePrefix_refused (h : ∀ fullmatch, ¬PrefixesAccepted rules tokenPattern fullmatch) :
    ∃ e, derivePrefix attributes rules fallbackPrefix tokenPattern = .error e ∧
      PrefixRefused e := by
  unfold derivePrefix
  cases hrules : validateRules prefixTexts PrefixRule.toRuleHead (fun _ => .ok ()) (fun _ => .ok ())
      [] rules with
  | error e =>
    refine ⟨e, rfl, ?_⟩
    exact validateRules_raises [] (fun e he => .inl he) (fun _ => .ok _) (fun _ => .ok _) e hrules
  | ok u =>
    cases hcompile : compile tokenPattern with
    | ok fullmatch => exact absurd ⟨hcompile, validatePrefixes_ok.mp hrules⟩ (h fullmatch)
    | error e => exact ⟨e, rfl, .inr (compile_raises _ _ hcompile)⟩

variable {attributes rules fallbackPrefix tokenPattern}

theorem derivePrefix_accepted {fullmatch : String → Bool}
    (h : PrefixesAccepted rules tokenPattern fullmatch) :
    derivePrefix attributes rules fallbackPrefix tokenPattern =
      prefixFor fullmatch (matchesOf PrefixRule.toRuleHead attributes rules) fallbackPrefix := by
  simp only [derivePrefix, validatePrefixes_ok.mpr h.2, bind, Except.bind, h.1]

omit [Regex] in
theorem PrefixRefused.not_fails {e : Exn} {cls : String} (h : PrefixRefused e)
    (hcls : cls ∉ ["PrefixRuleConfigurationError", "PrefixPolicyError", "ValueError", "error",
      "Exception"]) : ¬Fails cls (.error e : Except Exn PrefixDecision) := by
  simp only [List.mem_cons, not_or] at hcls
  rw [fails_error]
  intro hclass
  rcases h with ⟨message, rfl⟩ | hmro
  · simp [RuleTexts.error, prefixTexts, Exn.isInstance, hcls] at hclass
  · simp [Exn.isInstance, hmro, hcls] at hclass

omit [Regex] in
/-- What the engine answers, by what there is to choose. -/
theorem prefixFor_eq (fullmatch : String → Bool) (matched : List PrefixRule) :
    prefixFor fullmatch matched fallbackPrefix =
      match choose (rankingOf PrefixRule.toRuleHead) matched, fallbackPrefix with
      | .sole selected, _ =>
        if fullmatch selected.token then
          .ok ⟨.derived, some selected.token, some selected.ruleId, matched.map (·.ruleId)⟩
        else .error (prefixError "PrefixTokenFormatError"
          ("Derived prefix '" ++ selected.token ++ "' violates configured token format."))
      | .tied, _ => .error prefixAmbiguity
      | .nothing, none => .error prefixNotFound
      | .nothing, some token =>
        if fullmatch token then .ok ⟨.fallback, some token, none, ["fallback"]⟩
        else .error (prefixError "PrefixTokenFormatError"
          ("Derived prefix '" ++ token ++ "' violates configured token format.")) := by
  unfold prefixFor validateToken
  split <;> first | rfl | (split_ifs <;> rfl)

section
variable {fullmatch : String → Bool} {matched : List PrefixRule}

omit [Regex] in
theorem prefixFor_derived (hdistinct : distinctIds PrefixRule.toRuleHead rules)
    (hmatched : ∀ rule ∈ matched, rule ∈ rules)
    (hsorted : matched.Pairwise fun rule rule' =>
      (rankingOf PrefixRule.toRuleHead).key rule ≤ (rankingOf PrefixRule.toRuleHead).key rule')
    (hnodup : matched.Nodup) {rule : PrefixRule} (hrule : rule ∈ rules) :
    (∃ diagnostics, prefixFor fullmatch matched fallbackPrefix =
      .ok ⟨.derived, some rule.token, some rule.ruleId, diagnostics⟩) ↔
      choose (rankingOf PrefixRule.toRuleHead) matched = .sole rule ∧
        fullmatch rule.token = true := by
  rw [prefixFor_eq]
  constructor
  · rintro ⟨diagnostics, h⟩
    split at h
    · next selected hchoice =>
      split_ifs at h with hfull
      have hid := Option.some.inj (congrArg PrefixDecision.matchedRuleId (Except.ok.inj h))
      have hselected := ((choose_sole hsorted hnodup selected).mp hchoice).1
      obtain rfl := List.inj_on_of_nodup_map hdistinct (hmatched _ hselected) hrule hid
      exact ⟨hchoice, hfull⟩
    · cases h
    · cases h
    · split_ifs at h with hfull
      cases h
  · rintro ⟨hchoice, hfull⟩
    exact ⟨matched.map (·.ruleId), by simp [hchoice, hfull]⟩

omit [Regex] in
theorem prefixFor_ambiguous :
    Fails "PrefixRuleAmbiguityError"
      (prefixFor fullmatch matched fallbackPrefix) ↔
      choose (rankingOf PrefixRule.toRuleHead) matched = .tied := by
  rw [prefixFor_eq]
  split
  · next hchoice => split_ifs <;> simp [hchoice, prefixError, Exn.isInstance]
  · next hchoice => simp [hchoice, prefixAmbiguity, prefixError, Exn.isInstance]
  · next hchoice => simp [hchoice, prefixNotFound, prefixError, Exn.isInstance]
  · next hchoice => split_ifs <;> simp [hchoice, prefixError, Exn.isInstance]

omit [Regex] in
theorem prefixFor_fallback (token : String) :
    prefixFor fullmatch matched fallbackPrefix = .ok ⟨.fallback, some token, none, ["fallback"]⟩ ↔
      choose (rankingOf PrefixRule.toRuleHead) matched = .nothing ∧ fallbackPrefix = some token ∧
        fullmatch token = true := by
  rw [prefixFor_eq]
  split
  · next hchoice => split_ifs <;> simp [hchoice]
  · next hchoice => simp [hchoice]
  · next hchoice => simp [hchoice]
  · next given hchoice =>
    by_cases hgiven : given = token
    · subst hgiven
      split_ifs with hfull <;> simp [hchoice, hfull]
    · split_ifs <;> simp [hchoice, hgiven]

omit [Regex] in
theorem prefixFor_notFound :
    Fails "PrefixDerivationNotFoundError"
      (prefixFor fullmatch matched fallbackPrefix) ↔
      choose (rankingOf PrefixRule.toRuleHead) matched = .nothing ∧ fallbackPrefix = none := by
  rw [prefixFor_eq]
  split
  · next hchoice => split_ifs <;> simp [hchoice, prefixError, Exn.isInstance]
  · next hchoice => simp [hchoice, prefixAmbiguity, prefixError, Exn.isInstance]
  · next hchoice => simp [hchoice, prefixNotFound, prefixError, Exn.isInstance]
  · next hchoice => split_ifs <;> simp [hchoice, prefixError, Exn.isInstance]

omit [Regex] in
theorem prefixFor_format :
    Fails "PrefixTokenFormatError"
      (prefixFor fullmatch matched fallbackPrefix) ↔
      (∃ rule, choose (rankingOf PrefixRule.toRuleHead) matched = .sole rule ∧
        ¬fullmatch rule.token = true) ∨
      choose (rankingOf PrefixRule.toRuleHead) matched = .nothing ∧
        ∃ token, fallbackPrefix = some token ∧ ¬fullmatch token = true := by
  rw [prefixFor_eq]
  split
  · next hchoice => split_ifs with hfull <;> simp [hchoice, hfull, prefixError, Exn.isInstance]
  · next hchoice => simp [hchoice, prefixAmbiguity, prefixError, Exn.isInstance]
  · next hchoice => simp [hchoice, prefixNotFound, prefixError, Exn.isInstance]
  · next hchoice => split_ifs with hfull <;> simp [hchoice, hfull, prefixError, Exn.isInstance]

end

variable (attributes rules fallbackPrefix tokenPattern) in
/-- What a prefix is derived by. -/
structure PrefixLaws : Prop where
  derived : ∀ rule ∈ rules,
    (∃ diagnostics, derivePrefix attributes rules fallbackPrefix tokenPattern =
      .ok ⟨.derived, some rule.token, some rule.ruleId, diagnostics⟩) ↔
    ∃ fullmatch, PrefixesAccepted rules tokenPattern fullmatch ∧
      Sole (rankingOf PrefixRule.toRuleHead)
        (matching PrefixRule.toRuleHead attributes rules) rule ∧
      fullmatch rule.token = true
  ambiguous :
    Fails "PrefixRuleAmbiguityError"
      (derivePrefix attributes rules fallbackPrefix tokenPattern) ↔
    ∃ fullmatch, PrefixesAccepted rules tokenPattern fullmatch ∧
      Tied (rankingOf PrefixRule.toRuleHead) (matching PrefixRule.toRuleHead attributes rules)
  fallback : ∀ token,
    derivePrefix attributes rules fallbackPrefix tokenPattern =
      .ok ⟨.fallback, some token, none, ["fallback"]⟩ ↔
    ∃ fullmatch, PrefixesAccepted rules tokenPattern fullmatch ∧
      matching PrefixRule.toRuleHead attributes rules = [] ∧ fallbackPrefix = some token ∧
      fullmatch token = true
  notFound :
    Fails "PrefixDerivationNotFoundError"
      (derivePrefix attributes rules fallbackPrefix tokenPattern) ↔
    ∃ fullmatch, PrefixesAccepted rules tokenPattern fullmatch ∧
      matching PrefixRule.toRuleHead attributes rules = [] ∧ fallbackPrefix = none
  format :
    Fails "PrefixTokenFormatError"
      (derivePrefix attributes rules fallbackPrefix tokenPattern) ↔
    ∃ fullmatch, PrefixesAccepted rules tokenPattern fullmatch ∧
      ((∃ rule, Sole (rankingOf PrefixRule.toRuleHead)
          (matching PrefixRule.toRuleHead attributes rules) rule ∧ ¬fullmatch rule.token = true) ∨
        matching PrefixRule.toRuleHead attributes rules = [] ∧
          ∃ token, fallbackPrefix = some token ∧ ¬fullmatch token = true)
  perm : PrefixesWellFormed rules → ∀ rules', rules.Perm rules' →
    derivePrefix attributes rules' fallbackPrefix tokenPattern =
      derivePrefix attributes rules fallbackPrefix tokenPattern
  insert : ∀ rule before after, rules = before ++ after →
    PrefixesWellFormed (before ++ rule :: after) → rule.matchesFacts attributes = false →
    derivePrefix attributes (before ++ rule :: after) fallbackPrefix tokenPattern =
      derivePrefix attributes rules fallbackPrefix tokenPattern

/-- With accepted rules a law of the choice is a law of the call; without, neither side holds. -/
theorem derivePrefix_iff (Answer : Except Exn PrefixDecision → Prop)
    {Law : (String → Bool) → Prop}
    (hrefused : ∀ e, PrefixRefused e → ¬Answer (.error e))
    (h : ∀ fullmatch, PrefixesAccepted rules tokenPattern fullmatch →
      (Answer (prefixFor fullmatch
        (matchesOf PrefixRule.toRuleHead attributes rules) fallbackPrefix) ↔
        Law fullmatch)) :
    Answer (derivePrefix attributes rules fallbackPrefix tokenPattern) ↔
      ∃ fullmatch, PrefixesAccepted rules tokenPattern fullmatch ∧ Law fullmatch := by
  by_cases haccepted : ∃ fullmatch, PrefixesAccepted rules tokenPattern fullmatch
  · obtain ⟨fullmatch, hfull⟩ := haccepted
    rw [derivePrefix_accepted hfull, h fullmatch hfull]
    refine ⟨fun hlaw => ⟨fullmatch, hfull, hlaw⟩, ?_⟩
    rintro ⟨fullmatch', hfull', hlaw⟩
    obtain rfl := Except.ok.inj (hfull.1.symm.trans hfull'.1)
    exact hlaw
  · have hnone : ∀ fullmatch, ¬PrefixesAccepted rules tokenPattern fullmatch :=
      not_exists.mp haccepted
    obtain ⟨e, he, hclass⟩ :=
      derivePrefix_refused attributes rules fallbackPrefix tokenPattern hnone
    rw [he]
    exact iff_of_false (hrefused e hclass) fun ⟨fullmatch, hfull, _⟩ => hnone fullmatch hfull

theorem derivePrefix_congr {rules' : List PrefixRule} (h : PrefixesWellFormed rules)
    (h' : PrefixesWellFormed rules')
    (hmatches : matchesOf PrefixRule.toRuleHead attributes rules' =
      matchesOf PrefixRule.toRuleHead attributes rules) :
    derivePrefix attributes rules' fallbackPrefix tokenPattern =
      derivePrefix attributes rules fallbackPrefix tokenPattern := by
  simp only [derivePrefix, validatePrefixes_ok.mpr h, validatePrefixes_ok.mpr h', hmatches]

theorem prefixLaws : PrefixLaws attributes rules fallbackPrefix tokenPattern where
  derived rule hrule := by
    refine derivePrefix_iff (fun r => ∃ diagnostics, r =
      .ok ⟨.derived, some rule.token, some rule.ruleId, diagnostics⟩) (by simp)
        fun fullmatch h => ?_
    rw [prefixFor_derived h.2.distinct
      (fun r hr => List.mem_of_mem_filter ((mem_matchesOf r).mp hr)) (matchesOf_sorted _ _ _)
      (matchesOf_nodup h.2.distinct) hrule, choose_matching_sole h.2.distinct]
  ambiguous := by
    refine derivePrefix_iff (Fails _) (fun e he => he.not_fails (by decide)) fun fullmatch h => ?_
    rw [prefixFor_ambiguous, choose_matching_tied h.2.distinct]
  fallback token := by
    refine derivePrefix_iff (· = .ok _) (by simp) fun fullmatch h => ?_
    rw [prefixFor_fallback, choose_matching_nothing]
  notFound := by
    refine derivePrefix_iff (Fails _) (fun e he => he.not_fails (by decide)) fun fullmatch h => ?_
    rw [prefixFor_notFound, choose_matching_nothing]
  format := by
    refine derivePrefix_iff (Fails _) (fun e he => he.not_fails (by decide)) fun fullmatch h => ?_
    simp only [prefixFor_format, choose_matching_nothing, choose_matching_sole h.2.distinct]
  perm h rules' hperm := derivePrefix_congr h (h.perm hperm) (matchesOf_perm h.distinct hperm).symm
  insert := by
    rintro rule before after rfl h hrule
    exact derivePrefix_congr h.without h (matchesOf_insert h.distinct hrule)

end

/-- Whatever the rules, the facts and the default: both engines choose the one matching rule of the
highest priority, tell a tie from no match, and do not depend on the order of the rules or on rules
that do not match. -/
theorem rules_pick_best [Regex] :
    (∀ routeFacts rules defaultDestinations destinationPattern,
      RouteLaws routeFacts rules defaultDestinations destinationPattern) ∧
    ∀ attributes rules fallbackPrefix tokenPattern,
      PrefixLaws attributes rules fallbackPrefix tokenPattern :=
  ⟨fun _ _ _ _ => routeLaws, fun _ _ _ _ => prefixLaws⟩

def xrdRoute (ruleId : String) : RouteRule where
  ruleId
  priority := some 1
  predicates := [("device", .scalar "xrd")]
  destinations := ["xrd"]

section
attribute [local instance] Regex.words

/-- No rule matches, and neither is there a fallback nor is no route found: the default is no
destination. Two rules share the highest priority, and there is no ambiguity: a third has no id. -/
theorem default_and_tie_refused :
    ¬((∃ destinations, decideRoute (fun _ => none) [xrdRoute "r1"]
      (some ["not a token"]) "[A-Za-z0-9_]+" =
          .ok ⟨.defaulted, destinations, none, ["default"]⟩) ∨
        Fails "RoutingRuleNotFoundError"
          (decideRoute (fun _ => none) [xrdRoute "r1"] (some ["not a token"]) "[A-Za-z0-9_]+") ↔
      matching RouteRule.toRuleHead (fun _ => none) [xrdRoute "r1"] = []) ∧
    ¬(Fails "RoutingRuleAmbiguityError" (decideRoute (fun _ => some "xrd")
        [xrdRoute "", xrdRoute "r1", xrdRoute "r2"] none "[A-Za-z0-9_]+") ↔
      Tied (rankingOf RouteRule.toRuleHead) (matching RouteRule.toRuleHead (fun _ => some "xrd")
        [xrdRoute "", xrdRoute "r1", xrdRoute "r2"])) := by
  have hdefault : decideRoute (fun _ => none) [xrdRoute "r1"] (some ["not a token"])
      "[A-Za-z0-9_]+" = .error (routingError "RoutingDestinationValidationError"
        "Destination token 'not a token' violates allowed format.") := by decide +kernel
  have hnone : matching RouteRule.toRuleHead (fun _ => none) [xrdRoute "r1"] = [] := by
    decide +kernel
  have htie : decideRoute (fun _ => some "xrd") [xrdRoute "", xrdRoute "r1", xrdRoute "r2"] none
      "[A-Za-z0-9_]+" = .error (routeTexts.error "Rule id must be non-empty.") := by decide +kernel
  have hall : matching RouteRule.toRuleHead (fun _ => some "xrd")
      [xrdRoute "", xrdRoute "r1", xrdRoute "r2"] =
        [xrdRoute "", xrdRoute "r1", xrdRoute "r2"] := by
    decide +kernel
  constructor
  · rw [hdefault]
    exact fun h => by simpa [routingError, Exn.isInstance] using h.mpr hnone
  · rw [htie, hall]
    intro h
    have hfails := h.mpr ⟨xrdRoute "r1", by simp, xrdRoute "r2", by simp, by decide, rfl, by decide⟩
    simp [routeTexts, RuleTexts.error, Exn.isInstance] at hfails

end

end DpostV2.Domain
