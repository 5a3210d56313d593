import DpostV2.Lib.Regex
import DpostV2.Lib.Split
import DpostV2.Lib.Words

/-!
# Canonical names

`compose_name` joins the values of the segments a template names. Neither the pattern nor the
template keeps the separator out of the values; `canonical_name_segments` says when a name still
tells the segments it was composed of.
-/

namespace DpostV2.Naming

open Split

def namingError (cls message : String) : Exn :=
  { mro := [cls, "NamingPolicyError", "ValueError", "Exception"], message }

def templateError (message : String) : Exn := namingError "NamingTemplateError" message

def missingSegmentError (segment : String) : Exn :=
  namingError "NamingMissingSegmentError" s!"Missing required segment token for '{segment}'."

def knownSegments : List String := ["prefix", "identifier", "timestamp", "batch", "route"]

structure NamingTemplate where
  segments : List String
  separator : String := "_"
  requiredSegments : Option (List String) := none

structure NamingConstraints where
  maxLength : Int := 255
  allowedSegmentPattern : String := "[A-Za-z0-9_-]+"

structure NamingCompositionResult where
  canonicalName : String
  segments : List (String × String)
  normalizedAlternate : String
  identityHash : String
  deriving DecidableEq

/-- `template.required_segments or template.segments`. -/
def NamingTemplate.required (template : NamingTemplate) : List String :=
  match template.requiredSegments.getD [] with
  | [] => template.segments
  | required => required

def validateTemplate (template : NamingTemplate) : Except Exn (List String) :=
  if template.separator = "" then .error (templateError "Template separator must be non-empty.")
  else if template.segments = [] then
    .error (templateError "Template must contain at least one segment.")
  else
    match template.segments.find? (!knownSegments.contains ·) with
    | some segment =>
      .error (templateError s!"Unknown segment placeholder '{segment}' in naming template.")
    | none =>
      if template.required.all template.segments.contains then .ok template.required
      else .error (templateError "Required segment definitions must exist in template segments.")

def validateSegmentValue (segmentName value : String) (fullmatch : String → Bool) :
    Except Exn Unit :=
  if value = "" then .error (missingSegmentError segmentName)
  else if !fullmatch value then
    .error (namingError "NamingSegmentValidationError"
      s!"Segment '{segmentName}' contains invalid characters.")
  else .ok ()

/-- The loop over the segments of the template. -/
def orderSegments (required : List String) (fullmatch : String → Bool)
    (segmentValues : String → Option String) : List String → Except Exn (List (String × String))
  | [] => .ok []
  | segment :: rest =>
    match segmentValues segment with
    | none =>
      if required.contains segment then .error (missingSegmentError segment)
      else orderSegments required fullmatch segmentValues rest
    | some value => do
      validateSegmentValue segment value fullmatch
      return (segment, value) :: (← orderSegments required fullmatch segmentValues rest)

section
variable [Interpreter] [Casefold]

def stableHash (text : String) : String :=
  String.ofList ((Interpreter.textDigest text).toList.take 16)

def composed (separator : String) (ordered : List (String × String)) : NamingCompositionResult :=
  let canonical := separator.intercalate (ordered.map Prod.snd)
  { canonicalName := canonical
    segments := ordered
    normalizedAlternate := casefold canonical
    identityHash := stableHash canonical }

def checkLength (constraints : NamingConstraints) (result : NamingCompositionResult) :
    Except Exn NamingCompositionResult :=
  if constraints.maxLength < result.canonicalName.length then
    .error (namingError "NamingLengthError"
      "Composed name exceeds configured maximum length constraint.")
  else .ok result

def composeName [Regex] (template : NamingTemplate) (segmentValues : String → Option String)
    (constraints : NamingConstraints) : Except Exn NamingCompositionResult := do
  let required ← validateTemplate template
  let fullmatch ← compile constraints.allowedSegmentPattern
  let ordered ← orderSegments required fullmatch segmentValues template.segments
  checkLength constraints (composed template.separator ordered)

end

-- ---------------------------------------------------------------------------
-- What is composed
-- ---------------------------------------------------------------------------

variable {template : NamingTemplate} {constraints : NamingConstraints} {required : List String}
  {fullmatch : String → Bool} {values values' : String → Option String}

theorem validateTemplate_ok (h : validateTemplate template = .ok required) :
    template.separator ≠ "" ∧ required = template.required := by
  unfold validateTemplate at h
  split at h
  · cases h
  · next hsep =>
    split at h
    · cases h
    · split at h
      · cases h
      · split at h
        · exact ⟨hsep, (Except.ok.inj h).symm⟩
        · cases h

theorem validateSegmentValue_ok {segment value : String}
    (h : validateSegmentValue segment value fullmatch = .ok ()) :
    value ≠ "" ∧ fullmatch value = true := by
  unfold validateSegmentValue at h
  split at h
  · cases h
  · next hne =>
    split at h
    · cases h
    · next hmatch => exact ⟨hne, by simpa using hmatch⟩

/-- The segments that are given, in the order of the template; the others are not required. -/
theorem orderSegments_ok {segments : List String} {ordered : List (String × String)}
    (h : orderSegments required fullmatch values segments = .ok ordered) :
    ordered = segments.filterMap (fun segment => (values segment).map (segment, ·)) ∧
      (∀ segment ∈ segments, segment ∈ required → (values segment).isSome = true) ∧
      ∀ value ∈ ordered.map Prod.snd, value ≠ "" ∧ fullmatch value = true := by
  induction segments generalizing ordered with
  | nil =>
    obtain rfl := Except.ok.inj h
    simp
  | cons segment rest ih =>
    unfold orderSegments at h
    cases hvalue : values segment with
    | none =>
      simp only [hvalue] at h
      split at h
      · cases h
      · next hoptional =>
        obtain ⟨rfl, hgiven, hvalid⟩ := ih h
        refine ⟨by simp [hvalue], List.forall_mem_cons.mpr ⟨fun hmem => ?_, hgiven⟩, hvalid⟩
        exact absurd (List.contains_iff_mem.mpr hmem) hoptional
    | some value =>
      simp only [hvalue] at h
      obtain ⟨_, hcheck, h⟩ := except_bind_ok.mp h
      obtain ⟨orderedRest, hrest, h⟩ := except_bind_ok.mp h
      obtain rfl := except_pure_ok.mp h
      obtain ⟨rfl, hgiven, hvalid⟩ := ih hrest
      refine ⟨by simp [hvalue], List.forall_mem_cons.mpr ⟨fun _ => by simp [hvalue], hgiven⟩, ?_⟩
      exact List.forall_mem_cons.mpr ⟨validateSegmentValue_ok hcheck, hvalid⟩

section
variable [Interpreter] [Casefold]

theorem composeName_ok [Regex] {result : NamingCompositionResult}
    (h : composeName template values constraints = .ok result) :
    template.separator ≠ "" ∧
      result = composed template.separator
        (template.segments.filterMap fun segment => (values segment).map (segment, ·)) ∧
      (∀ segment ∈ template.segments, segment ∈ template.required →
        (values segment).isSome = true) ∧
      ∃ fullmatch, compile constraints.allowedSegmentPattern = .ok fullmatch ∧
        ∀ value ∈ result.segments.map Prod.snd, value ≠ "" ∧ fullmatch value = true := by
  obtain ⟨required, htemplate, h⟩ := except_bind_ok.mp h
  obtain ⟨hsep, rfl⟩ := validateTemplate_ok htemplate
  obtain ⟨fullmatch, hcompile, h⟩ := except_bind_ok.mp h
  obtain ⟨ordered, hordered, h⟩ := except_bind_ok.mp h
  unfold checkLength at h
  split at h
  · cases h
  · obtain rfl := Except.ok.inj h
    obtain ⟨rfl, hgiven, hvalid⟩ := orderSegments_ok hordered
    exact ⟨hsep, rfl, hgiven, fullmatch, hcompile, hvalid⟩

-- ---------------------------------------------------------------------------
-- What a name tells
-- ---------------------------------------------------------------------------

/-- In the composed name the separator begins in none of the values. -/
def NamingCompositionResult.Clear (separator : String) (result : NamingCompositionResult) : Prop :=
  UnbrokenJoin [separator.toList] separator.toList
    ((result.segments.map Prod.snd).map String.toList)

instance (separator : String) (result : NamingCompositionResult) :
    Decidable (result.Clear separator) := decidableUnbrokenJoin _ _ _

/-- The pattern admits no value with the first character of the separator. -/
def SeparatorExcluded [Regex] (template : NamingTemplate) (constraints : NamingConstraints) :
    Prop :=
  ∀ fullmatch, compile constraints.allowedSegmentPattern = .ok fullmatch →
    ∀ value, fullmatch value = true → ∀ c ∈ template.separator.toList.head?, c ∉ value.toList

theorem clear_of_excluded [Regex] {result : NamingCompositionResult}
    (hexcluded : SeparatorExcluded template constraints)
    (h : composeName template values constraints = .ok result) :
    result.Clear template.separator := by
  obtain ⟨hsep, -, -, fullmatch, hcompile, hvalid⟩ := composeName_ok h
  have hsep : template.separator.toList ≠ [] := mt String.toList_eq_nil_iff.mp hsep
  obtain ⟨c, cs, hc⟩ := List.exists_cons_of_ne_nil hsep
  unfold NamingCompositionResult.Clear
  rw [hc]
  refine unbrokenJoin_of_not_mem fun text htext => ?_
  obtain ⟨value, hvalue, rfl⟩ := List.mem_map.mp htext
  exact hexcluded fullmatch hcompile value (hvalid value hvalue).2 c (by rw [hc]; rfl)

omit [Interpreter] [Casefold] in
/-- The values are read off a name in which the separator begins in none of them. -/
theorem values_eq {separator : String} {given given' : List String} (hsep : separator ≠ "")
    (hne : ∀ value ∈ given, value ≠ "") (hne' : ∀ value ∈ given', value ≠ "")
    (h : UnbrokenJoin [separator.toList] separator.toList (given.map String.toList))
    (h' : UnbrokenJoin [separator.toList] separator.toList (given'.map String.toList))
    (heq : separator.intercalate given = separator.intercalate given') : given = given' := by
  have hlists := congrArg String.toList heq
  rw [String.toList_intercalate, String.toList_intercalate] at hlists
  -- the name of a first value that is not empty is not empty
  have hname {value : String} {rest : List String} (hvalue : value ≠ "") :
      separator.toList.intercalate ((value :: rest).map String.toList) ≠ [] := by
    intro hnil
    have hlist : value.toList ≠ [] := mt String.toList_eq_nil_iff.mp hvalue
    have hhead : (separator.toList.intercalate ((value :: rest).map String.toList)).head? =
        value.toList.head? := head?_intercalate hlist (rest.map String.toList)
    rw [hnil] at hhead
    exact hlist (List.head?_eq_none_iff.mp hhead.symm)
  cases given with
  | nil =>
    cases given' with
    | nil => rfl
    | cons value rest => exact absurd hlists.symm (hname (hne' value List.mem_cons_self))
  | cons value rest =>
    cases given' with
    | nil => exact absurd hlists (hname (hne value List.mem_cons_self))
    | cons value' rest' =>
      have hsep : separator.toList ≠ [] := mt String.toList_eq_nil_iff.mp hsep
      have hsame := join_injective hsep (List.cons_ne_nil _ _) (List.cons_ne_nil _ _) h h' hlists
      exact List.map_injective_iff.mpr (fun _ _ => String.toList_inj.mp) hsame

omit [Interpreter] [Casefold] in
/-- The segments given are told by their values if the same ones are given. -/
theorem segments_eq {segments : List String}
    (hgiven : ∀ segment ∈ segments, (values segment).isSome = (values' segment).isSome)
    (h : (segments.filterMap fun segment => (values segment).map (segment, ·)).map Prod.snd =
      (segments.filterMap fun segment => (values' segment).map (segment, ·)).map Prod.snd) :
    segments.filterMap (fun segment => (values segment).map (segment, ·)) =
      segments.filterMap fun segment => (values' segment).map (segment, ·) := by
  induction segments with
  | nil => rfl
  | cons segment rest ih =>
    obtain ⟨hsame, hrest⟩ := List.forall_mem_cons.mp hgiven
    cases hvalue : values segment with
    | none =>
      have hvalue' : values' segment = none := by simpa [hvalue] using hsame.symm
      simp only [List.filterMap_cons, hvalue, hvalue', Option.map_none] at h ⊢
      exact ih hrest h
    | some value =>
      obtain ⟨value', hvalue'⟩ : ∃ value', values' segment = some value' := by
        rw [← Option.isSome_iff_exists, ← hsame, hvalue]
        rfl
      simp only [List.filterMap_cons, hvalue, hvalue', Option.map_some, List.map_cons,
        List.cons.injEq] at h ⊢
      exact ⟨by rw [h.1], ih hrest h.2⟩

/-- Two equal names were composed of the same segments, if the mappings give the same optional
ones and the separator begins in no value of either name; so it is of every name where the pattern
keeps the separator out of the values. -/
theorem canonical_name_segments [Regex] {result result' : NamingCompositionResult}
    (h : composeName template values constraints = .ok result)
    (h' : composeName template values' constraints = .ok result')
    (hname : result.canonicalName = result'.canonicalName)
    (hgiven : ∀ segment ∈ template.segments, segment ∉ template.required →
      (values segment).isSome = (values' segment).isSome)
    (hclear : result.Clear template.separator ∧ result'.Clear template.separator ∨
      SeparatorExcluded template constraints) : result.segments = result'.segments := by
  obtain ⟨hclear, hclear'⟩ : result.Clear template.separator ∧
    result'.Clear template.separator := by
    rcases hclear with hclear | hexcluded
    · exact hclear
    · exact ⟨clear_of_excluded hexcluded h, clear_of_excluded hexcluded h'⟩
  obtain ⟨hsep, hresult, hrequired, _, -, hvalid⟩ := composeName_ok h
  obtain ⟨-, hresult', hrequired', _, -, hvalid'⟩ := composeName_ok h'
  have hsame : ∀ segment ∈ template.segments,
      (values segment).isSome = (values' segment).isSome := by
    intro segment hsegment
    by_cases hmem : segment ∈ template.required
    · rw [hrequired segment hsegment hmem, hrequired' segment hsegment hmem]
    · exact hgiven segment hsegment hmem
  have hvalues : result.segments.map Prod.snd = result'.segments.map Prod.snd := by
    refine values_eq hsep (fun v hv => (hvalid v hv).1)
      (fun v hv => (hvalid' v hv).1) hclear hclear' ?_
    rwa [hresult, hresult'] at hname ⊢
  rw [hresult, hresult'] at hvalues ⊢
  exact segments_eq hsame hvalues

end

section
attribute [local instance] Interpreter.ascii Casefold.ascii Regex.words

def prefixedTemplate : NamingTemplate := { segments := ["prefix", "identifier"] }

/-- The mapping of a prefix and an identifier. -/
def prefixed (namePrefix identifier : String) (segment : String) : Option String :=
  if segment = "prefix" then some namePrefix
  else if segment = "identifier" then some identifier
  else none

/-- And of a batch, which the template does not name. -/
def batched (segment : String) : Option String :=
  if segment = "batch" then some "b1" else prefixed "RHE" "abc" segment

theorem canonical_name_segments_prefixed :
    ∃ result result',
      composeName prefixedTemplate (prefixed "RHE" "abc") {} = .ok result ∧
      composeName prefixedTemplate batched {} = .ok result' ∧
      result.segments = result'.segments := by
  have h : composeName prefixedTemplate (prefixed "RHE" "abc") {} =
      .ok (composed "_" [("prefix", "RHE"), ("identifier", "abc")]) := by decide +kernel
  have h' : composeName prefixedTemplate batched {} =
      .ok (composed "_" [("prefix", "RHE"), ("identifier", "abc")]) := by decide +kernel
  refine ⟨_, _, h, h', canonical_name_segments h h' rfl (by decide +kernel) (.inl ?_)⟩
  exact ⟨by decide +kernel, by decide +kernel⟩

/-- Only the prefix is required. -/
def optionalTemplate : NamingTemplate :=
  { segments := ["prefix", "batch", "route"], requiredSegments := some ["prefix"] }

/-- The mapping of a prefix and one other segment. -/
def withOptional (name value : String) (segment : String) : Option String :=
  if segment = "prefix" then some "RHE" else if segment = name then some value else none

/-- A part of the identifier moves into the prefix; and a batch is taken for a route, though the
separator begins in no value. -/
theorem prefixed_ambiguous :
    (∃ result result',
      composeName prefixedTemplate (prefixed "a_b" "c") {} = .ok result ∧
      composeName prefixedTemplate (prefixed "a" "b_c") {} = .ok result' ∧
      result.canonicalName = result'.canonicalName ∧ result.segments ≠ result'.segments) ∧
    ∃ result result',
      composeName optionalTemplate (withOptional "batch" "x1") {} = .ok result ∧
      composeName optionalTemplate (withOptional "route" "x1") {} = .ok result' ∧
      (result.Clear "_" ∧ result'.Clear "_") ∧
      result.canonicalName = result'.canonicalName ∧ result.segments ≠ result'.segments := by
  refine ⟨⟨composed "_" [("prefix", "a_b"), ("identifier", "c")],
    composed "_" [("prefix", "a"), ("identifier", "b_c")], ?_⟩,
    composed "_" [("prefix", "RHE"), ("batch", "x1")],
    composed "_" [("prefix", "RHE"), ("route", "x1")], ?_⟩
  · exact ⟨by decide +kernel, by decide +kernel, by decide +kernel, by decide +kernel⟩
  · refine ⟨by decide +kernel, by decide +kernel, ⟨by decide +kernel, by decide +kernel⟩, ?_⟩
    exact ⟨by decide +kernel, by decide +kernel⟩

end

end DpostV2.Naming
