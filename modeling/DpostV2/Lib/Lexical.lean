import DpostV2.Lib.PurePath

/-!
# Paths with their `..` taken away

Lexical resolution, as `os.path.normpath` does it: a `..` takes the name before
it away, is lost at the top of an absolute path and stays at the front of a
relative one. A resolved path lies below another when it goes on from it with
names. `below_iff` says what that is without resolving to the end: the path
has a beginning that leads to the other, and never climbs above it from there.
-/

namespace DpostV2

/-- One part, onto the resolved parts before it, the last of them first. -/
def resolvePart (absolute : Bool) (stack : List String) (part : String) : List String :=
  if part = ".." then
    match stack with
    | [] => if absolute then [] else [".."]
    | top :: below => if top = ".." then ".." :: top :: below else below
  else part :: stack

/-- The resolved parts, the last first. -/
def resolveParts (absolute : Bool) (parts : List String) : List String :=
  parts.foldl (resolvePart absolute) []

/-- How many levels below its start a walk of so many levels ends up, unless it
climbs above it on the way. -/
def descend : Nat → List String → Option Nat
  | depth, [] => some depth
  | depth, part :: rest =>
    if part = ".." then
      match depth with
      | 0 => none
      | depth + 1 => descend depth rest
    else descend (depth + 1) rest

def Names (parts : List String) : Prop := ∀ s ∈ parts, s ≠ ".."

section
variable {absolute : Bool}

theorem resolvePart_name {part : String} (h : part ≠ "..") (stack : List String) :
    resolvePart absolute stack part = part :: stack := if_neg h

theorem resolvePart_up {top : String} (h : top ≠ "..") (below : List String) :
    resolvePart absolute (top :: below) ".." = below := if_neg h

theorem descend_name {part : String} (h : part ≠ "..") (depth : Nat) (rest : List String) :
    descend depth (part :: rest) = descend (depth + 1) rest := if_neg h

theorem descend_append {parts rest : List String} {depth : Nat} :
    descend depth (parts ++ rest) = (descend depth parts).bind fun d => descend d rest := by
  induction parts generalizing depth with
  | nil => rfl
  | cons part parts ih =>
    by_cases hpart : part = ".."
    · subst hpart
      cases depth with
      | zero => rfl
      | succ depth => exact ih
    · rw [List.cons_append, descend_name hpart, descend_name hpart]
      exact ih

/-- A walk that does not climb only changes what it has put on top. -/
theorem foldl_resolvePart {rest names stack : List String} {depth : Nat} (hnames : Names names)
    (h : descend names.length rest = some depth) :
    ∃ names', Names names' ∧ names'.length = depth ∧
      rest.foldl (resolvePart absolute) (names ++ stack) = names' ++ stack := by
  induction rest generalizing names with
  | nil => exact ⟨names, hnames, Option.some.inj h, rfl⟩
  | cons part rest ih =>
    rw [List.foldl_cons]
    by_cases hpart : part = ".."
    · subst hpart
      cases names with
      | nil => cases h
      | cons top names =>
        rw [List.cons_append, resolvePart_up (hnames top (.head _))]
        exact ih (fun s hs => hnames s (.tail _ hs)) h
    · rw [resolvePart_name hpart, ← List.cons_append]
      rw [descend_name hpart] at h
      exact ih (List.forall_mem_cons.mpr ⟨hpart, hnames⟩) h

/-- What a walk resolves to that leads to `stack` and does not climb from there. -/
theorem resolveParts_append {before rest : List String} {depth : Nat}
    (h : descend 0 rest = some depth) :
    ∃ names, Names names ∧ names.length = depth ∧
      resolveParts absolute (before ++ rest) = names ++ resolveParts absolute before := by
  rw [resolveParts, List.foldl_append]
  exact @foldl_resolvePart absolute rest [] _ depth (by simp [Names]) h

/-- A walk that ends with names on top of `stack` was at `stack` before it put the first of them. -/
theorem exists_descend {parts names stack : List String} (hnames : Names names)
    (h : resolveParts absolute parts = names ++ stack) :
    ∃ before rest, parts = before ++ rest ∧ resolveParts absolute before = stack ∧
      descend 0 rest = some names.length := by
  induction parts using List.reverseRecOn generalizing names with
  | nil =>
    obtain ⟨hn, hs⟩ := List.append_eq_nil_iff.mp h.symm
    subst hn hs
    exact ⟨[], [], rfl, rfl, rfl⟩
  | append_singleton parts part ih =>
    cases names with
    | nil => exact ⟨_, [], (List.append_nil _).symm, h, rfl⟩
    | cons top names =>
      have hstep : resolvePart absolute (resolveParts absolute parts) part =
          top :: (names ++ stack) := by
        rw [← List.cons_append, ← h, resolveParts, resolveParts, List.foldl_append]
        rfl
      have hrest : Names names := fun s hs => hnames s (.tail _ hs)
      by_cases hpart : part = ".."
      · subst hpart
        have htop : top ≠ ".." := hnames top (.head _)
        obtain ⟨t, ht, hparts⟩ : ∃ t, t ≠ ".." ∧
            resolveParts absolute parts = t :: top :: (names ++ stack) := by
          cases hstack : resolveParts absolute parts with
          | nil =>
            rw [hstack] at hstep
            cases absolute
            · exact absurd (List.cons.inj hstep).1.symm htop
            · cases hstep
          | cons t below =>
            rw [hstack] at hstep
            by_cases ht : t = ".."
            · subst ht
              exact absurd (List.cons.inj hstep).1.symm htop
            · rw [resolvePart_up ht] at hstep
              exact ⟨t, ht, by rw [hstep]⟩
        have hlonger : Names (t :: top :: names) := List.forall_mem_cons.mpr ⟨ht, hnames⟩
        obtain ⟨before, rest, rfl, hb, hd⟩ := ih hlonger hparts
        refine ⟨before, rest ++ [".."], by simp, hb, ?_⟩
        rw [descend_append, hd]
        rfl
      · rw [resolvePart_name hpart] at hstep
        obtain ⟨rfl, hbefore⟩ := List.cons.inj hstep
        obtain ⟨before, rest, rfl, hb, hd⟩ := ih hrest hbefore
        refine ⟨before, rest ++ [part], by simp, hb, ?_⟩
        rw [descend_append, hd, Option.bind_some, descend_name hpart]
        rfl

end

-- ---------------------------------------------------------------------------
-- Below a path
-- ---------------------------------------------------------------------------

def PurePath.isAbsolute (p : PurePath) : Bool := p.root ≠ .relative

/-- The resolved path, its last part first. -/
def PurePath.resolved (p : PurePath) : List String := resolveParts p.isAbsolute p.parts

/-- Resolved, `p` goes on from `q` with this many names. -/
def PurePath.LevelsBelow (p q : PurePath) (levels : Nat) : Prop :=
  p.root = q.root ∧ ∃ names, Names names ∧ names.length = levels ∧ p.resolved = names ++ q.resolved

/-- `p` is `q`, or lies below it. -/
def PurePath.Within (p q : PurePath) : Prop := ∃ levels, p.LevelsBelow q levels

/-- A beginning of `p` leads to `q`, and the rest of it goes down this many levels
without climbing above `q` on the way. -/
def PurePath.LeadsBelow (p q : PurePath) (levels : Nat) : Prop :=
  p.root = q.root ∧ ∃ before rest, p.parts = before ++ rest ∧
    resolveParts q.isAbsolute before = q.resolved ∧ descend 0 rest = some levels

theorem PurePath.levelsBelow_iff (p q : PurePath) (levels : Nat) :
    p.LevelsBelow q levels ↔ p.LeadsBelow q levels := by
  constructor
  · rintro ⟨hroot, names, hnames, rfl, h⟩
    have habs : p.isAbsolute = q.isAbsolute := by rw [isAbsolute, hroot, isAbsolute]
    obtain ⟨before, rest, hparts, hbefore, hrest⟩ := exists_descend hnames h
    exact ⟨hroot, before, rest, hparts, habs ▸ hbefore, hrest⟩
  · rintro ⟨hroot, before, rest, hparts, hbefore, hrest⟩
    have habs : p.isAbsolute = q.isAbsolute := by rw [isAbsolute, hroot, isAbsolute]
    obtain ⟨names, hnames, hlen, h⟩ :=
      @resolveParts_append q.isAbsolute before _ _ hrest
    exact ⟨hroot, names, hnames, hlen, by rw [resolved, habs, hparts, h, hbefore]⟩

theorem PurePath.Within.isSuffixOf {p q : PurePath} (h : p.Within q) :
    q.resolved.isSuffixOf p.resolved = true := by
  obtain ⟨levels, -, names, -, -, h⟩ := h
  exact List.isSuffixOf_iff_suffix.mpr ⟨names, h.symm⟩

end DpostV2
