import Mathlib.Data.List.Basic

/-!
# Patterns

The part of `re` that names are checked with: classes of characters, repeated between two bounds,
lookarounds and the ends of a text. `run` finds every place where an attempt can stand after a
pattern, so that a pattern matches where some choice of a backtracking matcher does.
-/

namespace DpostV2

/-- Where an attempt stands: what is behind it, the last character first, and what is ahead. -/
structure Place where
  behind : List Char
  ahead : List Char

inductive Pattern where
  /-- `^` -/
  | start
  /-- `$` -/
  | stop
  | one (cls : Char → Bool)
  /-- `[...]{least,most}`; without a bound where `most` is missing -/
  | stretch (cls : Char → Bool) (least : Nat) (most : Option Nat)
  /-- `(?!...)` -/
  | notAhead (p : Pattern)
  /-- `(?<!...)` of one character -/
  | notBehind (cls : Char → Bool)
  | next (p q : Pattern)

namespace Pattern

/-- The ways to take characters of a class from the front of a text. -/
def takes (cls : Char → Bool) : List Char → List (List Char × List Char)
  | [] => [([], [])]
  | c :: rest =>
    ([], c :: rest) :: if cls c then (takes cls rest).map fun (w, rest) => (c :: w, rest) else []

def withinBounds (least : Nat) (most : Option Nat) (n : Nat) : Bool :=
  least ≤ n && most.all fun most => n ≤ most

def run : Pattern → Place → List Place
  | start, at_ => if at_.behind.isEmpty then [at_] else []
  | stop, at_ => if at_.ahead.isEmpty || at_.ahead == ['\n'] then [at_] else []
  | one cls, at_ =>
    match at_.ahead with
    | c :: rest => if cls c then [⟨c :: at_.behind, rest⟩] else []
    | [] => []
  | stretch cls least most, at_ =>
    ((takes cls at_.ahead).filter fun (w, _) => withinBounds least most w.length).map
      fun (w, rest) => ⟨w.reverse ++ at_.behind, rest⟩
  | notAhead p, at_ => if (p.run at_).isEmpty then [at_] else []
  | notBehind cls, at_ => if at_.behind.head?.any cls then [] else [at_]
  | next p q, at_ => (p.run at_).flatMap q.run

/-- `pattern.match(text)` -/
def isMatch (p : Pattern) (text : String) : Bool := !(p.run ⟨[], text.toList⟩).isEmpty

/-- `pattern.fullmatch(text)` -/
def isFullmatch (p : Pattern) (text : String) : Bool :=
  (p.run ⟨[], text.toList⟩).any fun at_ => at_.ahead.isEmpty

-- ---------------------------------------------------------------------------
-- Where an attempt can stand
-- ---------------------------------------------------------------------------

variable {cls : Char → Bool} {p q : Pattern} {b l : List Char} {at_ : Place}

section

-- `run` unfolds in this section only: behind it a pattern is known by what its attempts end at.
attribute [local simp] takes run

theorem mem_takes {w rest : List Char} :
    (w, rest) ∈ takes cls l ↔ l = w ++ rest ∧ ∀ c ∈ w, cls c = true := by
  induction l generalizing w with
  | nil => cases w <;> simp
  | cons c l ih =>
    cases w with
    | nil =>
      have hnil : ([], rest) ∈ takes cls (c :: l) ↔ rest = c :: l := by
        by_cases hc : cls c = true <;> simp [hc]
      rw [hnil, List.nil_append, eq_comm]
      exact (and_iff_left fun c hc => absurd hc List.not_mem_nil).symm
    | cons d w =>
      have hcons : (d :: w, rest) ∈ takes cls (c :: l) ↔
          cls c = true ∧ d = c ∧ (w, rest) ∈ takes cls l := by
        by_cases hc : cls c = true <;> simp [hc, and_comm, eq_comm]
      rw [hcons, ih, List.cons_append, List.cons.injEq, List.forall_mem_cons]
      constructor
      · rintro ⟨hc, rfl, hl, hw⟩
        exact ⟨⟨rfl, hl⟩, hc, hw⟩
      · rintro ⟨⟨rfl, hl⟩, hc, hw⟩
        exact ⟨hc, rfl, hl, hw⟩

@[simp] theorem mem_run_start : at_ ∈ run start ⟨b, l⟩ ↔ b = [] ∧ at_ = ⟨b, l⟩ := by
  cases b <;> simp

@[simp] theorem mem_run_stop :
    at_ ∈ run stop ⟨b, l⟩ ↔ (l = [] ∨ l = ['\n']) ∧ at_ = ⟨b, l⟩ := by
  by_cases h : l = [] ∨ l = ['\n'] <;> simp [h]

@[simp] theorem mem_run_one : at_ ∈ run (one cls) ⟨b, l⟩ ↔
    ∃ c rest, l = c :: rest ∧ cls c = true ∧ at_ = ⟨c :: b, rest⟩ := by
  cases l with
  | nil => simp
  | cons c l =>
    by_cases hc : cls c = true
    · simp [hc]
    · simp [hc]

@[simp] theorem mem_run_stretch {least : Nat} {most : Option Nat} :
    at_ ∈ run (stretch cls least most) ⟨b, l⟩ ↔
      ∃ w rest, l = w ++ rest ∧ (∀ c ∈ w, cls c = true) ∧
        withinBounds least most w.length = true ∧ at_ = ⟨w.reverse ++ b, rest⟩ := by
  simp only [run, List.mem_map, List.mem_filter, Prod.exists, mem_takes]
  grind

@[simp] theorem mem_run_notAhead :
    at_ ∈ run (notAhead p) ⟨b, l⟩ ↔ (∀ x, x ∉ p.run ⟨b, l⟩) ∧ at_ = ⟨b, l⟩ := by
  cases h : p.run ⟨b, l⟩ with
  | nil => simp [h]
  | cons x xs => simpa [h] using fun hx => absurd (hx x) (by simp)

@[simp] theorem mem_run_notBehind :
    at_ ∈ run (notBehind cls) ⟨b, l⟩ ↔ b.head?.any cls = false ∧ at_ = ⟨b, l⟩ := by
  cases h : b.head?.any cls <;> simp [h]

@[simp] theorem mem_run_next :
    at_ ∈ run (next p q) ⟨b, l⟩ ↔ ∃ x ∈ p.run ⟨b, l⟩, at_ ∈ q.run x := by
  simp [List.mem_flatMap]

end

theorem next_start : at_ ∈ run (next start q) ⟨b, l⟩ ↔ b = [] ∧ at_ ∈ q.run ⟨b, l⟩ := by simp

theorem next_one : at_ ∈ run (next (one cls) q) ⟨b, l⟩ ↔
    ∃ c rest, l = c :: rest ∧ cls c = true ∧ at_ ∈ q.run ⟨c :: b, rest⟩ := by
  simp only [mem_run_next, mem_run_one]
  constructor
  · rintro ⟨_, ⟨c, rest, hl, hc, rfl⟩, h⟩
    exact ⟨c, rest, hl, hc, h⟩
  · rintro ⟨c, rest, hl, hc, h⟩
    exact ⟨_, ⟨c, rest, hl, hc, rfl⟩, h⟩

theorem next_stretch {least : Nat} {most : Option Nat} :
    at_ ∈ run (next (stretch cls least most) q) ⟨b, l⟩ ↔
      ∃ w rest, l = w ++ rest ∧ (∀ c ∈ w, cls c = true) ∧
        withinBounds least most w.length = true ∧ at_ ∈ q.run ⟨w.reverse ++ b, rest⟩ := by
  simp only [mem_run_next, mem_run_stretch]
  constructor
  · rintro ⟨_, ⟨w, rest, hl, hw, hbounds, rfl⟩, h⟩
    exact ⟨w, rest, hl, hw, hbounds, h⟩
  · rintro ⟨w, rest, hl, hw, hbounds, h⟩
    exact ⟨_, ⟨w, rest, hl, hw, hbounds, rfl⟩, h⟩

theorem next_notAhead : at_ ∈ run (next (notAhead p) q) ⟨b, l⟩ ↔
    (∀ x, x ∉ p.run ⟨b, l⟩) ∧ at_ ∈ q.run ⟨b, l⟩ := by
  simp

theorem next_notBehind : at_ ∈ run (next (notBehind cls) q) ⟨b, l⟩ ↔
    b.head?.any cls = false ∧ at_ ∈ q.run ⟨b, l⟩ := by
  simp

theorem isMatch_iff {text : String} : p.isMatch text = true ↔ ∃ x, x ∈ p.run ⟨[], text.toList⟩ := by
  cases h : p.run ⟨[], text.toList⟩ with
  | nil => simp [isMatch, h]
  | cons x xs => exact iff_of_true (by simp [isMatch, h]) ⟨x, List.mem_cons_self⟩

theorem isFullmatch_iff {text : String} :
    p.isFullmatch text = true ↔ ∃ b, ⟨b, []⟩ ∈ p.run ⟨[], text.toList⟩ := by
  simp only [isFullmatch, List.any_eq_true, List.isEmpty_iff]
  constructor
  · rintro ⟨⟨b, l⟩, hmem, rfl⟩
    exact ⟨b, hmem⟩
  · rintro ⟨b, hmem⟩
    exact ⟨_, hmem, rfl⟩

/-- A stretch fills a text of its class and length. -/
theorem isFullmatch_stretch {least : Nat} {most : Option Nat} {text : String} :
    (stretch cls least most).isFullmatch text = true ↔
      (∀ c ∈ text.toList, cls c = true) ∧
        withinBounds least most text.toList.length = true := by
  rw [isFullmatch_iff]
  simp

end Pattern

end DpostV2
