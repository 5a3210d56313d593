import Mathlib.Logic.Basic

/-!
# Programs over atomic actions

A `Prog` has returned or raised, or waits for the answer to its next atomic
action. `Prog.run` executes one program alone on a state that answers it.
`Ends` says which sequences of actions and answers lead to which result,
whoever answers; `Ensures` is what holds of all of them, with a rule for each
way a program is built.
-/

namespace DpostV2

inductive Prog (Act : Type) (Res : Act → Type) (ε α : Type) where
  | done (result : Except ε α)
  | act (a : Act) (next : Res a → Prog Act Res ε α)

variable {Act : Type} {Res : Act → Type} {ε α β σ : Type}

namespace Prog

def bind : Prog Act Res ε α → (α → Prog Act Res ε β) → Prog Act Res ε β
  | .done (.ok a), f => f a
  | .done (.error e), _ => .done (.error e)
  | .act a next, f => .act a fun r => (next r).bind f

instance : Monad (Prog Act Res ε) where
  pure a := .done (.ok a)
  bind := Prog.bind

def raise (e : ε) : Prog Act Res ε α := .done (.error e)

def perform (a : Act) : Prog Act Res ε (Res a) := .act a fun r => .done (.ok r)

/-- A step that acts on nothing shared. -/
def lift (x : Except ε α) : Prog Act Res ε α := .done x

@[simp] theorem pure_eq (a : α) : (pure a : Prog Act Res ε α) = .done (.ok a) := rfl
@[simp] theorem raise_eq (e : ε) : (raise e : Prog Act Res ε α) = .done (.error e) := rfl

@[simp] theorem bind_ok (a : α) (f : α → Prog Act Res ε β) : (.done (.ok a) >>= f) = f a := rfl

@[simp] theorem bind_error (e : ε) (f : α → Prog Act Res ε β) :
    (.done (.error e) >>= f) = .done (.error e) := rfl

@[simp] theorem bind_act (a : Act) (next : Res a → Prog Act Res ε α) (f : α → Prog Act Res ε β) :
    (Prog.act a next >>= f) = Prog.act a fun r => next r >>= f := rfl

@[simp] theorem perform_bind (a : Act) (f : Res a → Prog Act Res ε β) :
    (perform a >>= f) = .act a f := rfl

@[simp] theorem map_ok (f : α → β) (a : α) :
    f <$> (.done (.ok a) : Prog Act Res ε α) = .done (.ok (f a)) := rfl

@[simp] theorem map_error (f : α → β) (e : ε) :
    f <$> (.done (.error e) : Prog Act Res ε α) = .done (.error e) := rfl

@[simp] theorem map_act (f : α → β) (a : Act) (next : Res a → Prog Act Res ε α) :
    f <$> Prog.act a next = Prog.act a fun r => f <$> next r := rfl

/-- The program run alone. -/
def run (exec : (a : Act) → σ → Res a × σ) : Prog Act Res ε α → σ → Except ε α × σ
  | .done x, s => (x, s)
  | .act a next, s => (next (exec a s).1).run exec (exec a s).2

theorem run_bind (exec : (a : Act) → σ → Res a × σ) (p : Prog Act Res ε α)
    (f : α → Prog Act Res ε β) (s : σ) : (p >>= f).run exec s = match p.run exec s with
      | (.ok a, s') => (f a).run exec s'
      | (.error e, s') => (.error e, s') := by
  induction p generalizing s with
  | done x => cases x <;> rfl
  | act a next ih => exact ih _ _

theorem run_bind_error {exec : (a : Act) → σ → Res a × σ} {p : Prog Act Res ε α}
    {f : α → Prog Act Res ε β} {s : σ} {e : ε} (h : (p.run exec s).1 = .error e) :
    ((p >>= f).run exec s).1 = .error e := by
  rw [run_bind]
  generalize p.run exec s = ran at h
  obtain ⟨x, s'⟩ := ran
  subst h
  rfl

/-- Every action the program can come to satisfies `P`. -/
def Every (P : Act → Prop) : Prog Act Res ε α → Prop
  | .done _ => True
  | .act a next => P a ∧ ∀ r, (next r).Every P

@[simp] theorem every_done (P : Act → Prop) (x : Except ε α) :
    (done x : Prog Act Res ε α).Every P ↔ True := Iff.rfl

@[simp] theorem every_act (P : Act → Prop) (a : Act) (next : Res a → Prog Act Res ε α) :
    (act a next).Every P ↔ P a ∧ ∀ r, (next r).Every P := Iff.rfl

theorem Every.bind {P : Act → Prop} {p : Prog Act Res ε α} {f : α → Prog Act Res ε β}
    (hp : p.Every P) (hf : ∀ a, (f a).Every P) : (p >>= f).Every P := by
  induction p with
  | done x =>
    cases x with
    | ok a => exact hf a
    | error e => trivial
  | act a next ih => exact ⟨hp.1, fun r => ih r (hp.2 r)⟩

end Prog

-- ---------------------------------------------------------------------------
-- Traces
-- ---------------------------------------------------------------------------

/-- An action with the answer it got. -/
abbrev Step (Act : Type) (Res : Act → Type) := (a : Act) × Res a

namespace Prog

/-- `try: .. except Exception` around the whole program. -/
def attempt : Prog Act Res ε α → Prog Act Res ε (Except ε α)
  | .done x => .done (.ok x)
  | .act a next => .act a fun r => (next r).attempt

theorem run_attempt (exec : (a : Act) → σ → Res a × σ) (p : Prog Act Res ε α) (s : σ) :
    p.attempt.run exec s = (.ok (p.run exec s).1, (p.run exec s).2) := by
  induction p generalizing s with
  | done x => rfl
  | act a next ih => exact ih _ _

/-- The program ends with `x` when its actions get the answers of `t`. -/
def Ends : Prog Act Res ε α → List (Step Act Res) → Except ε α → Prop
  | .done y, t, x => t = [] ∧ x = y
  | .act a next, t, x => ∃ r t', t = ⟨a, r⟩ :: t' ∧ (next r).Ends t' x

theorem ends_bind {p : Prog Act Res ε α} {f : α → Prog Act Res ε β} {x : Except ε β} :
    (p >>= f).Ends t x ↔ (∃ e, p.Ends t (.error e) ∧ x = .error e) ∨
      ∃ a t₁ t₂, t = t₁ ++ t₂ ∧ p.Ends t₁ (.ok a) ∧ (f a).Ends t₂ x := by
  induction p generalizing t with
  | done y =>
    cases y with
    | error e =>
      simp only [bind_error, Ends]
      constructor
      · rintro ⟨rfl, rfl⟩
        exact .inl ⟨e, ⟨rfl, rfl⟩, rfl⟩
      · rintro (⟨e', ⟨rfl, he⟩, rfl⟩ | ⟨a, t₁, t₂, rfl, ⟨-, ha⟩, -⟩)
        · cases he
          exact ⟨rfl, rfl⟩
        · cases ha
    | ok a =>
      simp only [bind_ok, Ends]
      constructor
      · intro h
        exact .inr ⟨a, [], t, rfl, ⟨rfl, rfl⟩, h⟩
      · rintro (⟨e, ⟨-, he⟩, -⟩ | ⟨a', t₁, t₂, rfl, ⟨rfl, ha⟩, h⟩)
        · cases he
        · cases ha
          exact h
  | act a next ih =>
    simp only [bind_act, Ends]
    constructor
    · rintro ⟨r, t', rfl, h⟩
      rcases (ih r).mp h with ⟨e, he, hx⟩ | ⟨b, t₁, t₂, rfl, h₁, h₂⟩
      · exact .inl ⟨e, ⟨r, t', rfl, he⟩, hx⟩
      · exact .inr ⟨b, ⟨a, r⟩ :: t₁, t₂, rfl, ⟨r, t₁, rfl, h₁⟩, h₂⟩
    · rintro (⟨e, ⟨r, t', rfl, he⟩, hx⟩ | ⟨b, _, t₂, rfl, ⟨r, t₁, rfl, h₁⟩, h₂⟩)
      · exact ⟨r, t', rfl, (ih r).mpr (.inl ⟨e, he, hx⟩)⟩
      · exact ⟨r, t₁ ++ t₂, rfl, (ih r).mpr (.inr ⟨b, t₁, t₂, rfl, h₁, h₂⟩)⟩

theorem ends_attempt {p : Prog Act Res ε α} {x : Except ε (Except ε α)} :
    p.attempt.Ends t x ↔ ∃ y, p.Ends t y ∧ x = .ok y := by
  induction p generalizing t with
  | done y =>
    simp only [attempt, Ends]
    constructor
    · rintro ⟨rfl, rfl⟩
      exact ⟨y, ⟨rfl, rfl⟩, rfl⟩
    · rintro ⟨z, ⟨rfl, rfl⟩, rfl⟩
      exact ⟨rfl, rfl⟩
  | act a next ih =>
    simp only [attempt, Ends]
    constructor
    · rintro ⟨r, t', rfl, h⟩
      obtain ⟨y, hy, hx⟩ := (ih r).mp h
      exact ⟨y, ⟨r, t', rfl, hy⟩, hx⟩
    · rintro ⟨y, ⟨r, t', rfl, hy⟩, hx⟩
      exact ⟨r, t', rfl, (ih r).mpr ⟨y, hy, hx⟩⟩

theorem Every.attempt {P : Act → Prop} {p : Prog Act Res ε α} (h : p.Every P) :
    p.attempt.Every P := by
  induction p with
  | done x => trivial
  | act a next ih => exact ⟨h.1, fun r => ih r (h.2 r)⟩

theorem Every.ends {P : Act → Prop} {p : Prog Act Res ε α} (h : p.Every P) (ht : p.Ends t x) :
    ∀ e ∈ t, P e.1 := by
  induction p generalizing t with
  | done y =>
    obtain ⟨rfl, -⟩ := ht
    simp
  | act a next ih =>
    obtain ⟨r, t', rfl, ht⟩ := ht
    intro e he
    rcases List.mem_cons.mp he with rfl | he
    · exact h.1
    · exact ih r (h.2 r) ht e he

/-- What a run alone does, action by action. -/
def trace (exec : (a : Act) → σ → Res a × σ) : Prog Act Res ε α → σ → List (Step Act Res)
  | .done _, _ => []
  | .act a next, s => ⟨a, (exec a s).1⟩ :: (next (exec a s).1).trace exec (exec a s).2

theorem run_ends (exec : (a : Act) → σ → Res a × σ) (p : Prog Act Res ε α) (s : σ) :
    p.Ends (p.trace exec s) (p.run exec s).1 := by
  induction p generalizing s with
  | done x => exact ⟨rfl, rfl⟩
  | act a next ih => exact ⟨_, _, rfl, ih _ _⟩

/-- The state after the actions of a trace. -/
def after (exec : (a : Act) → σ → Res a × σ) (s : σ) : List (Step Act Res) → σ
  | [] => s
  | e :: t => after exec (exec e.1 s).2 t

/-- The answers of the trace are those of the state. -/
def Played (exec : (a : Act) → σ → Res a × σ) (s : σ) : List (Step Act Res) → Prop
  | [] => True
  | e :: t => e.2 = (exec e.1 s).1 ∧ Played exec (exec e.1 s).2 t

section
variable {exec : (a : Act) → σ → Res a × σ} {t u : List (Step Act Res)}

@[simp] theorem after_nil {s : σ} : after exec s [] = s := rfl

@[simp] theorem after_cons {s : σ} : after exec s (e :: t) = after exec (exec e.1 s).2 t := rfl

@[simp] theorem after_append {s : σ} : after exec s (t ++ u) = after exec (after exec s t) u := by
  induction t generalizing s with
  | nil => rfl
  | cons e t ih => exact ih

@[simp] theorem played_cons {s : σ} :
    Played exec s (e :: t) ↔ e.2 = (exec e.1 s).1 ∧ Played exec (exec e.1 s).2 t := Iff.rfl

@[simp] theorem played_append {s : σ} :
    Played exec s (t ++ u) ↔ Played exec s t ∧ Played exec (after exec s t) u := by
  induction t generalizing s with
  | nil => simp [Played]
  | cons e t ih => simp [ih, and_assoc]

theorem played_trace (p : Prog Act Res ε α) (s : σ) : Played exec s (p.trace exec s) := by
  induction p generalizing s with
  | done x => trivial
  | act a next ih => exact ⟨rfl, ih _ _⟩

/-- The answers decide the run. -/
theorem run_of_ends {p : Prog Act Res ε α} {s : σ} (h : p.Ends t x) (ht : Played exec s t) :
    p.run exec s = (x, after exec s t) := by
  induction p generalizing s t with
  | done y =>
    obtain ⟨rfl, rfl⟩ := h
    rfl
  | act a next ih =>
    obtain ⟨r, t', rfl, h⟩ := h
    obtain ⟨hr, ht⟩ := ht
    simp only at hr
    rw [hr] at h
    simp only [run, after_cons]
    exact ih _ h ht

/-- Each step of a trace was answered by the state it came to. -/
theorem Played.answer {s : σ} (h : Played exec s t) (he : e ∈ t) :
    ∃ t₁ t₂, t = t₁ ++ e :: t₂ ∧ e.2 = (exec e.1 (after exec s t₁)).1 := by
  obtain ⟨t₁, t₂, rfl⟩ := List.append_of_mem he
  exact ⟨t₁, t₂, rfl, (played_append.mp h).2.1⟩

/-- A run alone leaves what its trace leaves. -/
theorem run_after (p : Prog Act Res ε α) (s : σ) :
    (p.run exec s).2 = after exec s (p.trace exec s) := by
  induction p generalizing s with
  | done x => rfl
  | act a next ih => exact ih _ _

/-- What each action of a trace keeps, the trace keeps. -/
theorem after_invariant {I : σ → Prop} {P : Act → Prop} {s : σ}
    (hstep : ∀ a s, P a → I s → I (exec a s).2) (ht : ∀ e ∈ t, P e.1) (hs : I s) :
    I (after exec s t) := by
  induction t generalizing s with
  | nil => exact hs
  | cons e t ih =>
    exact ih (fun e' he' => ht e' (List.mem_cons_of_mem _ he')) (hstep _ _ (ht e (by simp)) hs)

end

/-- Whatever the answers, the trace and the result satisfy `P`. -/
def Ensures (p : Prog Act Res ε α) (P : List (Step Act Res) → Except ε α → Prop) : Prop :=
  ∀ t x, p.Ends t x → P t x

namespace Ensures

variable {p : Prog Act Res ε α} {P P' : List (Step Act Res) → Except ε α → Prop}

theorem mono (h : p.Ensures P) (hP : ∀ t x, P t x → P' t x) : p.Ensures P' :=
  fun t x ht => hP t x (h t x ht)

theorem done {x : Except ε α} (h : P [] x) : (Prog.done x : Prog Act Res ε α).Ensures P := by
  rintro t y ⟨rfl, rfl⟩
  exact h

theorem pure (h : P [] (.ok a)) : (Pure.pure a : Prog Act Res ε α).Ensures P := done h

theorem act {next : Res a → Prog Act Res ε α} (h : ∀ r, (next r).Ensures fun t => P (⟨a, r⟩ :: t)) :
    (Prog.act a next).Ensures P := by
  rintro t x ⟨r, t', rfl, ht⟩
  exact h r t' x ht

theorem bind {f : α → Prog Act Res ε β} {R : List (Step Act Res) → Except ε β → Prop}
    (hp : p.Ensures P) (hok : ∀ a t, P t (.ok a) → (f a).Ensures fun t' => R (t ++ t'))
    (herr : ∀ e t, P t (.error e) → R t (.error e)) : (p >>= f).Ensures R := by
  intro t x ht
  rcases ends_bind.mp ht with ⟨e, he, rfl⟩ | ⟨a, t₁, t₂, rfl, h₁, h₂⟩
  · exact herr e t (hp t _ he)
  · exact hok a t₁ (hp t₁ _ h₁) t₂ x h₂

theorem attempt {R : List (Step Act Res) → Except ε (Except ε α) → Prop}
    (h : p.Ensures fun t x => R t (.ok x)) : p.attempt.Ensures R := by
  intro t x ht
  obtain ⟨y, hy, rfl⟩ := ends_attempt.mp ht
  exact h t y hy

/-- A `try` never raises by itself. -/
theorem attempt_bind {f : Except ε α → Prog Act Res ε β}
    {R : List (Step Act Res) → Except ε β → Prop}
    (h : ∀ y t, p.Ends t y → (f y).Ensures fun t' => R (t ++ t')) :
      (p.attempt >>= f).Ensures R := by
  intro t x ht
  rcases ends_bind.mp ht with ⟨e, he, -⟩ | ⟨a, t₁, t₂, rfl, h₁, h₂⟩
  · obtain ⟨y, -, hy⟩ := ends_attempt.mp he
    cases hy
  · obtain ⟨y, hp, hy⟩ := ends_attempt.mp h₁
    cases hy
    exact h _ t₁ hp t₂ x h₂

end Ensures

end Prog

end DpostV2
