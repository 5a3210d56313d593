import Mathlib.Logic.Function.Basic
import DpostV2.Lib.Prog

/-!
# Interleavings of programs

`interleave` lets any family of programs act on one shared state in the
order of a schedule and records the history.

Two facts about a history carry every proof: it is `Legal` (each answer is
the one the shared state gives at that moment), and each program `Follows`
it (its own events are a path through it). Nothing else about the schedule
is needed.
-/

namespace DpostV2

variable {Act : Type} {Res : Act → Type} {ε α β σ ι : Type} {who : ι}

-- ---------------------------------------------------------------------------
-- Histories
-- ---------------------------------------------------------------------------

/-- One atomic action of one program, with the answer it got. -/
structure Event (ι Act : Type) (Res : Act → Type) where
  who : ι
  act : Act
  res : Res act

/-- The shared state after the actions of a history. -/
def replay (exec : (a : Act) → σ → Res a × σ) (s : σ) (t : List (Event ι Act Res)) : σ :=
  t.foldl (fun s e => (exec e.act s).2) s

@[simp] theorem replay_nil (exec : (a : Act) → σ → Res a × σ) (s : σ) :
    replay exec s ([] : List (Event ι Act Res)) = s := rfl

@[simp] theorem replay_cons (exec : (a : Act) → σ → Res a × σ) (s : σ) (e : Event ι Act Res)
    (t : List (Event ι Act Res)) :
    replay exec s (e :: t) = replay exec (exec e.act s).2 t := rfl

theorem replay_append (exec : (a : Act) → σ → Res a × σ) (s : σ) (t u : List (Event ι Act Res)) :
    replay exec s (t ++ u) = replay exec (replay exec s t) u := List.foldl_append ..

/-- Every answer is the one the shared state gives at that moment. -/
def Legal (exec : (a : Act) → σ → Res a × σ) : σ → List (Event ι Act Res) → Prop
  | _, [] => True
  | s, e :: t => e.res = (exec e.act s).1 ∧ Legal exec (exec e.act s).2 t

theorem legal_append {exec : (a : Act) → σ → Res a × σ} {s : σ} {t u : List (Event ι Act Res)} :
    Legal exec s (t ++ u) ↔ Legal exec s t ∧ Legal exec (replay exec s t) u := by
  induction t generalizing s with
  | nil => simp [Legal]
  | cons e t ih => simp [Legal, ih, and_assoc]

/-- The answer of an event in the middle of a legal history. -/
theorem Legal.res_eq {exec : (a : Act) → σ → Res a × σ} {s : σ} {pre post : List (Event ι Act Res)}
    {e : Event ι Act Res} (h : Legal exec s (pre ++ e :: post)) :
    e.res = (exec e.act (replay exec s pre)).1 :=
  (legal_append.mp h).2.1

/-- The events of `who` in the history are a path from the first program to the second. -/
inductive Follows (who : ι) :
    Prog Act Res ε α → List (Event ι Act Res) → Prog Act Res ε α → Prop
  | nil {p} : Follows who p [] p
  | own {a next r t q} : Follows who (next r) t q → Follows who (.act a next) (⟨who, a, r⟩ :: t) q
  | other {p e t q} : e.who ≠ who → Follows who p t q → Follows who p (e :: t) q

theorem Follows.of_done {x : Except ε α} (h : Follows who (.done x) t q) :
    q = .done x ∧ ∀ e ∈ t, e.who ≠ who := by
  generalize hp : Prog.done x = p at h
  induction h with
  | nil => exact ⟨hp ▸ rfl, by simp⟩
  | own => cases hp
  | other he _ ih =>
    obtain ⟨hq, ht⟩ := ih hp
    refine ⟨hq, ?_⟩
    intro e hm
    rcases List.mem_cons.mp hm with rfl | hm
    · exact he
    · exact ht e hm

/-- A program that waits for an answer has not moved, or its first event is there. -/
theorem Follows.of_act {a : Act} {next : Res a → Prog Act Res ε α}
    (h : Follows who (.act a next) t q) :
    (q = .act a next ∧ ∀ e ∈ t, e.who ≠ who) ∨
      ∃ pre r post, t = pre ++ ⟨who, a, r⟩ :: post ∧ (∀ e ∈ pre, e.who ≠ who) ∧
        Follows who (next r) post q := by
  generalize hp : Prog.act a next = p at h
  induction h with
  | nil => exact .inl ⟨hp ▸ rfl, by simp⟩
  | @own a' next' r t q hf _ =>
    cases hp
    exact .inr ⟨[], r, t, rfl, by simp, hf⟩
  | @other p e t q he _ ih =>
    rcases ih hp with ⟨hq, ht⟩ | ⟨pre, r, post, rfl, hpre, hf⟩
    · refine .inl ⟨hq, ?_⟩
      intro e' hm
      rcases List.mem_cons.mp hm with rfl | hm
      · exact he
      · exact ht e' hm
    · refine .inr ⟨e :: pre, r, post, rfl, ?_, hf⟩
      intro e' hm
      rcases List.mem_cons.mp hm with rfl | hm
      · exact he
      · exact hpre e' hm

theorem Follows.finished {a : Act} {next : Res a → Prog Act Res ε α} {x : Except ε α}
    (h : Follows who (.act a next) t (.done x)) :
    ∃ pre r post, t = pre ++ ⟨who, a, r⟩ :: post ∧ (∀ e ∈ pre, e.who ≠ who) ∧
      Follows who (next r) post (.done x) := by
  rcases h.of_act with ⟨hq, _⟩ | h
  · cases hq
  · exact h

theorem Follows.every {p q : Prog Act Res ε α} {P : Act → Prop} (h : Follows who p t q)
    (hp : p.Every P) : ∀ e ∈ t, e.who = who → P e.act := by
  induction h with
  | nil => simp
  | own _ ih =>
    intro e hm hw
    rcases List.mem_cons.mp hm with rfl | hm
    · exact hp.1
    · exact ih (hp.2 _) e hm hw
  | other he _ ih =>
    intro e hm hw
    rcases List.mem_cons.mp hm with rfl | hm
    · exact absurd hw he
    · exact ih hp e hm hw

-- ---------------------------------------------------------------------------
-- Places in a list
-- ---------------------------------------------------------------------------

theorem append_cons_assoc (p q r : List τ) (x y : τ) :
    p ++ x :: (q ++ y :: r) = (p ++ x :: q) ++ y :: r := by
  simp

/-- The only element that satisfies `P` splits a list in one way. -/
theorem split_unique {P : τ → Prop} {p q p' q' : List τ} {x y : τ}
    (h : p ++ x :: q = p' ++ y :: q') (hp : ∀ e ∈ p, ¬P e) (hq : ∀ e ∈ q, ¬P e) (hy : P y) :
    p = p' ∧ x = y ∧ q = q' := by
  rcases List.append_eq_append_iff.mp h with ⟨c, rfl, hc⟩ | ⟨c, rfl, hc⟩
  · cases c with
    | nil => simpa using hc
    | cons z c =>
      obtain ⟨rfl, rfl⟩ := List.cons.inj hc
      exact absurd hy (hq y (by simp))
  · cases c with
    | nil => simpa [eq_comm] using hc
    | cons z c =>
      obtain ⟨rfl, rfl⟩ := List.cons.inj hc
      exact absurd hy (hp _ (by simp))

/-- The first element that satisfies `P` splits a list in one way. -/
theorem split_first {P : τ → Prop} {p q p' q' : List τ} {x y : τ}
    (h : p ++ x :: q = p' ++ y :: q') (hp : ∀ e ∈ p, ¬P e) (hp' : ∀ e ∈ p', ¬P e)
    (hx : P x) (hy : P y) : p = p' ∧ x = y ∧ q = q' := by
  rcases List.append_eq_append_iff.mp h with ⟨c, rfl, hc⟩ | ⟨c, rfl, hc⟩
  · cases c with
    | nil => simpa using hc
    | cons z c =>
      obtain ⟨rfl, _⟩ := List.cons.inj hc
      exact absurd hx (hp' _ (by simp))
  · cases c with
    | nil => simpa [eq_comm] using hc
    | cons z c =>
      obtain ⟨rfl, _⟩ := List.cons.inj hc
      exact absurd hy (hp _ (by simp))

/-- The last element that satisfies `P` splits a list in one way. -/
theorem split_last {P : τ → Prop} {p q p' q' : List τ} {x y : τ}
    (h : p ++ x :: q = p' ++ y :: q') (hq : ∀ e ∈ q, ¬P e) (hq' : ∀ e ∈ q', ¬P e)
    (hx : P x) (hy : P y) : p = p' ∧ x = y ∧ q = q' := by
  have hr : q.reverse ++ x :: p.reverse = q'.reverse ++ y :: p'.reverse := by
    simpa using congrArg List.reverse h
  obtain ⟨h1, h2, h3⟩ := split_first hr (by simpa using hq) (by simpa using hq') hx hy
  exact ⟨List.reverse_inj.mp h3, h2, List.reverse_inj.mp h1⟩

-- ---------------------------------------------------------------------------
-- Schedules
-- ---------------------------------------------------------------------------

/-- A shared state and what is left of each program. -/
structure Config (ι Act : Type) (Res : Act → Type) (ε α σ : Type) where
  shared : σ
  progs : ι → Prog Act Res ε α

section
variable [DecidableEq ι]

/-- `who` performs its next action, if it has one. -/
def Config.advance (exec : (a : Act) → σ → Res a × σ) (c : Config ι Act Res ε α σ) (who : ι) :
    Config ι Act Res ε α σ × List (Event ι Act Res) :=
  match c.progs who with
  | .done _ => (c, [])
  | .act a next =>
    ({ shared := (exec a c.shared).2,
       progs := Function.update c.progs who (next (exec a c.shared).1) },
      [⟨who, a, (exec a c.shared).1⟩])

/-- The programs act in the order of the schedule. -/
def interleave (exec : (a : Act) → σ → Res a × σ) (c : Config ι Act Res ε α σ) :
    List ι → Config ι Act Res ε α σ × List (Event ι Act Res)
  | [] => (c, [])
  | who :: schedule =>
    let (c, e) := c.advance exec who
    let (c, t) := interleave exec c schedule
    (c, e ++ t)

theorem Config.advance_legal (exec : (a : Act) → σ → Res a × σ) (c : Config ι Act Res ε α σ)
    (who : ι) : Legal exec c.shared (c.advance exec who).2 ∧
      (c.advance exec who).1.shared = replay exec c.shared (c.advance exec who).2 := by
  unfold Config.advance
  split
  · exact ⟨trivial, rfl⟩
  · exact ⟨⟨rfl, trivial⟩, rfl⟩

theorem interleave_legal (exec : (a : Act) → σ → Res a × σ) (c : Config ι Act Res ε α σ)
    (schedule : List ι) : Legal exec c.shared (interleave exec c schedule).2 ∧
      (interleave exec c schedule).1.shared =
        replay exec c.shared (interleave exec c schedule).2 := by
  induction schedule generalizing c with
  | nil => exact ⟨trivial, rfl⟩
  | cons who schedule ih =>
    obtain ⟨hl, hs⟩ := c.advance_legal exec who
    obtain ⟨ihl, ihs⟩ := ih (c.advance exec who).1
    simp only [interleave, legal_append, replay_append]
    rw [hs] at ihl ihs
    exact ⟨⟨hl, ihl⟩, ihs⟩

theorem Config.advance_follows (exec : (a : Act) → σ → Res a × σ) (c : Config ι Act Res ε α σ)
    (who i : ι) (h : Follows i ((c.advance exec who).1.progs i) t q) :
    Follows i (c.progs i) ((c.advance exec who).2 ++ t) q := by
  unfold Config.advance at h ⊢
  cases hp : c.progs who with
  | done x => simpa [hp] using h
  | act a next =>
    simp only [hp] at h ⊢
    by_cases hi : i = who
    · subst hi
      rw [Function.update_self] at h
      rw [hp]
      exact .own h
    · rw [Function.update_of_ne hi] at h
      exact .other (Ne.symm hi) h

theorem interleave_follows (exec : (a : Act) → σ → Res a × σ) (c : Config ι Act Res ε α σ)
    (schedule : List ι) (i : ι) :
    Follows i (c.progs i) (interleave exec c schedule).2
      ((interleave exec c schedule).1.progs i) := by
  induction schedule generalizing c with
  | nil => exact .nil
  | cons who schedule ih => exact c.advance_follows exec who i (ih _)

end

end DpostV2
