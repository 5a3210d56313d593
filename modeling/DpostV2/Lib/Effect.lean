import DpostV2.Lib.Prog

/-!
# Effects with exceptions

`Eff ε σ α` runs on a state and returns or raises; what was done before an
exception stays done. On a `Traced` state it can call a world, which answers
as it likes. `Triple` is correctness with one postcondition for
each way out.
-/

namespace DpostV2

def Eff (ε σ α : Type) := σ → Except ε α × σ

variable {ε σ α β γ : Type}

namespace Eff

def run (m : Eff ε σ α) (s : σ) : Except ε α × σ := m s

def bind (m : Eff ε σ α) (f : α → Eff ε σ β) : Eff ε σ β := fun s =>
  match m s with
  | (.ok a, s') => f a s'
  | (.error e, s') => (.error e, s')

instance : Monad (Eff ε σ) where
  pure a := fun s => (.ok a, s)
  bind := Eff.bind

def raise (e : ε) : Eff ε σ α := fun s => (.error e, s)

/-- `try: .. except Exception` around the whole of `m`. -/
def attempt (m : Eff ε σ α) : Eff ε σ (Except ε α) := fun s => (.ok (m s).1, (m s).2)

def lift (x : Except ε α) : Eff ε σ α := fun s => (x, s)

def get : Eff ε σ σ := fun s => (.ok s, s)

def modify (f : σ → σ) : Eff ε σ Unit := fun s => (.ok (), f s)

@[simp] theorem run_pure (a : α) (s : σ) : (pure a : Eff ε σ α).run s = (.ok a, s) := rfl
@[simp] theorem run_raise (e : ε) (s : σ) : (raise e : Eff ε σ α).run s = (.error e, s) := rfl
@[simp] theorem run_lift (x : Except ε α) (s : σ) : (lift x : Eff ε σ α).run s = (x, s) := rfl
@[simp] theorem run_get (s : σ) : (get : Eff ε σ σ).run s = (.ok s, s) := rfl
@[simp] theorem run_modify (f : σ → σ) (s : σ) :
    (modify f : Eff ε σ Unit).run s = (.ok (), f s) := rfl

@[simp] theorem run_attempt (m : Eff ε σ α) (s : σ) :
    m.attempt.run s = (.ok (m.run s).1, (m.run s).2) := rfl

@[simp] theorem run_bind (m : Eff ε σ α) (f : α → Eff ε σ β) (s : σ) :
    (m >>= f).run s = match m.run s with
      | (.ok a, s') => (f a).run s'
      | (.error e, s') => (.error e, s') := rfl

theorem lift_ok_bind (a : α) (f : α → Eff ε σ β) : (lift (.ok a) >>= f) = f a := rfl

end Eff

-- ---------------------------------------------------------------------------
-- Calls to a world
-- ---------------------------------------------------------------------------

/-- A state, the world its calls go to, and the calls so far with their answers. -/
structure Traced (σ W Act : Type) (Res : Act → Type) where
  state : σ
  world : W
  log : List (Step Act Res)

namespace Traced
variable {σ W Act : Type} {Res : Act → Type}

def answered (exec : (a : Act) → W → Res a × W) (a : Act) (s : Traced σ W Act Res) :
    Traced σ W Act Res :=
  { s with world := (exec a s.world).2, log := s.log ++ [⟨a, (exec a s.world).1⟩] }

/-- Make a call; what it raises is raised. -/
def perform {Answer : Act → Type} (exec : (a : Act) → W → Except ε (Answer a) × W) (a : Act) :
    Eff ε (Traced σ W Act fun a => Except ε (Answer a)) (Answer a) :=
  fun s => ((exec a s.world).1, s.answered exec a)

def read : Eff ε (Traced σ W Act Res) σ := fun s => (.ok s.state, s)

def write (f : σ → σ) : Eff ε (Traced σ W Act Res) Unit :=
  fun s => (.ok (), { s with state := f s.state })

section
variable {Answer : Act → Type} {exec : (a : Act) → W → Except ε (Answer a) × W} {a : Act}

theorem run_read (s : Traced σ W Act Res) : (read : Eff ε _ σ).run s = (.ok s.state, s) := rfl

end

end Traced

-- ---------------------------------------------------------------------------
-- Triples
-- ---------------------------------------------------------------------------

def Triple (m : Eff ε σ α) (s : σ) (Q : α → σ → Prop) (E : ε → σ → Prop) : Prop :=
  match m.run s with
  | (.ok a, s') => Q a s'
  | (.error e, s') => E e s'

namespace Triple

variable {m : Eff ε σ α} {s : σ} {Q Q' : α → σ → Prop} {R : β → σ → Prop} {E E' : ε → σ → Prop}

theorem pure (h : Q a s) : Triple (Pure.pure a : Eff ε σ α) s Q E := h

theorem raise (h : E e s) : Triple (Eff.raise e : Eff ε σ α) s Q E := h

theorem lift {x : Except ε α} (hok : ∀ a, x = .ok a → Q a s) (herr : ∀ e, x = .error e → E e s) :
    Triple (Eff.lift x) s Q E := by
  cases x with
  | ok a => exact hok a rfl
  | error e => exact herr e rfl

theorem get {R : σ → σ → Prop} (h : R s s) : Triple (Eff.get : Eff ε σ σ) s R E := h

theorem modify {f : σ → σ} {R : Unit → σ → Prop} (h : R () (f s)) :
    Triple (Eff.modify f : Eff ε σ Unit) s R E := h

theorem read {W Act : Type} {Res : Act → Type} {s : Traced σ W Act Res}
    {R : σ → Traced σ W Act Res → Prop} {E : ε → Traced σ W Act Res → Prop} (h : R s.state s) :
    Triple Traced.read s R E := h

theorem write {W Act : Type} {Res : Act → Type} {s : Traced σ W Act Res} {f : σ → σ}
    {R : Unit → Traced σ W Act Res → Prop} {E : ε → Traced σ W Act Res → Prop}
    (h : R () { s with state := f s.state }) : Triple (Traced.write f) s R E := h

theorem perform {W Act : Type} {Answer : Act → Type}
    {exec : (a : Act) → W → Except ε (Answer a) × W} {a : Act}
    {s : Traced σ W Act fun a => Except ε (Answer a)} {Q : Answer a → _ → Prop} {E : ε → _ → Prop}
    (hok : ∀ x, (exec a s.world).1 = .ok x → Q x (s.answered exec a))
    (herr : ∀ e, (exec a s.world).1 = .error e → E e (s.answered exec a)) :
    Triple (Traced.perform exec a) s Q E := by
  have hrun : (Traced.perform exec a).run s = ((exec a s.world).1, s.answered exec a) := rfl
  unfold Triple
  rw [hrun]
  cases h : (exec a s.world).1 with
  | ok x => exact hok x h
  | error e => exact herr e h

/-- Whatever the world answers, and whatever it is afterwards. -/
theorem call {W Act : Type} {Answer : Act → Type}
    {exec : (a : Act) → W → Except ε (Answer a) × W} {a : Act}
    {s : Traced σ W Act fun a => Except ε (Answer a)} {Q : Answer a → _ → Prop} {E : ε → _ → Prop}
    (hok : ∀ x w, Q x { s with world := w, log := s.log ++ [⟨a, .ok x⟩] })
    (herr : ∀ e w, E e { s with world := w, log := s.log ++ [⟨a, .error e⟩] }) :
    Triple (Traced.perform exec a) s Q E := by
  refine perform ?_ ?_
  · intro x hx
    have hq := hok x (exec a s.world).2
    rw [← hx] at hq
    exact hq
  · intro e he
    have hq := herr e (exec a s.world).2
    rw [← he] at hq
    exact hq

theorem bind {f : α → Eff ε σ β} (hm : Triple m s Q E)
    (hf : ∀ a s', Q a s' → Triple (f a) s' R E) : Triple (m >>= f) s R E := by
  unfold Triple at hm ⊢
  rw [Eff.run_bind]
  cases hr : m.run s with
  | mk x s' =>
    rw [hr] at hm
    cases x with
    | ok a => exact hf a s' hm
    | error e => exact hm

section
variable {W Act : Type} {Res : Act → Type} {s : Traced σ W Act Res}
  {R : β → Traced σ W Act Res → Prop} {E : ε → Traced σ W Act Res → Prop}

/-- On with what is read. -/
theorem readThen {f : σ → Eff ε (Traced σ W Act Res) β} (h : Triple (f s.state) s R E) :
    Triple (Traced.read >>= f) s R E := h

theorem writeThen {f : σ → σ} {g : Unit → Eff ε (Traced σ W Act Res) β}
    (h : Triple (g ()) { s with state := f s.state } R E) : Triple (Traced.write f >>= g) s R E := h

end

theorem attempt {R : Except ε α → σ → Prop} (h : Triple m s (fun a s' => R (.ok a) s')
    (fun e s' => R (.error e) s')) : Triple m.attempt s R E := by
  unfold Triple at h ⊢
  rw [Eff.run_attempt]
  cases hr : m.run s with
  | mk x s' =>
    rw [hr] at h
    cases x <;> exact h

theorem mono (h : Triple m s Q E) (hQ : ∀ a s', Q a s' → Q' a s') (hE : ∀ e s', E e s' → E' e s') :
    Triple m s Q' E' := by
  unfold Triple at h ⊢
  cases hr : m.run s with
  | mk x s' =>
    rw [hr] at h
    cases x with
    | ok a => exact hQ a s' h
    | error e => exact hE e s' h

/-- What a run does, as its own postcondition. -/
theorem result : Triple m s (fun a s' => m.run s = (.ok a, s'))
    (fun e s' => m.run s = (.error e, s')) := by
  unfold Triple
  cases hr : m.run s with
  | mk x s' => cases x <;> rfl

theorem ok (h : Triple m s Q E) (hr : m.run s = (.ok a, s')) : Q a s' := by
  unfold Triple at h
  rw [hr] at h
  exact h

theorem error (h : Triple m s Q E) (hr : m.run s = (.error e, s')) : E e s' := by
  unfold Triple at h
  rw [hr] at h
  exact h

theorem run (h : Triple m s Q E) : (∃ a, (m.run s).1 = .ok a ∧ Q a (m.run s).2) ∨
    ∃ e, (m.run s).1 = .error e ∧ E e (m.run s).2 := by
  unfold Triple at h
  cases hr : m.run s with
  | mk x s' =>
    rw [hr] at h
    cases x with
    | ok a => exact .inl ⟨a, rfl, h⟩
    | error e => exact .inr ⟨e, rfl, h⟩

end Triple

-- From here on a triple is what its rules say.
attribute [irreducible] Triple

-- ---------------------------------------------------------------------------
-- Invariants
-- ---------------------------------------------------------------------------

/-- `m` leaves an invariant as it is, whichever way it ends. -/
def Keeps (I : σ → Prop) (m : Eff ε σ α) : Prop := ∀ s, I s → Triple m s (fun _ => I) (fun _ => I)

namespace Keeps

variable {I : σ → Prop} {m : Eff ε σ α} {s : σ} {R : β → σ → Prop} {E : ε → σ → Prop}

theorem pure (a : α) : Keeps I (Pure.pure a : Eff ε σ α) := fun _ h => .pure h

theorem raise (e : ε) : Keeps I (Eff.raise e : Eff ε σ α) := fun _ h => .raise h

theorem lift (x : Except ε α) : Keeps I (Eff.lift x : Eff ε σ α) :=
  fun _ h => .lift (fun _ _ => h) fun _ _ => h

theorem read {W Act : Type} {Res : Act → Type} {I : Traced σ W Act Res → Prop} :
    Keeps (ε := ε) I Traced.read := fun _ h => .read h

theorem bind {f : α → Eff ε σ β} (hm : Keeps I m) (hf : ∀ a, Keeps I (f a)) : Keeps I (m >>= f) :=
  fun s h => .bind (hm s h) fun a s' h' => hf a s' h'

theorem attempt (h : Keeps I m) : Keeps I m.attempt := fun s hs => .attempt (h s hs)

/-- A call the invariant does not depend on. -/
theorem call {W Act : Type} {Answer : Act → Type}
    {exec : (a : Act) → W → Except ε (Answer a) × W} {a : Act}
    {I : Traced σ W Act (fun a => Except ε (Answer a)) → Prop}
    (h : ∀ s x w, I s → I { s with world := w, log := s.log ++ [⟨a, x⟩] }) :
    Keeps I (Traced.perform exec a) :=
  fun s hs => .call (fun x w => h s (.ok x) w hs) fun e w => h s (.error e) w hs

/-- A part that keeps the invariant, and then the rest. -/
theorem andThen {f : α → Eff ε σ β} (hm : Keeps I m) (h : I s) (herr : ∀ e s', I s' → E e s')
    (hok : ∀ a s', I s' → Triple (f a) s' R E) : Triple (m >>= f) s R E :=
  .bind ((hm s h).mono (fun _ _ h => h) herr) hok

end Keeps

end DpostV2
