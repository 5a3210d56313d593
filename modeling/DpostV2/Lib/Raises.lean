import Mathlib.Tactic.Basic

/-!
# What a computation raises

`RaisesIn P x`: every exception of `x` is in `P`. The rules follow the shape of
a computation, so that a bound for a sequence is put together from the bounds of
its steps.
-/

namespace DpostV2

/-- What raises out of `x` is in `P`. -/
def RaisesIn (P : ε → Prop) (x : Except ε α) : Prop := ∀ e, x = .error e → P e

namespace RaisesIn

variable {P Q : ε → Prop}

theorem mono {x : Except ε α} (h : RaisesIn P x) (hPQ : ∀ e, P e → Q e) : RaisesIn Q x :=
  fun e he => hPQ e (h e he)

theorem ok (a : α) : RaisesIn P (.ok a : Except ε α) := fun _ h => nomatch h

theorem error {e : ε} (h : P e) : RaisesIn P (.error e : Except ε α) := by
  intro e' he
  cases he
  exact h

theorem bind {x : Except ε α} {f : α → Except ε β} (hx : RaisesIn P x)
    (hf : ∀ a, x = .ok a → RaisesIn P (f a)) : RaisesIn P (x >>= f) := by
  intro e h
  cases hxe : x with
  | error e' =>
    rw [hxe] at h
    cases h
    exact hx e hxe
  | ok a =>
    rw [hxe] at h
    exact hf a hxe e h

/-- A sequence raises what its steps raise. -/
theorem bind_iff {x : Except ε α} {f : α → Except ε β} :
    RaisesIn P (x >>= f) ↔ RaisesIn P x ∧ ∀ a, x = .ok a → RaisesIn P (f a) := by
  constructor
  · intro h
    cases x with
    | error e => exact ⟨error (h e rfl), fun _ ha => nomatch ha⟩
    | ok a => exact ⟨ok a, fun a' ha => by cases ha; exact h⟩
  · exact fun h => h.1.bind h.2

theorem foldlM {f : β → α → Except ε β} (hf : ∀ b a, RaisesIn P (f b a)) (l : List α) (b : β) :
    RaisesIn P (l.foldlM f b) := by
  induction l generalizing b with
  | nil => exact ok b
  | cons a l ih =>
    rw [List.foldlM_cons]
    exact (hf b a).bind fun b' _ => ih b'

end RaisesIn

end DpostV2
