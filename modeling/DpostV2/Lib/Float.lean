import DpostV2.Lib.Python

/-!
# Floats with infinities and NaN

`int`, `float` and `round` of numbers that may be out of range. A finite float is its exact value:
what fifty-three bits leave of it is not followed, only which integers are beyond a double.
-/

namespace DpostV2

inductive PyFloat where
  | finite (q : Seconds)
  | inf (negative : Bool)
  | nan
  deriving DecidableEq, Repr

def overflowError (message : String) : Exn :=
  { mro := ["OverflowError", "ArithmeticError", "Exception"], message }

/-- The least integer that rounds beyond every float. -/
def floatLimit : Nat := 2 ^ 1024 - 2 ^ 970

/-- `float(n)` of an integer. -/
def PyFloat.ofInt (n : Int) : Except Exn PyFloat :=
  if n.natAbs < floatLimit then .ok (.finite n)
  else .error (overflowError "int too large to convert to float")

/-- `int(x)` of a float. -/
def PyFloat.toInt : PyFloat → Except Exn Int
  | .finite q => .ok (if 0 ≤ q then ⌊q⌋ else ⌈q⌉)
  | .inf _ => .error (overflowError "cannot convert float infinity to integer")
  | .nan => .error (valueError "cannot convert float NaN to integer")

/-- `x < 0`: false of NaN. -/
def PyFloat.isNegative : PyFloat → Bool
  | .finite q => decide (q < 0)
  | .inf negative => negative
  | .nan => false

/-- `round(x, 6)`. -/
def PyFloat.round6 : PyFloat → PyFloat
  | .finite q => .finite (pyRound6 q)
  | x => x

/-- `0.0 if x < 0 else x`. -/
def PyFloat.clamp (x : PyFloat) : PyFloat := if x.isNegative then .finite 0 else x

/-- Below no infinity: the clamp leaves a number. -/
def PyFloat.Bounded : PyFloat → Prop
  | .finite _ => True
  | .inf negative => negative = true
  | .nan => False

instance : DecidablePred PyFloat.Bounded
  | .finite _ => isTrue trivial
  | .inf negative => decEq negative true
  | .nan => isFalse id

theorem PyFloat.bounded_iff {x : PyFloat} :
    x.Bounded ↔ ∃ q, 0 ≤ q ∧ x.clamp = .finite q := by
  cases x with
  | finite q =>
    refine iff_of_true trivial ?_
    by_cases hneg : q < 0
    · exact ⟨0, le_rfl, by simp [clamp, isNegative, hneg]⟩
    · exact ⟨q, not_lt.mp hneg, by simp [clamp, isNegative, hneg]⟩
  | inf negative => cases negative <;> simp [Bounded, clamp, isNegative]
  | nan => simp [Bounded, clamp, isNegative]

theorem PyFloat.bounded_of_round {x : PyFloat} {q : Seconds} (h : x.clamp.round6 = .finite q) :
    x.Bounded := by
  cases x with
  | finite q => exact trivial
  | inf negative => cases negative <;> simp_all [Bounded, clamp, isNegative, round6]
  | nan => simp [clamp, isNegative, round6] at h

end DpostV2
