import DpostV2.Lib.Python

/-!
# Lower case

What `str.lower` promises of every text, and the ASCII instance that keeps it.
-/

namespace DpostV2

/-- What `str.lower` does whatever the text: it keeps what `strip` looks at, and
a text in lower case is left as it is. -/
class LawfulLower [Interpreter] : Prop where
  strip_lower : ∀ s, strip (Interpreter.lower s) = Interpreter.lower (strip s)
  lower_lower : ∀ s, Interpreter.lower (Interpreter.lower s) = Interpreter.lower s
  lower_eq_empty : ∀ s, Interpreter.lower s = "" ↔ s = ""

theorem toLower_toNat (c : Char) :
    c.toLower.toNat = if 65 ≤ c.toNat ∧ c.toNat ≤ 90 then c.toNat + 32 else c.toNat := by
  have hA : 'A'.val.toNat = 65 := rfl
  have hZ : 'Z'.val.toNat = 90 := rfl
  have hd : ('a'.val - 'A'.val).toNat = 32 := rfl
  unfold Char.toLower Char.toNat
  split
  · next h =>
    have h1 := UInt32.le_iff_toNat_le.mp h.1
    have h2 := UInt32.le_iff_toNat_le.mp h.2
    rw [hA] at h1
    rw [hZ] at h2
    rw [if_pos ⟨h1, h2⟩, UInt32.toNat_add, hd]
    omega
  · next h =>
    rw [ge_iff_le, UInt32.le_iff_toNat_le, UInt32.le_iff_toNat_le, hA, hZ] at h
    rw [if_neg h]

theorem isSpace_toLower (c : Char) : isSpace c.toLower = isSpace c := by
  simp only [isSpace, toLower_toNat]
  split <;> grind

theorem toLower_toLower (c : Char) : c.toLower.toLower = c.toLower := by
  apply Char.toNat_inj.mp
  simp only [toLower_toNat]
  split <;> grind

theorem strip_map {f : Char → Char} (hf : ∀ c, isSpace (f c) = isSpace c) (s : String) :
    strip (String.ofList (s.toList.map f)) = String.ofList ((strip s).toList.map f) := by
  have hcomp : isSpace ∘ f = isSpace := funext hf
  simp only [strip, String.toList_ofList, List.rdropWhile, List.dropWhile_map, hcomp,
    ← List.map_reverse]

def asciiLower (s : String) : String := String.ofList (s.toList.map Char.toLower)

theorem asciiLower_idem (s : String) : asciiLower (asciiLower s) = asciiLower s := by
  have hcomp : Char.toLower ∘ Char.toLower = Char.toLower := funext toLower_toLower
  simp [asciiLower, hcomp]

theorem asciiLower_eq_empty (s : String) : asciiLower s = "" ↔ s = "" := by
  simp [asciiLower]

/-- Lower-casing ASCII letters is lawful. -/
theorem lawful_ascii : @LawfulLower Interpreter.ascii :=
  @LawfulLower.mk Interpreter.ascii (strip_map isSpace_toLower) asciiLower_idem asciiLower_eq_empty

-- ---------------------------------------------------------------------------
-- Letters
-- ---------------------------------------------------------------------------

theorem isAlpha_range {c : Char} : c.isAlpha = true ↔
    65 ≤ c.toNat ∧ c.toNat ≤ 90 ∨ 97 ≤ c.toNat ∧ c.toNat ≤ 122 := by
  change (decide (c.val ≥ 65 ∧ c.val ≤ 90) || (c.val ≥ 97 && c.val ≤ 122)) = true ↔ _
  simp only [Bool.or_eq_true, Bool.and_eq_true, decide_eq_true_eq, ge_iff_le,
    UInt32.le_iff_toNat_le]
  rfl

theorem isSpace_of_isAlpha {c : Char} (h : c.isAlpha = true) : isSpace c = false := by
  rw [isAlpha_range] at h
  simp only [isSpace, Bool.or_eq_false_iff, Bool.and_eq_false_iff, decide_eq_false_iff_not,
    beq_eq_false_iff_ne]
  omega

theorem isAlpha_toLower {c : Char} (h : c.isAlpha = true) : c.toLower.isAlpha = true := by
  rw [isAlpha_range] at h ⊢
  rw [toLower_toNat]
  split <;> omega

/-- `str.lower` of ASCII letters. -/
class LowersLetters [Interpreter] : Prop where
  lower_letters : ∀ s : String, (∀ c ∈ s.toList, c.isAlpha = true) →
    Interpreter.lower s = asciiLower s

theorem lowersLetters_ascii : @LowersLetters Interpreter.ascii :=
  @LowersLetters.mk Interpreter.ascii fun _ _ => rfl

end DpostV2
