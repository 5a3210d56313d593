import DpostV2.Lib.PurePath

/-!
# File names

The stem and the suffix of a path's last component: the suffix begins at the
last dot that has something before and behind it.
-/

namespace DpostV2

/-- `(path.stem, path.suffix)` for a path of the name. -/
def splitSuffix (name : String) : String × String :=
  let behind := name.toList.reverse.takeWhile (· ≠ '.')
  match name.toList.reverse.dropWhile (· ≠ '.') with
  | '.' :: before =>
    if before.isEmpty ∨ behind.isEmpty then (name, "")
    else (String.ofList before.reverse, String.ofList ('.' :: behind.reverse))
  | _ => (name, "")

def PurePath.stem (p : PurePath) : String := (splitSuffix p.name).1

def PurePath.suffix (p : PurePath) : String := (splitSuffix p.name).2

example : splitSuffix "sample.01.zs2" = ("sample.01", ".zs2") := by decide

theorem splitSuffix_fst_subset (name : String) : (splitSuffix name).1.toList ⊆ name.toList := by
  unfold splitSuffix
  dsimp only
  split
  · rename_i before hdrop
    split
    · exact List.Subset.refl _
    · have hbefore : ('.' :: before).Sublist name.toList.reverse := by
        rw [← hdrop]
        exact List.dropWhile_sublist _
      have hbefore := (List.sublist_cons_self '.' before).trans hbefore
      rw [String.toList_ofList]
      simpa using hbefore.reverse.subset
  · exact List.Subset.refl _

theorem not_slash_digits (n : Nat) : '/' ∉ (toString n).toList := by
  intro h
  rw [Nat.toString_eq_repr, Nat.toList_repr] at h
  exact absurd (Nat.isDigit_of_mem_toDigits (by decide) (by decide) h) (by decide)

end DpostV2
