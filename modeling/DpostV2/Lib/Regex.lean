import DpostV2.Lib.Python

/-!
# Regular expressions

What `re.compile` and `fullmatch` answer is left to the runtime, and so every theorem holds for
every pattern; `Regex.words` knows words of letters, digits and `_`.
-/

namespace DpostV2

class Regex where
  /-- `re.compile(pattern).fullmatch`; `none` where compiling the pattern raises `re.error`. -/
  fullmatch? : String → Option (String → Bool)

def compile [Regex] (pattern : String) : Except Exn (String → Bool) :=
  match Regex.fullmatch? pattern with
  | some fullmatch => .ok fullmatch
  | none => .error { mro := ["error", "Exception"], message := "invalid pattern" }

def isWordChar (c : Char) : Bool := c.isAlphanum || c == '_'

/-- `[A-Za-z0-9_]+` of every pattern. -/
@[reducible] def Regex.words : Regex where
  fullmatch? _ := some fun s => !s.toList.isEmpty && s.toList.all isWordChar

end DpostV2
