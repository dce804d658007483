/-!
# Letter case

Method names are compared without regard to the case of ASCII letters. Other letters keep their case:
`ſ` is no `S`.
-/

namespace RouteCompiler.Text

/-- The text with every ASCII letter in upper case. -/
def upper (s : String) : String := String.ofList (s.toList.map Char.toUpper)

@[simp] theorem toList_upper (s : String) : (upper s).toList = s.toList.map Char.toUpper := by
  simp [upper]

/-- Whether the texts differ at most in the case of ASCII letters. -/
def sameUpToCase (s t : String) : Bool := upper s == upper t

end RouteCompiler.Text
