import RouteCompiler.Text.CodePoints

/-!
# Blank texts

White space is what has the Unicode property `White_Space`. Trimming takes it off both ends of a text; a
text is blank when nothing is left of it then. The empty text is blank.
-/

namespace RouteCompiler.Text

/-- The 25 code points with the property `White_Space`. -/
def whiteSpace : CodePoints :=
  [(0x9, 0xD), (0x20, 0x20), (0x85, 0x85), (0xA0, 0xA0), (0x1680, 0x1680), (0x2000, 0x200A),
   (0x2028, 0x2029), (0x202F, 0x202F), (0x205F, 0x205F), (0x3000, 0x3000)]

/-- The text without the white space at its ends. -/
def trim (cs : List Char) : List Char :=
  ((cs.dropWhile whiteSpace.contains).reverse.dropWhile whiteSpace.contains).reverse

/-- Whether the text holds white space only. -/
def isBlank (s : String) : Bool := s.toList.all whiteSpace.contains

theorem isBlank_iff {s : String} : isBlank s = true ↔ ∀ c ∈ s.toList, whiteSpace.contains c = true := by
  simp [isBlank]

end RouteCompiler.Text
