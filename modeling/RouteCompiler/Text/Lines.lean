/-!
# Lines and bytes

A place in a text is told by the number of its line and by how much stands before it in that line, in
characters or in bytes.
-/

namespace RouteCompiler.Text

/-- What stands behind the last line end. -/
def lastLine (cs : List Char) : List Char := (cs.reverse.takeWhile (· != '\n')).reverse

/-- The number of bytes that the characters have. -/
def byteCount : List Char → Nat
  | [] => 0
  | c :: cs => c.utf8Size + byteCount cs

end RouteCompiler.Text
