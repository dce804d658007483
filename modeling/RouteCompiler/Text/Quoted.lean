import RouteCompiler.Text.DefaultIgnorable
import RouteCompiler.Text.GraphemeExtend
import RouteCompiler.Text.Unprintable

/-!
# Quoted texts

Messages quote names and paths between double quotes, so that odd characters in them stay visible. Six
characters have an escape of their own; a character that is not seen by itself, or that would join
the one before it, is shown as `\u{…}` with the lower-case hexadecimal digits of its code point; every
other character stands for itself.
-/

namespace RouteCompiler.Text

/-- The halfwidth sound marks of Katakana extend the character before them, but have a place of their own
    on a line. -/
def soundMarks : CodePoints := [(0xFF9E, 0xFF9F)]

/-- Whether a quoted text shows the character by its code point. -/
def shownByCode (c : Char) : Bool :=
  !(' ' ≤ c && c ≤ '~') && (unprintable.contains c || defaultIgnorable.contains c ||
    (graphemeExtend.contains c && !soundMarks.contains c))

/-- How a quoted text writes one character. -/
def quotedChar (c : Char) : List Char :=
  if c = '\x00' then ['\\', '0']
  else if c = '\t' then ['\\', 't']
  else if c = '\r' then ['\\', 'r']
  else if c = '\n' then ['\\', 'n']
  else if c = '"' then ['\\', '"']
  else if c = '\\' then ['\\', '\\']
  else if shownByCode c then ['\\', 'u', '\x7b'] ++ Nat.toDigits 16 c.toNat ++ ['\x7d']
  else [c]

/-- The text between double quotes, with escapes. -/
def quoted (s : String) : String := String.ofList ('"' :: s.toList.flatMap quotedChar ++ ['"'])

/-- Quoted texts between braces, as a log shows a set. -/
def quotedSet (values : List String) : String :=
  "\x7b" ++ ", ".intercalate (values.map quoted) ++ "\x7d"

end RouteCompiler.Text
