import RouteCompiler.Toml.Scan

/-!
# Strings of TOML

Four kinds of strings: basic ones with escapes, literal ones without, and both over several lines. In
strings over several lines a line end right behind the opening quotes does not count, every line end reads
as `\n`, and up to two quotes may stand before the closing ones.
-/

namespace RouteCompiler.Toml

/-- Whether the character may stand in a string as it is: no control character but the tab. -/
def isStringChar (c : Char) : Bool := c == '\t' || (0x20 ≤ c.toNat && c.toNat != 0x7F)

/-- The value of a hexadecimal digit. -/
def hexDigit? (c : Char) : Option Nat :=
  if c.isDigit then some (c.toNat - '0'.toNat)
  else if 'a' ≤ c ∧ c ≤ 'f' then some (c.toNat - 'a'.toNat + 10)
  else if 'A' ≤ c ∧ c ≤ 'F' then some (c.toNat - 'A'.toNat + 10)
  else none

/-- The number that hexadecimal digits write. -/
def hexNumber? : (acc : Nat) → List Char → Option Nat
  | acc, [] => some acc
  | acc, c :: rest =>
    match hexDigit? c with
    | some d => hexNumber? (acc * 16 + d) rest
    | none => none

/-- The character of a code point that hexadecimal digits write; surrogates have none. -/
def escapedCodePoint? (digits : List Char) : Option Char := do
  let n ← hexNumber? 0 digits
  if n.isValidChar then some (Char.ofNat n) else none

/-- The character that a backslash and a letter stand for. -/
def simpleEscape? (c : Char) : Option Char :=
  if c = '"' ∨ c = '\\' then some c
  else if c = 'b' then some '\x08'
  else if c = 't' then some '\t'
  else if c = 'n' then some '\n'
  else if c = 'f' then some '\x0c'
  else if c = 'r' then some '\r'
  else none

/-- Puts a character before what a reader returns. -/
def consText (c : Char) (r : Except Fault (List Char × List Char)) : Except Fault (List Char × List Char) :=
  r.map fun (text, rest) => (c :: text, rest)

/-! ### Faults of escapes -/

/-- What can stand behind a backslash. -/
def escapeLetters : List Expected := ["b", "f", "n", "r", "t", "u", "U", "\\", "\""].map .word

/-- The fault of an escape whose `count` hexadecimal digits should stand here. -/
def codePointFault (part : Part) (count : Nat) (rest : List Char) : Fault :=
  let digits := rest.take count
  let fault := (Fault.here rest).within part |>.settled
  if digits.length = count ∧ digits.all (fun c => (hexDigit? c).isSome) then fault.because .outOfRange
  else fault

/-- The fault of an escape behind its backslash; it stands behind the letter if that is an ASCII one. -/
def escapeFault : List Char → Fault
  | 'u' :: rest => codePointFault .shortCodePoint 4 rest
  | 'U' :: rest => codePointFault .longCodePoint 8 rest
  | c :: rest =>
    let place := if c.utf8Size = 1 then rest else c :: rest
    (Fault.here place).within .escape |>.expecting escapeLetters |>.settled
  | [] => .here []

/-- The fault of a string that goes no further. -/
def stringFault (part : Part) (rest : List Char) : Fault := (Fault.here rest).within part |>.settled

/-! ### Strings on one line -/

/-- The text of a basic string behind its opening quote. -/
def basicText : Scan (List Char)
  | [] => .error (stringFault .basicString [])
  | '"' :: rest => .ok ([], rest)
  | '\\' :: 'u' :: a :: b :: c :: d :: rest =>
    match escapedCodePoint? [a, b, c, d] with
    | some x => consText x (basicText rest)
    | none => .error (escapeFault ('u' :: a :: b :: c :: d :: rest))
  | '\\' :: 'U' :: a :: b :: c :: d :: e :: f :: g :: h :: rest =>
    match escapedCodePoint? [a, b, c, d, e, f, g, h] with
    | some x => consText x (basicText rest)
    | none => .error (escapeFault ('U' :: a :: b :: c :: d :: e :: f :: g :: h :: rest))
  | '\\' :: e :: rest =>
    match simpleEscape? e with
    | some x => consText x (basicText rest)
    | none => .error (escapeFault (e :: rest))
  | c :: rest =>
    if isStringChar c && c != '\\' then consText c (basicText rest)
    else .error (stringFault .basicString (c :: rest))

/-- The text of a literal string behind its opening quote. -/
def literalText : Scan (List Char)
  | [] => .error (stringFault .literalString [])
  | '\'' :: rest => .ok ([], rest)
  | c :: rest =>
    if isStringChar c then consText c (literalText rest) else .error (stringFault .literalString (c :: rest))

/-! ### Strings over several lines -/

/-- Whether only blanks stand before the next line end. -/
def endsInBlanks (cs : List Char) : Bool := (lineEnd? (dropBlanks cs)).isSome

/-- The text of a basic string over several lines, behind its opening quotes. A backslash at the end of a
    line takes the line end and all blanks and line ends behind it away; `trimming` is set while it does. If
    the text ends behind one or two quotes, the fault stands in front of them. -/
def longBasicText : (trimming : Bool) → Scan (List Char)
  | _, [] => .error (stringFault .longBasicString [])
  | _, ['"'] => .error (stringFault .longBasicString ['"'])
  | _, ['"', '"'] => .error (stringFault .longBasicString ['"', '"'])
  | _, '"' :: '"' :: '"' :: '"' :: '"' :: rest => .ok (['"', '"'], rest)
  | _, '"' :: '"' :: '"' :: '"' :: rest => .ok (['"'], rest)
  | _, '"' :: '"' :: '"' :: rest => .ok ([], rest)
  | _, '\\' :: 'u' :: a :: b :: c :: d :: rest =>
    match escapedCodePoint? [a, b, c, d] with
    | some x => consText x (longBasicText false rest)
    | none => .error (escapeFault ('u' :: a :: b :: c :: d :: rest))
  | _, '\\' :: 'U' :: a :: b :: c :: d :: e :: f :: g :: h :: rest =>
    match escapedCodePoint? [a, b, c, d, e, f, g, h] with
    | some x => consText x (longBasicText false rest)
    | none => .error (escapeFault ('U' :: a :: b :: c :: d :: e :: f :: g :: h :: rest))
  | _, '\\' :: e :: rest =>
    match simpleEscape? e with
    | some x => consText x (longBasicText false rest)
    | none =>
      if endsInBlanks (e :: rest) then longBasicText true (e :: rest) else .error (escapeFault (e :: rest))
  | trimming, '\r' :: '\n' :: rest =>
    if trimming then longBasicText true rest else consText '\n' (longBasicText false rest)
  | trimming, c :: rest =>
    if trimming && (isBlank c || c == '\n') then longBasicText true rest
    else if c == '\n' || (isStringChar c && c != '\\') then consText c (longBasicText false rest)
    else .error (stringFault .longBasicString (c :: rest))

/-- Whether a character that can stand in a literal string over several lines follows. -/
def goesOnLiterally : List Char → Bool
  | '\r' :: '\n' :: _ => true
  | c :: _ => c == '\n' || isStringChar c
  | [] => false

/-- The text of a literal string over several lines, behind its opening quotes. If one or two quotes are
    followed by what cannot stand in the string, the fault stands in front of them. -/
def longLiteralText : Scan (List Char)
  | [] => .error (stringFault .longLiteralString [])
  | '\'' :: '\'' :: '\'' :: '\'' :: '\'' :: rest => .ok (['\'', '\''], rest)
  | '\'' :: '\'' :: '\'' :: '\'' :: rest => .ok (['\''], rest)
  | '\'' :: '\'' :: '\'' :: rest => .ok ([], rest)
  | '\'' :: rest =>
    if goesOnLiterally (rest.dropWhile (· == '\'')) then consText '\'' (longLiteralText rest)
    else .error (stringFault .longLiteralString ('\'' :: rest))
  | '\r' :: '\n' :: rest => consText '\n' (longLiteralText rest)
  | c :: rest =>
    if c == '\n' || isStringChar c then consText c (longLiteralText rest)
    else .error (stringFault .longLiteralString (c :: rest))

/-- What follows a line end at the head of the text, if there is one. -/
def dropFirstLineEnd (cs : List Char) : List Char := (lineEnd? cs).getD cs

/-- The string at the head of the text, which is one of the four kinds. -/
def string : Scan String := fun cs =>
  let text := match cs with
    | '"' :: '"' :: '"' :: rest => longBasicText false (dropFirstLineEnd rest)
    | '\'' :: '\'' :: '\'' :: rest => longLiteralText (dropFirstLineEnd rest)
    | '"' :: rest => basicText rest
    | '\'' :: rest => literalText rest
    | _ => .error (.here cs)
  text.map fun (text, rest) => (String.ofList text, rest)

/-! ### Writing strings -/

/-- How a basic string writes one character. -/
def escapedChar (c : Char) : List Char :=
  if c = '"' then ['\\', '"']
  else if c = '\\' then ['\\', '\\']
  else if c = '\x08' then ['\\', 'b']
  else if c = '\t' then ['\\', 't']
  else if c = '\n' then ['\\', 'n']
  else if c = '\x0c' then ['\\', 'f']
  else if c = '\r' then ['\\', 'r']
  else if c.toNat < 0x20 ∨ c.toNat = 0x7F then
    ['\\', 'u', '0', '0', Nat.digitChar (c.toNat / 16), Nat.digitChar (c.toNat % 16)]
  else [c]

/-- A text as a basic string. -/
def quotedChars (s : String) : List Char := '"' :: s.toList.flatMap escapedChar ++ ['"']

end RouteCompiler.Toml
