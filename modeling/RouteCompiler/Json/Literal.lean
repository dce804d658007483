import RouteCompiler.Json.Fault
import RouteCompiler.Text.Lines

/-!
# String literals of JSON

A literal is first cut into characters and 16-bit units (`\uXXXX`), up to its closing quote or to where it
goes wrong. Only a reader asks whether the units make characters: it wants each leading surrogate followed
by a trailing one. Whoever passes over the literal does not care.
-/

namespace RouteCompiler.Json

/-- A piece of a literal. -/
inductive Piece where
  | char (c : Char)
  | unit (value : Nat)
deriving DecidableEq, Repr

/-- How the pieces of a literal end. -/
inductive PiecesEnd where
  | closed
  /-- The text ends within the literal. -/
  | ends
  | control
  /-- A backslash before a character that is no escape. -/
  | badEscape
  /-- A `\u` without four hexadecimal digits. -/
  | badUnit
deriving DecidableEq, Repr

/-- The value of a hexadecimal digit. -/
def hexValue? (c : Char) : Option Nat :=
  if c.isDigit then some (c.toNat - '0'.toNat)
  else if 'a' ≤ c ∧ c ≤ 'f' then some (c.toNat - 'a'.toNat + 10)
  else if 'A' ≤ c ∧ c ≤ 'F' then some (c.toNat - 'A'.toNat + 10)
  else none

/-- The number that four hexadecimal digits write. -/
def unitValue? (a b c d : Char) : Option Nat := do
  return ((← hexValue? a) * 16 + (← hexValue? b)) * 256 + (← hexValue? c) * 16 + (← hexValue? d)

/-- The character that a backslash and a letter stand for. -/
def simpleEscape? (c : Char) : Option Char :=
  if c = '"' ∨ c = '\\' ∨ c = '/' then some c
  else if c = 'b' then some '\x08'
  else if c = 'f' then some '\x0c'
  else if c = 'n' then some '\n'
  else if c = 'r' then some '\r'
  else if c = 't' then some '\t'
  else none

/-- How a literal goes wrong at a `\u` that four hexadecimal digits do not follow: what decides is whether
    four bytes are left. -/
def unitFault (rest : List Char) : PiecesEnd :=
  if Text.byteCount (rest.take 4) < 4 then .ends else .badUnit

/-- The pieces of a literal behind its opening quote, how they end, and what follows. -/
def pieces : List Char → List Piece × PiecesEnd × List Char
  | [] => ([], .ends, [])
  | '"' :: rest => ([], .closed, rest)
  | ['\\'] => ([], .ends, [])
  | '\\' :: 'u' :: a :: b :: c :: d :: rest =>
    match unitValue? a b c d with
    | some value =>
      let (ps, e, rest) := pieces rest
      (.unit value :: ps, e, rest)
    | none => ([], unitFault [a, b, c, d], [])
  | '\\' :: e :: rest =>
    if e = 'u' then ([], unitFault rest, [])
    else
      match simpleEscape? e with
      | some c =>
        let (ps, e, rest) := pieces rest
        (.char c :: ps, e, rest)
      | none => ([], .badEscape, [])
  | c :: rest =>
    if c.toNat < 0x20 then ([], .control, [])
    else
      let (ps, e, rest) := pieces rest
      (.char c :: ps, e, rest)

/-- The fault of a literal that goes wrong. -/
def PiecesEnd.fault : PiecesEnd → Fault
  | closed => .endInString
  | ends => .endInString
  | control => .controlCharacter
  | badEscape => .invalidEscape
  | badUnit => .invalidEscape

/-- The fault of a literal that goes wrong right behind a leading surrogate. -/
def PiecesEnd.faultInPair : PiecesEnd → Fault
  | closed => .unpairedSurrogate
  | ends => .endInString
  | control => .unpairedSurrogate
  | badEscape => .unpairedSurrogate
  | badUnit => .invalidEscape

def isLeading (unit : Nat) : Bool := 0xD800 ≤ unit && unit ≤ 0xDBFF

def isTrailing (unit : Nat) : Bool := 0xDC00 ≤ unit && unit ≤ 0xDFFF

/-- The character of a surrogate pair. -/
def pairedChar (leading trailing : Nat) : Char :=
  Char.ofNat (0x10000 + (leading - 0xD800) * 0x400 + (trailing - 0xDC00))

/-- The characters of a literal. -/
def decode (e : PiecesEnd) : List Piece → Except Fault (List Char)
  | [] => if e = .closed then .ok [] else .error e.fault
  | .char c :: rest => (decode e rest).map (c :: ·)
  | .unit u :: rest =>
    if isTrailing u then .error .loneSurrogate
    else if isLeading u then
      match rest with
      | [] => .error e.faultInPair
      | .char _ :: _ => .error .unpairedSurrogate
      | .unit v :: rest =>
        if isTrailing v then (decode e rest).map (pairedChar u v :: ·) else .error .loneSurrogate
    else (decode e rest).map (Char.ofNat u :: ·)

/-- A string literal: its text, or why it has none. -/
inductive Literal where
  | whole (value : String)
  /-- The literal is closed, but its units make no text. -/
  | unfit (fault : Fault)
  | broken (reading passing : Fault)
deriving DecidableEq, Repr

/-- The literal behind an opening quote, and what follows it. -/
def literal (cs : List Char) : Literal × List Char :=
  let (ps, e, rest) := pieces cs
  match decode e ps with
  | .ok text => (.whole (String.ofList text), rest)
  | .error fault => if e = .closed then (.unfit fault, rest) else (.broken fault e.fault, [])

end RouteCompiler.Json
