import RouteCompiler.Json.Read
import RouteCompiler.Text.Lines

/-!
# Where a JSON text goes wrong

An error is told with a place: the line, and how many bytes of that line have been taken in by then. What
has been taken in is known from the shortest beginning of the text that shows the error. A fault is found
with the last token of that beginning, or within it. A mismatch is told behind the value in question; one
that is noticed in a list or table is told behind that, as far as it ends there.
-/

namespace RouteCompiler.Json

open Document Text

/-- A place in a text, by its line and the number of bytes before it in that line. -/
structure Position where
  line : Nat
  column : Nat
deriving DecidableEq, Repr

/-- A place `bytes` bytes behind the head of what is left of a text. -/
structure Spot where
  rest : List Char
  bytes : Nat

namespace Position

/-- Takes as many characters off a text as have no more than `bytes` bytes together. -/
def forward : (bytes : Nat) → List Char → Spot
  | _, [] => ⟨[], 0⟩
  | bytes, c :: rest =>
    if c.utf8Size ≤ bytes then forward (bytes - c.utf8Size) rest else ⟨c :: rest, bytes⟩

/-- The position of a place in a text. -/
def of (text : List Char) (spot : Spot) : Position :=
  let spot := forward spot.bytes spot.rest
  let before := text.take (text.length - spot.rest.length)
  ⟨1 + before.count '\n', byteCount (lastLine before) + spot.bytes⟩

def message (position : Position) : String :=
  " at line " ++ toString position.line ++ " column " ++ toString position.column

end Position

/-! ### Tokens with their places -/

/-- A token, the text from it on and the text behind it. -/
structure Placed where
  token : Token
  start : List Char
  behind : List Char

/-- The tokens of a text of at most `length` characters, with their places. -/
def placedWithin : (length : Nat) → List Char → List Placed
  | 0, _ => []
  | _, [] => []
  | length + 1, c :: rest =>
    if isSpace c then placedWithin length rest
    else
      let (t, behind) := token c rest
      ⟨t, c :: rest, behind⟩ :: placedWithin length behind

/-! ### Places within tokens -/

/-- What is left of a text when a word is taken off it as far as it is there. -/
def dropCommon : List Char → List Char → List Char
  | w :: word, c :: cs => if w = c then dropCommon word cs else c :: cs
  | _, cs => cs

/-- Where a word stops being the one that its first letter announces. -/
def wordEnd : List Char → List Char
  | 'n' :: rest => dropCommon "ull".toList rest
  | 't' :: rest => dropCommon "rue".toList rest
  | _ :: rest => dropCommon "alse".toList rest
  | [] => []

/-- What follows the digits at the head of a text, or nothing if there are none. -/
def dropDigits? : List Char → Option (List Char)
  | c :: rest => if c.isDigit then some (rest.dropWhile Char.isDigit) else none
  | [] => none

/-- Where a number stops being in order. -/
def numeralEnd (start : List Char) : List Char :=
  let cs := if start.head? = some '-' then start.drop 1 else start
  let exponentEnd : List Char → List Char
    | c :: rest =>
      if c = 'e' ∨ c = 'E' then
        let rest := if rest.head? = some '-' ∨ rest.head? = some '+' then rest.drop 1 else rest
        (dropDigits? rest).getD rest
      else c :: rest
    | [] => []
  let fractionEnd : List Char → List Char
    | '.' :: rest => ((dropDigits? rest).map exponentEnd).getD rest
    | rest => exponentEnd rest
  match cs with
  | '0' :: c :: rest => if c.isDigit then c :: rest else fractionEnd (c :: rest)
  | cs => ((dropDigits? cs).map fractionEnd).getD cs

/-- How many digits of an exponent are taken in: up to the one that makes it too great to be counted. -/
def countedDigits (ds : List Char) : Nat :=
  ((List.range ds.length).find? fun n => maxExponent < natOfDigits (ds.take (n + 1))).elim ds.length (· + 1)

/-- How far a number that is out of range is taken in. -/
def overflowEnd (t : Placed) : List Char :=
  match numeral t.start with
  | .ok (⟨_, _, _, some (_, ds)⟩, _) =>
    t.start.drop (t.start.length - t.behind.length - (ds.length - countedDigits ds))
  | _ => t.behind

/-- Where a string literal goes wrong, behind its opening quote. Surrogates and the controls themselves
    are taken in only when the literal is read. -/
def literalEnd (reading : Bool) : List Char → Spot
  | [] => ⟨[], 0⟩
  | '\\' :: 'u' :: a :: b :: c :: d :: rest =>
    match unitValue? a b c d with
    | none => Position.forward 4 (a :: b :: c :: d :: rest)
    | some u =>
      if reading && isTrailing u then ⟨rest, 0⟩
      else if reading && isLeading u then
        match rest with
        | '\\' :: 'u' :: e :: f :: g :: h :: rest =>
          match unitValue? e f g h with
          | none => Position.forward 4 (e :: f :: g :: h :: rest)
          | some v => if isTrailing v then literalEnd reading rest else ⟨rest, 0⟩
        | '\\' :: 'u' :: rest => Position.forward 4 rest
        | '\\' :: rest => ⟨rest, 1⟩
        | rest => ⟨rest, 1⟩
      else literalEnd reading rest
  | '\\' :: c :: rest =>
    if c = 'u' then Position.forward 4 rest
    else if (simpleEscape? c).isSome then literalEnd reading rest
    else ⟨c :: rest, 1⟩
  | c :: rest => if c.toNat < 0x20 then ⟨c :: rest, if reading then 1 else 0⟩ else literalEnd reading rest

/-- Where a fault is told that is found with a token. -/
def Fault.spot (fault : Fault) (reading : Bool) (t : Placed) : Spot :=
  match fault with
  | expectedWord => ⟨wordEnd t.start, 1⟩
  | invalidNumber => ⟨numeralEnd t.start, 1⟩
  | numberOutOfRange => ⟨overflowEnd t, 0⟩
  | invalidEscape => literalEnd reading (t.start.drop 1)
  | controlCharacter => literalEnd reading (t.start.drop 1)
  | loneSurrogate => literalEnd reading (t.start.drop 1)
  | unpairedSurrogate => literalEnd reading (t.start.drop 1)
  | _ => ⟨t.start, 1⟩

/-! ### Places of errors -/

/-- Whether the innermost list or table that is not closed is a list, if there is one. -/
def inList? (ts : List Token) : Option Bool :=
  (ts.foldl
    (fun opened t =>
      match t with
      | .openList => true :: opened
      | .openTable => false :: opened
      | .closeList => opened.drop 1
      | .closeTable => opened.drop 1
      | _ => opened)
    []).head?

/-- Behind the end of a table, if it ends with the next token, and else in front of that token. -/
def tableEnd : List Placed → List Char
  | t :: _ =>
    match t.token with
    | .closeTable => t.behind
    | _ => t.start
  | [] => []

/-- Behind the end of a list, if it ends with the next token, and else in front of the next token that is
    no comma. -/
def listEnd : List Placed → List Char
  | t :: rest =>
    match t.token with
    | .closeList => t.behind
    | .comma => (rest.head?.map (·.start)).getD []
    | _ => t.start
  | [] => []

/-- Where a mismatch is told that shows with the last of the tokens `before`, of which `t` is the last and
    `rest` follows. A choice without a fitting form has no place unless it lies in a list or table. -/
def mismatchSpot (before : List Token) (t : Placed) (rest : List Placed) : Mismatch → Option (List Char)
  | .wrongType found _ =>
    match found with
    | .list => some t.start
    | .table => some t.start
    | _ => some t.behind
  | .wrongValue .. => some t.behind
  | .wrongLength .. => some t.behind
  | .missingField _ => some t.behind
  | .repeatedField _ => some (tableEnd rest)
  | .noVariant _ => (inList? before).map fun inList => if inList then listEnd rest else tableEnd rest

/-- Whether an error shows already in another. -/
def shows : Problem Fault → Problem Fault → Bool
  | .mismatch .., .mismatch .. => true
  | .fault f, .fault g => f == g
  | _, _ => false

/-- The least number from `low` to `high` that has a property which all greater ones have too; each of at
    most `steps` steps halves what is left. -/
def leastWith (p : Nat → Bool) : (steps low high : Nat) → Nat
  | 0, low, _ => low
  | steps + 1, low, high =>
    if high ≤ low then low
    else
      let middle := (low + high) / 2
      if p middle then leastWith p steps low middle else leastWith p steps (middle + 1) high

/-- Where the error of reading a text is told. Once some tokens show the error, all that start with them do. -/
def position? {α : Type} (reader : Node Fault → Reading Fault α) (text : String) (problem : Problem Fault) :
    Option Position :=
  let cs := text.toList
  let placed := placedWithin cs.length cs
  let ts := placed.map (·.token)
  let read (ts : List Token) (expected : Problem Fault) : Bool :=
    match readTokens reader ts with
    | .error e => shows expected e
    | .ok _ => false
  let n := leastWith (fun n => read (ts.take (n + 1)) problem) ts.length 0 ts.length
  match placed[n]? with
  | none =>
    match problem with
    | .fault _ => some (.of cs ⟨[], 0⟩)
    | .mismatch .. => none
  | some t =>
    let rest := placed.drop (n + 1)
    match problem with
    | .mismatch _ m => (mismatchSpot (ts.take (n + 1)) t rest m).map fun spot => .of cs ⟨spot, 0⟩
    | .fault fault =>
      if fault.isEnd then some (.of cs ⟨[], 0⟩)
      else
        match fault, t.token, inList? (ts.take n) with
        | .trailingCharacters, .comma, some _ =>
          -- A record's list goes on: that is told with the item behind the comma.
          some (.of cs ⟨(rest.head?.map (·.start)).getD [], 1⟩)
        | _, _, _ =>
          let probe := Token.text (.broken .controlCharacter .expectedValue)
          let reading := read (ts.take n ++ [probe]) (.fault .controlCharacter)
          some (.of cs (fault.spot reading t))

end RouteCompiler.Json
