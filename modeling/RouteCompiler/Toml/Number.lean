import RouteCompiler.Decimal.Shortest
import RouteCompiler.Document.Node
import RouteCompiler.Toml.Scan
import RouteCompiler.Toml.Text

/-!
# Numbers of TOML

Whole numbers have 64 bits with a sign and may be written to the bases 10, 16, 8 and 2. Numbers with a
fraction or an exponent are the nearest binary numbers; one that is too great is an error, one that is too
far below zero is the negative infinity. Underscores may stand between digits.
-/

namespace RouteCompiler.Toml

open Document

/-- The fault of an underscore, behind which a digit must stand. -/
def missingDigit (rest : List Char) : Fault := (Fault.here rest).expecting [.digit] |>.settled

/-- The digits behind a digit, each of which may have an underscore before it. -/
def moreDigits (isDigit : Char → Bool) : Scan (List Char)
  | [] => .ok ([], [])
  | ['_'] => .error (missingDigit [])
  | '_' :: c :: rest =>
    if isDigit c then consText c (moreDigits isDigit rest) else .error (missingDigit (c :: rest))
  | c :: rest => if isDigit c then consText c (moreDigits isDigit rest) else .ok ([], c :: rest)

/-- One or more digits, without their underscores. -/
def digits (isDigit : Char → Bool) : Scan (List Char)
  | [] => .error (.here [])
  | c :: rest => if isDigit c then consText c (moreDigits isDigit rest) else .error (.here (c :: rest))

/-- The digits of a decimal whole number: a lone zero, or digits that do not start with a zero. -/
def wholeDigits : Scan (List Char)
  | '0' :: rest => .ok (['0'], rest)
  | cs => digits Char.isDigit cs

/-- A sign at the head of the text; `true` is below zero. -/
def sign : List Char → Bool × List Char
  | '+' :: rest => (false, rest)
  | '-' :: rest => (true, rest)
  | rest => (false, rest)

/-- The value of digits to a base. -/
def natOfDigits (base : Nat) (ds : List Char) : Nat :=
  ds.foldl (fun n c => n * base + (hexDigit? c).getD 0) 0

/-- A whole number of 64 bits that starts at `start`. -/
def integer (start : List Char) (negative : Bool) (magnitude : Nat) : Except Fault (Node Empty) :=
  if magnitude < signedBound ∨ (negative ∧ magnitude = signedBound) then
    .ok (.integer (if negative then -(magnitude : Int) else magnitude))
  else .error ((Fault.here start).because (if negative then .tooSmall else .tooLarge) |>.settled)

/-- The binary number nearest to `digits · 10 ^ exponent`. A number with more than 310 places before the
    point is infinite, and one with more than 400 zeros behind it is zero. -/
def nearest (digits : Nat) (exponent : Int) : Float :=
  let places := Decimal.digitCount digits + exponent
  if digits = 0 ∨ places < -400 then 0
  else if 310 < places then 1 / 0
  else Float.ofScientific digits (exponent < 0) exponent.natAbs

/-- A number with a fraction or an exponent that starts at `start`. -/
def float (start : List Char) (negative : Bool) (digits : List Char) (exponent : Int) :
    Except Fault (Node Empty) :=
  let magnitude := nearest (natOfDigits 10 digits) exponent
  if magnitude.isInf && !negative then .error ((Fault.here start).within .float |>.settled)
  else .ok (.float (if negative then -magnitude else magnitude))

/-- The digits of a fraction behind the point at the head of the text, or none. -/
def fraction : Scan (List Char)
  | '.' :: rest => (digits Char.isDigit rest).mapError (Fault.expecting [.digit])
  | rest => .ok ([], rest)

/-- The exponent at the head of the text, if there is one. -/
def exponent : Scan (Option Int)
  | [] => .ok (none, [])
  | c :: rest =>
    if c = 'e' ∨ c = 'E' then
      let (negative, rest) := sign rest
      (digits Char.isDigit rest).map fun (ds, rest) =>
        let e : Int := natOfDigits 10 ds
        (some (if negative then -e else e), rest)
    else .ok (none, c :: rest)

/-- A whole number to a base, behind the zero and the letter that tell the base. -/
def basedInteger (part : Part) (base : Nat) (isDigit : Char → Bool) (start : List Char) :
    Scan (Node Empty) := fun cs => do
  let (ds, rest) ← inside part (settle (digits isDigit cs))
  return (← integer start false (natOfDigits base ds), rest)

/-- A decimal number that starts at `start`, behind its sign. -/
def decimal (start : List Char) (negative : Bool) : Scan (Node Empty) := fun cs => do
  let (whole, rest) ← inside .integer (wholeDigits cs)
  let (behind, rest) ← inside .float (settle (fraction rest))
  let (e, rest) ← inside .float (settle (exponent rest))
  if behind = [] ∧ e.isNone then return (← integer start negative (natOfDigits 10 whole), rest)
  else return (← float start negative (whole ++ behind) (e.getD 0 - behind.length), rest)

/-- The number at the head of the text. -/
def number : Scan (Node Empty) := fun cs =>
  let (negative, rest) := sign cs
  match rest with
  | 'i' :: 'n' :: 'f' :: rest => .ok (.float (if negative then -(1 / 0) else 1 / 0), rest)
  | 'n' :: 'a' :: 'n' :: rest => .ok (.float (if negative then -(0 / 0) else 0 / 0), rest)
  | _ =>
    match cs with
    | '0' :: 'x' :: rest => basedInteger .hexadecimal 16 (fun c => (hexDigit? c).isSome) cs rest
    | '0' :: 'o' :: rest => basedInteger .octal 8 (fun c => '0' ≤ c && c ≤ '7') cs rest
    | '0' :: 'b' :: rest => basedInteger .binary 2 (fun c => c == '0' || c == '1') cs rest
    | _ => decimal cs negative rest

end RouteCompiler.Toml
