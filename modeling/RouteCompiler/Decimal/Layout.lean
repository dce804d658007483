import RouteCompiler.Decimal.Shortest

/-!
# How a decimal is laid out

The digits of a number are the same everywhere; notations differ in where they put the point, in when
they change to an exponent, and in which way a tie between two shortest decimals goes. A `Layout` is
these decisions as one value.
-/

namespace RouteCompiler.Decimal

/-- The decisions of a notation for numbers with a fraction. -/
structure Layout where
  /-- Whether a number between `10 ^ e` and `10 ^ (e + 1)` is written without an exponent. -/
  positional : Int → Bool
  /-- Half-way between two shortest decimals the even one is taken, else the greater one. -/
  evenTie : Bool

/-- Digits with a point, and with at least one digit on both sides of it. -/
def positionalText (d : Scaled) : String :=
  let digits := Nat.toDigits 10 d.digits
  let shift := d.exponent
  if 0 ≤ shift then String.ofList (digits ++ List.replicate shift.toNat '0' ++ ['.', '0'])
  else
    let places := (-shift).toNat
    let padded := List.replicate (places + 1 - digits.length) '0' ++ digits
    let whole := padded.length - places
    String.ofList (padded.take whole ++ '.' :: padded.drop whole)

/-- One digit, the others behind a point, and the exponent with its sign. -/
def exponentText (d : Scaled) : String :=
  let digits := Nat.toDigits 10 d.digits
  let e := d.exponent + (digits.length - 1 : Nat)
  let mantissa := match digits with
    | first :: second :: rest => first :: '.' :: second :: rest
    | short => short
  String.ofList (mantissa ++ 'e' :: (if e < 0 then '-' else '+') :: Nat.toDigits 10 e.natAbs)

/-- The text of a positive decimal. -/
def Layout.textOf (layout : Layout) (d : Scaled) : String :=
  if layout.positional (d.exponent + (digitCount d.digits - 1 : Nat)) then positionalText d
  else exponentText d

/-- The text of a double: the shortest digits that read back. -/
def Layout.text (layout : Layout) (x : Float) : String :=
  match Binary.ofFloat x with
  | .notANumber => "NaN"
  | .infinite negative => (if negative then "-" else "") ++ "inf"
  | .finite negative m q narrow =>
    (if negative then "-" else "") ++
      if m = 0 then "0.0"
      else layout.textOf ((Rounding.ofBinary m q narrow).shortest layout.evenTie)

end RouteCompiler.Decimal
