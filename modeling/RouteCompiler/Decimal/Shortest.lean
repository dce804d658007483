/-!
# The shortest decimal of a binary number

A finite binary number `m · 2 ^ q` is written with the fewest digits that read back as it: among the
decimals with that many digits which round to the number, the nearest one. The search is exact: for
one digit, two digits and so on it tries the two neighbours of the number on that decimal grid.
-/

namespace RouteCompiler.Decimal

/-- A number in decimal digits: `digits · 10 ^ exponent`. -/
structure Scaled where
  digits : Nat
  exponent : Int
deriving DecidableEq, Repr

/-- A positive number between two bounds, all three as numerators over one denominator; the bounds
    belong to the range when `closed`. -/
structure Rounding where
  value : Nat
  lower : Nat
  upper : Nat
  denominator : Nat
  closed : Bool

/-- The reals that round to `m · 2 ^ q`: half a unit on each side, but a quarter below a power of two
    that is not the least one of its kind (`narrow`). The ends round to an even `m`. -/
def Rounding.ofBinary (m : Nat) (q : Int) (narrow : Bool) : Rounding :=
  let scale := Nat.pow 2 q.toNat
  { value := 4 * m * scale
    lower := (4 * m - if narrow then 1 else 2) * scale
    upper := (4 * m + 2) * scale
    denominator := 4 * Nat.pow 2 (-q).toNat
    closed := m % 2 == 0 }

/-- Whether `digits · 10 ^ exponent` lies in the range. -/
def Rounding.holds (r : Rounding) (d : Scaled) : Bool :=
  let x := d.digits * Nat.pow 10 d.exponent.toNat * r.denominator
  let scale := Nat.pow 10 (-d.exponent).toNat
  if r.closed then r.lower * scale ≤ x && x ≤ r.upper * scale
  else r.lower * scale < x && x < r.upper * scale

/-- The number of decimal digits of `n`; none for zero. -/
def digitCount (n : Nat) : Nat := if n = 0 then 0 else (Nat.toDigits 10 n).length

/-- The `e` for which the value lies from `10 ^ e` up to `10 ^ (e + 1)`. -/
def Rounding.magnitude (r : Rounding) : Int :=
  if r.denominator ≤ r.value then digitCount (r.value / r.denominator) - 1
  else -(digitCount ((r.denominator + r.value - 1) / r.value - 1) : Int)

/-- Of the two neighbours of the value on the grid of multiples of `10 ^ exponent`, the one in the
    range; of two, the nearer, and half-way the even or the greater one. -/
def Rounding.onGrid (r : Rounding) (evenTie : Bool) (exponent : Int) : Option Scaled :=
  let numerator := r.value * Nat.pow 10 (-exponent).toNat
  let denominator := r.denominator * Nat.pow 10 exponent.toNat
  let below := numerator / denominator
  let left := numerator % denominator
  let low : Scaled := ⟨below, exponent⟩
  let high : Scaled := ⟨below + 1, exponent⟩
  match r.holds low, r.holds high with
  | true, true =>
    if 2 * left < denominator || (2 * left == denominator && evenTie && below % 2 == 0) then some low
    else some high
  | true, false => some low
  | false, true => some high
  | false, false => none

/-- The first hit on the grids of `count` digits, one more, and so on; 17 digits always suffice. -/
def Rounding.search (r : Rounding) (evenTie : Bool) (magnitude : Int) : Nat → Nat → Option Scaled
  | 0, _ => none
  | left + 1, count =>
    match r.onGrid evenTie (magnitude + 1 - count) with
    | some d => some d
    | none => r.search evenTie magnitude left (count + 1)

/-- Takes up to `n` trailing zeros off the digits. -/
def Scaled.trim : Nat → Scaled → Scaled
  | 0, d => d
  | n + 1, d => if d.digits ≠ 0 && d.digits % 10 == 0 then trim n ⟨d.digits / 10, d.exponent + 1⟩ else d

/-- The shortest decimal in the range around the value. -/
def Rounding.shortest (r : Rounding) (evenTie : Bool) : Scaled :=
  match r.search evenTie r.magnitude 17 1 with
  | some d => d.trim 17
  | none => ⟨0, 0⟩

/-- A double: sign, and either a finite magnitude `m · 2 ^ q` or one of the special values. -/
inductive Binary where
  | finite (negative : Bool) (m : Nat) (q : Int) (narrow : Bool)
  | infinite (negative : Bool)
  | notANumber

/-- Reads the fields of a double: 1 bit of sign, 11 of exponent, 52 of fraction. -/
def Binary.ofFloat (x : Float) : Binary :=
  let bits := x.toBits.toNat
  let negative := bits / Nat.pow 2 63 == 1
  let exponent : Nat := bits / Nat.pow 2 52 % Nat.pow 2 11
  let fraction := bits % Nat.pow 2 52
  if exponent = 2047 then if fraction = 0 then .infinite negative else .notANumber
  else if exponent = 0 then .finite negative fraction (-1074) false
  else .finite negative (Nat.pow 2 52 + fraction) ((exponent : Int) - 1075) (fraction == 0 && 1 < exponent)

end RouteCompiler.Decimal
