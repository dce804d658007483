import RouteCompiler.Document.Node
import RouteCompiler.Json.Fault

/-!
# Numbers of JSON

A number without fraction and exponent is a whole number if it fits into 64 bits, unsigned or, below
zero, signed; `-0` and all others are binary numbers. Of a fraction or a long whole number only as many
digits count as fit into 64 bits; the sum of these digits is then scaled by one power of ten, which is
not always the nearest binary number.
-/

namespace RouteCompiler.Json

open Document

/-- A number as it is written. -/
structure Numeral where
  negative : Bool
  whole : List Char
  /-- The digits behind the point. -/
  fraction : List Char
  /-- The sign and the digits of the exponent; the sign is `true` below zero. -/
  exponent : Option (Bool × List Char)

/-- What is wrong with a number: the text ends, or something else than a digit stands for one. -/
inductive NumeralFault where
  | ends
  | noDigit

/-- The faults of a broken number, for a reader and for one who passes over it. -/
def NumeralFault.node : NumeralFault → Node Fault
  | ends => .broken .endInValue .invalidNumber
  | noDigit => .broken .invalidNumber .invalidNumber

/-- One or more digits, and what follows them. -/
def digits (cs : List Char) : Except NumeralFault (List Char × List Char) :=
  match cs with
  | [] => .error .ends
  | c :: _ => if c.isDigit then .ok (cs.takeWhile Char.isDigit, cs.dropWhile Char.isDigit) else .error .noDigit

/-- The digits of a whole number, which start with a zero only if that is all. -/
def wholeDigits (cs : List Char) : Except NumeralFault (List Char × List Char) :=
  match digits cs with
  | .ok ('0' :: _ :: _, _) => .error .noDigit
  | result => result

/-- The exponent at the head of a text, if there is one. -/
def exponentPart : List Char → Except NumeralFault (Option (Bool × List Char) × List Char)
  | [] => .ok (none, [])
  | c :: rest =>
    if c = 'e' ∨ c = 'E' then
      let (negative, rest) := match rest with
        | '-' :: rest => (true, rest)
        | '+' :: rest => (false, rest)
        | rest => (false, rest)
      (digits rest).map fun (ds, rest) => (some (negative, ds), rest)
    else .ok (none, c :: rest)

/-- The digits behind the point at the head of a text, if there is one. -/
def fractionPart : List Char → Except NumeralFault (List Char × List Char)
  | '.' :: rest => digits rest
  | rest => .ok ([], rest)

/-- The number at the head of a text that starts with a digit or a minus sign, and what follows it. -/
def numeral (cs : List Char) : Except NumeralFault (Numeral × List Char) := do
  let (negative, cs) := match cs with
    | '-' :: rest => (true, rest)
    | cs => (false, cs)
  let (whole, cs) ← wholeDigits cs
  let (fraction, cs) ← fractionPart cs
  let (exponent, cs) ← exponentPart cs
  return (⟨negative, whole, fraction, exponent⟩, cs)

def digitValue (c : Char) : Nat := c.toNat - '0'.toNat

/-- Adds digits to a significand as long as it stays below `2 ^ 64`; returns what could not be added. -/
def addDigits (significand : Nat) : List Char → Nat × List Char
  | [] => (significand, [])
  | c :: rest =>
    let next := significand * 10 + digitValue c
    if next < UInt64.size then addDigits next rest else (significand, c :: rest)

def natOfDigits (ds : List Char) : Nat := ds.foldl (fun n c => n * 10 + digitValue c) 0

/-- `f · 10 ^ e`, or nothing when it is too great. Two divisions by `10 ^ 308` bring every significand
    to zero. -/
def scale (f : Float) (e : Int) : Nat → Option Float
  | 0 => some f
  | left + 1 =>
    if e.natAbs ≤ 308 then
      let power := Float.ofScientific 1 false e.natAbs
      if 0 ≤ e then
        let product := f * power
        if product.isInf then none else some product
      else some (f / power)
    else if f == 0 then some f
    else if 0 ≤ e then none
    else scale (f / 1e308) (e + 308) left

/-- The greatest exponent that is counted, `2 ^ 31 - 1`; a greater one makes zero or a number out of range. -/
def maxExponent : Nat := 2147483647

/-- The binary number of a numeral, or nothing when it is out of range. -/
def Numeral.toFloat? (n : Numeral) : Option Float :=
  let (significand, uncounted) := addDigits 0 n.whole
  let (significand, dropped) := addDigits significand n.fraction
  let shift : Int := uncounted.length - (n.fraction.length - dropped.length : Nat)
  let start := (UInt64.ofNat significand).toFloat
  let magnitude := match n.exponent with
    | none => scale start shift 4
    | some (negative, ds) =>
      let e := natOfDigits ds
      if maxExponent < e then if significand ≠ 0 ∧ ¬negative then none else some 0
      else scale start (if negative then shift - e else shift + e) 4
  magnitude.map fun f => if n.negative then -f else f

/-- The value of a numeral. -/
def Numeral.node (n : Numeral) : Node Fault :=
  let value := natOfDigits n.whole
  if n.fraction = [] ∧ n.exponent.isNone ∧
      (if n.negative then 0 < value ∧ value ≤ signedBound else value < UInt64.size) then
    .integer (if n.negative then -(value : Int) else value)
  else
    match n.toFloat? with
    | some f => .float f
    | none => .unfit .numberOutOfRange .null

end RouteCompiler.Json
