import RouteCompiler.Document.Node
import RouteCompiler.Toml.Scan
import RouteCompiler.Toml.Table

/-!
# Dates and times of TOML

A date, a time of day, or both, with an offset from universal time if both are given. The service
description has no use for them: all that is kept is that there was one, as a table with one member that
no record has.
-/

namespace RouteCompiler.Toml

open Document

/-- Takes `count` decimal digits off the text. -/
def fixedDigits : (count : Nat) → (acc : Nat) → Scan Nat
  | 0, acc, cs => .ok (acc, cs)
  | count + 1, acc, c :: rest =>
    if c.isDigit then fixedDigits count (acc * 10 + (c.toNat - '0'.toNat)) rest else .error (.here (c :: rest))
  | _ + 1, _, [] => .error (.here [])

/-- A number of `count` digits between two bounds. -/
def numberIn (count low high : Nat) : Scan Nat := fun cs =>
  match fixedDigits count 0 cs with
  | .ok (n, rest) =>
    if low ≤ n ∧ n ≤ high then .ok (n, rest) else .error ((Fault.here cs).because .outOfRange)
  | .error _ => .error (.here cs)

/-- Takes one character off the text. -/
def expect (c : Char) : List Char → Except Fault (List Char)
  | d :: rest => if c = d then .ok rest else .error (.here (d :: rest))
  | [] => .error (.here [])

def isLeapYear (year : Nat) : Bool := year % 4 == 0 && (year % 100 != 0 || year % 400 == 0)

def daysInMonth (year month : Nat) : Nat :=
  if month = 2 then if isLeapYear year then 29 else 28
  else if month = 4 ∨ month = 6 ∨ month = 9 ∨ month = 11 then 30
  else 31

/-- What follows a date at the head of the text. Four digits with a dash are settled to be a date. -/
def date (cs : List Char) : Except Fault (List Char) := do
  let (year, cs) ← numberIn 4 0 9999 cs
  let cs ← expect '-' cs
  settle do
    let (month, cs) ← numberIn 2 1 12 cs
    let cs ← expect '-' cs
    let (_, cs) ← numberIn 2 1 (daysInMonth year month) cs
    return cs

/-- What follows the fraction of a second, if there is one. -/
def dropFraction : List Char → List Char
  | '.' :: c :: rest => if c.isDigit then rest.dropWhile Char.isDigit else '.' :: c :: rest
  | rest => rest

/-- What follows a time of day at the head of the text; a minute may have a leap second. An hour with a
    colon is settled to be a time. -/
def timeOfDay (cs : List Char) : Except Fault (List Char) := do
  let (_, cs) ← numberIn 2 0 23 cs
  let cs ← expect ':' cs
  settle do
    let (_, cs) ← numberIn 2 0 59 cs
    let cs ← expect ':' cs
    let (_, cs) ← numberIn 2 0 60 cs
    return dropFraction cs

/-- What follows an offset from universal time, if there is one. -/
def offset : List Char → Except Fault (List Char)
  | [] => .ok []
  | c :: rest =>
    if c = 'Z' ∨ c = 'z' then .ok rest
    else if c = '+' ∨ c = '-' then
      inside .timeOffset <| settle do
        let (_, rest) ← numberIn 2 0 23 rest
        let rest ← expect ':' rest
        let (_, rest) ← numberIn 2 0 59 rest
        return rest
    else .ok (c :: rest)

/-- What follows the time of day behind a date, if there is one. -/
def timeBehindDate : List Char → Except Fault (List Char)
  | [] => .ok []
  | c :: rest =>
    if c = 'T' ∨ c = 't' ∨ c = ' ' then
      match timeOfDay rest with
      | .ok rest => offset rest
      | .error f => if f.firm then .error f else .ok (c :: rest)
    else .ok (c :: rest)

/-- What follows the date or time at the head of the text. -/
def dropDateTime (cs : List Char) : Except Fault (List Char) :=
  match date cs with
  | .ok rest => inside .dateTime (timeBehindDate rest)
  | .error f => if f.firm then .error (f.within .dateTime) else inside .time (timeOfDay cs)

/-- The date or time at the head of the text. -/
def dateTime : Scan (Node Empty) := fun cs =>
  (dropDateTime cs).map fun rest =>
    let text := String.ofList (cs.take (cs.length - rest.length))
    (.table (.member (.ok dateTimeKey) (.text text) .done), rest)

end RouteCompiler.Toml
