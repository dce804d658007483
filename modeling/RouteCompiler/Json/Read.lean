import RouteCompiler.Document.Record
import RouteCompiler.Json.Tree

/-!
# Reading JSON

A JSON text holds one value and nothing behind it. An error is a fault of the text or a mismatch,
whichever comes first in the text.
-/

namespace RouteCompiler.Json

open Document

/-- Numbers are laid out with an exponent from `10 ^ 16` on and below `10 ^ -5`. -/
def layout : Decimal.Layout where
  positional e := -5 ≤ e && e < 16
  evenTie := true

/-- A record's list must end behind its last field. -/
def surplus : Option (Problem Fault) := some (.fault .trailingCharacters)

/-- The tree of the value at the head of some tokens, and the tokens behind it. -/
def treeOf (ts : List Token) : Node Fault × List Token := value (2 * ts.length + 1) 0 ts

/-- The tree of the value at the head of a text, and the tokens behind it. -/
def tree (text : String) : Node Fault × List Token := treeOf (tokens text)

/-- Reads tokens that hold one value. -/
def readTokens {α : Type} (reader : Node Fault → Reading Fault α) (ts : List Token) : Reading Fault α :=
  let (node, rest) := treeOf ts
  match reader node with
  | .error e => .error e
  | .ok a => if rest.isEmpty then .ok a else .error (.fault .trailingCharacters)

/-- Reads a text that holds one value. -/
def read {α : Type} (reader : Node Fault → Reading Fault α) (text : String) : Reading Fault α :=
  readTokens reader (tokens text)

/-- What kind of error keeps a text from being read. -/
inductive Category where
  /-- The text ends too early. -/
  | ends
  | syntactic
  /-- The text is in order, but holds something else than expected. -/
  | data
deriving DecidableEq, Repr

def category : Problem Fault → Category
  | .fault fault => if fault.isEnd then .ends else .syntactic
  | .mismatch .. => .data

def message : Problem Fault → String
  | .fault fault => fault.message
  | .mismatch _ mismatch => mismatch.message layout

end RouteCompiler.Json
