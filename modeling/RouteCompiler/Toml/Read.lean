import RouteCompiler.Document.Record
import RouteCompiler.Toml.Document
import RouteCompiler.Toml.Report

/-!
# Reading TOML

A TOML text is one table. A text that is not in order is not read at all; of one that is, the first
mismatch in the order of its tables is reported.
-/

namespace RouteCompiler.Toml

open Document

/-- Numbers are laid out without an exponent, and always with a point. -/
def layout : Decimal.Layout where
  positional _ := true
  evenTie := false

/-- What a record's list holds behind its last field is passed over. -/
def surplus : Option (Problem Empty) := none

/-- Why a text cannot be read. -/
inductive ReadError where
  | notInOrder (text : String) (fault : Fault)
  | mismatch (text : String) (path : List Step) (mismatch : Mismatch)

def ReadError.ofProblem (text : String) : Problem Empty → ReadError
  | .fault e => nomatch e
  | .mismatch path m => .mismatch text path m

def ReadError.message : ReadError → String
  | .notInOrder text fault => fault.report text
  | .mismatch text path m => report text (span text.toList path) (m.message layout)

/-- Reads a text. -/
def read {α : Type} (reader : Node Empty → Reading Empty α) (text : String) : Except ReadError α :=
  match tree text with
  | .error fault => .error (.notInOrder text fault)
  | .ok node =>
    match reader node with
    | .ok a => .ok a
    | .error e => .error (.ofProblem text e)

end RouteCompiler.Toml
