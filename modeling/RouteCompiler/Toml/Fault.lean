/-!
# Why a TOML text is not in order

A fault stands at a place in the text. It says which part of the grammar is not in order there, what could
stand there instead, and what else is wrong, as far as there is something to say.
-/

namespace RouteCompiler.Toml

/-- The parts of the grammar in which a fault can lie. -/
inductive Part where
  | key | basicString | literalString | longBasicString | longLiteralString
  | escape | shortCodePoint | longCodePoint
  | string | integer | hexadecimal | octal | binary | float
  | dateTime | time | timeOffset
  | array | inlineTable | tableHeader
deriving DecidableEq, Repr

def Part.name : Part → String
  | key => "key"
  | basicString => "basic string"
  | literalString => "literal string"
  | longBasicString => "multiline basic string"
  | longLiteralString => "multiline literal string"
  | escape => "escape sequence"
  | shortCodePoint => "unicode 4-digit hex code"
  | longCodePoint => "unicode 8-digit hex code"
  | string => "string"
  | integer => "integer"
  | hexadecimal => "hexadecimal integer"
  | octal => "octal integer"
  | binary => "binary integer"
  | float => "floating-point number"
  | dateTime => "date-time"
  | time => "time"
  | timeOffset => "time offset"
  | array => "array"
  | inlineTable => "inline table"
  | tableHeader => "table header"

/-- What could stand at a place. -/
inductive Expected where
  | word (text : String)
  | newline | digit | leadingDigit
deriving DecidableEq, Repr

def Expected.name : Expected → String
  | word text => "`" ++ text ++ "`"
  | newline => "newline"
  | digit => "digit"
  | leadingDigit => "leading digit"

/-- The kinds of values. -/
inductive Kind where
  | string | integer | float | boolean | datetime | array | inlineTable
deriving DecidableEq, Repr

def Kind.name : Kind → String
  | string => "string"
  | integer => "integer"
  | float => "float"
  | boolean => "boolean"
  | datetime => "datetime"
  | array => "array"
  | inlineTable => "inline table"

/-- Why a key cannot be set. -/
inductive Clash where
  /-- The key is taken; `table` leads to its table, if that is told. -/
  | duplicate (key : String) (table : Option (List String))
  /-- The keys lead to a value that has no keys of its own. -/
  | notTable (path : List String) (kind : Kind)
deriving DecidableEq, Repr

namespace Clash

/-- The clash, seen from the table in which `k` leads to where it is. -/
def behind (k : String) : Clash → Clash
  | duplicate key table => duplicate key table
  | notTable path kind => notTable (k :: path) kind

def message : Clash → String
  | duplicate key none => "duplicate key `" ++ key ++ "`"
  | duplicate key (some []) => "duplicate key `" ++ key ++ "` in document root"
  | duplicate key (some table) => "duplicate key `" ++ key ++ "` in table `" ++ ".".intercalate table ++ "`"
  | notTable path kind =>
    "dotted key `" ++ ".".intercalate path ++ "` attempted to extend non-table type (" ++ kind.name ++ ")"

end Clash

/-- What is wrong apart from the grammar. -/
inductive Cause where
  | outOfRange | tooLarge | tooSmall | nestedTooDeep
  | clash (clash : Clash)
deriving DecidableEq, Repr

def Cause.message : Cause → String
  | outOfRange => "value is out of range"
  | tooLarge => "number too large to fit in target type"
  | tooSmall => "number too small to fit in target type"
  | nestedTooDeep => "recursion limit exceeded"
  | clash c => c.message

/-- Why a text is not in order. -/
structure Fault where
  /-- The text from the place of the fault on. -/
  rest : List Char
  part : Option Part
  expected : List Expected
  cause : Option Cause
  /-- Whether it is settled what stands there, so that it is not read in another way. -/
  firm : Bool
deriving DecidableEq, Repr

namespace Fault

/-- A fault at the head of the text of which there is nothing more to say. -/
def here (rest : List Char) : Fault := ⟨rest, none, [], none, false⟩

/-- The fault as one of a part of the grammar; the innermost part counts. -/
def within (part : Part) (fault : Fault) : Fault := { fault with part := fault.part.or (some part) }

def expecting (expected : List Expected) (fault : Fault) : Fault :=
  { fault with expected := fault.expected ++ expected }

def because (cause : Cause) (fault : Fault) : Fault := { fault with cause := some cause }

def settled (fault : Fault) : Fault := { fault with firm := true }

/-- What the fault says, on up to three lines. -/
def message (fault : Fault) : String :=
  let part := fault.part.map fun part => "invalid " ++ part.name
  let expected :=
    if fault.expected = [] then none
    else some ("expected " ++ ", ".intercalate (fault.expected.map Expected.name))
  "\n".intercalate ([part, expected, fault.cause.map Cause.message].filterMap id)

end Fault
end RouteCompiler.Toml
