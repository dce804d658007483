/-!
# Plain values

What a document can say, with the members of a table in the order in which they are written. A value is
what the writers of the notations take.
-/

namespace RouteCompiler.Document

/-- A value of a document. -/
inductive Value where
  | null
  | bool (value : Bool)
  | integer (value : Int)
  | text (value : String)
  | list (items : List Value)
  | table (members : List (String × Value))

namespace Value

/-- A list of texts. -/
def texts (values : List String) : Value := .list (values.map .text)

/-- The text, or `null` when it is missing. -/
def optionalText : Option String → Value
  | some s => .text s
  | none => .null

/-- The member of a table that is written only when there is a value. -/
def memberIfSome {α : Type} (key : String) (write : α → Value) : Option α → List (String × Value)
  | some a => [(key, write a)]
  | none => []

end Value
end RouteCompiler.Document
