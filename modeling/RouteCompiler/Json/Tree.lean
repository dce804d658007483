import RouteCompiler.Json.Token

/-!
# The tree of a JSON text

Tokens are put together to the tree of one value. Where the text goes wrong the tree has a break, and
nothing behind it belongs to the tree. A list or table that lies inside 127 others cannot be read, though
it can be passed over.
-/

namespace RouteCompiler.Json

open Document

/-- How many lists and tables may lie inside each other. -/
def maxDepth : Nat := 127

/-- A list or table that lies inside `depth` others. -/
def nested (depth : Nat) (node : Node Fault) : Node Fault :=
  if depth < maxDepth then node else .unfit .nestedTooDeep node

mutual

/-- The value at the head of the tokens, and what follows it. Every other step takes a token, so twice the
    number of tokens bounds the steps. -/
def value (steps depth : Nat) (ts : List Token) : Node Fault × List Token :=
  match steps with
  | 0 => (.broken .endInValue .endInValue, ts)
  | steps + 1 =>
    match ts with
    | [] => (.broken .endInValue .endInValue, [])
    | .scalar node :: ts => (node, ts)
    | .text (.whole s) :: ts => (.text s, ts)
    | .text (.unfit fault) :: ts => (.unfit fault .null, ts)
    | .text (.broken reading passing) :: ts => (.broken reading passing, ts)
    | .openList :: ts =>
      let (items, rest) := firstItem steps (depth + 1) ts
      (nested depth (.list items), rest)
    | .openTable :: ts =>
      let (members, rest) := firstMember steps (depth + 1) ts
      (nested depth (.table members), rest)
    | _ :: ts => (.broken .expectedValue .expectedValue, ts)
termination_by structural steps

/-- The items behind an opening bracket. -/
def firstItem (steps depth : Nat) (ts : List Token) : Items Fault × List Token :=
  match steps with
  | 0 => (.broken .endInList .endInList .endInList, ts)
  | steps + 1 =>
    match ts with
    | [] => (.broken .endInList .endInList .endInList, [])
    | .closeList :: ts => (.done, ts)
    | ts =>
      let (head, rest) := value steps depth ts
      let (items, rest) := moreItems steps depth rest
      (.item head items, rest)
termination_by structural steps

/-- The items behind an item. -/
def moreItems (steps depth : Nat) (ts : List Token) : Items Fault × List Token :=
  match steps with
  | 0 => (.broken .endInList .endInList .endInList, ts)
  | steps + 1 =>
    match ts with
    | [] => (.broken .endInList .endInList .endInList, [])
    | .closeList :: ts => (.done, ts)
    | .comma :: .closeList :: ts => (.broken .trailingComma .expectedValue .trailingComma, ts)
    | .comma :: ts =>
      let (head, rest) := value steps depth ts
      let (items, rest) := moreItems steps depth rest
      (.item head items, rest)
    | _ :: ts => (.broken .expectedListEnd .expectedListEnd .trailingCharacters, ts)
termination_by structural steps

/-- The members behind an opening brace. -/
def firstMember (steps depth : Nat) (ts : List Token) : Members Fault × List Token :=
  match steps with
  | 0 => (.broken .endInObject .endInObject, ts)
  | steps + 1 =>
    match ts with
    | [] => (.broken .endInObject .endInObject, [])
    | .closeTable :: ts => (.done, ts)
    | .text key :: ts => member steps depth key ts
    | _ :: ts => (.broken .keyNotText .keyNotText, ts)
termination_by structural steps

/-- The members from a key on. -/
def member (steps depth : Nat) (key : Literal) (ts : List Token) : Members Fault × List Token :=
  match steps with
  | 0 => (.broken .endInObject .endInObject, ts)
  | steps + 1 =>
    match key with
    | .whole key =>
      let (v, members, rest) := memberValue steps depth ts
      (.member (.ok key) v members, rest)
    | .unfit fault =>
      let (v, members, rest) := memberValue steps depth ts
      (.member (.error fault) v members, rest)
    | .broken reading passing => (.broken reading passing, ts)
termination_by structural steps

/-- The value behind a key, and the members behind that. -/
def memberValue (steps depth : Nat) (ts : List Token) : Node Fault × Members Fault × List Token :=
  match steps with
  | 0 => (.broken .endInObject .endInObject, .done, ts)
  | steps + 1 =>
    match ts with
    | [] => (.broken .endInObject .endInObject, .done, [])
    | .colon :: ts =>
      let (v, rest) := value steps depth ts
      let (members, rest) := moreMembers steps depth rest
      (v, members, rest)
    | _ :: ts => (.broken .expectedColon .expectedColon, .done, ts)
termination_by structural steps

/-- The members behind a member. -/
def moreMembers (steps depth : Nat) (ts : List Token) : Members Fault × List Token :=
  match steps with
  | 0 => (.broken .endInObject .endInObject, ts)
  | steps + 1 =>
    match ts with
    | [] => (.broken .endInObject .endInObject, [])
    | .closeTable :: ts => (.done, ts)
    | [.comma] => (.broken .endInValue .endInObject, [])
    | .comma :: .closeTable :: ts => (.broken .trailingComma .keyNotText, ts)
    | .comma :: .text key :: ts => member steps depth key ts
    | .comma :: _ :: ts => (.broken .keyNotText .keyNotText, ts)
    | _ :: ts => (.broken .expectedObjectEnd .expectedObjectEnd, ts)
termination_by structural steps

end

end RouteCompiler.Json
