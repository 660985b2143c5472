import CanvasChart.Json.Token

set_option autoImplicit false

/-! Reading JSON text. The whole text must be one value. -/

namespace CanvasChart.Json

/-- Containers nested more deeply than this cannot be read. -/
def depthLimit : Nat := 127

def container (depth : Nat) (value : Json) : Json :=
  if depth < depthLimit then value else .unreadable

/-- The object of the members, unless one of their names cannot be read. -/
def objectOf (members : List (Option String × Json)) : Json :=
  match members.mapM fun (name, value) => name.map fun readableName => (readableName, value) with
  | some named => .object named
  | none => .unreadable

mutual

/-- The value at the start of the tokens, inside `depth` containers. Every call
takes a token, so the number of tokens is fuel enough. -/
def readValue (depth : Nat) : Nat → List Token → Option (Json × List Token)
  | 0, _ => none
  | _ + 1, .scalar value :: rest => some (value, rest)
  | _ + 1, .text content :: rest =>
      some (match content with | some text => .string text | none => .unreadable, rest)
  | _ + 1, .openArray :: .closeArray :: rest => some (container depth (.array []), rest)
  | fuel + 1, .openArray :: rest => do
      let (items, after) ← readItems (depth + 1) fuel rest
      return (container depth (.array items), after)
  | _ + 1, .openObject :: .closeObject :: rest => some (container depth (.object []), rest)
  | fuel + 1, .openObject :: rest => do
      let (members, after) ← readMembers (depth + 1) fuel rest
      return (container depth (objectOf members), after)
  | _, _ => none

def readItems (depth : Nat) : Nat → List Token → Option (List Json × List Token)
  | 0, _ => none
  | fuel + 1, text => do
      let (item, after) ← readValue depth fuel text
      match after with
      | .comma :: rest => do
          let (items, remaining) ← readItems depth fuel rest
          return (item :: items, remaining)
      | .closeArray :: rest => some ([item], rest)
      | _ => none

def readMembers (depth : Nat) : Nat → List Token → Option (List (Option String × Json) × List Token)
  | 0, _ => none
  | fuel + 1, .text name :: .colon :: rest => do
      let (value, after) ← readValue depth fuel rest
      match after with
      | .comma :: rest => do
          let (members, remaining) ← readMembers depth fuel rest
          return ((name, value) :: members, remaining)
      | .closeObject :: rest => some ([(name, value)], rest)
      | _ => none
  | _, _ => none

end

def read? (text : String) : Option Json := do
  let tokens ← tokens? text
  match ← readValue 0 (tokens.length + 1) tokens with
  | (value, []) => some value
  | _ => none

end CanvasChart.Json
