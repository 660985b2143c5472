import CanvasChart.Association

set_option autoImplicit false

/-! JSON values. Whole numbers keep apart from other numbers, and an object keeps
its members in written order, repetitions included. -/

namespace CanvasChart

inductive Json where
  | null
  | bool (value : Bool)
  /-- A whole number between the least signed and the greatest unsigned 64-bit integer. -/
  | integer (value : Int)
  | real (value : Float)
  | string (text : String)
  | array (items : List Json)
  | object (members : List (String × Json))
  /-- Well-formed text that stands for no value: a number beyond every double, a
  string with half a surrogate pair, or a container nested too deeply. -/
  | unreadable
  deriving Inhabited, Repr

namespace Json

mutual

def readable : Json → Bool
  | .unreadable => false
  | .array items => readableItems items
  | .object members => readableMembers members
  | _ => true

def readableItems : List Json → Bool
  | [] => true
  | item :: rest => readable item && readableItems rest

def readableMembers : List (String × Json) → Bool
  | [] => true
  | (_, value) :: rest => readable value && readableMembers rest

end

mutual

/-- The value with one member per name in every object: the last one written. -/
def distinct : Json → Json
  | .array items => .array (distinctItems items)
  | .object members => .object (distinctMembers members [])
  | other => other

def distinctItems : List Json → List Json
  | [] => []
  | item :: rest => distinct item :: distinctItems rest

def distinctMembers : List (String × Json) → List (String × Json) → List (String × Json)
  | [], held => held
  | (name, value) :: rest, held => distinctMembers rest (Association.put name (distinct value) held)

end

def member? (members : List (String × Json)) (name : String) : Option Json :=
  (members.find? fun entry => entry.1 = name).map Prod.snd

end Json
end CanvasChart
