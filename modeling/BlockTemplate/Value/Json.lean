import BlockTemplate.Value
import BlockTemplate.Json
import BlockTemplate.Calendar.Timestamp
import BlockTemplate.Number.Double
import BlockTemplate.Number.Whole
/-!
# Values and JSON

Every value has a form in JSON: a date is its timestamp, and a double that is not finite is
`null`. Every JSON value is a value: an integer of at most 64 bits with sign stays one, and any
other number becomes a double.
-/

namespace BlockTemplate

namespace Value

/-- An integer of any size as a number. -/
def ofInt (n : Int) : Value :=
  match Number.word? n with
  | some word => integer word
  | none => float (Number.Double.ofInt n)

mutual

/-- A value as JSON. -/
def toJson : Value → Json
  | null => .null
  | bool b => .bool b
  | integer n => .integer n.toInt
  | float x => if x.isFinite then .float x else .null
  | string s => .string s
  | date m => .string (String.ofList m.timestamp)
  | list items => .array (itemsToJson items)
  | object fields => .object (fieldsToJson fields)

def itemsToJson : List Value → List Json
  | [] => []
  | value :: rest => toJson value :: itemsToJson rest

def fieldsToJson : List (String × Value) → List (String × Json)
  | [] => []
  | (key, value) :: rest => (key, toJson value) :: fieldsToJson rest

end

mutual

/-- The value that JSON data stands for. -/
def ofJson : Json → Value
  | .null => null
  | .bool b => bool b
  | .integer n => ofInt n
  | .float x => float x
  | .string s => string s
  | .array items => list (itemsOfJson items)
  | .object fields => object (fieldsOfJson fields)

def itemsOfJson : List Json → List Value
  | [] => []
  | j :: rest => ofJson j :: itemsOfJson rest

def fieldsOfJson : List (String × Json) → List (String × Value)
  | [] => []
  | (key, j) :: rest => (key, ofJson j) :: fieldsOfJson rest

end

end Value

end BlockTemplate
