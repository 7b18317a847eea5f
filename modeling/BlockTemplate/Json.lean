import BlockTemplate.Fields
/-!
# JSON values

Data as JSON has it. A number is an integer or a double, told apart: `1` is an integer and `1.0`
is not.
-/

namespace BlockTemplate

inductive Json where
  | null
  | bool (value : Bool)
  | integer (value : Int)
  | float (value : Float)
  | string (value : String)
  | array (items : List Json)
  | object (fields : List (String × Json))
  deriving Repr, Inhabited

namespace Json

/-- An object with its fields in key order, the last one of each key. -/
def ofFields (fields : List (String × Json)) : Json := object (Fields.ofList fields)

/-- The value of a field, if there is one. -/
def field? (key : String) : Json → Option Json
  | object fields => Fields.get? key fields
  | _ => none

/-- A natural number as JSON. -/
def nat (n : Nat) : Json := integer n

end Json

end BlockTemplate
