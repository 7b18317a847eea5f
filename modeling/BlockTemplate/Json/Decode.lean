import BlockTemplate.Json
/-!
# Typed data in JSON

How plain types, records and tagged alternatives are read from JSON. A record is an object with at
least its fields, or an array with exactly their values in order. An alternative is its name, or
an object whose only field is the name and holds what the alternative carries; if that has fields,
it is an object.
-/

namespace BlockTemplate.Json

def string? : Json → Option String
  | string s => some s
  | _ => none

def bool? : Json → Option Bool
  | bool b => some b
  | _ => none

/-- A natural number of at most 64 bits. -/
def nat? : Json → Option Nat
  | integer n => if 0 ≤ n ∧ n < UInt64.size then some n.toNat else none
  | _ => none

/-- A string of exactly one character. -/
def char? : Json → Option Char
  | string s =>
    match s.toList with
    | [c] => some c
    | _ => none
  | _ => none

/-- The items of an array. -/
def array? : Json → Option (List Json)
  | array items => some items
  | _ => none

/-- An array of two items. -/
def pair? : Json → Option (Json × Json)
  | array [a, b] => some (a, b)
  | _ => none

/-- The values of the named fields of an object, in order. -/
def members? (names : List String) : Json → Option (List Json)
  | object fields => names.mapM fun name => Fields.get? name fields
  | _ => none

/-- The values of the named fields of a record, in order. -/
def record? (names : List String) : Json → Option (List Json)
  | array items => if items.length = names.length then some items else none
  | j => j.members? names

/-- The name of an alternative, and what it carries if that is given. -/
def variant? : Json → Option (String × Option Json)
  | string name => some (name, none)
  | object [(name, value)] => some (name, some value)
  | _ => none

/-- Nothing, given either by leaving it out or as `null`. -/
def isNothing : Option Json → Bool
  | none => true
  | some null => true
  | some _ => false

/-- An alternative that carries a value. -/
def tagged (name : String) (value : Json) : Json := object [(name, value)]

end BlockTemplate.Json
