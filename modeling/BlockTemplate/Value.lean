import BlockTemplate.Calendar.Moment
import BlockTemplate.Fields
/-!
# Values

What variables, functions and literals of a template stand for. Objects keep their fields in key
order.
-/

namespace BlockTemplate

open Calendar (Moment)

inductive Value where
  /-- Nothing was found. -/
  | null
  | bool (value : Bool)
  | integer (value : Int64)
  | float (value : Float)
  | string (value : String)
  | date (moment : Moment)
  | list (items : List Value)
  | object (fields : List (String × Value))
  deriving Repr, Inhabited

namespace Value

/-- Nothing, or a text without characters. -/
def isEmpty : Value → Bool
  | null => true
  | string s => s.isEmpty
  | _ => false

def isNull : Value → Bool
  | null => true
  | _ => false

/-- The items of a list. -/
def items? : Value → Option (List Value)
  | list items => some items
  | _ => none

/-- The moment of a date. -/
def moment? : Value → Option Moment
  | date moment => some moment
  | _ => none

/-- A text as a value. -/
def ofChars (cs : List Char) : Value := string (String.ofList cs)

/-- An object with its fields in key order, the last one of each key. -/
def ofFields (fields : List (String × Value)) : Value := object (Fields.ofList fields)

mutual

/-- Fields in strictly increasing key order, in every object of a value. -/
def Ordered : Value → Prop
  | list items => OrderedItems items
  | object fields => Fields.Sorted fields ∧ OrderedFields fields
  | _ => True

def OrderedItems : List Value → Prop
  | [] => True
  | value :: rest => Ordered value ∧ OrderedItems rest

def OrderedFields : List (String × Value) → Prop
  | [] => True
  | (_, value) :: rest => Ordered value ∧ OrderedFields rest

end

theorem isEmpty_iff {v : Value} : v.isEmpty = true ↔ v = null ∨ v = string "" := by
  cases v <;> simp [isEmpty]

end Value

end BlockTemplate
