import BlockTemplate.Value.Text
import BlockTemplate.Text.CaseMapping
/-!
# Properties of an object as variables

Names are compared without regard to case. Where several keys of an object are one name, the first
of them in key order counts. A specifier looks one level deeper: a field of an object, or a
position in a list.
-/

namespace BlockTemplate

/-- Variables with names in lower case, no two alike. -/
structure Properties where
  entries : List (String × Value)

namespace Properties

/-- Adds an entry unless its name is taken. -/
def addEntry (entries : List (String × Value)) (field : String × Value) : List (String × Value) :=
  let name := Text.lowerString field.1
  if entries.any fun e => e.1 = name then entries else entries ++ [(name, field.2)]

/-- The fields of an object as variables. Other values have none. -/
def ofValue : Value → Properties
  | .object fields => ⟨fields.foldl addEntry []⟩
  | _ => ⟨[]⟩

/-- The list position that a text spells: decimal digits, possibly after a plus sign. -/
def position? (cs : List Char) : Option Nat :=
  let digits := match cs with
    | '+' :: rest => rest
    | rest => rest
  if digits ≠ [] ∧ digits.all Char.isDigit then some (Number.ofDigits digits) else none

/-- One part of a value. -/
def part? (specifier : String) : Value → Option Value
  | .object fields =>
    let name := Text.lowerString specifier
    (fields.find? fun f => Text.lowerString f.1 = name).map (·.2)
  | .list items => (position? specifier.toList).bind (items[·]?)
  | _ => none

/-- A resolved value: scalars as their text, everything else as it is. -/
def present : Value → Value
  | .null => .ofChars Value.null.plainText
  | .bool b => .ofChars (Value.bool b).plainText
  | .integer n => .ofChars (Value.integer n).plainText
  | .float x => .ofChars (Value.float x).plainText
  | value => value

/-- The value of a name in any case. -/
def get? (p : Properties) (name : String) : Option Value :=
  let wanted := Text.lowerString name
  (p.entries.find? fun e => e.1 = wanted).map (·.2)

/-- What a name and a specifier stand for. An empty specifier is none. -/
def lookup (p : Properties) (name : String) (specifier : Option String) : Option Value := do
  let value ← p.get? name
  match specifier with
  | none => return present value
  | some s => if s.isEmpty then return present value else return present (← part? s value)

end Properties

end BlockTemplate
