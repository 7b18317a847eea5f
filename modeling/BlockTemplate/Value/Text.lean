import BlockTemplate.Value.Json
import BlockTemplate.Json.Writer
import BlockTemplate.Calendar.Pattern
import BlockTemplate.Text.Blank
/-!
# The text of a value

Lists are written item by item with a separator between the items, dates in a date pattern and
objects as compact JSON. Nothing is written for nothing.
-/

namespace BlockTemplate

/-- How lists and dates are written. -/
structure Formatting where
  listSeparator : String
  dateFormat : String
  deriving DecidableEq, Repr

namespace Formatting

/-- The separator of list items where none is given. -/
def defaultSeparator : String := ", "

/-- The date pattern where none is given. -/
def defaultDateFormat : String := "MMMM Do YYYY, HH:mm"

def standard : Formatting := ⟨defaultSeparator, defaultDateFormat⟩

instance : Inhabited Formatting := ⟨standard⟩

end Formatting

namespace Value

mutual

/-- The characters of a value's text. -/
def chars (separator pattern : List Char) : Value → List Char
  | null => []
  | bool true => ['t', 'r', 'u', 'e']
  | bool false => ['f', 'a', 'l', 's', 'e']
  | integer n => Number.intText n.toInt
  | float x => Number.FloatStyle.plain.text x
  | string s => s.toList
  | date m => m.format pattern
  | list items => itemChars separator pattern items
  | object fields => (toJson (object fields)).compactChars

/-- The texts of list items with the separator between them. -/
def itemChars (separator pattern : List Char) : List Value → List Char
  | [] => []
  | [value] => chars separator pattern value
  | value :: rest =>
    chars separator pattern value ++ (separator ++ itemChars separator pattern rest)

end

/-- The text of a value. -/
def text (f : Formatting) (v : Value) : List Char :=
  v.chars f.listSeparator.toList f.dateFormat.toList

/-- The text of a value where nothing else is asked for. -/
def plainText (v : Value) : List Char := v.text .standard

/-- The text of a value as a string. -/
def format (f : Formatting) (v : Value) : String := String.ofList (v.text f)

end Value

end BlockTemplate
