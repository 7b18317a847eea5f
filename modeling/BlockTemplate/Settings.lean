import BlockTemplate.Token.Markers
import BlockTemplate.Value.Text
import BlockTemplate.Json.Decode
/-!
# Settings of a processor

Block markers, strictness and formatting. In data every setting may be left out and then has its
default; fields of other names are passed over.
-/

namespace BlockTemplate

structure Settings where
  markers : Markers
  /-- A name that stands for nothing is an error. -/
  strict : Bool
  listSeparator : String
  dateFormat : String
  deriving DecidableEq, Repr

namespace Settings

def standard : Settings :=
  ⟨.standard, false, Formatting.defaultSeparator, Formatting.defaultDateFormat⟩

instance : Inhabited Settings := ⟨standard⟩

/-- How values are written. -/
def formatting (s : Settings) : Formatting := ⟨s.listSeparator, s.dateFormat⟩

/-- The names that settings have in data. -/
def openingKey : String := "open_block_marker"
def closingKey : String := "close_block_marker"
def strictKey : String := "strict_var_resolve"
def separatorKey : String := "list_separator"
def dateFormatKey : String := "date_format"

def toJson (s : Settings) : Json :=
  .object [(openingKey, .string s.markers.opening), (closingKey, .string s.markers.closing),
    (strictKey, .bool s.strict), (separatorKey, .string s.listSeparator),
    (dateFormatKey, .string s.dateFormat)]

/-- A setting that is read if it is there. -/
def optionally {α : Type} (read : Json → Option α) (fallback : α) (field : Option Json) :
    Option α :=
  match field with
  | none => some fallback
  | some j => read j

def ofJson? (j : Json) : Option Settings :=
  match j with
  | .object _ => do
    let opening ← optionally Json.string? standard.markers.opening (j.field? openingKey)
    let closing ← optionally Json.string? standard.markers.closing (j.field? closingKey)
    let strict ← optionally Json.bool? standard.strict (j.field? strictKey)
    let separator ← optionally Json.string? standard.listSeparator (j.field? separatorKey)
    let dateFormat ← optionally Json.string? standard.dateFormat (j.field? dateFormatKey)
    return ⟨⟨opening, closing⟩, strict, separator, dateFormat⟩
  | _ => none

end Settings

end BlockTemplate
