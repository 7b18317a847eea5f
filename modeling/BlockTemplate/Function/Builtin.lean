import BlockTemplate.Function
import BlockTemplate.Function.Lorem
import BlockTemplate.NumberPattern
import BlockTemplate.Number.FloatReader
import BlockTemplate.TitleCase
/-!
# Built-in functions

The functions that every processor knows. Numbers are read from the plain text of a value, so that
a text of digits counts as a number.
-/

namespace BlockTemplate

open Calendar (Moment)

/-- The functions of the default table. -/
inductive Builtin where
  | lorem
  | add
  | defaultTo
  | formatDate
  | formatNumber
  | join
  | list
  | lowercase
  | now
  | properCase
  | subtract
  | trim
  | uppercase
  | utc
  | wrap
  deriving DecidableEq, Repr

namespace Builtin

def name : Builtin → String
  | lorem => "_lorem"
  | add => "add"
  | defaultTo => "def"
  | formatDate => "format_date"
  | formatNumber => "format_num"
  | join => "join"
  | list => "list"
  | lowercase => "lowercase"
  | now => "now"
  | properCase => "propercase"
  | subtract => "sub"
  | trim => "trim"
  | uppercase => "uppercase"
  | utc => "utc"
  | wrap => "wrap"

/-- All of them, in the order of their names. -/
def all : List Builtin :=
  [lorem, add, defaultTo, formatDate, formatNumber, join, list, lowercase, now, properCase,
    subtract, trim, uppercase, utc, wrap]

/-- The function of a name in lower case. -/
def ofName? (name : String) : Option Builtin := all.find? (·.name = name)

/-- The function of a name in any case. -/
def find? (name : String) : Option Builtin := ofName? (Text.lowerString name)

theorem ofName?_name (b : Builtin) : ofName? b.name = some b := by
  cases b <;> decide

/-- What a function of numbers expects. -/
def numberExpected : String := "a number"

/-- The integer that a value spells. -/
def integerOf? (v : Value) : Option Int64 := Number.strictInt? v.plainText

/-- The two integers of a sum or difference. -/
def integers (input : Value) (args : List Value) : Except FunctionError (Int64 × Int64) := do
  let slots ← Function.bind 2 input args
  match integerOf? slots[0], integerOf? slots[1] with
  | some a, some b => return (a, b)
  | none, _ => throw (.invalidArgument 0 numberExpected)
  | some _, none => throw (.invalidArgument 1 numberExpected)

/-- An exact result, if it fits in 64 bits. -/
def checked (n : Int) : Except FunctionError Value :=
  match Number.word? n with
  | some word => .ok (.integer word)
  | none => .error (.failed "Integer overflow")

/-- The value, or the fallback in place of an empty one. -/
def firstNonEmpty (value fallback : Value) : Except FunctionError Value :=
  if !value.isEmpty then .ok value
  else if !fallback.isEmpty then .ok fallback
  else .error (.invalidArgument 1 "a non-empty default value")

/-- Value and fallback are the input and the first argument, or without an input the first two
arguments; an only argument is the fallback. -/
def callDefaultTo (input : Value) (args : List Value) : Except FunctionError Value :=
  match input.isNull, args with
  | _, [] => .error (Function.countError 2 input)
  | false, fallback :: _ => firstNonEmpty input fallback
  | true, [fallback] => firstNonEmpty .null fallback
  | true, value :: fallback :: _ => firstNonEmpty value fallback

/-- Puts a text where the first at sign of a format stands. -/
def callWrap (input : Value) (args : List Value) : Except FunctionError Value := do
  let slots ← Function.bind 2 input args
  let format := slots[1].plainText
  if format.contains '@' then
    return .ofChars (Text.replaceFirst '@' slots[0].plainText format)
  else
    throw (.failed
      "You must provide a format string where @ denotes the position of text to wrap")

/-- A number of placeholder words; the input is passed over. -/
def callLorem (args : List Value) : Except FunctionError Value :=
  let count := args.headD .null
  if count.isNull then .error (.argumentCount 1 false)
  else
    match integerOf? count with
    | none => .error (.invalidArgument 0 numberExpected)
    | some n =>
      .ok (.ofChars
        (Text.join [' '] ((Function.loremWords.take n.toInt.toNat).map String.toList)))

/-- Items written with the separator between them, dates in the processor's pattern. -/
def callJoin (input : Value) (args : List Value) (f : Formatting) : Except FunctionError Value := do
  let slots ← Function.bind 2 input args
  match slots[0] with
  | .list items =>
    return .ofChars (Value.itemChars (slots[1].text f) f.dateFormat.toList items)
  | _ => throw (.invalidArgument 0 "a list")

def callUtc (input : Value) (args : List Value) : Except FunctionError Value := do
  let slots ← Function.bind 1 input args
  match slots.get ⟨0, Nat.zero_lt_one⟩ with
  | .date m => return .date m.utc
  | _ => throw (.invalidArgument 0 "a date")

def callFormatDate (input : Value) (args : List Value) : Except FunctionError Value := do
  let slots ← Function.bind 2 input args
  match slots[0] with
  | .date m => return .ofChars (m.format slots[1].plainText)
  | _ => throw (.invalidArgument 0 "a date")

def callFormatNumber (input : Value) (args : List Value) : Except FunctionError Value := do
  let slots ← Function.bind 2 input args
  match Number.strictFloat? slots[0].plainText with
  | some x => return .ofChars (BlockTemplate.formatNumber x slots[1].plainText)
  | none => throw (.invalidArgument 0 "a number or a floating-point number")

/-- Calls a function; `present` is what `now` answers. -/
def call (present : Moment) (b : Builtin) : Function := fun input args f =>
  match b with
  | lorem => callLorem args
  | add => do
    let (x, y) ← integers input args
    checked (x.toInt + y.toInt)
  | defaultTo => callDefaultTo input args
  | formatDate => callFormatDate input args
  | formatNumber => callFormatNumber input args
  | join => callJoin input args f
  | list => .ok (.list args)
  | lowercase => .ok (.ofChars (Text.lower (Function.textOf input args f)))
  | now => .ok (.date present)
  | properCase => .ok (.ofChars (TitleCase.apply .standard (Function.textOf input args f)))
  | subtract => do
    let (x, y) ← integers input args
    checked (x.toInt - y.toInt)
  | trim => .ok (.ofChars (Text.trim (Function.textOf input args f)))
  | uppercase => .ok (.ofChars (Text.upper (Function.textOf input args f)))
  | utc => callUtc input args
  | wrap => callWrap input args

end Builtin

end BlockTemplate
