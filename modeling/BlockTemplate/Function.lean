import BlockTemplate.Failure
import BlockTemplate.Value.Text
import BlockTemplate.Token.Scanner
/-!
# Functions

A function takes the value that flows through a filter chain, the values of its arguments and the
formatting of the processor that calls it. The input is null where nothing flows.
-/

namespace BlockTemplate

/-- A function that answers from its arguments alone. -/
abbrev Function := Value → List Value → Formatting → Except FunctionError Value

namespace Function

/-- Whether a name may be registered: a letter or underscore, then letters, digits and
underscores. -/
def isValidName (name : List Char) : Bool :=
  match name with
  | [] => false
  | c :: cs => isNameStart c && cs.all fun d => d.isAlphanum || d = '_'

/-- The values that fill the slots of a function, input first if there is one. -/
def slotValues (input : Value) (args : List Value) : List Value :=
  if input.isNull then args else input :: args

/-- What a function reports that cannot fill its slots. -/
def countError (slots : Nat) (input : Value) : FunctionError :=
  .argumentCount slots !input.isNull

/-- Fills a number of slots. Values beyond them are left out; too few values, or null in a slot,
are an error. -/
def bind (slots : Nat) (input : Value) (args : List Value) :
    Except FunctionError (Vector Value slots) :=
  let values := (slotValues input args).take slots
  if h : values.length = slots then
    if values.any Value.isNull then .error (countError slots input)
    else .ok ⟨values.toArray, by simpa using h⟩
  else .error (countError slots input)

/-- The text that a function of one text works on: that of the input, or of the first argument if
there is no input. -/
def textOf (input : Value) (args : List Value) (f : Formatting) : List Char :=
  if input.isNull then (args.headD .null).text f else input.text f

end Function

end BlockTemplate
