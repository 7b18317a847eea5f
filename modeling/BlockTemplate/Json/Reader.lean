import BlockTemplate.Json.Lexer
import BlockTemplate.Number.Conversion
/-!
# Reading JSON text

A second machine takes the tokens and keeps the arrays and objects that are still open, innermost
first. Arrays and objects may be nested `depthLimit` deep.

## Implementation notes

A number without point and exponent is an integer if it fits in 64 bits, with or without sign;
any other number is a double, and one that is out of range is refused. Minus zero is a double,
since no integer is. Whether a double is the nearest one is up to the caller.
-/

namespace BlockTemplate.Json

/-- How deep arrays and objects may be nested. -/
def depthLimit : Nat := 127

/-- Whether a number is spelled as JSON wants it: no plus sign, no leading zeros, and digits on
both sides of a point. -/
def isNumberSpelling (cs : List Char) : Bool :=
  let unsigned := match cs with
    | '-' :: rest => rest
    | rest => rest
  let whole := unsigned.takeWhile Char.isDigit
  let wholeFits := match whole with
    | [] => false
    | [_] => true
    | c :: _ => c ≠ '0'
  let fractionFits := match unsigned.dropWhile Char.isDigit with
    | '.' :: rest => (rest.takeWhile Char.isDigit) ≠ []
    | _ => true
  wholeFits && fractionFits

/-- Reads a number without point and exponent that is no double. -/
def integer? (cs : List Char) : Option Int :=
  (Number.readInt? cs).filter fun n =>
    Int64.minValue.toInt ≤ n && n < UInt64.size && !(n = 0 && cs.head? = some '-')

/-- Reads a number. -/
def number? (conversion : Number.Conversion) (cs : List Char) : Option Json :=
  if isNumberSpelling cs then
    match integer? cs with
    | some n => some (.integer n)
    | none => ((Number.readDecimal? cs).bind conversion.toFloat?).map .float
  else none

/-- Reads a word. -/
def word? (conversion : Number.Conversion) (cs : List Char) : Option Json :=
  if cs = ['n', 'u', 'l', 'l'] then some .null
  else if cs = ['t', 'r', 'u', 'e'] then some (.bool true)
  else if cs = ['f', 'a', 'l', 's', 'e'] then some (.bool false)
  else number? conversion cs

/-- An array or object whose end has not been read. Its parts are kept last one first. -/
inductive Frame where
  | items (done : List Json)
  | member (done : List (String × Json)) (key : String)

inductive ReadState where
  /-- A value has to follow. -/
  | value (frames : List Frame)
  /-- After the opening bracket of an array. -/
  | firstItem (frames : List Frame)
  /-- After the opening brace of an object. -/
  | firstKey (frames : List Frame)
  /-- After a comma in an object. -/
  | key (frames : List Frame) (done : List (String × Json))
  | colon (frames : List Frame) (done : List (String × Json)) (key : String)
  /-- After a value. -/
  | after (frames : List Frame) (value : Json)

/-- Reads the first token of a value. -/
def beginValue (conversion : Number.Conversion) (frames : List Frame) : Token → Option ReadState
  | .string s => some (.after frames (.string s))
  | .word cs => (word? conversion cs).map (.after frames ·)
  | .openArray => if frames.length < depthLimit then some (.firstItem frames) else none
  | .openObject => if frames.length < depthLimit then some (.firstKey frames) else none
  | _ => none

/-- Reads a token. -/
def readStep (conversion : Number.Conversion) (s : ReadState) (t : Token) : Option ReadState :=
  match s with
  | .value frames => beginValue conversion frames t
  | .firstItem frames =>
    if t = .closeArray then some (.after frames (.array []))
    else beginValue conversion (.items [] :: frames) t
  | .firstKey frames =>
    match t with
    | .closeObject => some (.after frames (.object []))
    | .string key => some (.colon frames [] key)
    | _ => none
  | .key frames done =>
    match t with
    | .string key => some (.colon frames done key)
    | _ => none
  | .colon frames done key =>
    if t = .colon then some (.value (.member done key :: frames)) else none
  | .after frames value =>
    match frames with
    | [] => none
    | .items done :: outer =>
      let done := value :: done
      match t with
      | .comma => some (.value (.items done :: outer))
      | .closeArray => some (.after outer (.array done.reverse))
      | _ => none
    | .member done key :: outer =>
      let done := (key, value) :: done
      match t with
      | .comma => some (.key outer done)
      | .closeObject => some (.after outer (.ofFields done.reverse))
      | _ => none

/-- The value that a whole token sequence spells. -/
def ofTokens? (conversion : Number.Conversion) (ts : List Token) : Option Json :=
  match ts.foldlM (readStep conversion) (.value []) with
  | some (.after [] value) => some value
  | _ => none

/-- The value that a text spells. -/
def parse? (conversion : Number.Conversion) (text : String) : Option Json :=
  (lex? text.toList).bind (ofTokens? conversion)

end BlockTemplate.Json
