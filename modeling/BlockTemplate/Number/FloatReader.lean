import BlockTemplate.Number.Double
import BlockTemplate.Number.Whole
/-!
# Reading doubles

A decimal has an optional sign, digits with an optional point among or around them, and an
optional exponent. It stands for the nearest double.
-/

namespace BlockTemplate.Number

/-- A decimal as it is written: the digits before the point, those after it, and the number after
the `e`. -/
structure Written where
  negative : Bool
  whole : List Char
  fraction : List Char
  exponent : Int

/-- The exponent after the digits: none, or an `e` and an integer. -/
def readExponent? : List Char → Option Int
  | [] => some 0
  | c :: cs => if c = 'e' ∨ c = 'E' then readInt? cs else none

/-- Reads a decimal. -/
def readDecimal? (cs : List Char) : Option Written :=
  let parts := splitSign cs
  let whole := parts.2.takeWhile Char.isDigit
  let afterWhole := parts.2.dropWhile Char.isDigit
  let fraction :=
    match afterWhole with
    | '.' :: rest => rest.takeWhile Char.isDigit
    | _ => []
  let afterFraction :=
    match afterWhole with
    | '.' :: rest => rest.dropWhile Char.isDigit
    | rest => rest
  if whole ++ fraction = [] then none
  else (readExponent? afterFraction).map fun e => ⟨parts.1, whole, fraction, e⟩

/-- The double nearest to a written decimal. -/
def Written.toFloat (w : Written) : Float :=
  Double.ofDecimal w.negative (ofDigits (w.whole ++ w.fraction)) (w.exponent - w.fraction.length)

/-- Words for numbers that are no decimals, in any case: the magnitude they name. -/
def readWord? (cs : List Char) : Option Double.Reading :=
  let word := String.ofList (cs.map Char.toLower)
  if word = "nan" then some .nan
  else if word = "inf" ∨ word = "infinity" then some (.infinite false)
  else none

/-- Reads a double: a decimal, or a word for infinity or for no number. -/
def readFloat? (cs : List Char) : Option Float :=
  match readDecimal? cs with
  | some w => some w.toFloat
  | none =>
    let parts := splitSign cs
    match readWord? parts.2 with
    | some .nan => some (Float.ofBits 0x7ff8000000000000)
    | some _ => some (Double.ofMagnitude parts.1 Double.infinityBits)
    | none => none

/-- Characters a strict number may start with. -/
def startsNumber (c : Char) : Bool :=
  c.isDigit || c = '+' || c = '-' || c = '.' || c = 'e' || c = 'E'

/-- A finite double, and nothing around it. -/
def strictFloat? (cs : List Char) : Option Float :=
  match cs with
  | [] => none
  | c :: _ =>
    if startsNumber c then (readFloat? cs).filter Float.isFinite else none

end BlockTemplate.Number
