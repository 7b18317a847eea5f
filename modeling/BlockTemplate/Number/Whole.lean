import BlockTemplate.Number.Natural
/-!
# Strict integers

An integer is an optional sign and at least one decimal digit, nothing else, and has to fit in
64 bits with sign.
-/

namespace BlockTemplate.Number

/-- The sign a number starts with, as "is it negative", and the text after it. -/
def splitSign : List Char → Bool × List Char
  | '-' :: cs => (true, cs)
  | '+' :: cs => (false, cs)
  | cs => (false, cs)

/-- An integer of any size: an optional sign, then decimal digits only. -/
def readInt? (cs : List Char) : Option Int :=
  let parts := splitSign cs
  if parts.2 = [] then none
  else if parts.2.all Char.isDigit then
    some (if parts.1 then -(ofDigits parts.2 : Int) else ofDigits parts.2)
  else none

/-- The integer as a 64-bit word, if it fits. -/
def word? (n : Int) : Option Int64 :=
  if Int64.minValue.toInt ≤ n ∧ n ≤ Int64.maxValue.toInt then some (Int64.ofInt n) else none

/-- An integer that fits in 64 bits. -/
def strictInt? (cs : List Char) : Option Int64 := (readInt? cs).bind word?

end BlockTemplate.Number
