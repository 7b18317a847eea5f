import BlockTemplate.Number.FloatText
import BlockTemplate.Text.Blank
import BlockTemplate.Text.Search
/-!
# Number patterns

A pattern such as `$0,0.0[00]` says how a number is written: grouped in thousands, with a number
of fixed and of optional decimals, with a sign that is always shown, with a currency before or
after the number, or as a percentage.

The work is in two steps: the magnitude is written with all decimals that a pattern allows, and
`layout` trims, groups and surrounds that text.
-/

namespace BlockTemplate

/-- What a pattern asks for. The texts are empty where a pattern has no such part. -/
structure NumberPattern where
  alwaysSign : Bool
  grouped : Bool
  fixedDecimals : Nat
  optionalDecimals : Nat
  currencyBefore : List Char
  currencyAfter : List Char
  percent : List Char
  deriving DecidableEq, Repr

namespace NumberPattern

open Text

/-- The pattern that stands for a blank one. -/
def fallback : List Char := ['0', ',', '0']

/-- Whether a pattern starts with the currency, signs left out. -/
def startsWithCurrency (pattern : List Char) : Bool :=
  ['$'].isPrefixOf (pattern.dropWhile fun c => c = '+' || c = '-')

/-- The currency before the number, with the space after it. -/
def currencyBeforeOf (pattern : List Char) : List Char :=
  let unsigned := pattern.dropWhile fun c => c = '+' || c = '-'
  if ['$', ' '].isPrefixOf unsigned then ['$', ' ']
  else if ['$'].isPrefixOf unsigned then ['$']
  else []

/-- The currency after the number, with the space before it; never on both sides. -/
def currencyAfterOf (pattern : List Char) : List Char :=
  if startsWithCurrency pattern then []
  else if endsWith [' ', '$'] pattern then [' ', '$']
  else if endsWith ['$'] pattern then ['$']
  else []

/-- The percent sign, with the space before it. -/
def percentOf (pattern : List Char) : List Char :=
  if contains [' ', '%'] pattern then [' ', '%']
  else if pattern.contains '%' then ['%']
  else []

/-- Reads a pattern. Every text is one; what has no meaning is passed over. -/
def ofChars (pattern : List Char) : NumberPattern :=
  let decimals := (pattern.dropWhile (· ≠ '.')).drop 1
  { alwaysSign := pattern.contains '+'
    grouped := (pattern.takeWhile (· ≠ '.')).contains ','
    fixedDecimals := (decimals.takeWhile (· ≠ '[')).count '0'
    optionalDecimals := (decimals.dropWhile (· ≠ '[')).count '0'
    currencyBefore := currencyBeforeOf pattern
    currencyAfter := currencyAfterOf pattern
    percent := percentOf pattern }

/-- A text without up to `n` zeros at its start. -/
def dropZeros : Nat → List Char → List Char
  | 0, cs => cs
  | n + 1, cs =>
    match cs with
    | '0' :: rest => dropZeros n rest
    | _ => cs

/-- A text without a point at its start. -/
def dropPoint : List Char → List Char
  | '.' :: rest => rest
  | cs => cs

/-- Digits without up to `optional` zeros at their end, and without a point that then ends
them. -/
def trimDecimals (optional : Nat) (digits : List Char) : List Char :=
  if optional = 0 then digits else (dropPoint (dropZeros optional digits.reverse)).reverse

/-- Characters in groups of three from the end, the last group first. -/
def groupReversed : List Char → List Char
  | a :: b :: c :: d :: rest => a :: b :: c :: ',' :: groupReversed (d :: rest)
  | cs => cs

/-- Digits with a comma before every three of them. -/
def groupThousands (digits : List Char) : List Char := (groupReversed digits.reverse).reverse

/-- The sign of a number. Zero has none. -/
def sign (p : NumberPattern) (negative isZero : Bool) : List Char :=
  if isZero then [] else if negative then ['-'] else if p.alwaysSign then ['+'] else []

/-- Lays out the digits of a magnitude; `negative` says whether the number is below zero. -/
def layout (p : NumberPattern) (negative : Bool) (magnitude : List Char) : List Char :=
  let digits := trimDecimals p.optionalDecimals magnitude
  let whole := digits.takeWhile (· ≠ '.')
  let fraction := digits.dropWhile (· ≠ '.')
  let isZero := digits.all fun c => c = '0' || c = '.'
  p.sign negative isZero ++ p.currencyBefore ++
    (if p.grouped then groupThousands whole else whole) ++ fraction ++ p.currencyAfter ++ p.percent

/-- The number of decimals that are written before any is trimmed. -/
def decimals (p : NumberPattern) : Nat := p.fixedDecimals + p.optionalDecimals

/-- The number that a pattern writes: a hundred times the value for a percentage. -/
def scaled (p : NumberPattern) (x : Float) : Float := if p.percent = [] then x else x * 100.0

/-- Writes a number. -/
def write (p : NumberPattern) (x : Float) : List Char :=
  let value := p.scaled x
  p.layout (value < 0.0) (Number.fixedText p.decimals value)

/-- Reads a pattern as it is given; a blank one stands for the fallback. -/
def ofText (pattern : List Char) : NumberPattern :=
  ofChars (if Text.trim pattern = [] then fallback else pattern)

end NumberPattern

/-- A number in a pattern given as text. -/
def formatNumber (x : Float) (pattern : List Char) : List Char :=
  (NumberPattern.ofText pattern).write x

end BlockTemplate
