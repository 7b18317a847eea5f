import BlockTemplate.Number.Shortest
/-!
# The text of a double

Two ways of writing the shortest digits of a double, and the exact value to a number of places.
-/

namespace BlockTemplate.Number

/-- How the shortest digits of a double are laid out. -/
structure FloatStyle where
  /-- Whether a number whose first digit counts `10 ^ e` is written without an exponent. -/
  positional : Int → Bool
  /-- Whether a whole number keeps a zero after the point. -/
  keepsPoint : Bool
  /-- Which of two shortest decimals that are equally near is written. -/
  tie : Tie

namespace FloatStyle

/-- Printed values never show an exponent, and whole ones no point. A half goes up. -/
def plain : FloatStyle := ⟨fun _ => true, false, .up⟩

/-- In data a number shows that it is no integer, and very large and small ones an exponent.
A half goes to the even neighbour. -/
def data : FloatStyle := ⟨fun e => -5 ≤ e && e < 16, true, .toEven⟩

end FloatStyle

def zeros (n : Nat) : List Char := List.replicate n '0'

/-- Digits with a point before the last `places` of them; `keepsPoint` writes `.0` for none. -/
def positionalText (keepsPoint : Bool) (d : Decimal) : List Char :=
  let digits := natText d.digits
  if 0 ≤ d.exponent then
    digits ++ zeros d.exponent.toNat ++ if keepsPoint then ['.', '0'] else []
  else
    let places := (-d.exponent).toNat
    if places < digits.length then
      digits.take (digits.length - places) ++ '.' :: digits.drop (digits.length - places)
    else '0' :: '.' :: (zeros (places - digits.length) ++ digits)

/-- One digit before the point, and the power of ten with its sign. -/
def exponentText (d : Decimal) : List Char :=
  let digits := natText d.digits
  let e := d.exponent + digits.length - 1
  let sign := if e < 0 then '-' else '+'
  let fraction := if digits.length = 1 then [] else '.' :: digits.drop 1
  digits.take 1 ++ fraction ++ 'e' :: sign :: natText e.natAbs

/-- The digits of a decimal in a style. -/
def FloatStyle.decimalText (s : FloatStyle) (d : Decimal) : List Char :=
  if s.positional (d.exponent + (natText d.digits).length - 1) then
    positionalText s.keepsPoint d
  else exponentText d

def signText (negative : Bool) : List Char := if negative then ['-'] else []

/-- A double in a style. -/
def FloatStyle.text (s : FloatStyle) (x : Float) : List Char :=
  match Double.read x with
  | .nan => ['N', 'a', 'N']
  | .infinite negative => signText negative ++ ['i', 'n', 'f']
  | .finite negative mantissa exponent =>
    signText negative ++
      if mantissa = 0 then positionalText s.keepsPoint ⟨0, 0⟩
      else s.decimalText (shortest s.tie mantissa exponent)

/-- The number `mantissa * 2 ^ exponent` to a number of places, a half going to the even
neighbour: the digits of the whole number of last places. -/
def scaledToPlaces (places mantissa : Nat) (exponent : Int) : Nat :=
  roundNearest .toEven (mantissa * Nat.pow 2 exponent.toNat * Nat.pow 10 places)
    (Nat.pow 2 (-exponent).toNat)

/-- A number of last places, written with the point: at least one digit stands before it. -/
def placesText (places scaled : Nat) : List Char :=
  let digits := natText scaled
  let padded := zeros (places + 1 - digits.length) ++ digits
  let whole := padded.take (padded.length - places)
  if places = 0 then whole else whole ++ '.' :: padded.drop (padded.length - places)

/-- The magnitude of a double, with exactly `places` digits after the point. -/
def fixedText (places : Nat) (x : Float) : List Char :=
  match Double.read x with
  | .nan => ['N', 'a', 'N']
  | .infinite _ => ['i', 'n', 'f']
  | .finite _ mantissa exponent => placesText places (scaledToPlaces places mantissa exponent)

end BlockTemplate.Number
