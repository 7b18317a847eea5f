import BlockTemplate.Number.Natural
import BlockTemplate.Number.Rounding
/-!
# Doubles as exact numbers

A finite double is a whole mantissa times a power of two. `read` takes the bits of a double apart,
`ofRatio` finds the double nearest to a ratio of whole numbers, ties going to the even mantissa.
-/

namespace BlockTemplate.Number.Double

/-- What the bits of a double stand for: a finite one is `mantissa * 2 ^ exponent`. -/
inductive Reading where
  | nan
  | infinite (negative : Bool)
  | finite (negative : Bool) (mantissa : Nat) (exponent : Int)
  deriving DecidableEq, Repr

/-- The bit of the sign. -/
def signBit : Nat := 0x8000000000000000

/-- The bit above the 52 bits of the fraction. In a mantissa it stands for the leading one, which is
not stored. -/
def leadingBit : Nat := 0x10000000000000

/-- Reads a double given by its 64 bits. -/
def readBits (bits : Nat) : Reading :=
  let negative := bits / signBit % 2 = 1
  let biased : Nat := bits / leadingBit % 2048
  let fraction : Nat := bits % leadingBit
  if biased = 2047 then
    if fraction = 0 then .infinite negative else .nan
  else if biased = 0 then .finite negative fraction (-1074)
  else .finite negative (leadingBit + fraction) ((biased : Int) - 1075)

/-- Reads a double. -/
def read (x : Float) : Reading := readBits x.toBits.toNat

/-- The bits of positive infinity. -/
def infinityBits : Nat := 2047 * leadingBit

/-- The bits of the double nearest to `num / den`, without a sign. -/
def magnitudeBits (num den : Nat) : Nat :=
  let quotient (e : Int) : Nat × Nat :=
    if 0 ≤ e then (num, den * Nat.pow 2 e.toNat) else (num * Nat.pow 2 (-e).toNat, den)
  let estimate : Int := (num.log2 : Int) - den.log2 - 52
  let top := quotient estimate
  let fitted := if top.1 / top.2 < leadingBit then estimate - 1 else estimate
  let exponent := max fitted (-1074)
  let parts := quotient exponent
  min infinityBits ((exponent + 1074).toNat * leadingBit + roundNearest .toEven parts.1 parts.2)

/-- The double with a sign and the bits of a magnitude. -/
def ofMagnitude (negative : Bool) (bits : Nat) : Float :=
  Float.ofBits (UInt64.ofNat (if negative then signBit + bits else bits))

/-- The double nearest to `digits * 10 ^ exponent`. Beyond the range of doubles that is zero or
infinity, and no power of ten is computed there. -/
def ofDecimal (negative : Bool) (digits : Nat) (exponent : Int) : Float :=
  let reach := (natText digits).length + exponent
  ofMagnitude negative <|
    if digits = 0 ∨ reach < -330 then 0
    else if 310 < reach then infinityBits
    else if 0 ≤ exponent then magnitudeBits (digits * Nat.pow 10 exponent.toNat) 1
    else magnitudeBits digits (Nat.pow 10 (-exponent).toNat)

/-- The double nearest to an integer. -/
def ofInt (n : Int) : Float := ofDecimal (n < 0) n.natAbs 0

end BlockTemplate.Number.Double
