import BlockTemplate.Number.FloatReader
/-!
# From written decimals to doubles

A written decimal becomes a double in one of two ways: as the nearest one, or in steps. In steps
the digits that fit in a 64-bit word are made a double, which is then multiplied or divided by a
power of ten; each of the two steps rounds, so the result may be a neighbour of the nearest double.

Main statements: a filled word still fits in 64 bits (`fillWord_lt`), and no more digits are left
out than there were (`fillWord_le`).

## Implementation notes

A word takes digits until one does not fit. The digits after the point are tried anew, even if
some before it were left out: a small digit may still fit where a greater one did not.
-/

namespace BlockTemplate.Number

/-- How a written decimal becomes a double. -/
inductive Conversion where
  | nearest
  | stepwise
  deriving DecidableEq, Repr

/-- Appends digits to a word as long as it fits in 64 bits: the word, and the number of digits that
are left out. -/
def fillWord (word : Nat) : List Char → Nat × Nat
  | [] => (word, 0)
  | c :: cs =>
    let next := 10 * word + digitValue c
    if next < UInt64.size then fillWord next cs else (word, cs.length + 1)

theorem fillWord_lt {word : Nat} (cs : List Char) (h : word < UInt64.size) :
    (fillWord word cs).1 < UInt64.size := by
  fun_induction fillWord word cs with
  | case1 => exact h
  | case2 _ _ _ next hn ih => exact ih hn
  | case3 => exact h

theorem fillWord_le (word : Nat) (cs : List Char) : (fillWord word cs).2 ≤ cs.length := by
  fun_induction fillWord word cs with
  | case1 => exact Nat.le_refl _
  | case2 _ _ _ _ _ ih => exact Nat.le_succ_of_le ih
  | case3 => exact Nat.le_refl _

/-- The digits of a decimal that fit in a word, and the power of ten of the last one. -/
def Written.scaled (w : Written) : Nat × Int :=
  let whole := fillWord 0 w.whole
  let all := fillWord whole.1 w.fraction
  (all.1, w.exponent + whole.2 - (w.fraction.length - all.2))

/-- The greatest power of ten among the doubles. -/
def greatestPower : Nat := 308

/-- The double nearest to a power of ten. -/
def powerOfTen (n : Nat) : Float := Double.ofDecimal false 1 n

/-- Divides by a power of ten. One that is no double is split, until nothing is left of the
number. -/
def divideByPower (x : Float) (n : Nat) : Float :=
  if n ≤ greatestPower then x / powerOfTen n
  else if x == 0.0 then x
  else divideByPower (x / powerOfTen greatestPower) (n - greatestPower)
  termination_by n
  decreasing_by
    simp only [greatestPower] at *
    omega

/-- Multiplies by a power of ten. Powers beyond the doubles keep zero alone finite. -/
def multiplyByPower (x : Float) (n : Nat) : Float :=
  if n ≤ greatestPower then x * powerOfTen n
  else if x == 0.0 then x
  else Double.ofMagnitude false Double.infinityBits

/-- The double of a decimal in steps. -/
def Written.toFloatStepwise (w : Written) : Float :=
  let parts := w.scaled
  let word := Double.ofDecimal false parts.1 0
  let magnitude :=
    if parts.2 < 0 then divideByPower word parts.2.natAbs else multiplyByPower word parts.2.toNat
  if w.negative then -magnitude else magnitude

/-- The double of a decimal; none if it is out of range. -/
def Conversion.toFloat? (conversion : Conversion) (w : Written) : Option Float :=
  let x := match conversion with
    | .nearest => w.toFloat
    | .stepwise => w.toFloatStepwise
  if x.isFinite then some x else none

end BlockTemplate.Number
