import BlockTemplate.Number.Double
import BlockTemplate.Number.Rounding
/-!
# The fewest digits that read back

A double stands for every real number that rounds to it. Among the decimals in that interval, the
shortest one is searched for grid by grid: one digit, two digits and so on, each grid giving its
two neighbours of the double. Seventeen digits always suffice. If both neighbours on the first grid
with a hit are equally near, which one is taken is up to the caller.

## Implementation notes

All quantities are counted in quarters of the last place of the mantissa, so that the ends of the
interval are whole numbers even where the double below is nearer than the one above.
-/

namespace BlockTemplate.Number

/-- The decimal `digits * 10 ^ exponent`. -/
structure Decimal where
  digits : Nat
  exponent : Int
  deriving DecidableEq, Repr

namespace Decimal

/-- The same decimal without zeros at the end of its digits. -/
def trim (d : Decimal) : Decimal :=
  if h : d.digits ≠ 0 ∧ d.digits % 10 = 0 then trim ⟨d.digits / 10, d.exponent + 1⟩ else d
  termination_by d.digits
  decreasing_by exact Nat.div_lt_self (Nat.pos_of_ne_zero h.1) (by omega)

end Decimal

/-- The reals that round to a double, in quarters of its last place. -/
structure Interval where
  value : Nat
  low : Nat
  high : Nat
  /-- Whether the ends round to the double too. -/
  closed : Bool

/-- The interval of the double `mantissa * 2 ^ exponent`. -/
def Interval.around (mantissa : Nat) (exponent : Int) : Interval :=
  let nearBelow := mantissa = Double.leadingBit ∧ exponent ≠ -1074
  { value := 4 * mantissa
    low := if nearBelow then 4 * mantissa - 1 else 4 * mantissa - 2
    high := 4 * mantissa + 2
    closed := mantissa % 2 = 0 }

/-- The decimal in the interval on the grid of multiples of `10 ^ k`, if there is one, and the
nearest one if there are two. `num / den` is one quarter of the last place, in units of the
grid. -/
def Interval.onGrid? (tie : Tie) (i : Interval) (num den : Nat) (k : Int) : Option Decimal :=
  let below := i.value * num / den
  let above := below + 1
  let lowFits := if i.closed then i.low * num ≤ below * den else i.low * num < below * den
  let highFits := if i.closed then above * den ≤ i.high * num else above * den < i.high * num
  if lowFits ∧ highFits then some ⟨roundNearest tie (i.value * num) den, k⟩
  else if lowFits then some ⟨below, k⟩
  else if highFits then some ⟨above, k⟩
  else none

/-- Grids of more and more digits, from `k` down. -/
def Interval.search (tie : Tie) (i : Interval) (num den : Int → Nat) : Nat → Int → Decimal
  | 0, k => ⟨i.value * num k / den k, k⟩
  | steps + 1, k =>
    (i.onGrid? tie (num k) (den k) k).getD (search tie i num den steps (k - 1))

/-- The power of ten of the first digit of `num / den`. -/
def leadingExponent (num den : Nat) : Int :=
  if den ≤ num then (natText (num / den)).length - 1
  else
    let inverse := (den + num - 1) / num
    Int.negOfNat (natText (inverse - 1)).length

/-- The shortest decimal that reads back as `mantissa * 2 ^ exponent`, and the nearest one among
those. -/
def shortest (tie : Tie) (mantissa : Nat) (exponent : Int) : Decimal :=
  let unit := exponent - 2
  let up := Nat.pow 2 unit.toNat
  let down := Nat.pow 2 (-unit).toNat
  let interval := Interval.around mantissa exponent
  let num (k : Int) := up * Nat.pow 10 (-k).toNat
  let den (k : Int) := down * Nat.pow 10 k.toNat
  let first := leadingExponent (interval.value * up) down
  (interval.search tie num den 17 first).trim

end BlockTemplate.Number
