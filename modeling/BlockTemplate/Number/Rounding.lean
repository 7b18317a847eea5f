/-!
# Rounding a quotient

A quotient that is no whole number goes to the nearer one of its two neighbours. What happens half
way is a choice.

Main statements: a rounded quotient is at most half a unit away, whatever is done half way
(`roundNearest_le`, `le_roundNearest`).
-/

namespace BlockTemplate.Number

/-- Which of two equally near neighbours is taken. -/
inductive Tie where
  | up
  | toEven
  deriving DecidableEq, Repr

/-- Whether the lower one of two equally near neighbours is taken. -/
def Tie.takesLower (tie : Tie) (lower : Nat) : Bool :=
  match tie with
  | .up => false
  | .toEven => lower % 2 = 0

/-- The whole number nearest to `num / den`. -/
def roundNearest (tie : Tie) (num den : Nat) : Nat :=
  let lower := num / den
  let r := num % den
  if 2 * r < den ∨ (2 * r = den ∧ tie.takesLower lower) then lower else lower + 1

theorem roundNearest_le (tie : Tie) {num den : Nat} (h : 0 < den) :
    2 * den * roundNearest tie num den ≤ 2 * num + den := by
  have hd := Nat.div_add_mod num den
  have hm := Nat.mod_lt num h
  unfold roundNearest
  dsimp only
  generalize hq : num / den = q at *
  generalize hr : num % den = r at *
  have : 2 * den * (q + 1) = 2 * (den * q) + 2 * den := by
    rw [Nat.mul_add, Nat.mul_assoc, Nat.mul_one]
  have : 2 * den * q = 2 * (den * q) := Nat.mul_assoc ..
  split <;> omega

theorem le_roundNearest (tie : Tie) {num den : Nat} (h : 0 < den) :
    2 * num ≤ 2 * den * roundNearest tie num den + den := by
  have hd := Nat.div_add_mod num den
  have hm := Nat.mod_lt num h
  unfold roundNearest
  dsimp only
  generalize hq : num / den = q at *
  generalize hr : num % den = r at *
  have : 2 * den * (q + 1) = 2 * (den * q) + 2 * den := by
    rw [Nat.mul_add, Nat.mul_assoc, Nat.mul_one]
  have : 2 * den * q = 2 * (den * q) := Nat.mul_assoc ..
  split <;> omega

end BlockTemplate.Number
