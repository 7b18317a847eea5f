/-!
# Decimal digits of whole numbers

Main statements: reading what was written gives the number back (`ofDigits_natText`), and the
digits of a number are digits (`isDigit_of_mem_natText`).
-/

namespace BlockTemplate.Number

/-- The character of a digit below ten. -/
def digitChar (d : Nat) : Char := Char.ofNat (48 + d)

/-- The value of a digit character. -/
def digitValue (c : Char) : Nat := c.toNat - 48

/-- A natural number in decimal, without leading zeros. -/
def natText (n : Nat) : List Char :=
  if n < 10 then [digitChar n] else natText (n / 10) ++ [digitChar (n % 10)]

/-- The number that a run of decimal digits stands for; leading zeros count for nothing. -/
def ofDigits (cs : List Char) : Nat := cs.foldl (fun n c => 10 * n + digitValue c) 0

/-- An integer in decimal, with a minus sign if it is negative. -/
def intText (n : Int) : List Char :=
  if n < 0 then '-' :: natText n.natAbs else natText n.natAbs

theorem digitValue_digitChar {d : Nat} (h : d < 10) : digitValue (digitChar d) = d := by
  match d with
  | 0 | 1 | 2 | 3 | 4 | 5 | 6 | 7 | 8 | 9 => rfl
  | n + 10 => omega

theorem isDigit_digitChar {d : Nat} (h : d < 10) : (digitChar d).isDigit = true := by
  match d with
  | 0 | 1 | 2 | 3 | 4 | 5 | 6 | 7 | 8 | 9 => rfl
  | n + 10 => omega

/-- No digit is a letter. -/
theorem isAlpha_eq_false_of_isDigit {c : Char} (h : c.isDigit = true) : c.isAlpha = false := by
  have hle : c.toNat ≤ 57 := (Char.isDigit_iff_toNat.1 h).2
  rw [Bool.eq_false_iff]
  intro halpha
  rcases (Bool.or_eq_true _ _).mp halpha with hupper | hlower
  · have hlow : 65 ≤ c.toNat := (of_decide_eq_true hupper).1
    omega
  · have hlow : 97 ≤ c.toNat := of_decide_eq_true ((Bool.and_eq_true _ _).mp hlower).1
    omega

theorem ofDigits_append_singleton (cs : List Char) (c : Char) :
    ofDigits (cs ++ [c]) = 10 * ofDigits cs + digitValue c := by
  simp [ofDigits]

theorem ofDigits_natText (n : Nat) : ofDigits (natText n) = n := by
  fun_induction natText n with
  | case1 n h => simp [ofDigits, digitValue_digitChar h]
  | case2 n h ih =>
    rw [ofDigits_append_singleton, ih, digitValue_digitChar (Nat.mod_lt _ (by omega))]
    omega

theorem isDigit_of_mem_natText {n : Nat} {c : Char} (hc : c ∈ natText n) : c.isDigit = true := by
  fun_induction natText n with
  | case1 n h =>
    rw [List.mem_singleton.1 hc]
    exact isDigit_digitChar h
  | case2 n h ih =>
    rcases List.mem_append.1 hc with hc | hc
    · exact ih hc
    · rw [List.mem_singleton.1 hc]
      exact isDigit_digitChar (Nat.mod_lt _ (by omega))

theorem natText_ne_nil (n : Nat) : natText n ≠ [] := by
  unfold natText
  split <;> simp

end BlockTemplate.Number
