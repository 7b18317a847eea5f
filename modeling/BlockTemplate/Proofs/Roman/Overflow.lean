import BlockTemplate.Proofs.Roman.Total

/-!
# Roman numerals that no word holds

Rounds of three thousands and a one are numerals of any length, and each adds 2999. The shortest
numeral whose total a word of 32 bits does not hold is such a text with 5728532 characters. What
counts as a numeral does not depend on the total, so longer texts are still recognized, with the
value that is left in the word.

Main statements: `forall_staysInWord_iff`, `staysInWord_iff_sums_fit`.
-/

namespace BlockTemplate.Roman

/-- Three thousands and a one, over and over. -/
def rounds (n : Nat) : List Char := (List.replicate n ['M', 'M', 'M', 'I']).flatten

/-- The values of its symbols. -/
def roundValues (n : Nat) : List UInt32 := (List.replicate n [1000, 1000, 1000, 1]).flatten

theorem length_rounds (n : Nat) : (rounds n).length = 4 * n := by
  simp [rounds, Nat.mul_comm]

theorem map_rounds (n : Nat) : (rounds n).map symbolValue? = (roundValues n).map some := by
  have hround : ['M', 'M', 'M', 'I'].map symbolValue? =
      [1000, 1000, 1000, 1].map (some : UInt32 → _) := by decide
  simp only [rounds, roundValues, List.map_flatten, List.map_replicate, hround]

theorem roundValues_succ (n : Nat) :
    roundValues (n + 1) = [1000, 1000, 1000, 1] ++ roundValues n := by
  rw [roundValues, roundValues, List.replicate_succ, List.flatten_cons]

/-- Every round adds 2999. -/
theorem subtractiveSum_roundValues (n : Nat) (rest : List UInt32) :
    subtractiveSum (roundValues n ++ 1000 :: rest) =
      2999 * n + subtractiveSum (1000 :: rest) := by
  induction n with
  | zero => simp [roundValues]
  | succ n ih =>
      have hhead : ∃ tail, roundValues n ++ 1000 :: rest = 1000 :: tail := by
        cases n with
        | zero => exact ⟨rest, rfl⟩
        | succ n => exact ⟨_, by rw [roundValues_succ]; rfl⟩
      obtain ⟨tail, htail⟩ := hhead
      rw [htail] at ih
      have hround : subtractiveSum (1000 :: 1000 :: 1000 :: 1 :: 1000 :: tail) =
          1000 + (1000 + (1000 + (-1 + subtractiveSum (1000 :: tail)))) := rfl
      rw [roundValues_succ, List.append_assoc, htail]
      change subtractiveSum (1000 :: 1000 :: 1000 :: 1 :: 1000 :: tail) = _
      rw [hround, ih]
      omega

theorem foldlM_append_of_foldlM {r s : Reading} {us : List UInt32}
    (hread : us.foldlM Reading.step r = some s) (ws : List UInt32) :
    (us ++ ws).foldlM Reading.step r = ws.foldlM Reading.step s := by
  rw [List.foldlM_append, hread]
  rfl

/-- A round leaves all but the total as it was. -/
theorem exists_foldlM_roundValues (n : Nat) (total : UInt32) :
    ∃ total', (roundValues n).foldlM Reading.step ⟨total, some 1, false, 1⟩ =
      some ⟨total', some 1, false, 1⟩ := by
  induction n generalizing total with
  | zero => exact ⟨total, rfl⟩
  | succ n ih =>
      have hround : ∃ total', [1000, 1000, 1000, 1].foldlM Reading.step ⟨total, some 1, false, 1⟩ =
        some ⟨total', some 1, false, 1⟩ := ⟨_, rfl⟩
      obtain ⟨between, hround⟩ := hround
      obtain ⟨total', hrest⟩ := ih between
      exact ⟨total', by rw [roundValues_succ, foldlM_append_of_foldlM hround, hrest]⟩

/-- Rounds, and three more thousands. -/
def thousands (n : Nat) : List Char := rounds n ++ ['M', 'M', 'M']

/-- The values of its symbols. -/
def thousandValues (n : Nat) : List UInt32 := roundValues n ++ [1000, 1000, 1000]

theorem length_thousands (n : Nat) : (thousands n).length = 4 * n + 3 := by
  simp [thousands, length_rounds]

theorem map_thousands (n : Nat) :
    (thousands n).map symbolValue? = (thousandValues n).map some := by
  have hlast : ['M', 'M', 'M'].map symbolValue? = [1000, 1000, 1000].map (some : UInt32 → _) := by
    decide
  rw [thousands, thousandValues, List.map_append, List.map_append, map_rounds, hlast]

theorem exists_foldlM_thousandValues {n : Nat} (hn : n ≠ 0) :
    ∃ total, (thousandValues n).foldlM Reading.step .start = some ⟨total, some 1000, false, 3⟩ := by
  obtain ⟨n, rfl⟩ := Nat.exists_eq_succ_of_ne_zero hn
  have hround : [1000, 1000, 1000, 1].foldlM Reading.step .start =
      some ⟨3001, some 1, false, 1⟩ := by decide
  obtain ⟨between, hrounds⟩ := exists_foldlM_roundValues n 3001
  have hlast : ∃ total, [1000, 1000, 1000].foldlM Reading.step ⟨between, some 1, false, 1⟩ =
      some ⟨total, some 1000, false, 3⟩ := ⟨_, rfl⟩
  obtain ⟨total, hlast⟩ := hlast
  refine ⟨total, ?_⟩
  rw [thousandValues, roundValues_succ, List.append_assoc, foldlM_append_of_foldlM hround,
    foldlM_append_of_foldlM hrounds, hlast]

theorem wellFormed_thousandValues {n : Nat} (hn : n ≠ 0) :
    WellFormed (thousandValues n ++ [500]) := by
  obtain ⟨total, hread⟩ := exists_foldlM_thousandValues hn
  have hlast : ∃ r, [500].foldlM Reading.step ⟨total, some 1000, false, 3⟩ = some r := ⟨_, rfl⟩
  rw [← foldlM_append_of_foldlM hread] at hlast
  exact (Reading.tracks_start.exists_foldlM_iff wellFormed_nil).1 hlast

theorem map_thousands_cons (n : Nat) (ds : List Char) :
    (thousands n ++ 'D' :: ds).map symbolValue? =
      (thousandValues n ++ [500]).map some ++ ds.map symbolValue? := by
  rw [List.map_append, map_thousands, List.map_append, List.append_assoc]
  rfl

theorem isNumeral_thousands {n : Nat} (hn : n ≠ 0) :
    IsNumeral (thousands n ++ ['D']) (thousandValues n ++ [500]) where
  ne_nil := by simp
  values := by rw [map_thousands_cons, List.map_nil, List.append_nil]
  wellFormed := wellFormed_thousandValues hn

theorem subtractiveSum_thousandValues (n : Nat) :
    subtractiveSum (thousandValues n ++ [500]) = 2999 * n + 3500 := by
  have hlast : subtractiveSum [1000, 1000, 1000, 500] = 3500 := by decide
  rw [thousandValues, List.append_assoc, List.cons_append, subtractiveSum_roundValues]
  exact congrArg _ hlast

/-- The symbol after so many thousands takes the total out of the word. -/
theorem not_staysInWord_thousands (ds : List Char) :
    ¬StaysInWord (thousands 1432132 ++ 'D' :: ds) := by
  intro hstays
  have hreach : Reaches (thousands 1432132 ++ 'D' :: ds) (thousandValues 1432132) 500 :=
    reaches_of_begins (map_thousands_cons _ ds ▸ List.prefix_append _ _)
      (wellFormed_thousandValues (by decide))
  have hfits := staysInWord_iff_of_reaches.1 hstays _ _ hreach
  rw [subtractiveSum_thousandValues] at hfits
  exact absurd hfits (by decide)

/-- There are texts of every greater length that start like that. -/
theorem exists_length_thousands (n k : Nat) (hk : 4 * n + 4 ≤ k) :
    ∃ ds, (thousands n ++ 'D' :: ds).length = k := by
  refine ⟨List.replicate (k - (4 * n + 4)) 'D', ?_⟩
  rw [List.length_append, length_thousands, List.length_cons, List.length_replicate]
  omega

/-- All texts of a length stay in the word just if they have fewer than 5728532 characters. -/
theorem forall_staysInWord_iff {n : Nat} :
    (∀ cs : List Char, cs.length = n → StaysInWord cs) ↔ n < 5728532 := by
  constructor
  · intro hall
    by_contra hlong
    obtain ⟨ds, hlength⟩ := exists_length_thousands 1432132 n (not_lt.1 hlong)
    exact not_staysInWord_thousands ds (hall _ hlength)
  · intro hlt cs hlength
    exact staysInWord_of_length_lt (hlength ▸ hlt)

/-- A text stays in the word just if every sum that reading it comes to fits, and all texts of its
length do just if they are shorter than 5728532 characters. Of any length it has a value just if it
is a numeral, and the value is the sum up to multiples of the size of a word. -/
theorem staysInWord_iff_sums_fit (cs : List Char) :
    (StaysInWord cs ↔ ∀ vs v, Reaches cs vs v → subtractiveSum (vs ++ [v]) < 2 ^ 32) ∧
      ((∀ ds : List Char, ds.length = cs.length → StaysInWord ds) ↔ cs.length < 5728532) ∧
      ((value? cs).isSome = true ↔ ∃ vs, IsNumeral cs vs) ∧
      ∀ n, value? cs = some n ↔
        ∃ vs, IsNumeral cs vs ∧ (n.toNat : Int) = subtractiveSum vs % 2 ^ 32 :=
  ⟨staysInWord_iff_of_reaches, forall_staysInWord_iff, isSome_value?_iff, fun _ =>
    value?_eq_some_iff_isNumeral⟩

/-- The shortest numeral that does not stay in the word: its value is what is left of its sum. -/
theorem value?_overlong :
    let cs := thousands 1432132 ++ ['D']
    let vs := thousandValues 1432132 ++ [500]
    cs.length = 5728532 ∧ ¬StaysInWord cs ∧ IsNumeral cs vs ∧ subtractiveSum vs = 4294967368 ∧
      value? cs = some 72 := by
  intro cs vs
  have hnumeral : IsNumeral cs vs := isNumeral_thousands (by decide)
  have hsum : subtractiveSum vs = 4294967368 := by
    rw [subtractiveSum_thousandValues]
    norm_num
  have hvalue : value? cs = some 72 :=
    value?_eq_some_iff_isNumeral.2 ⟨vs, hnumeral, by rw [hsum]; rfl⟩
  refine ⟨?_, not_staysInWord_thousands [], hnumeral, hsum, hvalue⟩
  rw [List.length_append, length_thousands]
  rfl

end BlockTemplate.Roman
