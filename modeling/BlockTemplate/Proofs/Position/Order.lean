import BlockTemplate.Diagnosis
import Mathlib

/-!
# The order of positions

Positions are ordered by their lines, and those of one line by their columns. A larger offset never
has an earlier position, and neither line nor column of a position exceeds the bytes of the source.

Main statements: `Position.ofOffset_le_ofOffset`, `EditorPosition.ofPosition_le_ofPosition`,
`Diagnosis.start_le_stop`.
-/

namespace BlockTemplate

namespace Position

instance : LE Position where
  le p q := p.line < q.line ∨ p.line = q.line ∧ p.column ≤ q.column

theorem le_def {p q : Position} :
    p ≤ q ↔ p.line < q.line ∨ p.line = q.line ∧ p.column ≤ q.column := Iff.rfl

instance : Preorder Position where
  le_refl p := Or.inr ⟨rfl, Nat.le_refl _⟩
  le_trans p q r hpq hqr := by
    rw [le_def] at *
    omega

/-- Going on never leads back. -/
theorem le_advance (p : Position) (n : Nat) (cs : List Char) : p ≤ p.advance n cs := by
  induction cs generalizing p n with
  | nil => exact le_refl p
  | cons c cs ih =>
    rw [advance]
    split
    · exact le_refl p
    split
    · exact Or.inr ⟨rfl, Nat.le_add_right _ _⟩
    split
    · refine le_trans ?_ (ih _ _)
      exact Or.inl (Nat.lt_succ_self _)
    · refine le_trans ?_ (ih _ _)
      exact Or.inr ⟨rfl, Nat.le_add_right _ _⟩

/-- Who goes on for more bytes comes at least as far. -/
theorem advance_le_advance (p : Position) {n k : Nat} (h : n ≤ k) (cs : List Char) :
    p.advance n cs ≤ p.advance k cs := by
  induction cs generalizing p n k with
  | nil => exact le_refl p
  | cons c cs ih =>
    by_cases hn : n = 0
    · rw [advance, if_pos hn]
      exact le_advance p k (c :: cs)
    have hk : k ≠ 0 := by omega
    by_cases hinside : n < c.utf8Size
    · -- the first offset lies inside the character, the second there or behind it
      rw [advance, if_neg hn, if_pos hinside, advance, if_neg hk]
      split
      · exact Or.inr ⟨rfl, Nat.add_le_add_left h _⟩
      split
      · refine le_trans ?_ (le_advance _ _ _)
        exact Or.inl (Nat.lt_succ_self _)
      · refine le_trans ?_ (le_advance _ _ _)
        exact Or.inr ⟨rfl, Nat.add_le_add_left (Nat.le_of_lt hinside) _⟩
    · have hbehind : ¬k < c.utf8Size := by omega
      have hrest : n - c.utf8Size ≤ k - c.utf8Size := Nat.sub_le_sub_right h _
      rw [advance, if_neg hn, if_neg hinside, advance, if_neg hk, if_neg hbehind]
      split
      · exact ih _ hrest
      · exact ih _ hrest

/-- No number of a position exceeds the bytes gone on for. -/
theorem advance_bounds (p : Position) (n : Nat) (cs : List Char) :
    (p.advance n cs).line ≤ p.line + Text.byteLength cs ∧
      (p.advance n cs).column ≤ p.column + Text.byteLength cs := by
  induction cs generalizing p n with
  | nil => exact ⟨Nat.le_refl _, Nat.le_refl _⟩
  | cons c cs ih =>
    have hsize := c.utf8Size_pos
    rw [advance, Text.byteLength_cons]
    split
    · exact ⟨Nat.le_add_right _ _, Nat.le_add_right _ _⟩
    split
    · constructor <;> dsimp only <;> omega
    split
    · have hrest := ih ⟨p.line + 1, 0⟩ (n - c.utf8Size)
      constructor <;> dsimp only at hrest <;> omega
    · have hrest := ih ⟨p.line, p.column + c.utf8Size⟩ (n - c.utf8Size)
      constructor <;> dsimp only at hrest <;> omega

theorem ofOffset_le_ofOffset (source : List Char) {n k : Nat} (h : n ≤ k) :
    ofOffset source n ≤ ofOffset source k :=
  advance_le_advance _ h source

theorem ofOffset_bounds (source : List Char) (n : Nat) :
    (ofOffset source n).line ≤ Text.byteLength source ∧
      (ofOffset source n).column ≤ Text.byteLength source := by
  have h := advance_bounds ⟨0, 0⟩ n source
  dsimp only at h
  rw [Nat.zero_add] at h
  exact h

end Position

namespace EditorPosition

instance : LE EditorPosition where
  le p q := p.line < q.line ∨ p.line = q.line ∧ p.character ≤ q.character

/-- Positions that fit keep their order. -/
theorem ofPosition_le_ofPosition {p q : Position} (h : p ≤ q) (hline : q.line < 2 ^ 32)
    (hcolumn : q.column < 2 ^ 32) : ofPosition p ≤ ofPosition q := by
  have hto {n : Nat} (hn : n < 2 ^ 32) : (UInt32.ofNat n).toNat = n := Nat.mod_eq_of_lt hn
  rw [Position.le_def] at h
  rcases h with hlt | ⟨heq, hle⟩
  · left
    rw [UInt32.lt_iff_toNat_lt]
    change (UInt32.ofNat p.line).toNat < (UInt32.ofNat q.line).toNat
    rw [hto hline, hto (Nat.lt_trans hlt hline)]
    exact hlt
  · right
    refine ⟨congrArg UInt32.ofNat heq, ?_⟩
    rw [UInt32.le_iff_toNat_le]
    change (UInt32.ofNat p.column).toNat ≤ (UInt32.ofNat q.column).toNat
    rw [hto hcolumn, hto (Nat.lt_of_le_of_lt hle hcolumn)]
    exact hle

end EditorPosition

/-- The range that is shown for a span does not end before it starts. -/
theorem Diagnosis.start_le_stop {source : List Char} {e : Located TemplateError}
    (hspan : e.span.start ≤ e.span.stop) (hsource : Text.byteLength source < 2 ^ 32) :
    (Diagnosis.ofError source e).start ≤ (Diagnosis.ofError source e).stop := by
  obtain ⟨hline, hcolumn⟩ := Position.ofOffset_bounds source e.span.stop
  apply EditorPosition.ofPosition_le_ofPosition (Position.ofOffset_le_ofOffset source hspan)
  · exact Nat.lt_of_le_of_lt hline hsource
  · exact Nat.lt_of_le_of_lt hcolumn hsource

end BlockTemplate
