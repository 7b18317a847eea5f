import BlockTemplate.Text.Offset
import Mathlib

/-!
# Texts that differ in case

Two texts with the same characters but for the case of ASCII letters have characters of the same
widths, so the same offsets mark the same places in both. A run of characters of a class that holds
all letters or none of them is as long in both.

## Implementation notes

The places where letters may differ are a parameter. `DifferInCase.exists_append` is how it is used:
up to the first such place the texts are equal.

Main statements: `DifferInCase.exists_append`, `DifferInCase.takeWhile`.
-/

namespace BlockTemplate

/-! ### Letters -/

theorem eq_or_isAlpha_of_toLower_eq {c c' : Char} (h : c.toLower = c'.toLower) :
    c = c' ∨ c.isAlpha = true ∧ c'.isAlpha = true := by
  have halpha : c.isAlpha = c'.isAlpha := by
    rw [← Char.isAlpha_toLower_eq_isAlpha c, h, Char.isAlpha_toLower_eq_isAlpha]
  cases hc : c.isAlpha with
  | true => exact Or.inr ⟨rfl, halpha ▸ hc⟩
  | false =>
    have hnot {x : Char} (hx : x.isAlpha = false) : x.toLower = x := by
      apply Char.toLower_eq_of_not_isUpper
      intro hupper
      rw [Char.isAlpha, hupper, Bool.true_or] at hx
      cases hx
    left
    rw [← hnot hc, h, hnot (halpha ▸ hc)]

theorem utf8Size_of_isAlpha {c : Char} (h : c.isAlpha = true) : c.utf8Size = 1 := by
  simp only [Char.isAlpha, Char.isUpper, Char.isLower, Bool.or_eq_true, Bool.and_eq_true,
    decide_eq_true_eq, UInt32.le_iff_toNat_le, ge_iff_le] at h
  rw [Char.utf8Size_eq_one_iff, UInt32.le_iff_toNat_le]
  have hZ : 'Z'.val.toNat = 90 := rfl
  have hz : 'z'.val.toNat = 122 := rfl
  have hlast : (127 : UInt32).toNat = 127 := rfl
  omega

theorem Text.byteLength_map_toLower (cs : List Char) :
    byteLength (cs.map Char.toLower) = byteLength cs := by
  induction cs with
  | nil => rfl
  | cons c cs ih =>
    have hsize : c.toLower.utf8Size = c.utf8Size := by
      rcases eq_or_isAlpha_of_toLower_eq (Char.toLower_toLower_eq_toLower c) with heq | ⟨hl, hc⟩
      · rw [heq]
      · rw [utf8Size_of_isAlpha hl, utf8Size_of_isAlpha hc]
    rw [List.map_cons, byteLength_cons, byteLength_cons, hsize, ih]

/-! ### Texts that differ in case -/

/-- Two texts with the same characters but for the case of letters. A letter differs only at offsets
that `P` holds of; the offset of the first character is given. -/
def DifferInCase (P : Nat → Prop) : Nat → List Char → List Char → Prop
  | _, [], [] => True
  | offset, c :: cs, c' :: cs' =>
    (c = c' ∨ c.toLower = c'.toLower ∧ P offset) ∧ DifferInCase P (offset + c.utf8Size) cs cs'
  | _, _, _ => False

instance DifferInCase.decidable (P : Nat → Prop) [DecidablePred P] :
    ∀ (offset : Nat) (cs cs' : List Char), Decidable (DifferInCase P offset cs cs')
  | _, [], [] => isTrue trivial
  | _, [], _ :: _ => isFalse id
  | _, _ :: _, [] => isFalse id
  | offset, c :: cs, c' :: cs' =>
    have := DifferInCase.decidable P (offset + c.utf8Size) cs cs'
    inferInstanceAs (Decidable ((c = c' ∨ c.toLower = c'.toLower ∧ P offset) ∧ _))

namespace DifferInCase

variable {P Q : Nat → Prop} {offset : Nat} {c : Char} {cs cs' xs ys : List Char}

theorem nil (P : Nat → Prop) (offset : Nat) : DifferInCase P offset [] [] := trivial

theorem eq_nil (h : DifferInCase P offset [] cs') : cs' = [] := by
  cases cs' with
  | nil => rfl
  | cons c' cs' => exact h.elim

theorem exists_cons (h : DifferInCase P offset (c :: cs) cs') :
    ∃ c' tail, cs' = c' :: tail ∧ (c = c' ∨ c.toLower = c'.toLower ∧ P offset) ∧
      DifferInCase P (offset + c.utf8Size) cs tail := by
  cases cs' with
  | nil => exact h.elim
  | cons c' tail => exact ⟨c', tail, rfl, h⟩

/-- A character and the one in its place are equal or both letters. -/
theorem eq_or_isAlpha {c' : Char} (h : c = c' ∨ c.toLower = c'.toLower ∧ P offset) :
    c = c' ∨ c.isAlpha = true ∧ c'.isAlpha = true :=
  h.elim Or.inl fun hlower => eq_or_isAlpha_of_toLower_eq hlower.1

theorem utf8Size_eq {c' : Char} (h : c = c' ∨ c.toLower = c'.toLower ∧ P offset) :
    c.utf8Size = c'.utf8Size := by
  rcases eq_or_isAlpha h with rfl | ⟨hc, hc'⟩
  · rfl
  · rw [utf8Size_of_isAlpha hc, utf8Size_of_isAlpha hc']

theorem symm (h : DifferInCase P offset cs cs') : DifferInCase P offset cs' cs := by
  induction cs generalizing offset cs' with
  | nil =>
    rw [h.eq_nil]
    exact nil P offset
  | cons c cs ih =>
    obtain ⟨c', tail, rfl, hc, htail⟩ := h.exists_cons
    refine ⟨hc.imp Eq.symm fun hlower => ⟨hlower.1.symm, hlower.2⟩, ?_⟩
    rw [← utf8Size_eq hc]
    exact ih htail

theorem mono (h : DifferInCase P offset cs cs') (hPQ : ∀ k, offset ≤ k → P k → Q k) :
    DifferInCase Q offset cs cs' := by
  induction cs generalizing offset cs' with
  | nil =>
    rw [h.eq_nil]
    exact nil Q offset
  | cons c cs ih =>
    obtain ⟨c', tail, rfl, hc, htail⟩ := h.exists_cons
    refine ⟨hc.imp_right fun hlower => ⟨hlower.1, hPQ offset (Nat.le_refl _) hlower.2⟩, ?_⟩
    exact ih htail fun k hk => hPQ k (Nat.le_trans (Nat.le_add_right _ _) hk)

/-- The texts agree up to a place if no letter differs before it. -/
theorem exists_append (h : DifferInCase P offset (xs ++ ys) cs')
    (hP : ∀ k, offset ≤ k → k < offset + Text.byteLength xs → ¬P k) :
    ∃ ys', cs' = xs ++ ys' ∧ DifferInCase P (offset + Text.byteLength xs) ys ys' := by
  induction xs generalizing offset cs' with
  | nil => exact ⟨cs', rfl, h⟩
  | cons c xs ih =>
    obtain ⟨c', tail, rfl, hc, htail⟩ := h.exists_cons
    have hsize := c.utf8Size_pos
    rw [Text.byteLength_cons] at hP
    obtain rfl : c = c' := by
      refine hc.resolve_right fun hlower => ?_
      exact hP offset (Nat.le_refl _) (by omega) hlower.2
    obtain ⟨ys', rfl, hys⟩ := ih htail fun k hk hlt => hP k (by omega) (by omega)
    refine ⟨ys', rfl, ?_⟩
    rwa [Text.byteLength_cons, ← Nat.add_assoc]

theorem eq_of_forall_not (h : DifferInCase P offset cs cs') (hP : ∀ k, ¬P k) : cs' = cs := by
  rw [← List.append_nil cs] at h
  obtain ⟨ys', rfl, hys⟩ := h.exists_append fun k _ _ => hP k
  rw [hys.eq_nil, List.append_nil]

/-- A run of characters of a class that holds all letters or none is a run of as many characters in
the other text. -/
theorem takeWhile {p : Char → Bool} {b : Bool} (hp : ∀ c, c.isAlpha = true → p c = b)
    (h : DifferInCase P offset cs cs') :
    (cs.takeWhile p).map Char.toLower = (cs'.takeWhile p).map Char.toLower ∧
      DifferInCase P (offset + Text.byteLength (cs.takeWhile p)) (cs.dropWhile p)
        (cs'.dropWhile p) := by
  induction cs generalizing offset cs' with
  | nil =>
    rw [h.eq_nil]
    exact ⟨rfl, nil P _⟩
  | cons c cs ih =>
    obtain ⟨c', tail, rfl, hc, htail⟩ := h.exists_cons
    have hclass : p c = p c' := by
      rcases eq_or_isAlpha hc with rfl | ⟨hc, hc'⟩
      · rfl
      · rw [hp c hc, hp c' hc']
    cases hpc : p c with
    | false =>
      rw [hpc] at hclass
      have hno : ¬p c = true := by simp [hpc]
      have hno' : ¬p c' = true := by simp [← hclass]
      rw [List.takeWhile_cons_of_neg hno, List.takeWhile_cons_of_neg hno',
        List.dropWhile_cons_of_neg hno, List.dropWhile_cons_of_neg hno']
      exact ⟨rfl, h⟩
    | true =>
      rw [hpc] at hclass
      obtain ⟨hmap, hrest⟩ := ih htail
      have hlower : c.toLower = c'.toLower := hc.elim (congrArg _) And.left
      rw [List.takeWhile_cons_of_pos hpc, List.takeWhile_cons_of_pos hclass.symm,
        List.dropWhile_cons_of_pos hpc, List.dropWhile_cons_of_pos hclass.symm]
      refine ⟨by rw [List.map_cons, List.map_cons, hlower, hmap], ?_⟩
      rwa [Text.byteLength_cons, ← Nat.add_assoc]

end DifferInCase

end BlockTemplate
