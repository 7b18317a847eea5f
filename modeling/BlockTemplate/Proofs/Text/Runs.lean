import Mathlib.Data.List.TakeWhile

/-!
# Runs of characters

A run is taken off the start of a text for as long as its characters satisfy a condition. It is
found again if what follows it does not start with such a character.
-/

namespace BlockTemplate

/-- What follows does not start with a character that satisfies `p`. -/
def EndsRun (p : Char → Bool) (rest : List Char) : Prop := ∀ c ∈ rest.head?, p c = false

theorem takeWhile_append_of_endsRun {p : Char → Bool} {cs rest : List Char}
    (hcs : ∀ x ∈ cs, p x = true) (hrest : EndsRun p rest) : (cs ++ rest).takeWhile p = cs := by
  rw [List.takeWhile_append_of_pos hcs]
  cases rest with
  | nil => simp
  | cons c rest =>
      have hc : p c = false := hrest c (by simp)
      rw [List.takeWhile_cons_of_neg (by simp [hc]), List.append_nil]

theorem dropWhile_append_of_endsRun {p : Char → Bool} {cs rest : List Char}
    (hcs : ∀ x ∈ cs, p x = true) (hrest : EndsRun p rest) : (cs ++ rest).dropWhile p = rest := by
  rw [List.dropWhile_append_of_pos hcs]
  cases rest with
  | nil => rfl
  | cons c rest =>
      have hc : p c = false := hrest c (by simp)
      rw [List.dropWhile_cons_of_neg (by simp [hc])]

theorem takeWhile_eq_nil_of_endsRun {p : Char → Bool} {rest : List Char} (h : EndsRun p rest) :
    rest.takeWhile p = [] :=
  takeWhile_append_of_endsRun (List.forall_mem_nil _) h

theorem endsRun_of_takeWhile_eq_nil {p : Char → Bool} {rest : List Char}
    (h : rest.takeWhile p = []) : EndsRun p rest := by
  intro c hc
  cases rest with
  | nil => cases hc
  | cons x rest =>
      obtain rfl : x = c := by simpa using hc
      by_contra hp
      simp [List.takeWhile_cons, hp] at h

theorem endsRun_dropWhile (p : Char → Bool) (cs : List Char) : EndsRun p (cs.dropWhile p) := by
  intro c hc
  rw [← List.find?_not_eq_head?_dropWhile] at hc
  simpa using List.find?_some hc

/-! ### Runs up to a character -/

theorem forall_ne_of_notMem {c : Char} {cs : List Char} (h : c ∉ cs) :
    ∀ x ∈ cs, decide (x ≠ c) = true := by
  intro x hx
  exact decide_eq_true (ne_of_mem_of_not_mem hx h)

theorem notMem_takeWhile_ne (c : Char) (cs : List Char) : c ∉ cs.takeWhile (· ≠ c) := by
  intro hc
  simpa using List.mem_takeWhile_imp hc

namespace EndsRun

theorem mono {p q : Char → Bool} {rest : List Char} (h : EndsRun q rest)
    (hpq : ∀ c, p c = true → q c = true) : EndsRun p rest := by
  intro c hc
  by_contra hp
  have hq := hpq c (by simpa using hp)
  rw [h c hc] at hq
  cases hq

theorem takeWhile {p : Char → Bool} {cs : List Char} (h : EndsRun p cs)
    (q : Char → Bool) : EndsRun p (cs.takeWhile q) := by
  intro c hc
  cases cs with
  | nil => cases hc
  | cons x cs =>
      by_cases hx : q x = true
      · rw [List.takeWhile_cons_of_pos hx] at hc
        exact h c hc
      · rw [List.takeWhile_cons_of_neg hx] at hc
        cases hc

end EndsRun

end BlockTemplate
