import BlockTemplate.Number.Whole
import Mathlib

/-!
# Texts that spell integers

An integer is spelled by an optional sign and decimal digits, each worth ten times the one after
it. The reader of integers that fit in 64 bits takes just those texts.

Main statements: `strictInt?_eq_some_iff`, `strictInt?_intText`.
-/

namespace BlockTemplate.Number

/-! ### Digits -/

/-- The number that digits stand for by their places, the last one counting single. -/
def placeValue (digits : List Char) : Nat := Nat.ofDigits 10 (digits.reverse.map digitValue)

theorem ofDigits_eq_placeValue (digits : List Char) : ofDigits digits = placeValue digits := by
  induction digits using List.reverseRecOn with
  | nil => rfl
  | append_singleton digits c ih =>
      rw [ofDigits_append_singleton, ih, placeValue, placeValue, List.reverse_append,
        List.reverse_singleton, List.singleton_append, List.map_cons, Nat.ofDigits_cons]
      exact Nat.add_comm _ _

/-- At least one character, and decimal digits only. -/
structure IsDigits (cs : List Char) : Prop where
  ne_nil : cs ≠ []
  isDigit : ∀ c ∈ cs, c.isDigit = true

theorem isDigits_iff {cs : List Char} :
    cs ≠ [] ∧ (∀ c ∈ cs, c.isDigit = true) ↔ IsDigits cs :=
  ⟨fun h => ⟨h.1, h.2⟩, fun h => ⟨h.ne_nil, h.isDigit⟩⟩

theorem isDigits_natText (n : Nat) : IsDigits (natText n) where
  ne_nil := natText_ne_nil n
  isDigit _ := isDigit_of_mem_natText

/-! ### Signs -/

/-- Texts that spell an integer. -/
inductive Spells : List Char → Int → Prop
  | unsigned {digits : List Char} (h : IsDigits digits) : Spells digits (placeValue digits)
  | plus {digits : List Char} (h : IsDigits digits) : Spells ('+' :: digits) (placeValue digits)
  | minus {digits : List Char} (h : IsDigits digits) :
      Spells ('-' :: digits) (-(placeValue digits : Int))

/-- A sign is no digit. -/
theorem IsDigits.splitSign_eq {digits : List Char} (h : IsDigits digits) :
    splitSign digits = (false, digits) := by
  cases digits with
  | nil => rfl
  | cons c cs =>
      have hc : c.isDigit = true := h.isDigit c List.mem_cons_self
      unfold splitSign
      split
      · next heq => cases heq; exact absurd hc (by decide)
      · next heq => cases heq; exact absurd hc (by decide)
      · rfl

/-- What is read is the sign and the value of the digits after it. -/
theorem readInt?_of_splitSign {cs digits : List Char} {negative : Bool}
    (hsplit : splitSign cs = (negative, digits)) (h : IsDigits digits) :
    readInt? cs = some (if negative then -(placeValue digits : Int) else placeValue digits) := by
  have hall : digits.all Char.isDigit = true := List.all_eq_true.2 h.isDigit
  simp only [readInt?, hsplit, if_neg h.ne_nil, if_pos hall, ofDigits_eq_placeValue]

theorem isDigits_of_readInt? {cs digits : List Char} {negative : Bool} {n : Int}
    (hsplit : splitSign cs = (negative, digits)) (h : readInt? cs = some n) : IsDigits digits := by
  simp only [readInt?, hsplit] at h
  split at h
  · cases h
  · next hne =>
    split at h
    · next hall => exact ⟨hne, List.all_eq_true.1 hall⟩
    · cases h

/-- A text is what stands after its sign, with the sign or without one. -/
theorem exists_splitSign (cs : List Char) :
    ∃ negative digits, splitSign cs = (negative, digits) ∧
      (cs = digits ∧ negative = false ∨ cs = '+' :: digits ∧ negative = false ∨
        cs = '-' :: digits ∧ negative = true) := by
  unfold splitSign
  split <;> simp

theorem readInt?_eq_some_iff {cs : List Char} {n : Int} : readInt? cs = some n ↔ Spells cs n := by
  constructor
  · intro hread
    obtain ⟨negative, digits, hsplit, hcs⟩ := exists_splitSign cs
    have hdigits : IsDigits digits := isDigits_of_readInt? hsplit hread
    rw [readInt?_of_splitSign hsplit hdigits, Option.some.injEq] at hread
    subst hread
    rcases hcs with ⟨rfl, rfl⟩ | ⟨rfl, rfl⟩ | ⟨rfl, rfl⟩
    · exact .unsigned hdigits
    · exact .plus hdigits
    · exact .minus hdigits
  · intro hspells
    cases hspells with
    | unsigned h => exact readInt?_of_splitSign h.splitSign_eq h
    | plus h => exact readInt?_of_splitSign rfl h
    | minus h => exact readInt?_of_splitSign rfl h

/-! ### Words of 64 bits -/

/-- The integers that a word of 64 bits with sign holds. -/
def FitsWord (n : Int) : Prop := -2 ^ 63 ≤ n ∧ n ≤ 2 ^ 63 - 1

theorem fitsWord_toInt (w : Int64) : FitsWord w.toInt :=
  ⟨w.le_toInt, Int.le_sub_one_of_lt w.toInt_lt⟩

theorem word?_toInt (w : Int64) : word? w.toInt = some w := by
  rw [word?, if_pos ⟨w.minValue_le_toInt, w.toInt_le⟩, Int64.ofInt_toInt]

theorem word?_of_not_fitsWord {n : Int} (h : ¬FitsWord n) : word? n = none := by
  refine if_neg fun hfits => h ⟨hfits.1, ?_⟩
  exact hfits.2

theorem FitsWord.exists_toInt {n : Int} (h : FitsWord n) : ∃ w : Int64, w.toInt = n :=
  ⟨.ofInt n, Int64.toInt_ofInt_of_le h.1 (Int.lt_of_le_sub_one h.2)⟩

/-- Just the texts that spell an integer of 64 bits are read, and their value is exact. -/
theorem strictInt?_eq_some_iff {cs : List Char} {n : Int} :
    (strictInt? cs).map Int64.toInt = some n ↔ Spells cs n ∧ FitsWord n := by
  rw [strictInt?, ← readInt?_eq_some_iff]
  constructor
  · intro h
    obtain ⟨w, hw, rfl⟩ := Option.map_eq_some_iff.1 h
    obtain ⟨k, hk, hword⟩ := Option.bind_eq_some_iff.1 hw
    by_cases hfits : FitsWord k
    · obtain ⟨v, rfl⟩ := hfits.exists_toInt
      rw [word?_toInt, Option.some.injEq] at hword
      exact hword ▸ ⟨hk, hfits⟩
    · rw [word?_of_not_fitsWord hfits] at hword
      cases hword
  · rintro ⟨hread, hfits⟩
    obtain ⟨w, rfl⟩ := hfits.exists_toInt
    rw [hread, Option.bind_some, word?_toInt, Option.map_some]

theorem spells_intText (n : Int) : Spells (intText n) n := by
  have hvalue : placeValue (natText n.natAbs) = n.natAbs := by
    rw [← ofDigits_eq_placeValue, ofDigits_natText]
  have hdigits : IsDigits (natText n.natAbs) := isDigits_natText _
  unfold intText
  split
  · have h := Spells.minus hdigits
    rwa [hvalue, show -(n.natAbs : Int) = n by omega] at h
  · have h := Spells.unsigned hdigits
    rwa [hvalue, show (n.natAbs : Int) = n by omega] at h

/-- The decimal text of a word is read as that word. -/
theorem strictInt?_intText (w : Int64) : strictInt? (intText w.toInt) = some w := by
  rw [strictInt?, readInt?_eq_some_iff.2 (spells_intText w.toInt), Option.bind_some, word?_toInt]

end BlockTemplate.Number
