import BlockTemplate.Text.CaseMapping
import Mathlib

/-!
# Text in lower case

Text in lower case is its own lower case form: no character that a range of the table moves lands on
one that has another lower case form.

## Implementation notes

The table is checked range against range, not character by character. A range is moved as a whole,
so its ends or the parity of its first number say that it misses another one.

Main statements: `lower_lower`, `lowerString_lowerString`.
-/

namespace BlockTemplate.Text

/-! ### Ranges of the table -/

namespace CaseRange

/-- The numbers of a range. -/
def Holds (r : CaseRange) (n : Nat) : Prop :=
  r.first ≤ n ∧ n ≤ r.last ∧ (n - r.first) % r.step = 0

instance (r : CaseRange) (n : Nat) : Decidable (r.Holds n) :=
  inferInstanceAs (Decidable (_ ∧ _ ∧ _))

/-- Where a range moves a number. -/
def target (r : CaseRange) (n : Nat) : Nat := ((n : Int) + r.shift).toNat

/-- Whether all that a range moves lands before, after or between the numbers of another one.
Comparisons are those that the kernel computes on literals. -/
def misses (r s : CaseRange) : Bool :=
  Nat.blt (r.target r.last) s.first || Nat.blt s.last (r.target r.first) ||
    (Nat.beq s.step 2 && (Nat.beq r.step 2 || Nat.beq r.first r.last) &&
      Nat.blt 0 (r.target r.first) && Nat.beq ((r.target r.first + s.first) % 2) 1)

theorem not_holds_target {r s : CaseRange} (h : r.misses s = true) {n : Nat} (hn : r.Holds n) :
    ¬ s.Holds (r.target n) := by
  obtain ⟨hfirst, hlast, hstep⟩ := hn
  rintro ⟨hs, ht, hparity⟩
  simp only [misses, Bool.or_eq_true, Bool.and_eq_true, Nat.blt_eq, Nat.beq_eq] at h
  simp only [target] at h hs ht hparity
  rcases h with (hbefore | hafter) | ⟨⟨⟨htwo, hsame⟩, hpositive⟩, hodd⟩
  · omega
  · omega
  · rw [htwo] at hparity
    rcases hsame with hr | hr
    · rw [hr] at hstep
      omega
    · omega

end CaseRange

/-- A number lies in no range, or the first range that holds it moves it. -/
theorem shift?_cases (ranges : List CaseRange) (n : Nat) :
    (shift? ranges n = none ∧ ∀ r ∈ ranges, ¬ r.Holds n) ∨
      ∃ r ∈ ranges, r.Holds n ∧ shift? ranges n = some (Char.ofNat (r.target n)) := by
  have hholds (r : CaseRange) :
      (r.first ≤ n && n ≤ r.last && (n - r.first) % r.step = 0 : Bool) = decide (r.Holds n) := by
    rw [Bool.eq_iff_iff, decide_eq_true_iff]
    simp [CaseRange.Holds, and_assoc]
  simp only [shift?, hholds]
  cases hfind : ranges.find? fun r => decide (r.Holds n) with
  | none => exact .inl ⟨rfl, by simpa using hfind⟩
  | some r => exact .inr ⟨r, List.mem_of_find?_eq_some hfind,
      by simpa using List.find?_some hfind, rfl⟩

/-- The ranges of all characters that have another lower case form. -/
def unsettledRanges : List CaseRange := ⟨0x41, 0x5a, 1, 32⟩ :: ⟨0x130, 0x130, 1, 0⟩ :: lowerRanges

theorem misses_unsettledRanges : ∀ r ∈ lowerRanges, ∀ s ∈ unsettledRanges, r.misses s = true := by
  simp only [← List.all_eq_true]
  decide +kernel

/-! ### Characters -/

/-- A character that is its own lower case form wherever it stands. -/
def Settled (c : Char) : Prop := c ≠ 'Σ' ∧ lowerChar c = [c]

instance (c : Char) : Decidable (Settled c) := inferInstanceAs (Decidable (_ ∧ _))

theorem settled_toLower {c : Char} (h : c.toNat < 128) : Settled c.toLower := by
  have hall : ∀ n : Fin 128, Settled (Char.ofNat n).toLower := by decide +kernel
  simpa using hall ⟨c.toNat, h⟩

theorem settled_of_not_holds {c : Char} (h : ∀ s ∈ unsettledRanges, ¬ s.Holds c.toNat) :
    Settled c := by
  have hsigma : c ≠ 'Σ' := by
    rintro rfl
    exact absurd h (by decide +kernel)
  obtain ⟨hupper, hdotted, htable⟩ := by simpa only [unsettledRanges, List.forall_mem_cons] using h
  refine ⟨hsigma, ?_⟩
  rw [lowerChar]
  split
  · have hcapital : ¬ c.isUpper = true := by
      simp only [Char.isUpper, decide_eq_true_eq, ge_iff_le]
      exact fun hc => hupper ⟨hc.1, hc.2, Nat.mod_one _⟩
    rw [Char.toLower_eq_of_not_isUpper hcapital]
  split
  · next heq => exact absurd ⟨heq.ge, heq.le, Nat.mod_one _⟩ hdotted
  · obtain ⟨hnone, -⟩ | ⟨r, hr, hholds, -⟩ := shift?_cases lowerRanges c.toNat
    · rw [hnone, Option.getD_none]
    · exact absurd hholds (htable r hr)

/-- What the table makes of a character is settled. -/
theorem settled_of_shift? {c d : Char} (h : shift? lowerRanges c.toNat = some d) : Settled d := by
  obtain ⟨hnone, -⟩ | ⟨r, hr, hholds, hsome⟩ := shift?_cases lowerRanges c.toNat
  · rw [hnone] at h
    cases h
  obtain rfl : Char.ofNat (r.target c.toNat) = d := Option.some.inj (hsome.symm.trans h)
  by_cases hvalid : (r.target c.toNat).isValidChar
  · refine settled_of_not_holds fun s hs => ?_
    rw [Char.toNat_ofNat, if_pos hvalid]
    exact CaseRange.not_holds_target (misses_unsettledRanges r hr s hs) hholds
  · rw [Char.ofNat, dif_neg hvalid]
    decide

/-- What lower case makes of a character is settled. -/
theorem settled_of_mem_lowerChar {c d : Char} (hsigma : c ≠ 'Σ') (h : d ∈ lowerChar c) :
    Settled d := by
  by_cases hascii : c.toNat < 128
  · obtain rfl : d = c.toLower := by simpa [lowerChar, hascii] using h
    exact settled_toLower hascii
  by_cases hdotted : c.toNat = 0x130
  · obtain rfl | rfl : d = 'i' ∨ d = '\u0307' := by simpa [lowerChar, hdotted] using h
    · decide
    · decide +kernel
  have hlower : lowerChar c = [(shift? lowerRanges c.toNat).getD c] := by
    rw [lowerChar, if_neg hascii, if_neg hdotted]
  cases hshift : shift? lowerRanges c.toNat with
  | none =>
      rw [hshift, Option.getD_none] at hlower
      obtain rfl : d = c := by simpa [hlower] using h
      exact ⟨hsigma, hlower⟩
  | some e =>
      obtain rfl : d = e := by simpa [hlower, hshift] using h
      exact settled_of_shift? hshift

/-! ### Texts -/

theorem settled_of_mem_lowerFrom {before cs : List Char} :
    ∀ d ∈ lowerFrom before cs, Settled d := by
  induction cs generalizing before with
  | nil => simp [lowerFrom]
  | cons c cs ih =>
      rw [lowerFrom]
      split
      · have hsigma : Settled (lowerSigma before cs) := by
          rw [lowerSigma]
          split <;> decide +kernel
        exact List.forall_mem_cons.2 ⟨hsigma, ih⟩
      · next hsigma =>
          exact List.forall_mem_append.2 ⟨fun d hd => settled_of_mem_lowerChar hsigma hd, ih⟩

theorem lowerFrom_of_settled {before cs : List Char} (h : ∀ c ∈ cs, Settled c) :
    lowerFrom before cs = cs := by
  induction cs generalizing before with
  | nil => rfl
  | cons c cs ih =>
      obtain ⟨⟨hsigma, hlower⟩, hcs⟩ := List.forall_mem_cons.1 h
      rw [lowerFrom, if_neg hsigma, hlower, ih hcs, List.singleton_append]

/-- The lower case form of a text is its own lower case form. -/
theorem lower_lower (cs : List Char) : lower (lower cs) = lower cs :=
  lowerFrom_of_settled settled_of_mem_lowerFrom

theorem lower_eq_nil_iff {cs : List Char} : lower cs = [] ↔ cs = [] := by
  cases cs with
  | nil => simp [lower, lowerFrom]
  | cons c cs =>
      have hne : lowerChar c ≠ [] := by
        unfold lowerChar
        split
        · simp
        split <;> simp
      rw [lower, lowerFrom]
      split <;> simp [hne]

theorem lowerString_lowerString (s : String) : lowerString (lowerString s) = lowerString s := by
  rw [lowerString, lowerString, String.toList_ofList, lower_lower]

theorem lowerString_eq_empty_iff {s : String} : lowerString s = "" ↔ s = "" := by
  rw [← String.toList_inj, lowerString, String.toList_ofList, String.toList_empty,
    lower_eq_nil_iff, String.toList_eq_nil_iff]

end BlockTemplate.Text
