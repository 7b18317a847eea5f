import BlockTemplate.Number.FloatText
import Mathlib

/-!
# Doubles with a fixed number of decimals

A finite double is written as digits, with a point before the last of them if there are decimals.
One that is not finite is written as a word.

Main statements: the doubles that are read as finite are the finite ones
(`Double.isFinite_iff_read`); a finite double is always written with all its decimals
(`exists_places_of_isFinite`), any other one as a word (`fixedText_of_not_isFinite`).
-/

namespace BlockTemplate.Number

open Float.Model

/-! ### Finite doubles -/

theorem Double.toNat_unpackExponent (b : BitVec Format.binary64.numBits) :
    (UnpackedFloat.unpackExponent b).toNat = b.toNat / leadingBit % 2048 := by
  rw [UnpackedFloat.unpackExponent_def, BitVec.extractLsb'_toNat, Nat.shiftRight_eq_div_pow]
  rfl

/-- Only the greatest exponent is left to infinities and to what is no number. -/
theorem Double.isFinite_unpack_iff (b : BitVec Format.binary64.numBits) :
    (UnpackedFloat.unpack Format.binary64 b).isFinite = true ↔
      b.toNat / leadingBit % 2048 ≠ 2047 := by
  have hexponent : UnpackedFloat.unpackExponent b = -BitVec.ofNat _ 1 ↔
      b.toNat / leadingBit % 2048 = 2047 := by
    rw [← BitVec.toNat_inj, toNat_unpackExponent]
    rfl
  rw [ne_eq, ← hexponent]
  unfold UnpackedFloat.unpack
  dsimp only
  split
  · split <;> simp_all [UnpackedFloat.isFinite]
  · split
    · split <;> simp_all [UnpackedFloat.isFinite]
    · simp_all [UnpackedFloat.isFinite]

theorem Double.isFinite_iff_read (x : Float) :
    x.isFinite = true ↔
      ∃ negative mantissa exponent, read x = .finite negative mantissa exponent := by
  have hunpack := isFinite_unpack_iff x.toBits.toBitVec
  change x.isFinite = true ↔ x.toBits.toNat / leadingBit % 2048 ≠ 2047 at hunpack
  rw [hunpack, read, readBits]
  split
  · next hgreatest => split <;> simp [hgreatest]
  · next hless => split <;> simp [hless]

/-! ### Places -/

/-- Digits and, if there are places after the point, the point and as many digits as places. -/
structure Places (places : Nat) (text whole decimals : List Char) : Prop where
  text_eq : text = whole ++ if places = 0 then [] else '.' :: decimals
  whole_ne_nil : whole ≠ []
  isDigit_whole : ∀ c ∈ whole, c.isDigit = true
  isDigit_decimals : ∀ c ∈ decimals, c.isDigit = true
  length_decimals : decimals.length = places

/-- The point and the decimals after it; without decimals there is no point. -/
def fractionText (decimals : List Char) : List Char :=
  if decimals = [] then [] else '.' :: decimals

theorem Places.text_eq_append {places : Nat} {text whole decimals : List Char}
    (h : Places places text whole decimals) : text = whole ++ fractionText decimals := by
  have hnone : decimals = [] ↔ places = 0 := by
    rw [← List.length_eq_zero_iff, h.length_decimals]
  rw [h.text_eq, fractionText]
  simp only [hnone]

theorem exists_places (places scaled : Nat) :
    ∃ whole decimals, Places places (placesText places scaled) whole decimals := by
  let padded := zeros (places + 1 - (natText scaled).length) ++ natText scaled
  have hlength : places < padded.length := by
    simp only [padded, zeros, List.length_append, List.length_replicate]
    omega
  have hdigit : ∀ c ∈ padded, c.isDigit = true := by
    intro c hc
    rcases List.mem_append.1 hc with hzero | htext
    · rw [List.eq_of_mem_replicate hzero]
      decide
    · exact isDigit_of_mem_natText htext
  refine ⟨padded.take (padded.length - places), padded.drop (padded.length - places), ?_, ?_, ?_,
    ?_, ?_⟩
  · by_cases hplaces : places = 0
    · simp [placesText, padded, hplaces]
    · simp [placesText, padded, hplaces]
  · apply List.ne_nil_of_length_pos
    rw [List.length_take]
    omega
  · exact fun c hc => hdigit c (List.mem_of_mem_take hc)
  · exact fun c hc => hdigit c (List.mem_of_mem_drop hc)
  · rw [List.length_drop]
    omega

theorem exists_places_of_isFinite {x : Float} (hx : x.isFinite = true) (places : Nat) :
    ∃ whole decimals, Places places (fixedText places x) whole decimals := by
  obtain ⟨negative, mantissa, exponent, hread⟩ := (Double.isFinite_iff_read x).1 hx
  rw [fixedText, hread]
  exact exists_places places (scaledToPlaces places mantissa exponent)

theorem fixedText_of_not_isFinite {x : Float} (hx : x.isFinite = false) (places : Nat) :
    fixedText places x = ['N', 'a', 'N'] ∨ fixedText places x = ['i', 'n', 'f'] := by
  unfold fixedText
  cases hread : Double.read x with
  | nan => exact Or.inl rfl
  | infinite negative => exact Or.inr rfl
  | finite negative mantissa exponent =>
    rw [(Double.isFinite_iff_read x).2 ⟨negative, mantissa, exponent, hread⟩] at hx
    cases hx

end BlockTemplate.Number
