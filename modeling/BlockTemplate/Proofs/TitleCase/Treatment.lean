import BlockTemplate.Proofs.Roman.Numeral
import BlockTemplate.Proofs.Text.LetterCase
import BlockTemplate.Proofs.Text.LowerCase
import BlockTemplate.Proofs.TitleCase.Letters

/-!
# What title casing does with a core

A core gets one of six treatments. Which one is decided by its letters in any case, and all but one
of them do not look at the case either: a core that is kept stays as it is written.

Main statements: `castCore_eq`, `treatment_map_toLower`, `Treatment.cast_map_toLower`.
-/

namespace BlockTemplate.TitleCase

open Text (IsAscii NoLetters lower upper)

variable {v : Vocabulary} {core : List Char} {first atEdge : Bool}

/-- What is done with a core. -/
inductive Treatment where
  | lowercase
  /-- In upper case, but for the ending of a plural form. -/
  | abbreviate
  | uppercase
  | keep
  | respell (spelling : List Char)
  | capitalize
  deriving DecidableEq, Repr

/-- A core after its treatment. -/
def Treatment.cast (v : Vocabulary) (core : List Char) : Treatment → List Char
  | lowercase => lower core
  | abbreviate => abbreviation v core (lower core)
  | uppercase => upper core
  | keep => core
  | respell spelling => spelling
  | capitalize => TitleCase.capitalize (lower core)

/-- The treatment of a core. `first` and `atEdge` are those of `castCore`. -/
def treatment (v : Vocabulary) (first atEdge : Bool) (core : List Char) : Treatment :=
  if !atEdge && v.isSmall (lower core) then .lowercase
  else if !first && v.alwaysLowercase.contains (lower core) then .lowercase
  else if v.isAbbreviation (lower core) then .abbreviate
  else if v.handleRomans && (Roman.value? core).isSome then .uppercase
  else if v.preserve.contains (lower core) then .keep
  else if v.keepUrls && looksLikePath core then .keep
  else ((v.fix? (lower core)).map Treatment.respell).getD .capitalize

theorem castCore_eq (v : Vocabulary) (first atEdge : Bool) (core : List Char) :
    castCore v first atEdge core = (treatment v first atEdge core).cast v core := by
  simp only [castCore, treatment]
  split
  · rfl
  split
  · rfl
  split
  · rfl
  split
  · rfl
  split
  · rfl
  split
  · rfl
  cases v.fix? (lower core) <;> rfl

/-- The place of a core counts only if its list puts it in lower case there. -/
theorem treatment_eq_of_not_lowered (hsmall : atEdge = true ∨ v.isSmall (lower core) = false)
    (halways : first = true ∨ lower core ∉ v.alwaysLowercase) :
    treatment v first atEdge core = treatment v true true core := by
  have hsmall : (!atEdge && v.isSmall (lower core)) = false := by
    obtain rfl | hsmall := hsmall
    · rfl
    · rw [hsmall, Bool.and_false]
  have halways : (!first && v.alwaysLowercase.contains (lower core)) = false := by
    obtain rfl | halways := halways
    · rfl
    · simp [halways]
  rw [treatment, treatment, hsmall, halways, Bool.not_true, Bool.false_and, Bool.false_and]

/-! ### The case of letters -/

theorem looksLikePath_map_toLower (core : List Char) :
    looksLikePath (core.map Char.toLower) = looksLikePath core := by
  have hchar {c : Char} (hc : c.isAlpha = false) :
      (core.map Char.toLower).contains c = core.contains c := by
    rw [Bool.eq_iff_iff, List.contains_iff_mem, List.contains_iff_mem, Text.mem_map_toLower_iff hc]
  have hstop : ('.').isAlpha = false := by decide
  have hbackslash : ('\\').isAlpha = false := by decide
  have hslashes : ∀ c ∈ ['/', '/'], c.isAlpha = false := by simp
  rw [looksLikePath, looksLikePath, hchar hstop, hchar hbackslash,
    Text.contains_map_toLower hslashes]

theorem lower_map_toLower (h : IsAscii core) : lower (core.map Char.toLower) = lower core := by
  rw [← h.lower_eq, Text.lower_lower]

theorem upper_map_toLower (h : IsAscii core) : upper (core.map Char.toLower) = upper core := by
  rw [← h.lower_eq, h.isAscii_lower.upper_eq, h.upper_eq, h.lower_eq, List.map_map]
  exact List.map_congr_left fun c _ => Char.toUpper_toLower_eq_toUpper c

/-- A core is treated as it would be in lower case. -/
theorem treatment_map_toLower (h : IsAscii core) :
    treatment v first atEdge (core.map Char.toLower) = treatment v first atEdge core := by
  rw [treatment, treatment, lower_map_toLower h, looksLikePath_map_toLower,
    Roman.value?_map_toLower]

theorem treatment_lower (h : IsAscii core) :
    treatment v first atEdge (lower core) = treatment v first atEdge core := by
  rw [h.lower_eq, treatment_map_toLower h]

theorem abbreviation_map_toLower (h : IsAscii core) (lowercase : List Char) :
    abbreviation v (core.map Char.toLower) lowercase = abbreviation v core lowercase := by
  have hstem : IsAscii core.dropLast := h.of_subset (List.dropLast_subset core)
  have hlast : IsAscii (core.drop (core.length - 1)) := h.of_subset (List.drop_subset _ core)
  rw [abbreviation, abbreviation, ← List.map_dropLast, List.length_map, ← List.map_drop,
    upper_map_toLower hstem, lower_map_toLower hlast, upper_map_toLower h]

/-- A core that is not kept comes out as it would in lower case. -/
theorem Treatment.cast_map_toLower {t : Treatment} (ht : t ≠ .keep) (h : IsAscii core) :
    t.cast v (core.map Char.toLower) = t.cast v core := by
  cases t with
  | lowercase => exact lower_map_toLower h
  | abbreviate => rw [cast, cast, lower_map_toLower h, abbreviation_map_toLower h]
  | uppercase => exact upper_map_toLower h
  | keep => exact absurd rfl ht
  | respell spelling => rfl
  | capitalize => rw [cast, cast, lower_map_toLower h]

end BlockTemplate.TitleCase
