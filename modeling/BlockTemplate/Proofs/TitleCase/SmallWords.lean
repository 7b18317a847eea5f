import BlockTemplate.Proofs.TitleCase.TitleWords

/-!
# Small words in a title

A small word gets a capital just where it starts or ends a sentence or follows a colon. It starts
one when no word with a core stands before it, so the first of those words in a text always has a
capital. It ends one when nothing at all stands after it, so the last of those words has none if
words of punctuation follow, unless another reason gives it one.

Main statements: `smallWord_startsUpper_iff`, `lastSmallWord_lowercase`.
-/

namespace BlockTemplate.TitleCase

open Text (IsAscii lower)

variable {word core : List Char} {before after : List (List Char)}

/-- A text that starts with a capital letter. -/
def StartsUpper (cs : List Char) : Prop := cs.head?.any Char.isUpper = true

instance (cs : List Char) : Decidable (StartsUpper cs) := inferInstanceAs (Decidable (_ = true))

theorem not_startsUpper_lower (h : IsAscii core) : ¬StartsUpper (lower core) := by
  rw [h.lower_eq, StartsUpper]
  cases core <;> simp

/-- A word between these starts or ends a sentence or follows a colon. -/
def AtEdge (before : List (List Char)) (word : List Char) (after : List (List Char)) : Prop :=
  StartsSentence before ∨ FollowsColon before ∨ Text.endsWith ['.'] word = true ∨ after = []

theorem edge_flowAfter_iff :
    (flowAfter before).edge after.isEmpty word = true ↔ AtEdge before word after := by
  rw [Flow.edge, endsSentence, AtEdge, ← first_flowAfter_iff, ← afterColon_flowAfter_iff]
  simp only [Bool.or_eq_true, List.isEmpty_iff]
  tauto

/-! ### Small words of the standard vocabulary -/

/-- At the start of a sentence every small word gets a capital, and none is kept as it is
written. -/
theorem treatment_smallWord : ∀ l ∈ Vocabulary.standard.smallWords ++
      Vocabulary.standard.preferLowercase,
    treatment .standard true true l ≠ .keep ∧
      StartsUpper ((treatment .standard true true l).cast .standard l) := by
  decide +kernel

theorem not_isSmall_nil : Vocabulary.standard.isSmall [] = false := by
  simp [Vocabulary.isSmall, Vocabulary.standard, words, standardSmallWords,
    standardPreferLowercase]

theorem isSmall_iff_mem {v : Vocabulary} :
    v.isSmall word = true ↔ word ∈ v.smallWords ++ v.preferLowercase := by
  simp [Vocabulary.isSmall]

theorem startsUpper_cast_smallWord (h : IsAscii core)
    (hsmall : Vocabulary.standard.isSmall (lower core) = true)
    (halways : lower core ∉ Vocabulary.standard.alwaysLowercase) (first : Bool) :
    StartsUpper ((treatment .standard first true core).cast .standard core) := by
  obtain ⟨hkeep, hupper⟩ := treatment_smallWord _ (isSmall_iff_mem.1 hsmall)
  rw [treatment_lower h] at hkeep hupper
  rw [treatment_eq_of_not_lowered (.inl rfl) (.inr halways)]
  rwa [h.lower_eq, Treatment.cast_map_toLower hkeep h] at hupper

theorem cast_smallWord_of_not_edge {v : Vocabulary} (hsmall : v.isSmall (lower core) = true)
    (first : Bool) : (treatment v first false core).cast v core = lower core := by
  rw [treatment, if_pos (by simpa using hsmall), Treatment.cast]

/-- In the title of an ASCII text a small word that is not in lower case everywhere has a capital
just if it starts or ends a sentence or follows a colon, and is in lower case otherwise. The first
of the words with a core always has one. -/
theorem smallWord_startsUpper_iff {text word : List Char} {before after : List (List Char)}
    (h : IsAscii text) (hwords : Text.splitWords Text.isBlank text = before ++ word :: after)
    (hsmall : Vocabulary.standard.isSmall (lower (Parts.ofWord word).core) = true)
    (halways : lower (Parts.ofWord word).core ∉ Vocabulary.standard.alwaysLowercase) :
    ∃ cast, (Text.splitWords Text.isBlank (apply .standard text))[before.length]? = some cast ∧
      (StartsUpper (Parts.ofWord cast).core ↔ AtEdge before word after) ∧
      (¬AtEdge before word after →
        (Parts.ofWord cast).core = lower (Parts.ofWord word).core) ∧
      ((∀ w ∈ before, hasCore w = false) → StartsUpper (Parts.ofWord cast).core) := by
  have hmem : word ∈ Text.splitWords Text.isBlank text := by simp [hwords]
  have hword : IsAscii word := isAscii_of_mem_splitWords h hmem
  have hcore : IsAscii (Parts.ofWord word).core := hword.of_subset (Parts.core_subset word)
  have hne : (Parts.ofWord word).core ≠ [] := by
    intro hnil
    rw [hnil, Text.lower_eq_nil_iff.2 rfl, not_isSmall_nil] at hsmall
    cases hsmall
  have hletters := map_toLower_cast_wordTreatment keepsLetters_standard hword
    (flowAfter before) after.isEmpty
  have hcast := getElem?_splitWords_title h hwords
  refine ⟨_, hcast, ?_⟩
  rw [castWord_eq, ofWord_withCore hletters]
  dsimp only
  rw [wordTreatment, if_neg hne]
  have hstart : (∀ w ∈ before, hasCore w = false) → AtEdge before word after := fun hall =>
    .inl (startsSentence_of_no_core hall)
  by_cases hedge : AtEdge before word after
  · rw [edge_flowAfter_iff.2 hedge]
    have hupper := startsUpper_cast_smallWord hcore hsmall halways (flowAfter before).first
    exact ⟨iff_of_true hupper hedge, fun hno => absurd hedge hno, fun _ => hupper⟩
  · rw [Bool.eq_false_iff.2 (edge_flowAfter_iff.not.2 hedge), cast_smallWord_of_not_edge hsmall]
    exact ⟨iff_of_false (not_startsUpper_lower hcore) hedge, fun _ => rfl,
      fun hall => absurd (hstart hall) hedge⟩

/-- A small word at the end, with a word of punctuation after it, that follows a colon. -/
theorem smallWord_startsUpper_after_colon :
    let text := "what to think: (OF) !".toList
    let before := ["what".toList, "to".toList, "think:".toList]
    IsAscii text ∧
      Text.splitWords Text.isBlank text = before ++ "(OF)".toList :: ["!".toList] ∧
      Vocabulary.standard.isSmall (lower (Parts.ofWord "(OF)".toList).core) = true ∧
      lower (Parts.ofWord "(OF)".toList).core ∉ Vocabulary.standard.alwaysLowercase ∧
      ∃ cast, (Text.splitWords Text.isBlank (apply .standard text))[3]? = some cast ∧
        StartsUpper (Parts.ofWord cast).core := by
  intro text before
  have h : IsAscii text := by simp [IsAscii, text]
  have hwords : Text.splitWords Text.isBlank text = before ++ "(OF)".toList :: ["!".toList] := by
    decide +kernel
  have hsmall : Vocabulary.standard.isSmall (lower (Parts.ofWord "(OF)".toList).core) = true := by
    decide +kernel
  have halways : lower (Parts.ofWord "(OF)".toList).core ∉
      Vocabulary.standard.alwaysLowercase := by
    decide +kernel
  have hcolon : FollowsColon before := ⟨"think:".toList, by decide +kernel, .inl (by decide)⟩
  obtain ⟨cast, hcast, hupper, -⟩ := smallWord_startsUpper_iff h hwords hsmall halways
  exact ⟨h, hwords, hsmall, halways, cast, hcast, hupper.2 (.inr (.inl hcolon))⟩

/-- The last word with a core is a small one that stays in lower case, since a word of punctuation
stands after it. -/
theorem lastSmallWord_lowercase :
    let text := "nothing to be afraid of !".toList
    let before := ["nothing".toList, "to".toList, "be".toList, "afraid".toList]
    let after := ["!".toList]
    IsAscii text ∧ Text.splitWords Text.isBlank text = before ++ "of".toList :: after ∧
      (∀ w ∈ after, hasCore w = false) ∧
      Vocabulary.standard.isSmall (lower (Parts.ofWord "of".toList).core) = true ∧
      lower (Parts.ofWord "of".toList).core ∉ Vocabulary.standard.alwaysLowercase ∧
      apply .standard text = "Nothing to Be Afraid of !".toList ∧
      (Text.splitWords Text.isBlank (apply .standard text))[before.length]? = some "of".toList ∧
      ¬StartsUpper (Parts.ofWord "of".toList).core := by
  intro text before after
  have h : IsAscii text := by simp [IsAscii, text]
  exact ⟨h, by decide +kernel⟩

end BlockTemplate.TitleCase
