import BlockTemplate.Proofs.TitleCase.TitleWords

/-!
# Words of the standard lists in a title

A word that is listed with a spelling of its own, as an abbreviation or as a word in lower case is
treated as its list says, wherever it stands. Listed words with a full stop are an exception: a core
does not end with a full stop, so it is not the listed word, and with one inside it is taken for a
path and kept as it is written.

## Implementation notes

There are finitely many listed words, and a treatment depends on two more bits, so what becomes of
the listed words is computed. A word in any case is then compared with the listed one.

Main statements: `listedCast_title`, `dottedWords_kept`.
-/

namespace BlockTemplate.TitleCase

open Text (IsAscii lower upper)

variable {v : Vocabulary} {word core : List Char} {before after : List (List Char)} {f : Flow}
  {isLast : Bool}

/-! ### Words that are their own cores -/

/-- Characters, with no punctuation at their ends. -/
structure IsCore (word : List Char) : Prop where
  ne_nil : word ≠ []
  leading : (Parts.ofWord word).leading = []
  trailing : (Parts.ofWord word).trailing = []

theorem isCore_iff : IsCore word ↔
    word ≠ [] ∧ (Parts.ofWord word).leading = [] ∧ (Parts.ofWord word).trailing = [] :=
  ⟨fun h => ⟨h.1, h.2, h.3⟩, fun ⟨hne, hleading, htrailing⟩ => ⟨hne, hleading, htrailing⟩⟩

instance (word : List Char) : Decidable (IsCore word) := decidable_of_iff' _ isCore_iff

namespace IsCore

theorem core_eq (h : IsCore word) : (Parts.ofWord word).core = word := by
  have hword := Parts.ofWord_append word
  rwa [h.leading, h.trailing, List.nil_append, List.append_nil] at hword

theorem withCore_eq (h : IsCore word) (core : List Char) : withCore word core = core := by
  rw [withCore, h.leading, h.trailing, List.nil_append, List.append_nil]

theorem of_map_toLower (h : IsCore (word.map Char.toLower)) : IsCore word := by
  simpa [isCore_iff, Parts.ofWord_map_toLower] using h

/-- A word that is its own core is treated as a whole. -/
theorem castWord_eq (h : IsCore word) :
    (castWord v f isLast word).1 = (treatment v f.first (f.edge isLast word) word).cast v word := by
  rw [TitleCase.castWord_eq, h.withCore_eq, wordTreatment, h.core_eq, if_neg h.ne_nil]

end IsCore

/-! ### Treatments of listed words -/

theorem treatment_abbreviation (h : lower core ∈ v.abbreviations) :
    treatment v true true core = .abbreviate := by
  have habbreviation : v.isAbbreviation (lower core) = true := by
    simp [Vocabulary.isAbbreviation, h]
  simp [treatment, habbreviation]

theorem treatment_alwaysLowercase (h : lower core ∈ v.alwaysLowercase) (atEdge : Bool) :
    treatment v false atEdge core = .lowercase := by
  simp [treatment, h]

/-! ### The standard lists -/

/-- The words of the standard lists that say how a word is written. -/
def listedWords : List (List Char) :=
  Vocabulary.standard.fixes.map Prod.fst ++ Vocabulary.standard.abbreviations ++
    Vocabulary.standard.alwaysLowercase

theorem isCore_of_listed : ∀ entry ∈ listedWords, '.' ∉ entry → IsCore entry := by
  decide +kernel

theorem treatment_dotted : ∀ entry ∈ listedWords, '.' ∈ entry → ∀ first atEdge,
    treatment .standard first atEdge (Parts.ofWord entry).core = .keep := by
  decide +kernel

/-- A word with a spelling of its own, as an abbreviation or not, is in no list of words in lower
case. -/
theorem not_lowered_of_spelled : ∀ entry ∈ Vocabulary.standard.fixes.map Prod.fst ++
      Vocabulary.standard.abbreviations,
    Vocabulary.standard.isSmall entry = false ∧ entry ∉ Vocabulary.standard.alwaysLowercase := by
  decide +kernel

theorem treatment_fixes : ∀ entry ∈ Vocabulary.standard.fixes, '.' ∉ entry.1 →
    treatment .standard true true entry.1 = .respell entry.2 := by
  decide +kernel

theorem treatment_sentence_start : ∀ entry ∈ Vocabulary.standard.alwaysLowercase, '.' ∉ entry →
    treatment .standard true true entry = .capitalize := by
  decide +kernel

theorem treatment_spelled (h : lower word ∈ Vocabulary.standard.fixes.map Prod.fst ++
      Vocabulary.standard.abbreviations) (first atEdge : Bool) :
    treatment .standard first atEdge word = treatment .standard true true word := by
  obtain ⟨hsmall, halways⟩ := not_lowered_of_spelled _ h
  exact treatment_eq_of_not_lowered (.inr hsmall) (.inr halways)

/-! ### Listed words in a title -/

theorem fullStop_mem_lower_iff (h : IsAscii word) : '.' ∈ lower word ↔ '.' ∈ word := by
  rw [h.lower_eq, Text.mem_map_toLower_iff (by decide)]

theorem castWord_of_dotted (h : IsAscii word) (hlisted : lower word ∈ listedWords)
    (hdot : '.' ∈ word) : (castWord .standard f isLast word).1 = word := by
  have hkeep : wordTreatment .standard f isLast word = .keep := by
    rw [← wordTreatment_map_toLower h, ← h.lower_eq, wordTreatment]
    split
    · rfl
    · exact treatment_dotted _ hlisted ((fullStop_mem_lower_iff h).2 hdot) _ _
  rw [castWord_eq, hkeep, Treatment.cast, withCore_core]

section

variable (h : IsAscii word) (hdot : '.' ∉ word)
include h hdot

theorem isCore_of_undotted (hlisted : lower word ∈ listedWords) : IsCore word := by
  have hcore : IsCore (lower word) :=
    isCore_of_listed _ hlisted ((fullStop_mem_lower_iff h).not.2 hdot)
  exact IsCore.of_map_toLower (h.lower_eq ▸ hcore)

theorem castWord_of_fix {entry : List Char × List Char}
    (hentry : entry ∈ Vocabulary.standard.fixes) (heq : lower word = entry.1) :
    (castWord .standard f isLast word).1 = entry.2 := by
  have hfix : lower word ∈ Vocabulary.standard.fixes.map Prod.fst :=
    List.mem_map.2 ⟨entry, hentry, heq.symm⟩
  have hcore : IsCore word :=
    isCore_of_undotted h hdot (List.mem_append_left _ (List.mem_append_left _ hfix))
  have hentryDot : '.' ∉ entry.1 := heq ▸ (fullStop_mem_lower_iff h).not.2 hdot
  rw [hcore.castWord_eq, treatment_spelled (List.mem_append_left _ hfix), ← treatment_lower h, heq,
    treatment_fixes entry hentry hentryDot, Treatment.cast]

theorem castWord_of_abbreviation (habbreviation : lower word ∈ Vocabulary.standard.abbreviations) :
    (castWord .standard f isLast word).1 = upper word := by
  have hcore : IsCore word := isCore_of_undotted h hdot (by simp [listedWords, habbreviation])
  rw [hcore.castWord_eq, treatment_spelled (List.mem_append_right _ habbreviation),
    treatment_abbreviation habbreviation, Treatment.cast, abbreviation,
    if_neg (by simp [habbreviation])]

section

variable (halways : lower word ∈ Vocabulary.standard.alwaysLowercase)
include halways

theorem castWord_inside_sentence (hfirst : f.first = false) :
    (castWord .standard f isLast word).1 = lower word := by
  have hcore : IsCore word := isCore_of_undotted h hdot (by simp [listedWords, halways])
  rw [hcore.castWord_eq, hfirst, treatment_alwaysLowercase halways, Treatment.cast]

theorem castWord_at_sentence_start (hfirst : f.first = true) :
    (castWord .standard f isLast word).1 = capitalize (lower word) := by
  have hcore : IsCore word := isCore_of_undotted h hdot (by simp [listedWords, halways])
  have hedge : f.edge isLast word = true := by simp [Flow.edge, hfirst]
  have hlowerDot : '.' ∉ lower word := (fullStop_mem_lower_iff h).not.2 hdot
  rw [hcore.castWord_eq, hedge, hfirst, ← treatment_lower h,
    treatment_sentence_start _ halways hlowerDot, Treatment.cast]

end

end

/-- What a listed word becomes in a title, after these words. -/
structure ListedCast (before : List (List Char)) (word cast : List Char) : Prop where
  fixed : ∀ entry ∈ Vocabulary.standard.fixes, lower word = entry.1 → '.' ∉ word → cast = entry.2
  abbreviated : lower word ∈ Vocabulary.standard.abbreviations → '.' ∉ word → cast = upper word
  lowercased : lower word ∈ Vocabulary.standard.alwaysLowercase → '.' ∉ word →
    ¬StartsSentence before → cast = lower word
  capitalized : lower word ∈ Vocabulary.standard.alwaysLowercase → '.' ∉ word →
    StartsSentence before → cast = capitalize (lower word)
  /-- With a full stop no list counts. -/
  kept : lower word ∈ listedWords → '.' ∈ word → cast = word

/-- In the title of an ASCII text every word of the standard lists is written as its list says,
wherever it stands, or as in the text if it has a full stop. -/
theorem listedCast_title {text word : List Char} {before after : List (List Char)}
    (h : IsAscii text) (hwords : Text.splitWords Text.isBlank text = before ++ word :: after) :
    ∃ cast, (Text.splitWords Text.isBlank (apply .standard text))[before.length]? = some cast ∧
      ListedCast before word cast := by
  have hmem : word ∈ Text.splitWords Text.isBlank text := by simp [hwords]
  have hword : IsAscii word := isAscii_of_mem_splitWords h hmem
  refine ⟨_, getElem?_splitWords_title h hwords, ?_⟩
  constructor
  case fixed => exact fun entry hentry heq hdot => castWord_of_fix hword hdot hentry heq
  case abbreviated =>
    exact fun habbreviation hdot => castWord_of_abbreviation hword hdot habbreviation
  case lowercased =>
    intro halways hdot hstart
    have hfirst : (flowAfter before).first = false :=
      Bool.eq_false_iff.2 (first_flowAfter_iff.not.2 hstart)
    exact castWord_inside_sentence hword hdot halways hfirst
  case capitalized =>
    intro halways hdot hstart
    exact castWord_at_sentence_start hword hdot halways (first_flowAfter_iff.2 hstart)
  case kept => exact fun hlisted hdot => castWord_of_dotted hword hlisted hdot

/-- A particle in lower case gets a capital after an abbreviation that ends with a full stop. -/
theorem listedCast_title_of_particle :
    let text := "see i.e. VAN gogh".toList
    let before := ["see".toList, "i.e.".toList]
    IsAscii text ∧
      Text.splitWords Text.isBlank text = before ++ "VAN".toList :: ["gogh".toList] ∧
      lower "VAN".toList ∈ Vocabulary.standard.alwaysLowercase ∧ StartsSentence before ∧
      (Text.splitWords Text.isBlank (apply .standard text))[2]? = some "Van".toList := by
  intro text before
  have h : IsAscii text := by simp [IsAscii, text]
  have hwords : Text.splitWords Text.isBlank text = before ++ "VAN".toList :: ["gogh".toList] := by
    decide +kernel
  have halways : lower "VAN".toList ∈ Vocabulary.standard.alwaysLowercase := by decide +kernel
  have hstart : StartsSentence before := first_flowAfter_iff.1 (by decide +kernel)
  obtain ⟨cast, hcast, hlisted⟩ := listedCast_title h hwords
  have hvan : cast = "Van".toList :=
    (hlisted.capitalized halways (by decide) hstart).trans (by decide +kernel)
  exact ⟨h, hwords, halways, hstart, hvan ▸ hcast⟩

/-- Three words with full stops, one of each list, that are kept against what their lists say. -/
theorem dottedWords_kept :
    let text := "p.s. see I.E. ph.d.".toList
    let title := "p.s. See I.E. ph.d.".toList
    IsAscii text ∧ apply .standard text = title ∧
      Text.splitWords Text.isBlank text =
        ["p.s.".toList, "see".toList, "I.E.".toList, "ph.d.".toList] ∧
      Text.splitWords Text.isBlank title =
        ["p.s.".toList, "See".toList, "I.E.".toList, "ph.d.".toList] ∧
      (lower "p.s.".toList ∈ Vocabulary.standard.abbreviations ∧
        Vocabulary.standard.isSmall (lower "p.s.".toList) = false ∧
        "p.s.".toList ≠ upper "p.s.".toList) ∧
      (lower "I.E.".toList ∈ Vocabulary.standard.alwaysLowercase ∧
        ¬StartsSentence ["p.s.".toList, "see".toList] ∧ "I.E.".toList ≠ lower "I.E.".toList) ∧
      (lower "ph.d.".toList, "Ph.D.".toList) ∈ Vocabulary.standard.fixes ∧
      "ph.d.".toList ≠ "Ph.D.".toList := by
  intro text title
  have h : IsAscii text := by simp [IsAscii, text]
  have hstart : ¬StartsSentence ["p.s.".toList, "see".toList] :=
    first_flowAfter_iff.not.1 (by decide +kernel)
  exact ⟨h, by decide +kernel, by decide +kernel, by decide +kernel, by decide +kernel,
    ⟨by decide +kernel, hstart, by decide +kernel⟩, by decide +kernel⟩

end BlockTemplate.TitleCase
