import BlockTemplate.Proofs.TitleCase.TitleWords

/-!
# Title casing twice

A title is its own title. A word that was cast stands among the same words in another case, so it
gets the treatment it got before, and no treatment changes what it made itself.

Main statements: `apply_apply`, `title_title`.
-/

namespace BlockTemplate.TitleCase

open Text (IsAscii)

variable {v : Vocabulary} {word core text : List Char}

/-- A treatment leaves what it made of a core, if the letters are still the same. -/
theorem Treatment.cast_cast {t : Treatment} (h : IsAscii core)
    (hletters : (t.cast v core).map Char.toLower = core.map Char.toLower) :
    t.cast v (t.cast v core) = t.cast v core := by
  by_cases ht : t = .keep
  · rw [ht]
    rfl
  · have hascii : IsAscii (t.cast v core) := h.of_map_toLower_eq hletters
    rw [← cast_map_toLower ht hascii, hletters, cast_map_toLower ht h]

theorem castWord_castWord (hv : v.KeepsLetters) (h : IsAscii word) (f : Flow) (isLast : Bool) :
    castWord v f isLast (castWord v f isLast word).1 = castWord v f isLast word := by
  have hletters := map_toLower_cast_wordTreatment hv h f isLast
  have hcore : IsAscii (Parts.ofWord word).core := h.of_subset (Parts.core_subset word)
  have hcast := Treatment.cast_cast hcore hletters
  have hparts := ofWord_withCore hletters
  have hword := map_toLower_castWord hv f isLast h
  have hascii : IsAscii (castWord v f isLast word).1 := h.of_map_toLower_eq hword
  have htreatment : wordTreatment v f isLast (castWord v f isLast word).1 =
      wordTreatment v f isLast word := by
    rw [← wordTreatment_map_toLower hascii, hword, wordTreatment_map_toLower h]
  have hnext : f.next isLast (castWord v f isLast word).1 = f.next isLast word := by
    rw [← f.next_map_toLower, hword, f.next_map_toLower]
  rw [castWord_eq v f isLast (castWord v f isLast word).1, htreatment, hnext]
  rw [castWord_eq, withCore, hparts, hcast, withCore]

theorem castWords_castWords (hv : v.KeepsLetters) (f : Flow) {words : List (List Char)}
    (h : ∀ word ∈ words, IsAscii word) :
    castWords v f (castWords v f words) = castWords v f words := by
  induction words generalizing f with
  | nil => rfl
  | cons word rest ih =>
      obtain ⟨hword, hrest⟩ := List.forall_mem_cons.1 h
      have hlast : ∀ g, (castWords v g rest).isEmpty = rest.isEmpty := by
        cases rest <;> simp [castWords]
      simp only [castWords, hlast, castWord_castWord hv hword, ih _ hrest]

/-- With any vocabulary whose spellings keep the letters, the title of a title is that title. -/
theorem apply_apply (hv : v.KeepsLetters) (h : IsAscii text) :
    apply v (apply v text) = apply v text := by
  have hwords : ∀ word ∈ Text.splitWords v.isBreak text, IsAscii word :=
    fun _ => isAscii_of_mem_splitWords h
  rw [apply_eq_join v (apply v text), splitWords_apply hv h, castWords_castWords hv _ hwords,
    apply_eq_join]

/-- Title casing an ASCII text twice is title casing it once. -/
theorem title_title {text : List Char} (h : IsAscii text) :
    apply .standard (apply .standard text) = apply .standard text :=
  apply_apply keepsLetters_standard h

/-- Words of all kinds, some of them after a full stop, a colon or a word of punctuation. -/
theorem title_title_of_mixed_words :
    let text := "\t the  CEOS' view: of (ph.d.) xiv\n-- i.e. VAN gogh's tl;dr - of !".toList
    let title := "The CEOs' View: Of (ph.d.) XIV -- i.e. Van Gogh's TL;DR - of !".toList
    IsAscii text ∧ apply .standard text = title ∧ apply .standard title = title := by
  intro text title
  have h : IsAscii text := by simp [IsAscii, text]
  have htitle : apply .standard text = title := by decide +kernel
  exact ⟨h, htitle, htitle ▸ title_title h⟩

end BlockTemplate.TitleCase
