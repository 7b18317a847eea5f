import BlockTemplate.TitleCase
import BlockTemplate.Proofs.Text.Ascii
import BlockTemplate.Proofs.Text.Words

/-!
# What title casing changes

Title casing changes the case of letters and the blanks between words, and nothing else: in lower
case the title is the words of the text with one space between them.

## Implementation notes

A word is put together again from the punctuation at its ends and a new core, so the law is one
about cores. There it holds in every branch, as far as the spellings of the vocabulary differ in
case alone from the words they stand for.

Main statement: `lowercase_title`.
-/

namespace BlockTemplate.TitleCase

open Text (IsAscii lower upper)

variable {v : Vocabulary} {word core : List Char}

/-! ### Words and their cores -/

theorem dropEndWhile_append (p : Char → Bool) (cs : List Char) :
    Text.dropEndWhile p cs ++ (cs.reverse.takeWhile p).reverse = cs := by
  rw [Text.dropEndWhile, ← List.reverse_append, List.takeWhile_append_dropWhile,
    List.reverse_reverse]

/-- The parts of a word in order are the word. -/
theorem Parts.ofWord_append (word : List Char) :
    (ofWord word).leading ++ (ofWord word).core ++ (ofWord word).trailing = word := by
  rw [List.append_assoc, ofWord, dropEndWhile_append, List.takeWhile_append_dropWhile]

theorem Parts.core_subset (word : List Char) : (ofWord word).core ⊆ word := by
  intro c hc
  rw [← Parts.ofWord_append word]
  simp [hc]

/-! ### Cores -/

/-- The spellings of a vocabulary differ in case alone from the words they stand for. -/
def Vocabulary.KeepsLetters (v : Vocabulary) : Prop :=
  ∀ f ∈ v.fixes, f.2.map Char.toLower = f.1.map Char.toLower

instance (v : Vocabulary) : Decidable v.KeepsLetters :=
  inferInstanceAs (Decidable (∀ f ∈ v.fixes, f.2.map Char.toLower = f.1.map Char.toLower))

theorem map_toLower_fix? (hv : v.KeepsLetters) {fixed : List Char} (h : v.fix? word = some fixed) :
    fixed.map Char.toLower = word.map Char.toLower := by
  obtain ⟨f, hf, rfl⟩ := Option.map_eq_some_iff.1 h
  have hword : f.1 = word := by simpa using List.find?_some hf
  rw [← hword]
  exact hv f (List.mem_of_find?_eq_some hf)

theorem map_toLower_capitalize (h : IsAscii word) :
    (capitalize word).map Char.toLower = word.map Char.toLower := by
  cases word with
  | nil => rfl
  | cons c cs =>
      rw [capitalize, Text.upperChar_ascii (h c List.mem_cons_self)]
      simp [Char.toLower_toUpper_eq_toLower]

theorem map_toLower_abbreviation (h : IsAscii word) (lowercase : List Char) :
    (abbreviation v word lowercase).map Char.toLower = word.map Char.toLower := by
  have hstem : IsAscii word.dropLast := h.of_subset (List.dropLast_subset word)
  have hlast : IsAscii (word.drop (word.length - 1)) := h.of_subset (List.drop_subset _ word)
  unfold abbreviation
  split
  · rw [List.map_append, hstem.map_toLower_upper, hlast.map_toLower_lower, ← List.map_append,
      List.dropLast_eq_take, List.take_append_drop]
  · exact h.map_toLower_upper

theorem map_toLower_castCore (hv : v.KeepsLetters) (h : IsAscii core) (first atEdge : Bool) :
    (castCore v first atEdge core).map Char.toLower = core.map Char.toLower := by
  have hlower : (lower core).map Char.toLower = core.map Char.toLower := h.map_toLower_lower
  have hascii : IsAscii (lower core) := h.isAscii_lower
  simp only [castCore]
  split
  · exact hlower
  split
  · exact hlower
  split
  · exact map_toLower_abbreviation h _
  split
  · exact h.map_toLower_upper
  split
  · rfl
  split
  · rfl
  split
  · next fixed hfix => rw [map_toLower_fix? hv hfix, hlower]
  · rw [map_toLower_capitalize hascii, hlower]

/-! ### Texts -/

theorem map_toLower_castWord (hv : v.KeepsLetters) (f : Flow) (isLast : Bool) (h : IsAscii word) :
    (castWord v f isLast word).1.map Char.toLower = word.map Char.toLower := by
  have hcore : IsAscii (Parts.ofWord word).core := h.of_subset (Parts.core_subset word)
  simp only [castWord]
  split
  · rfl
  · simp only [List.map_append, map_toLower_castCore hv hcore]
    rw [← List.map_append, ← List.map_append, Parts.ofWord_append]

theorem map_toLower_castWords (hv : v.KeepsLetters) (f : Flow) {words : List (List Char)}
    (h : ∀ word ∈ words, IsAscii word) :
    (castWords v f words).map (List.map Char.toLower) = words.map (List.map Char.toLower) := by
  induction words generalizing f with
  | nil => rfl
  | cons word rest ih =>
      simp only [castWords, List.map_cons]
      rw [map_toLower_castWord hv f _ (h word List.mem_cons_self),
        ih _ fun w hw => h w (List.mem_cons_of_mem _ hw)]

theorem keepsLetters_standard : Vocabulary.standard.KeepsLetters := by decide +kernel

/-- In lower case, the title of an ASCII text is its words with one space between them. -/
theorem lowercase_title {text : List Char} (h : IsAscii text) :
    (apply .standard text).map Char.toLower =
      ([' '].intercalate ((text.splitOnP Text.isBlank).filter (· ≠ []))).map Char.toLower := by
  have happly : apply .standard text =
      Text.join [' '] (castWords .standard .start (Text.splitWords Text.isBlank text)) := by
    simp [apply, Vocabulary.standard]
  have hwords : ∀ word ∈ Text.splitWords Text.isBlank text, IsAscii word := by
    intro word hword
    rw [Text.splitWords_eq_filter] at hword
    exact h.of_subset fun c hc => (Text.mem_of_mem_splitOnP (List.mem_filter.1 hword).1 hc).1
  rw [happly, Text.map_join, map_toLower_castWords keepsLetters_standard .start hwords,
    ← Text.map_join, Text.splitWords_eq_filter, Text.join_eq_intercalate]

/-- All kinds of words, with blanks of several kinds between them and at the ends. -/
theorem lowercase_title_of_mixed_words :
    let text := "\t the  CEOS' view: of (ph.d.) xiv\n-- i.e. http://a.b, tl;dr 's ".toList
    IsAscii text ∧
      (apply .standard text).map Char.toLower =
        "the ceos' view: of (ph.d.) xiv -- i.e. http://a.b, tl;dr 's".toList := by
  intro text
  have h : IsAscii text := by simp [IsAscii, text]
  exact ⟨h, (lowercase_title h).trans (by decide +kernel)⟩

end BlockTemplate.TitleCase
