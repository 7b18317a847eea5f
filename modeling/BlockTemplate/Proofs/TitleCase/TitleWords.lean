import BlockTemplate.Proofs.TitleCase.Treatment

/-!
# The words of a title

The words of a title are the words of the text, each with a core that was treated. The treatment
depends on the letters of the word in any case and on the words around it: on the last word with a
core before it, and on whether a word follows.

## Implementation notes

Title casing passes a `Flow` from word to word. What it holds after some words is read off the last
word with a core among them (`flowAfter_eq`), so that statements about a word can name the words
around it instead of the state.

Main statements: `castWord_eq`, `splitWords_apply`, `getElem?_splitWords_title`.
-/

namespace BlockTemplate.TitleCase

open Text (IsAscii NoLetters lower)

variable {v : Vocabulary} {word core text : List Char} {before after : List (List Char)}

/-! ### The parts of a word in another case -/

theorem noLetters_isPunctuation : NoLetters isPunctuation :=
  Text.noLetters_of_ascii (by decide +kernel)

namespace Parts

theorem ofWord_map_toLower (word : List Char) :
    ofWord (word.map Char.toLower) =
      ⟨(ofWord word).leading.map Char.toLower, (ofWord word).core.map Char.toLower,
        (ofWord word).trailing.map Char.toLower⟩ := by
  have hp : NoLetters isPunctuation := noLetters_isPunctuation
  rw [ofWord, hp.takeWhile_map_toLower, hp.dropWhile_map_toLower, hp.dropEndWhile_map_toLower,
    ← List.map_reverse, hp.takeWhile_map_toLower, ← List.map_reverse, ofWord]

end Parts

/-- A word with another core. -/
def withCore (word core : List Char) : List Char :=
  (Parts.ofWord word).leading ++ core ++ (Parts.ofWord word).trailing

theorem withCore_core (word : List Char) : withCore word (Parts.ofWord word).core = word :=
  Parts.ofWord_append word

theorem map_toLower_withCore
    (hcore : core.map Char.toLower = (Parts.ofWord word).core.map Char.toLower) :
    (withCore word core).map Char.toLower = word.map Char.toLower := by
  rw [withCore, List.map_append, List.map_append, hcore, ← List.map_append, ← List.map_append,
    Parts.ofWord_append]

/-- A core in another case stands between the same punctuation. -/
theorem ofWord_withCore
    (hcore : core.map Char.toLower = (Parts.ofWord word).core.map Char.toLower) :
    Parts.ofWord (withCore word core) =
      ⟨(Parts.ofWord word).leading, core, (Parts.ofWord word).trailing⟩ := by
  have hparts := Parts.ofWord_map_toLower (withCore word core)
  rw [map_toLower_withCore hcore, Parts.ofWord_map_toLower, Parts.mk.injEq] at hparts
  obtain ⟨hleading, hsame, -⟩ := hparts
  have hleading := congrArg List.length hleading
  have hsame := congrArg List.length (hcore.trans hsame)
  rw [List.length_map, List.length_map] at hleading hsame
  have hword : (Parts.ofWord word).leading ++ core ++ (Parts.ofWord word).trailing = _ :=
    (Parts.ofWord_append (withCore word core)).symm
  rw [List.append_assoc, List.append_assoc] at hword
  obtain ⟨hl, hrest⟩ := List.append_inj hword hleading
  obtain ⟨hc, ht⟩ := List.append_inj hrest hsame
  exact (Parts.mk.injEq ..).mpr ⟨hl.symm, hc.symm, ht.symm⟩

/-! ### What is done with a word -/

/-- What a word leaves to the words after it. -/
def Flow.next (f : Flow) (isLast : Bool) (word : List Char) : Flow :=
  if (Parts.ofWord word).core = [] then f
  else ⟨true, endsSentence word isLast, Text.endsWith [':'] word || Text.endsWith [';'] word⟩

/-- Whether a word starts or ends a sentence or follows a colon. -/
def Flow.edge (f : Flow) (isLast : Bool) (word : List Char) : Bool :=
  f.first || endsSentence word isLast || f.afterColon

/-- The treatment of the core of a word. -/
def wordTreatment (v : Vocabulary) (f : Flow) (isLast : Bool) (word : List Char) : Treatment :=
  if (Parts.ofWord word).core = [] then .keep
  else treatment v f.first (f.edge isLast word) (Parts.ofWord word).core

theorem castWord_eq (v : Vocabulary) (f : Flow) (isLast : Bool) (word : List Char) :
    castWord v f isLast word =
      (withCore word ((wordTreatment v f isLast word).cast v (Parts.ofWord word).core),
        f.next isLast word) := by
  simp only [castWord, wordTreatment, Flow.next]
  split
  · rw [Treatment.cast, withCore_core]
  · rw [castCore_eq]
    rfl

theorem map_toLower_cast_wordTreatment (hv : v.KeepsLetters) (h : IsAscii word) (f : Flow)
    (isLast : Bool) :
    ((wordTreatment v f isLast word).cast v (Parts.ofWord word).core).map Char.toLower =
      (Parts.ofWord word).core.map Char.toLower := by
  rw [wordTreatment]
  split
  · rfl
  · rw [← castCore_eq]
    exact map_toLower_castCore hv (h.of_subset (Parts.core_subset word)) _ _

theorem endsSentence_map_toLower (isLast : Bool) (word : List Char) :
    endsSentence (word.map Char.toLower) isLast = endsSentence word isLast := by
  rw [endsSentence, endsSentence, Text.endsWith_map_toLower (by decide)]

theorem Flow.next_map_toLower (f : Flow) (isLast : Bool) (word : List Char) :
    f.next isLast (word.map Char.toLower) = f.next isLast word := by
  simp only [next, Parts.ofWord_map_toLower, List.map_eq_nil_iff, endsSentence_map_toLower,
    Text.endsWith_map_toLower (show (':').isAlpha = false by decide),
    Text.endsWith_map_toLower (show (';').isAlpha = false by decide)]

/-- A word is treated as it would be in lower case. -/
theorem wordTreatment_map_toLower (h : IsAscii word) (f : Flow) (isLast : Bool) :
    wordTreatment v f isLast (word.map Char.toLower) = wordTreatment v f isLast word := by
  simp only [wordTreatment, Flow.edge, Parts.ofWord_map_toLower, List.map_eq_nil_iff,
    endsSentence_map_toLower, treatment_map_toLower (h.of_subset (Parts.core_subset word))]

/-! ### The words that come out -/

theorem noLetters_isBlank : NoLetters Text.isBlank := Text.noLetters_of_ascii (by decide +kernel)

/-- Characters that words are split at. -/
def Vocabulary.isBreak (v : Vocabulary) (c : Char) : Bool :=
  Text.isBlank c || (v.dashSeparated && c = '-')

/-- The character that words are joined with. -/
def Vocabulary.separator (v : Vocabulary) : Char := if v.dashSeparated then '-' else ' '

theorem Vocabulary.isBreak_separator (v : Vocabulary) : v.isBreak v.separator = true := by
  unfold isBreak separator
  cases v.dashSeparated <;> decide

theorem Vocabulary.noLetters_isBreak (v : Vocabulary) : NoLetters v.isBreak := by
  intro c hc
  have hdash : c ≠ '-' := by
    rintro rfl
    exact absurd hc (by decide)
  simp [isBreak, noLetters_isBlank c hc, hdash]

theorem apply_eq_join (v : Vocabulary) (text : List Char) :
    apply v text =
      Text.join [v.separator] (castWords v .start (Text.splitWords v.isBreak text)) := by
  have hseparator : [v.separator] = if v.dashSeparated then ['-'] else [' '] := by
    unfold Vocabulary.separator
    split <;> rfl
  rw [hseparator]
  rfl

theorem isBreak_standard : Vocabulary.standard.isBreak = Text.isBlank := by
  funext c
  simp [Vocabulary.isBreak, Vocabulary.standard]

theorem isAscii_of_mem_splitWords {p : Char → Bool} (h : IsAscii text)
    (hword : word ∈ Text.splitWords p text) : IsAscii word :=
  h.of_subset fun c hc => ((Text.mem_of_mem_splitWords hword).2 c hc).1

/-- The words of a title are the words of the text, each in title case. -/
theorem splitWords_apply (hv : v.KeepsLetters) (h : IsAscii text) :
    Text.splitWords v.isBreak (apply v text) =
      castWords v .start (Text.splitWords v.isBreak text) := by
  rw [apply_eq_join]
  refine Text.splitWords_join v.isBreak_separator fun cast hcast => ?_
  have hascii : ∀ word ∈ Text.splitWords v.isBreak text, IsAscii word :=
    fun _ => isAscii_of_mem_splitWords h
  -- In lower case the words are the same, and neither a break nor the empty word has a case.
  have hmem : cast.map Char.toLower ∈
      (Text.splitWords v.isBreak text).map (List.map Char.toLower) := by
    rw [← map_toLower_castWords hv .start hascii]
    exact List.mem_map_of_mem hcast
  obtain ⟨word, hword, hsame⟩ := List.mem_map.1 hmem
  obtain ⟨hne, hword⟩ := Text.mem_of_mem_splitWords hword
  refine ⟨fun hnil => hne ?_, fun c hc => ?_⟩
  · rwa [hnil, List.map_nil, List.map_eq_nil_iff] at hsame
  · have hc : c.toLower ∈ word.map Char.toLower := hsame ▸ List.mem_map_of_mem hc
    obtain ⟨d, hd, hlower⟩ := List.mem_map.1 hc
    rw [← v.noLetters_isBreak.apply_toLower, ← hlower, v.noLetters_isBreak.apply_toLower]
    exact (hword d hd).2

/-! ### The words before a word -/

/-- Whether a word has a character that is no punctuation. -/
def hasCore (word : List Char) : Bool := word.any fun c => !isPunctuation c

theorem core_eq_nil_iff : (Parts.ofWord word).core = [] ↔ hasCore word = false := by
  have hcore : (Parts.ofWord word).core = [] ↔ word.dropWhile isPunctuation = [] := by
    rw [Parts.ofWord, Text.dropEndWhile, List.reverse_eq_nil_iff, List.dropWhile_eq_nil_iff]
    constructor
    · intro hall
      cases hrest : word.dropWhile isPunctuation with
      | nil => rfl
      | cons c rest =>
          have hhead := List.head_dropWhile_not isPunctuation (hrest ▸ List.cons_ne_nil c rest)
          simp only [hrest, List.head_cons] at hhead
          rw [hall c (by simp [hrest])] at hhead
          cases hhead
    · intro hnil
      simp [hnil]
  rw [hcore, List.dropWhile_eq_nil_iff]
  simp [hasCore]

/-- What has been seen of some words that are not the last ones. -/
def flowAfter (words : List (List Char)) : Flow :=
  words.foldl (fun f word => f.next false word) .start

/-- The last word with a core. -/
def lastCored? (words : List (List Char)) : Option (List Char) := (words.filter hasCore).getLast?

theorem flowAfter_eq (words : List (List Char)) :
    flowAfter words =
      match lastCored? words with
      | none => .start
      | some word =>
        ⟨true, Text.endsWith ['.'] word, Text.endsWith [':'] word || Text.endsWith [';'] word⟩ := by
  induction words using List.reverseRecOn with
  | nil => rfl
  | append_singleton words word ih =>
      rw [flowAfter, List.foldl_append, ← flowAfter, List.foldl_cons, List.foldl_nil, Flow.next]
      cases hcore : hasCore word with
      | false =>
          rw [if_pos (core_eq_nil_iff.2 hcore), ih]
          simp [lastCored?, hcore]
      | true =>
          have hne : ¬(Parts.ofWord word).core = [] := by
            rw [core_eq_nil_iff, hcore]
            exact Bool.noConfusion
          rw [if_neg hne]
          simp [lastCored?, hcore, endsSentence]

/-- A word stands where the title has the cast of it. -/
theorem getElem?_castWords (f : Flow) (before : List (List Char)) (word : List Char)
    (after : List (List Char)) :
    (castWords v f (before ++ word :: after))[before.length]? =
      some (castWord v (before.foldl (fun f w => f.next false w) f) after.isEmpty word).1 := by
  induction before generalizing f with
  | nil => simp [castWords]
  | cons w before ih =>
      have hmore : (before ++ word :: after).isEmpty = false := by simp
      rw [List.cons_append, castWords, hmore, castWord_eq, List.length_cons,
        List.getElem?_cons_succ, ih, List.foldl_cons]

/-- The words of a title in the standard vocabulary, each from the word in its place. -/
theorem getElem?_splitWords_title (h : IsAscii text)
    (hwords : Text.splitWords Text.isBlank text = before ++ word :: after) :
    (Text.splitWords Text.isBlank (apply .standard text))[before.length]? =
      some (castWord .standard (flowAfter before) after.isEmpty word).1 := by
  rw [← isBreak_standard] at hwords ⊢
  rw [splitWords_apply keepsLetters_standard h, hwords, getElem?_castWords, flowAfter]

/-! ### Places of a word -/

/-- A word after these starts a sentence: none of them has a core, or the last one that has ends
with a full stop. -/
def StartsSentence (before : List (List Char)) : Prop :=
  ∀ word ∈ lastCored? before, Text.endsWith ['.'] word = true

/-- The last of the words with a core ends with a colon or semicolon. -/
def FollowsColon (before : List (List Char)) : Prop :=
  ∃ word ∈ lastCored? before, Text.endsWith [':'] word = true ∨ Text.endsWith [';'] word = true

theorem startsSentence_of_no_core (h : ∀ word ∈ before, hasCore word = false) :
    StartsSentence before := by
  have hnone : before.filter hasCore = [] := by simpa using h
  simp [StartsSentence, lastCored?, hnone]

theorem first_flowAfter_iff : (flowAfter before).first = true ↔ StartsSentence before := by
  rw [flowAfter_eq, StartsSentence]
  cases lastCored? before with
  | none => simp [Flow.start, Flow.first]
  | some word => simp [Flow.first]

theorem afterColon_flowAfter_iff : (flowAfter before).afterColon = true ↔ FollowsColon before := by
  rw [flowAfter_eq, FollowsColon]
  cases lastCored? before with
  | none => simp [Flow.start]
  | some word => simp

end BlockTemplate.TitleCase
