import BlockTemplate.TitleCase.Vocabulary
import BlockTemplate.Roman
import BlockTemplate.Text.Blank
import BlockTemplate.Text.CaseMapping
import BlockTemplate.Text.Search
/-!
# Title casing

A text is cut into words. Each word has a core between the punctuation at its ends, and only the
core is changed: small words go to lower case unless they start or end a sentence or follow a
colon, abbreviations and roman numerals to upper case, and other words are capitalised.

## Implementation notes

What a word sees of those before it is a `Flow`. A word of punctuation only is copied and leaves
the flow as it is.
-/

namespace BlockTemplate.TitleCase

open Text

/-- Characters that are no part of the core of a word when they stand at its ends. -/
def isPunctuation (c : Char) : Bool :=
  isBlank c ||
    ['.', ',', ':', ';', '!', '?', '@', '#', '$', '%', '^', '&', '*', '(', ')', '-', '—', '=', '+',
      '<', '>', '\'', '"', '[', ']', '\x7b', '\x7d', '|', '\\', '/'].contains c

/-- A word with its core apart from the punctuation around it. -/
structure Parts where
  leading : List Char
  core : List Char
  trailing : List Char

/-- Cuts off the punctuation at both ends of a word. -/
def Parts.ofWord (word : List Char) : Parts :=
  let rest := word.dropWhile isPunctuation
  { leading := word.takeWhile isPunctuation
    core := dropEndWhile isPunctuation rest
    trailing := (rest.reverse.takeWhile isPunctuation).reverse }

namespace Vocabulary

/-- The endings of plural and possessive forms. -/
def endings : List (List Char) := [['\'', 's'], ['s'], ['\'']]

/-- A word without an ending, if it has it. -/
def withoutEnding? (ending word : List Char) : Option (List Char) :=
  if endsWith ending word then some (word.take (word.length - ending.length)) else none

/-- Whether a word in lower case is an abbreviation or a plural or possessive form of one. -/
def isAbbreviation (v : Vocabulary) (word : List Char) : Bool :=
  v.abbreviations.contains word ||
    endings.any fun ending =>
      match withoutEnding? ending word with
      | none => false
      | some stem => v.abbreviations.contains stem

/-- The spelling of a word in lower case that has one of its own. -/
def fix? (v : Vocabulary) (word : List Char) : Option (List Char) :=
  (v.fixes.find? fun f => f.1 = word).map (·.2)

/-- Whether a word in lower case is small. -/
def isSmall (v : Vocabulary) (word : List Char) : Bool :=
  v.smallWords.contains word || v.preferLowercase.contains word

end Vocabulary

/-- An abbreviation in upper case, given as written and in lower case. The `s` of a plural form
stays in lower case. -/
def abbreviation (v : Vocabulary) (word lowercase : List Char) : List Char :=
  if !v.abbreviations.contains lowercase && endsWith ['s'] lowercase then
    upper word.dropLast ++ lower (word.drop (word.length - 1))
  else upper word

/-- Whether a word looks like an address or a path. -/
def looksLikePath (word : List Char) : Bool :=
  word.contains '.' || contains ['/', '/'] word || word.contains '\\'

/-- A word with its first character in upper case. -/
def capitalize : List Char → List Char
  | [] => []
  | c :: cs => upperChar c ++ cs

/-- What a word sees of the words before it. -/
structure Flow where
  /-- Whether there was a word with a core. -/
  started : Bool
  /-- Whether the last of them ended a sentence. -/
  ended : Bool
  /-- Whether the last of them ended with a colon or semicolon. -/
  afterColon : Bool
  deriving DecidableEq, Repr

/-- Before the first word. -/
def Flow.start : Flow := ⟨false, false, false⟩

/-- Whether the next word starts a sentence. -/
def Flow.first (f : Flow) : Bool := !f.started || f.ended

/-- Whether a word ends a sentence: it ends with a full stop, or no word follows it. -/
def endsSentence (word : List Char) (isLast : Bool) : Bool := endsWith ['.'] word || isLast

/-- The core of a word in title case. `first` says that it starts a sentence, and `atEdge` that it
starts or ends one or follows a colon. -/
def castCore (v : Vocabulary) (first atEdge : Bool) (core : List Char) : List Char :=
  let lowercase := lower core
  if !atEdge && v.isSmall lowercase then lowercase
  else if !first && v.alwaysLowercase.contains lowercase then lowercase
  else if v.isAbbreviation lowercase then abbreviation v core lowercase
  else if v.handleRomans && (Roman.value? core).isSome then upper core
  else if v.preserve.contains lowercase then core
  else if v.keepUrls && looksLikePath core then core
  else
    match v.fix? lowercase with
    | some fixed => fixed
    | none => capitalize lowercase

/-- A word in title case, and what the next one sees. -/
def castWord (v : Vocabulary) (f : Flow) (isLast : Bool) (word : List Char) : List Char × Flow :=
  let parts := Parts.ofWord word
  if parts.core = [] then (word, f)
  else
    let ended := endsSentence word isLast
    let cast := castCore v f.first (f.first || ended || f.afterColon) parts.core
    (parts.leading ++ cast ++ parts.trailing,
      ⟨true, ended, endsWith [':'] word || endsWith [';'] word⟩)

/-- Words in title case, one after the other. -/
def castWords (v : Vocabulary) : Flow → List (List Char) → List (List Char)
  | _, [] => []
  | f, word :: rest =>
    let next := castWord v f rest.isEmpty word
    next.1 :: castWords v next.2 rest

/-- A text in title case. -/
def apply (v : Vocabulary) (text : List Char) : List Char :=
  let isBreak (c : Char) : Bool := isBlank c || (v.dashSeparated && c = '-')
  let separator := if v.dashSeparated then ['-'] else [' ']
  join separator (castWords v .start (splitWords isBreak text))

end BlockTemplate.TitleCase
