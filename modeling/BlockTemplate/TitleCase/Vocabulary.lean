/-!
# Words that title casing treats on their own

Lists of words in lower case, and switches. The standard vocabulary is English with some particles
of names from other languages.
-/

namespace BlockTemplate.TitleCase

/-- Word lists and switches of title casing. All lists but `fixes` hold words in lower case. -/
structure Vocabulary where
  /-- Words are split at dashes too, and joined with dashes. -/
  dashSeparated : Bool
  /-- Words that look like addresses or paths are kept. -/
  keepUrls : Bool
  /-- Roman numerals are written in upper case. -/
  handleRomans : Bool
  /-- Words that are kept as they are written. -/
  preserve : List (List Char)
  smallWords : List (List Char)
  preferLowercase : List (List Char)
  /-- Words in lower case everywhere but at the start of a sentence. -/
  alwaysLowercase : List (List Char)
  /-- Words in upper case, with their plural and possessive forms. -/
  abbreviations : List (List Char)
  /-- Words with a spelling of their own. -/
  fixes : List (List Char × List Char)

/-- Words given one by one. -/
def words (list : List String) : List (List Char) := list.map String.toList

def standardSmallWords : List String :=
  ["a", "an", "the", "some", "with", "at", "from", "into", "upon", "of", "to", "in", "for", "on",
    "by", "over", "but", "up", "out", "down", "off", "or", "and", "not", "that", "but", "as",
    "than", "then", "so", "nor", "yet", "amid", "atop", "onto", "per", "se", "versus", "via",
    "vice", "vis-a-vis", "vis-à-vis"]

def standardPreferLowercase : List String :=
  ["av", "af", "da", "dal", "del", "der", "di", "la", "le", "van", "von", "der", "den", "vel"]

def standardAlwaysLowercase : List String := ["van", "von", "der", "i.e.", "e.g."]

def standardAbbreviations : List String :=
  ["id", "tv", "url", "faq", "q&a", "atm", "tba", "rip", "p.s.", "esl", "efl", "diy", "iq", "gmo",
    "pc", "pr", "sos", "pow", "ad", "bc", "ce", "bce", "md", "hr", "efl", "elt", "esl", "ba", "ma",
    "bsc", "msc", "cc", "bcc", "lgbt", "edm", "lol", "omg", "rsvp", "vip", "tl;dr", "dc", "ceo",
    "cmo", "cfo", "evp", "svp", "vp", "md", "pa"]

def standardFixes : List (String × String) := [("phd", "PhD"), ("ph.d.", "Ph.D.")]

/-- The vocabulary used where none is given. -/
def Vocabulary.standard : Vocabulary where
  dashSeparated := false
  keepUrls := true
  handleRomans := true
  preserve := []
  smallWords := words standardSmallWords
  preferLowercase := words standardPreferLowercase
  alwaysLowercase := words standardAlwaysLowercase
  abbreviations := words standardAbbreviations
  fixes := standardFixes.map fun f => (f.1.toList, f.2.toList)

instance : Inhabited Vocabulary := ⟨.standard⟩

end BlockTemplate.TitleCase
