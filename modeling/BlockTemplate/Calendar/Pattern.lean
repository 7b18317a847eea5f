import BlockTemplate.Calendar.Directive
/-!
# Date patterns

A pattern names the parts of a date by runs of letters, as in `MMMM Do YYYY, HH:mm`. Text in
square brackets is copied, and so is every character that starts no name.

A pattern is translated to a text with directives, which is then rendered; the day with its
English ending has no directive and is put in as text.
-/

namespace BlockTemplate.Calendar

/-- What a name in a pattern stands for. -/
inductive Field where
  | directive (directive : Directive)
  /-- The day of the month with its English ending. -/
  | ordinalDay
  deriving DecidableEq, Repr

/-- The names that patterns know; a longer one stands before those it starts with. -/
def fieldNames : List (List Char × Field) :=
  [ (['Y', 'Y', 'Y', 'Y'], .directive .year),
    (['M', 'M', 'M', 'M'], .directive .monthName),
    (['d', 'd', 'd', 'd'], .directive .weekdayName),
    (['M', 'M', 'M'], .directive .monthAbbreviation),
    (['d', 'd', 'd'], .directive .weekdayAbbreviation),
    (['Y', 'Y'], .directive .yearOfCentury),
    (['M', 'M'], .directive .month),
    (['D', 'o'], .ordinalDay),
    (['D', 'D'], .directive .day),
    (['H', 'H'], .directive .hour),
    (['h', 'h'], .directive .dialHour),
    (['m', 'm'], .directive .minute),
    (['s', 's'], .directive .second),
    (['M'], .directive .monthPlain),
    (['D'], .directive .dayPlain),
    (['H'], .directive .hourPlain),
    (['h'], .directive .dialHourPlain),
    (['m'], .directive .minutePlain),
    (['s'], .directive .secondPlain),
    (['A'], .directive .halfUpper),
    (['a'], .directive .halfLower) ]

/-- A number with the ending of an English ordinal: 1st, 2nd, 3rd, 4th, 11th. -/
def ordinalText (n : Nat) : List Char :=
  Number.natText n ++
    if 11 ≤ n % 100 ∧ n % 100 ≤ 13 then ['t', 'h']
    else
      match n % 10 with
      | 1 => ['s', 't']
      | 2 => ['n', 'd']
      | 3 => ['r', 'd']
      | _ => ['t', 'h']

/-- The first name of the table that a pattern starts with. -/
def firstField? (pattern : List Char) : Option (List Char × Field) :=
  fieldNames.find? fun entry => entry.1.isPrefixOf pattern

/-- A field among directives. -/
def Field.directives (m : Moment) : Field → List Char
  | directive d => d.spelling
  | ordinalDay => literal (ordinalText m.date.day)

/-- The text with directives that a pattern stands for, for the day of a moment. -/
def translate (m : Moment) : List Char → List Char
  | [] => []
  | c :: rest =>
    if c = '[' then
      match rest.dropWhile (· ≠ ']') with
      | [] => literal (c :: rest)
      | _ :: _ =>
        literal (rest.takeWhile (· ≠ ']')) ++ translate m ((rest.dropWhile (· ≠ ']')).drop 1)
    else
      match firstField? (c :: rest) with
      | some (name, field) => field.directives m ++ translate m (rest.drop (name.length - 1))
      | none => literal [c] ++ translate m rest
  termination_by pattern => pattern.length
  decreasing_by
    · have := (List.dropWhile_sublist (· ≠ ']') (l := rest)).length_le
      simp only [List.length_drop, List.length_cons]
      omega
    · simp only [List.length_drop, List.length_cons]
      omega
    · simp

/-- The text of a moment in a pattern. -/
def Moment.format (m : Moment) (pattern : List Char) : List Char :=
  (render m (translate m pattern)).getD []

end BlockTemplate.Calendar
