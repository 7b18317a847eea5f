import BlockTemplate.Calendar.Timestamp
/-!
# Percent directives

A text with directives: a percent sign and one or two characters stand for a part of a moment, two
percent signs for one, and all other characters for themselves.

## Implementation notes

`render` fails on a directive that is not in the table, so that a text it accepts has no part that
could be read in another way.
-/

namespace BlockTemplate.Calendar

/-- The parts of a moment that a directive can stand for. Plain numbers have no leading zero. -/
inductive Directive where
  | year
  | yearOfCentury
  | monthName
  | monthAbbreviation
  | month
  | monthPlain
  | day
  | dayPlain
  | weekdayName
  | weekdayAbbreviation
  | hour
  | hourPlain
  | dialHour
  | dialHourPlain
  | minute
  | minutePlain
  | second
  | secondPlain
  | halfUpper
  | halfLower
  deriving DecidableEq, Repr

namespace Directive

/-- The characters after the percent sign. -/
def letters : Directive → List Char
  | year => ['Y']
  | yearOfCentury => ['y']
  | monthName => ['B']
  | monthAbbreviation => ['b']
  | month => ['m']
  | monthPlain => ['-', 'm']
  | day => ['d']
  | dayPlain => ['-', 'd']
  | weekdayName => ['A']
  | weekdayAbbreviation => ['a']
  | hour => ['H']
  | hourPlain => ['-', 'H']
  | dialHour => ['I']
  | dialHourPlain => ['-', 'I']
  | minute => ['M']
  | minutePlain => ['-', 'M']
  | second => ['S']
  | secondPlain => ['-', 'S']
  | halfUpper => ['p']
  | halfLower => ['P']

/-- A directive as it is written. -/
def spelling (d : Directive) : List Char := '%' :: d.letters

def all : List Directive :=
  [year, yearOfCentury, monthName, monthAbbreviation, month, monthPlain, day, dayPlain,
    weekdayName, weekdayAbbreviation, hour, hourPlain, dialHour, dialHourPlain, minute,
    minutePlain, second, secondPlain, halfUpper, halfLower]

/-- The directive with the given letters. -/
def ofLetters? (letters : List Char) : Option Directive := all.find? (·.letters = letters)

theorem ofLetters?_letters (d : Directive) : ofLetters? d.letters = some d := by
  cases d <;> decide

end Directive

/-- English names of the months; there is none for a number that is no month. -/
def monthNames : List String :=
  ["January", "February", "March", "April", "May", "June", "July", "August", "September",
    "October", "November", "December"]

/-- English names of the days of the week, from Sunday on. -/
def weekdayNames : List String :=
  ["Sunday", "Monday", "Tuesday", "Wednesday", "Thursday", "Friday", "Saturday"]

def Civil.monthName (c : Civil) : List Char := (("" :: monthNames).getD c.month "").toList

def Civil.weekdayName (c : Civil) : List Char := (weekdayNames.getD c.weekday "").toList

namespace Directive

/-- The part of a moment that a directive stands for. -/
def text (m : Moment) : Directive → List Char
  | year => yearText m.date.year
  | yearOfCentury => padded 2 (m.date.year % 100).toNat
  | monthName => m.date.monthName
  | monthAbbreviation => m.date.monthName.take 3
  | month => padded 2 m.date.month
  | monthPlain => Number.natText m.date.month
  | day => padded 2 m.date.day
  | dayPlain => Number.natText m.date.day
  | weekdayName => m.date.weekdayName
  | weekdayAbbreviation => m.date.weekdayName.take 3
  | hour => padded 2 m.hour
  | hourPlain => Number.natText m.hour
  | dialHour => padded 2 m.dialHour
  | dialHourPlain => Number.natText m.dialHour
  | minute => padded 2 m.minute
  | minutePlain => Number.natText m.minute
  | second => padded 2 m.shownSecond
  | secondPlain => Number.natText m.shownSecond
  | halfUpper => if m.hour < 12 then ['A', 'M'] else ['P', 'M']
  | halfLower => if m.hour < 12 then ['a', 'm'] else ['p', 'm']

end Directive

/-- What a text with directives says about a moment; nothing if a directive is unknown. -/
def render (m : Moment) : List Char → Option (List Char)
  | [] => some []
  | '%' :: '%' :: rest => (render m rest).map ('%' :: ·)
  | '%' :: '-' :: c :: rest =>
    match Directive.ofLetters? ['-', c] with
    | none => none
    | some d => (render m rest).map (d.text m ++ ·)
  | '%' :: c :: rest =>
    match Directive.ofLetters? [c] with
    | none => none
    | some d => (render m rest).map (d.text m ++ ·)
  | c :: rest => if c = '%' then none else (render m rest).map (c :: ·)

/-- A text as it is written among directives: each percent sign doubled. -/
def literal : List Char → List Char
  | [] => []
  | c :: cs => if c = '%' then '%' :: '%' :: literal cs else c :: literal cs

end BlockTemplate.Calendar
