import BlockTemplate.Json.Lexer
import BlockTemplate.Number.FloatReader
import BlockTemplate.Calendar.Civil
/-!
# Words of configuration text

Strings, keys, numbers, dates and comments of a configuration file in TOML. Each reader takes the
text that is left and gives what it read and the text after it.

## Implementation notes

Dates are recognised and checked, but only their text is kept: no setting is a date.
-/

namespace BlockTemplate.Toml

/-- A reader of the beginning of a text. -/
abbrev Reader (α : Type) := List Char → Option (α × List Char)

/-- How deep one key, and how deep one value, may lead into tables and arrays. -/
def depthLimit : Nat := 79

/-- Blanks within a line. -/
def isSpace (c : Char) : Bool := c = ' ' || c = '\t'

def skipSpace (cs : List Char) : List Char := cs.dropWhile isSpace

/-- Control characters that may stand nowhere. -/
def isForbidden (c : Char) : Bool := (c.toNat < 32 && c ≠ '\t') || c.toNat = 127

/-- The text after a line break, if one comes next. -/
def newLine? : List Char → Option (List Char)
  | '\n' :: rest => some rest
  | '\r' :: '\n' :: rest => some rest
  | _ => none

/-- A text without the comment it may start with; nothing if the comment has a forbidden
character. -/
def skipComment (cs : List Char) : Option (List Char) :=
  match cs with
  | '#' :: rest =>
    let after := rest.dropWhile fun c => !isForbidden c
    if after = [] ∨ (newLine? after).isSome then some after else none
  | _ => some cs

/-- The end of a line: blanks, a comment, and a line break or the end of the text. -/
def endLine? (cs : List Char) : Option (List Char) :=
  match skipComment (skipSpace cs) with
  | none => none
  | some [] => some []
  | some rest => newLine? rest

/-- A number of hexadecimal digits as a character. -/
def hexChar? (digits : Nat) (cs : List Char) : Option (Char × List Char) :=
  let text := cs.take digits
  if text.length = digits then
    match text.mapM Json.hexValue? with
    | none => none
    | some values =>
      let n := values.foldl (fun n d => 16 * n + d) 0
      if n.isValidChar then some (Char.ofNat n, cs.drop digits) else none
  else none

/-- The character that an escape stands for; the backslash has been read. -/
def escape? : Reader Char
  | 'b' :: rest => some ('\x08', rest)
  | 't' :: rest => some ('\t', rest)
  | 'n' :: rest => some ('\n', rest)
  | 'f' :: rest => some ('\x0c', rest)
  | 'r' :: rest => some ('\r', rest)
  | '"' :: rest => some ('"', rest)
  | '\\' :: rest => some ('\\', rest)
  | 'u' :: rest => hexChar? 4 rest
  | 'U' :: rest => hexChar? 8 rest
  | _ => none

/-- The rest of a one-line string in double quotes; `done` is its start, last character first. -/
def basicFrom (done : List Char) (cs : List Char) : Option (List Char × List Char) :=
  match cs with
  | [] => none
  | c :: rest =>
    if c = '"' then some (done.reverse, rest)
    else if c = '\\' then
      match escape? rest with
      | none => none
      | some (d, after) => if after.length ≤ rest.length then basicFrom (d :: done) after else none
    else if isForbidden c then none
    else basicFrom (c :: done) rest
  termination_by cs.length

/-- The rest of a one-line string in single quotes. -/
def literalFrom (done : List Char) : Reader (List Char)
  | [] => none
  | c :: rest =>
    if c = '\'' then some (done.reverse, rest)
    else if isForbidden c then none
    else literalFrom (c :: done) rest

/-- A text without the blanks and line breaks it starts with. -/
def skipBlankLines (cs : List Char) : List Char :=
  match cs with
  | [] => []
  | '\r' :: '\n' :: rest => skipBlankLines rest
  | c :: rest => if isSpace c ∨ c = '\n' then skipBlankLines rest else cs

/-- The rest of a string of several lines. Three quotes end it; one or two more before them belong
to it. A backslash at the end of a line joins it to the next text. -/
def multiFrom (quote : Char) (escapes : Bool) (done : List Char) (cs : List Char) :
    Option (List Char × List Char) :=
  match cs with
  | [] => none
  | c :: rest =>
    if c = quote then
      let run := (cs.takeWhile (· = quote)).length
      if 3 ≤ run then
        if 5 < run then none
        else some (done.reverse ++ List.replicate (run - 3) quote, cs.drop run)
      else multiFrom quote escapes (c :: done) rest
    else if c = '\\' ∧ escapes then
      if (newLine? (skipSpace rest)).isSome then
        if (skipBlankLines rest).length ≤ rest.length then
          multiFrom quote escapes done (skipBlankLines rest)
        else none
      else
        match escape? rest with
        | none => none
        | some (d, after) =>
          if after.length ≤ rest.length then multiFrom quote escapes (d :: done) after else none
    else
      match newLine? cs with
      | some after =>
        if after.length ≤ rest.length then multiFrom quote escapes ('\n' :: done) after else none
      | none => if isForbidden c then none else multiFrom quote escapes (c :: done) rest
  termination_by cs.length

/-- A text without the line break it may start with. -/
def dropNewLine (cs : List Char) : List Char := (newLine? cs).getD cs

/-- A string on one line. -/
def lineString? : Reader (List Char)
  | '"' :: rest => basicFrom [] rest
  | '\'' :: rest => literalFrom [] rest
  | _ => none

/-- A string of any kind. -/
def string? : Reader (List Char)
  | '"' :: '"' :: '"' :: rest => multiFrom '"' true [] (dropNewLine rest)
  | '\'' :: '\'' :: '\'' :: rest => multiFrom '\'' false [] (dropNewLine rest)
  | cs => lineString? cs

/-- Characters of keys without quotes. -/
def isBareChar (c : Char) : Bool := c.isAlphanum || c = '_' || c = '-'

/-- One part of a key. -/
def simpleKey? (cs : List Char) : Option (String × List Char) :=
  match cs.takeWhile isBareChar with
  | [] => (lineString? cs).map fun r => (String.ofList r.1, r.2)
  | bare => some (String.ofList bare, cs.dropWhile isBareChar)

/-- The parts of a key, with points between them. -/
def keyParts? (cs : List Char) : Option (List String × List Char) :=
  match simpleKey? (skipSpace cs) with
  | none => none
  | some (part, rest) =>
    match skipSpace rest with
    | '.' :: after =>
      if after.length < cs.length then (keyParts? after).map fun r => (part :: r.1, r.2) else none
    | after => some ([part], after)
  termination_by cs.length

/-- A key: at most `depthLimit` parts, since each of them leads one table deeper. -/
def key? (cs : List Char) : Option (List String × List Char) :=
  (keyParts? cs).filter fun r => r.1.length ≤ depthLimit

/-- Digits with single underscores between them, underscores removed. -/
def grouped? (isDigit : Char → Bool) : List Char → Option (List Char)
  | [] => none
  | [c] => if isDigit c then some [c] else none
  | c :: d :: rest =>
    if isDigit c then
      if d = '_' then (grouped? isDigit rest).map (c :: ·)
      else (grouped? isDigit (d :: rest)).map (c :: ·)
    else none

/-- Whether digits have no zero before them. -/
def hasNoLeadingZero : List Char → Bool
  | '0' :: _ :: _ => false
  | _ => true

/-- An integer in base sixteen, eight or two. -/
def basedInt? (base : Nat) (digits : List Char) : Option Int := do
  let text ← grouped? (fun c => (Json.hexValue? c).any (· < base)) digits
  let values ← text.mapM Json.hexValue?
  return (values.foldl (fun n d => base * n + d) 0 : Nat)

/-- An integer. -/
def integer? (word : List Char) : Option Int :=
  match word with
  | '0' :: 'x' :: digits => basedInt? 16 digits
  | '0' :: 'o' :: digits => basedInt? 8 digits
  | '0' :: 'b' :: digits => basedInt? 2 digits
  | _ =>
    let parts := Number.splitSign word
    match grouped? Char.isDigit parts.2 with
    | none => none
    | some digits =>
      if hasNoLeadingZero digits then
        some (if parts.1 then -(Number.ofDigits digits : Int) else Number.ofDigits digits)
      else none

/-- A number with a fraction or an exponent, or one of the words for infinity and no number. A
number greater than all doubles is none. -/
def float? (word : List Char) : Option Float :=
  let parts := Number.splitSign word
  if parts.2 = ['i', 'n', 'f'] ∨ parts.2 = ['n', 'a', 'n'] then Number.readFloat? word
  else
    let isMark (c : Char) : Bool := c = '.' || c = 'e' || c = 'E'
    let whole := parts.2.takeWhile fun c => !isMark c
    let tail := parts.2.dropWhile fun c => !isMark c
    let fraction := match tail with
      | '.' :: rest => rest.takeWhile fun c => !isMark c
      | _ => ['0']
    let exponent := match tail.dropWhile (fun c => c ≠ 'e' && c ≠ 'E') with
      | [] => ['0']
      | _ :: rest => (Number.splitSign rest).2
    match grouped? Char.isDigit whole, grouped? Char.isDigit fraction,
        grouped? Char.isDigit exponent with
    | some digits, some _, some _ =>
      if hasNoLeadingZero digits ∧ tail ≠ [] then
        (Number.readFloat? (word.filter (· ≠ '_'))).filter fun x => x.isFinite || x < 0.0
      else none
    | _, _, _ => none

/-- A number of digits as a number. -/
def fixedDigits? (count : Nat) (cs : List Char) : Option (Nat × List Char) :=
  let text := cs.take count
  if text.length = count ∧ text.all Char.isDigit then
    some (Number.ofDigits text, cs.drop count)
  else none

/-- The text after an expected character. -/
def expect? (c : Char) : List Char → Option (List Char)
  | [] => none
  | d :: rest => if d = c then some rest else none

/-- The text after a day of the calendar. -/
def day? (cs : List Char) : Option (List Char) := do
  let (year, cs) ← fixedDigits? 4 cs
  let cs ← expect? '-' cs
  let (month, cs) ← fixedDigits? 2 cs
  let cs ← expect? '-' cs
  let (day, cs) ← fixedDigits? 2 cs
  if (Calendar.Civil.mk year month day).isValid then some cs else none

/-- The text after a time of day. -/
def time? (cs : List Char) : Option (List Char) := do
  let (hour, cs) ← fixedDigits? 2 cs
  let cs ← expect? ':' cs
  let (minute, cs) ← fixedDigits? 2 cs
  let cs ← expect? ':' cs
  let (second, cs) ← fixedDigits? 2 cs
  if hour ≤ 23 ∧ minute ≤ 59 ∧ second ≤ 60 then
    match cs with
    | '.' :: rest =>
      if (rest.takeWhile Char.isDigit) = [] then none else some (rest.dropWhile Char.isDigit)
    | _ => some cs
  else none

/-- The text after an offset from universal time, if there is one. -/
def offset? (cs : List Char) : Option (List Char) :=
  match cs with
  | [] => some []
  | c :: rest =>
    if c = 'Z' ∨ c = 'z' then some rest
    else if c = '+' ∨ c = '-' then do
      let (hour, cs) ← fixedDigits? 2 rest
      let cs ← expect? ':' cs
      let (minute, cs) ← fixedDigits? 2 cs
      if hour ≤ 23 ∧ minute ≤ 59 then some cs else none
    else some cs

/-- Whether a word is a time, a day, or both with or without an offset. -/
def isDate (word : List Char) : Bool :=
  match time? word with
  | some rest => rest.isEmpty
  | none =>
    match day? word with
    | none => false
    | some [] => true
    | some (c :: rest) =>
      if c = 'T' ∨ c = 't' ∨ c = ' ' then ((time? rest).bind offset?) = some [] else false

end BlockTemplate.Toml
