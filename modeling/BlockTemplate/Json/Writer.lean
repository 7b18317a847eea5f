import BlockTemplate.Json
import BlockTemplate.Number.FloatText
/-!
# JSON text

Two layouts of the same text: compact, without any blank, and pretty, with two spaces for each
level. A double shows that it is none of the integers; one that is not finite is `null`.
-/

namespace BlockTemplate.Json

/-- A hexadecimal digit in lower case. -/
def hexDigit (n : Nat) : Char := if n < 10 then Char.ofNat (48 + n) else Char.ofNat (87 + n)

/-- A character of a JSON string. Quotes, backslashes and control characters are escaped. -/
def escapeChar (c : Char) : List Char :=
  if c = '"' then ['\\', '"']
  else if c = '\\' then ['\\', '\\']
  else if c = '\x08' then ['\\', 'b']
  else if c = '\x0c' then ['\\', 'f']
  else if c = '\n' then ['\\', 'n']
  else if c = '\r' then ['\\', 'r']
  else if c = '\t' then ['\\', 't']
  else if c.toNat < 32 then ['\\', 'u', '0', '0', hexDigit (c.toNat / 16), hexDigit (c.toNat % 16)]
  else [c]

/-- A JSON string with its quotes. -/
def quoted (s : String) : List Char := '"' :: (s.toList.flatMap escapeChar ++ ['"'])

/-- A double as a JSON number. -/
def floatText (x : Float) : List Char :=
  if x.isFinite then Number.FloatStyle.data.text x else ['n', 'u', 'l', 'l']

/-- A value that has no parts. -/
def scalarText : Json → List Char
  | null => ['n', 'u', 'l', 'l']
  | bool true => ['t', 'r', 'u', 'e']
  | bool false => ['f', 'a', 'l', 's', 'e']
  | integer n => Number.intText n
  | float x => floatText x
  | string s => quoted s
  | array _ => []
  | object _ => []

mutual

/-- The compact text of a value. -/
def compactChars : Json → List Char
  | array items => '[' :: (compactItems items ++ [']'])
  | object fields => '\x7b' :: (compactFields fields ++ ['\x7d'])
  | value => scalarText value

def compactItems : List Json → List Char
  | [] => []
  | [value] => compactChars value
  | value :: rest => compactChars value ++ ',' :: compactItems rest

def compactFields : List (String × Json) → List Char
  | [] => []
  | [(key, value)] => quoted key ++ ':' :: compactChars value
  | (key, value) :: rest => quoted key ++ ':' :: (compactChars value ++ ',' :: compactFields rest)

end

/-- A new line at a level. -/
def newLine (level : Nat) : List Char := '\n' :: List.replicate (2 * level) ' '

mutual

/-- The pretty text of a value at a level. -/
def prettyChars (level : Nat) : Json → List Char
  | array [] => ['[', ']']
  | array items => '[' :: (prettyItems (level + 1) items ++ newLine level ++ [']'])
  | object [] => ['\x7b', '\x7d']
  | object fields => '\x7b' :: (prettyFields (level + 1) fields ++ newLine level ++ ['\x7d'])
  | value => scalarText value

def prettyItems (level : Nat) : List Json → List Char
  | [] => []
  | [value] => newLine level ++ prettyChars level value
  | value :: rest => newLine level ++ (prettyChars level value ++ ',' :: prettyItems level rest)

def prettyFields (level : Nat) : List (String × Json) → List Char
  | [] => []
  | [(key, value)] => newLine level ++ (quoted key ++ ':' :: ' ' :: prettyChars level value)
  | (key, value) :: rest =>
    newLine level ++
      (quoted key ++ ':' :: ' ' :: (prettyChars level value ++ ',' :: prettyFields level rest))

end

/-- The text of a value without blanks. -/
def compact (j : Json) : String := String.ofList (compactChars j)

/-- The text of a value on several lines. -/
def pretty (j : Json) : String := String.ofList (prettyChars 0 j)

end BlockTemplate.Json
