import BlockTemplate.Failure
/-!
# Escapes in quoted strings

Inside quotes a backslash and the character after it stand for one character. `translate` reads
such text, `quote` writes a text between double quotes.

Main statement: what `quote` writes between its quotes translates back (`translate_escaped`).
-/

namespace BlockTemplate.Escape

/-- The character that a backslash and `c` stand for. -/
def meaning? (c : Char) : Option Char :=
  if c = '\\' then some '\\'
  else if c = '\'' then some '\''
  else if c = '"' then some '"'
  else if c = 'n' then some '\n'
  else if c = 'r' then some '\r'
  else if c = 't' then some '\t'
  else if c = 'b' then some '\x08'
  else none

/-- Replaces every escape by what it stands for; the first one without a meaning is an error. -/
def translate : List Char → Except LexicalError (List Char)
  | [] => .ok []
  | [c] => if c = '\\' then .error .interruptedEscape else .ok [c]
  | c :: d :: rest =>
    if c = '\\' then
      match meaning? d with
      | none => .error (.unsupportedEscape d)
      | some e => (translate rest).map (e :: ·)
    else
      (translate (d :: rest)).map (c :: ·)

/-- A character as it is written between double quotes. -/
def escapeChar (c : Char) : List Char :=
  if c = '\\' then ['\\', '\\']
  else if c = '"' then ['\\', '"']
  else if c = '\n' then ['\\', 'n']
  else if c = '\r' then ['\\', 'r']
  else if c = '\t' then ['\\', 't']
  else if c = '\x08' then ['\\', 'b']
  else [c]

/-- A text as it is written between double quotes. -/
def escaped : List Char → List Char
  | [] => []
  | c :: cs => escapeChar c ++ escaped cs

/-- A text as a double-quoted string. -/
def quote (cs : List Char) : List Char := '"' :: (escaped cs ++ ['"'])

theorem translate_cons {c : Char} (h : c ≠ '\\') (cs : List Char) :
    translate (c :: cs) = (translate cs).map (c :: ·) := by
  cases cs with
  | nil => simp [translate, h, Except.map]
  | cons d rest => simp [translate, h]

theorem translate_escapeChar (c : Char) (cs : List Char) :
    translate (escapeChar c ++ cs) = (translate cs).map (c :: ·) := by
  unfold escapeChar
  split
  · next h => simp [translate, meaning?, h]
  split
  · next h => simp [translate, meaning?, h]
  split
  · next h => simp [translate, meaning?, h]
  split
  · next h => simp [translate, meaning?, h]
  split
  · next h => simp [translate, meaning?, h]
  split
  · next h => simp [translate, meaning?, h]
  · next h _ _ _ _ _ => exact translate_cons h cs

theorem translate_escaped (cs : List Char) : translate (escaped cs) = .ok cs := by
  induction cs with
  | nil => rfl
  | cons c cs ih => simp [escaped, translate_escapeChar, ih, Except.map]

end BlockTemplate.Escape
