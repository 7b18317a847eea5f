import BlockTemplate.Json
/-!
# Tokens of JSON text

A machine reads JSON text one character at a time and hands out brackets, separators, strings and
words. Words are runs of the characters that numbers, `true`, `false` and `null` are made of; what
a word means is not decided here.
-/

namespace BlockTemplate.Json

inductive Token where
  | openArray
  | closeArray
  | openObject
  | closeObject
  | comma
  | colon
  | string (value : String)
  | word (text : List Char)
  deriving DecidableEq, Repr

/-- Where in the text the machine is. Read characters are kept last one first. -/
inductive LexState where
  | between
  | word (done : List Char)
  /-- Inside a string. -/
  | text (done : List Char)
  /-- After a backslash. -/
  | escape (done : List Char)
  /-- Inside a four-digit escape: its value so far, the digits missing, and the leading half of a
  pair if one was read before. -/
  | hex (done : List Char) (value missing : Nat) (leading : Option Nat)
  /-- After a leading half, before the backslash of the trailing one. -/
  | pairEscape (done : List Char) (leading : Nat)
  /-- After a leading half and a backslash. -/
  | pairMark (done : List Char) (leading : Nat)
  deriving DecidableEq, Repr

/-- Characters of words. -/
def isWordChar (c : Char) : Bool := c.isAlphanum || c = '+' || c = '-' || c = '.'

/-- The value of a hexadecimal digit. -/
def hexValue? (c : Char) : Option Nat :=
  if c.isDigit then some (c.toNat - 48)
  else if 'a' ≤ c ∧ c ≤ 'f' then some (c.toNat - 87)
  else if 'A' ≤ c ∧ c ≤ 'F' then some (c.toNat - 55)
  else none

/-- The character a one-letter escape stands for. -/
def shortEscape? (c : Char) : Option Char :=
  if c = '"' ∨ c = '\\' ∨ c = '/' then some c
  else if c = 'b' then some '\x08'
  else if c = 'f' then some '\x0c'
  else if c = 'n' then some '\n'
  else if c = 'r' then some '\r'
  else if c = 't' then some '\t'
  else none

/-- The state after a complete four-digit escape. A half of a pair needs its other half. -/
def afterHex (done : List Char) (value : Nat) (leading : Option Nat) : Option LexState :=
  let isTrailing := 0xdc00 ≤ value ∧ value < 0xe000
  match leading with
  | some high =>
    if isTrailing then
      some (.text (Char.ofNat (0x10000 + (high - 0xd800) * 1024 + (value - 0xdc00)) :: done))
    else none
  | none =>
    if 0xd800 ≤ value ∧ value < 0xdc00 then some (.pairEscape done value)
    else if isTrailing then none
    else some (.text (Char.ofNat value :: done))

/-- Reads a character between tokens. -/
def betweenStep (c : Char) : Option (LexState × List Token) :=
  if c = ' ' ∨ c = '\n' ∨ c = '\t' ∨ c = '\r' then some (.between, [])
  else if c = '[' then some (.between, [.openArray])
  else if c = ']' then some (.between, [.closeArray])
  else if c = '\x7b' then some (.between, [.openObject])
  else if c = '\x7d' then some (.between, [.closeObject])
  else if c = ',' then some (.between, [.comma])
  else if c = ':' then some (.between, [.colon])
  else if c = '"' then some (.text [], [])
  else if isWordChar c then some (.word [c], [])
  else none

/-- Reads a character: the next state and the tokens that are complete. -/
def lexStep (s : LexState) (c : Char) : Option (LexState × List Token) :=
  match s with
  | .between => betweenStep c
  | .word done =>
    if isWordChar c then some (.word (c :: done), [])
    else (betweenStep c).map fun next => (next.1, .word done.reverse :: next.2)
  | .text done =>
    if c = '"' then some (.between, [.string (String.ofList done.reverse)])
    else if c = '\\' then some (.escape done, [])
    else if c.toNat < 32 then none
    else some (.text (c :: done), [])
  | .escape done =>
    if c = 'u' then some (.hex done 0 4 none, [])
    else (shortEscape? c).map fun d => (.text (d :: done), [])
  | .hex done value missing leading =>
    (hexValue? c).bind fun d =>
      let value := 16 * value + d
      if missing ≤ 1 then (afterHex done value leading).map (·, [])
      else some (.hex done value (missing - 1) leading, [])
  | .pairEscape done leading => if c = '\\' then some (.pairMark done leading, []) else none
  | .pairMark done leading => if c = 'u' then some (.hex done 0 4 (some leading), []) else none

/-- The tokens of a text, read from a state on; `done` holds those before it, last one first. -/
def lexFrom (s : LexState) (done : List Token) : List Char → Option (List Token)
  | [] =>
    match s with
    | .between => some done.reverse
    | .word text => some (Token.word text.reverse :: done).reverse
    | _ => none
  | c :: cs =>
    match lexStep s c with
    | none => none
    | some (next, tokens) => lexFrom next (tokens.reverse ++ done) cs

/-- The tokens of a text. -/
def lex? (cs : List Char) : Option (List Token) := lexFrom .between [] cs

end BlockTemplate.Json
