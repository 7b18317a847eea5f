import BlockTemplate.Span
/-!
# Tokens

The pieces a template is scanned into: raw text outside blocks, and inside them names, literals
and punctuation. A token keeps the span it was scanned from.
-/

namespace BlockTemplate

inductive TokenKind where
  /-- Literal text outside of a block. -/
  | rawText
  | blockOpen
  | blockClose
  /-- An opening round bracket. -/
  | bracketOpen
  /-- A closing round bracket. -/
  | bracketClose
  /-- A vertical bar, before each filter of a chain. -/
  | filter
  | comma
  | ident
  /-- A question mark, which makes a block optional. -/
  | question
  /-- A greater-than sign: scanned, but no rule of the grammar takes it. -/
  | greater
  /-- A quoted string; the token's value has its escapes translated. -/
  | string
  /-- An integer literal kept as written, sign included. -/
  | number
  deriving DecidableEq, Repr, Inhabited

namespace TokenKind

def all : List TokenKind :=
  [rawText, blockOpen, blockClose, bracketOpen, bracketClose, filter, comma, ident, question,
    greater, string, number]

def name : TokenKind → String
  | rawText => "RawText"
  | blockOpen => "BlockOpen"
  | blockClose => "BlockClose"
  | bracketOpen => "BracketOpen"
  | bracketClose => "BracketClose"
  | filter => "Filter"
  | comma => "Comma"
  | ident => "Ident"
  | question => "Question"
  | greater => "Gt"
  | string => "String"
  | number => "Number"

def ofName? (s : String) : Option TokenKind := all.find? (·.name = s)

theorem ofName?_name (k : TokenKind) : ofName? k.name = some k := by
  cases k <;> decide

end TokenKind

/-- A scanned piece of a template: its kind, its text and where it stands. -/
structure Token where
  kind : TokenKind
  value : String
  span : Span
  deriving DecidableEq, Repr, Inhabited

end BlockTemplate
