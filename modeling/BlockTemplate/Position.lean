import BlockTemplate.Text.Offset
/-!
# Positions in a source

A byte offset as a line and a column, both counted from zero; the column is counted in bytes.
Offsets past the end are those of the end.
-/

namespace BlockTemplate

structure Position where
  line : Nat
  column : Nat
  deriving DecidableEq, Repr, Inhabited

namespace Position

/-- Goes on from a position for a number of bytes. -/
def advance (p : Position) : Nat → List Char → Position
  | _, [] => p
  | n, c :: cs =>
    if n = 0 then p
    else if n < c.utf8Size then ⟨p.line, p.column + n⟩
    else if c = '\n' then advance ⟨p.line + 1, 0⟩ (n - c.utf8Size) cs
    else advance ⟨p.line, p.column + c.utf8Size⟩ (n - c.utf8Size) cs

/-- The position of a byte offset. -/
def ofOffset (source : List Char) (offset : Nat) : Position := advance ⟨0, 0⟩ offset source

/-- Line and column counted from one, the way editors show them. -/
def display (p : Position) : String := toString (p.line + 1) ++ ":" ++ toString (p.column + 1)

end Position

end BlockTemplate
