/-!
# Roman numerals

A numeral is read symbol by symbol. A symbol before a greater one is taken off instead of added;
no two symbols in a row may be taken off. A symbol stands at most three times in a row, and the
symbol for one at most four times.
-/

namespace BlockTemplate.Roman

/-- The value of a symbol in either case. -/
def symbolValue? (c : Char) : Option UInt32 :=
  match c.toUpper with
  | 'M' => some 1000
  | 'D' => some 500
  | 'C' => some 100
  | 'L' => some 50
  | 'X' => some 10
  | 'V' => some 5
  | 'I' => some 1
  | _ => none

/-- What has been read of a numeral. -/
structure Reading where
  total : UInt32
  /-- The last symbol. -/
  previous : Option UInt32
  /-- Whether the symbol before the last one was taken off. -/
  subtracted : Bool
  /-- How often the last symbol stands in a row. -/
  run : Nat
  deriving DecidableEq, Repr

/-- Nothing read yet. -/
def Reading.start : Reading := ⟨0, none, false, 0⟩

/-- How often a symbol may stand in a row. -/
def longestRun (value : UInt32) : Nat := if value = 1 then 4 else 3

/-- The total after a symbol. The previous one was added when it was read, so that it is taken off
twice if the new one is greater. -/
def Reading.totalAfter (r : Reading) (value : UInt32) : UInt32 :=
  match r.previous with
  | none => r.total + value
  | some previous =>
    if previous < value then r.total - previous + (value - previous) else r.total + value

/-- Whether a symbol is greater than the one before it. -/
def Reading.rises (r : Reading) (value : UInt32) : Bool :=
  match r.previous with
  | none => false
  | some previous => previous < value

/-- Reads a symbol. -/
def Reading.step (r : Reading) (value : UInt32) : Option Reading :=
  let run := if r.previous = some value then r.run + 1 else 1
  if r.rises value && r.subtracted then none
  else if longestRun value < run then none
  else some ⟨r.totalAfter value, some value, r.rises value, run⟩

/-- Reads a character. -/
def Reading.stepChar (r : Reading) (c : Char) : Option Reading := (symbolValue? c).bind r.step

/-- The value of a numeral, if a text is one. -/
def value? (cs : List Char) : Option UInt32 :=
  if cs = [] then none else (cs.foldlM Reading.stepChar .start).map (·.total)

end BlockTemplate.Roman
