import BlockTemplate.Failure
import BlockTemplate.Text.Blank
import BlockTemplate.Text.Width
import BlockTemplate.Number.Natural
/-!
# Reports

A failure as text: a headline, the place, and the lines it is about with the span marked. A span
within one line is underlined with carets. One over several lines is marked by a bracket at their
left; of the lines between its ends only some are shown.

## Implementation notes

A line is cut at its line feed and keeps it. What is shown of it is `SourceLine.shown`, laid out in
`cells`: each character with its byte offset in the line, its bytes and its columns.
-/

namespace BlockTemplate.Report

open Text

/-- A line of a source with the offset of its first byte. -/
structure SourceLine where
  start : Nat
  text : List Char

/-- The lines of a text from an offset on. A text that ends with a line feed has an empty last
line. -/
def linesFrom (start : Nat) : List Char → List SourceLine
  | [] => [⟨start, []⟩]
  | c :: cs =>
    if c = '\n' then ⟨start, [c]⟩ :: linesFrom (start + c.utf8Size) cs
    else
      match linesFrom (start + c.utf8Size) cs with
      | [] => [⟨start, [c]⟩]
      | line :: rest => ⟨start, c :: line.text⟩ :: rest

/-- The lines of a source. -/
def linesOf (source : List Char) : List SourceLine := linesFrom 0 source

/-- The index of the line that an offset lies in; past the end that is the last line. -/
def lineIndex (lines : List SourceLine) (offset : Nat) : Nat :=
  ((lines.filter fun l => l.start ≤ offset).length) - 1

/-- The line of an index. -/
def lineAt (lines : List SourceLine) (index : Nat) : SourceLine := lines.getD index ⟨0, []⟩

namespace SourceLine

/-- The text of a line without what ends it. -/
def shown (l : SourceLine) : List Char :=
  dropEndWhile (fun c => c = '\n' || c = '\r' || c = '\x00') l.text

/-- The number of characters that end at or before an offset in the line, counted in bytes. -/
def charsBefore (offset : Nat) : List Char → Nat
  | [] => 0
  | c :: cs => if c.utf8Size ≤ offset then 1 + charsBefore (offset - c.utf8Size) cs else 0

end SourceLine

/-- A character in a line: where it starts, how many bytes and how many columns it has. -/
structure Cell where
  char : Char
  offset : Nat
  bytes : Nat
  columns : Nat

/-- How far tab stops are apart. -/
def tabWidth : Nat := 4

/-- The cells of a text that starts at an offset and a column. -/
def cellsFrom (offset column : Nat) : List Char → List Cell
  | [] => []
  | c :: cs =>
    let columns := if c = '\t' then tabWidth - column % tabWidth else width c
    ⟨c, offset, c.utf8Size, columns⟩ :: cellsFrom (offset + c.utf8Size) (column + columns) cs

def cells (text : List Char) : List Cell := cellsFrom 0 0 text

/-- A text with its tabs as spaces. -/
def detabbed (text : List Char) : List Char :=
  (cells text).flatMap fun c => if c.char = '\t' then List.replicate c.columns ' ' else [c.char]

/-- Carets under a range of bytes of a text; the end of the text counts as one more cell. Before
the end of the range the other cells are blank. -/
def carets (text : List Char) (start stop : Nat) : List Char :=
  let all := cells text ++ [⟨' ', byteLength text, 1, 1⟩]
  all.flatMap fun c =>
    if max start c.offset < min stop (c.offset + c.bytes) then List.replicate c.columns '^'
    else if c.offset < stop then List.replicate c.columns ' '
    else []

/-- A rule up to a byte of a text, and the caret after it. -/
def rule (text : List Char) (stop : Nat) : List Char :=
  (((cells text).takeWhile fun c => c.offset < stop).flatMap fun c =>
    List.replicate c.columns '─') ++ ['^']

def spaces (n : Nat) : List Char := List.replicate n ' '

/-- A line of a report. -/
def line (cs : List Char) : List Char := cs ++ ['\n']

/-- A source line with its number, right aligned, and what stands between bar and text. -/
def sourceLine (padding index : Nat) (gutter text : List Char) : List Char :=
  let number := Number.natText (index + 1)
  line (spaces (padding - number.length) ++ number ++ [' ', '│'] ++ gutter ++ ' ' ::
    detabbed text)

/-- A line without a source line: the bar, and what stands after it. -/
def markLine (padding : Nat) (mark : List Char) : List Char :=
  line (spaces padding ++ [' ', '│'] ++ mark)

/-- The headline and the place. -/
def header (e : TemplateError) (name : List Char) (padding row column : Nat) : List Char :=
  line ("error[".toList ++ e.family.toList ++ "]: ".toList ++ e.causeMessage.toList) ++
    line (spaces padding ++ " ┌─ ".toList ++ name ++ ':' :: Number.natText row ++
      ':' :: Number.natText column)

/-- The bracket that continues at the left of a line. -/
def continued : List Char := [' ', '│']

/-- The body of a report for a span within one line. -/
def singleBody (padding index : Nat) (l : SourceLine) (span : Span) : List Char :=
  let start := span.start - l.start
  let stop := max (span.stop - l.start) (start + 1)
  markLine padding [] ++ sourceLine padding index [] l.shown ++
    markLine padding (' ' :: carets l.shown start stop)

/-- The first line of a span over several lines. The bracket starts beside the line if the span
starts at its first character or before it, and below the line otherwise. -/
def firstLine (padding index : Nat) (l : SourceLine) (start : Nat) : List Char :=
  let text := l.shown
  if start ≤ byteLength (text.takeWhile isBlank) then sourceLine padding index [' ', '╭'] text
  else
    sourceLine padding index [' ', ' '] text ++
      markLine padding (' ' :: '╭' :: rule text (start + 1))

/-- The last line of a span over several lines. -/
def lastLine (padding index : Nat) (l : SourceLine) (stop : Nat) : List Char :=
  sourceLine padding index continued l.shown ++
    markLine padding (' ' :: '╰' :: rule l.shown stop)

/-- How many lines are shown after the first line of a span. -/
def linesAfterFirst : Nat := 3

/-- How many lines are shown before the last line of a span. -/
def linesBeforeLast : Nat := 1

/-- The lines between the first and the last one of a span. Two or more lines in a row that need
not be shown are left out. -/
def middleLines (padding : Nat) (lines : List SourceLine) (first last : Nat) : List Char :=
  let between := (List.range (last - first - 1)).map (· + (first + 1))
  let hidden := between.filter fun i => linesAfterFirst < i - first && linesBeforeLast < last - i
  let isShown (i : Nat) : Bool := hidden.length ≤ 1 || !hidden.contains i
  between.flatMap fun i =>
    if isShown i then sourceLine padding i continued (lineAt lines i).shown
    else if hidden.head? = some i then line (spaces padding ++ [' ', '·'] ++ continued)
    else []

/-- What is shown between the lines of a span that starts on a later line than it ends. -/
def backwardLines (padding : Nat) (lines : List SourceLine) (first last : Nat) : List Char :=
  if first - last = 1 then []
  else if first - last = 2 then
    sourceLine padding (last + 1) [' ', ' '] (lineAt lines (last + 1)).shown
  else line (spaces padding ++ [' ', '·'] ++ continued)

/-- The body of a report for a span over several lines. Lines are shown in their order, even if
the span starts after it ends. -/
def multiBody (padding : Nat) (lines : List SourceLine) (first last : Nat) (span : Span) :
    List Char :=
  let firstSource := lineAt lines first
  let lastSource := lineAt lines last
  let top := firstLine padding first firstSource (span.start - firstSource.start)
  let bottom := lastLine padding last lastSource (span.stop - lastSource.start)
  markLine padding [' ', ' '] ++
    if first < last then top ++ (middleLines padding lines first last ++ bottom)
    else bottom ++ (backwardLines padding lines first last ++ top)

/-- The report of a failure in a source of the given name. -/
def chars (e : Located TemplateError) (name source : List Char) : List Char :=
  let lines := linesOf source
  let first := lineIndex lines e.span.start
  let last := lineIndex lines e.span.stop
  let padding := (Number.natText (max first last + 1)).length
  let l := lineAt lines first
  let column := SourceLine.charsBefore (e.span.start - l.start) l.text + 1
  header e.error name padding (first + 1) column ++
    (if first = last then singleBody padding first l e.span
     else multiBody padding lines first last e.span) ++
    ['\n']

/-- The report of a failure. -/
def render (e : Located TemplateError) (name source : String) : String :=
  String.ofList (chars e name.toList source.toList)

end BlockTemplate.Report
