import BlockTemplate.Toml.Lexical
import BlockTemplate.Toml.Tree
/-!
# Reading configuration files

A file is a sequence of lines: keys with their values, and headers of the tables that the lines
after them belong to. The whole file is read as one object.
-/

namespace BlockTemplate.Toml

/-- Characters of words: numbers, dates and truth values. -/
def isWordChar (c : Char) : Bool :=
  c.isAlphanum || c = '+' || c = '-' || c = '.' || c = '_' || c = ':'

/-- A date as data. -/
def dateJson (word : List Char) : Json := .object [("date", .string (String.ofList word))]

/-- A word as data. -/
def word? (word : List Char) : Option Json :=
  if word = ['t', 'r', 'u', 'e'] then some (.bool true)
  else if word = ['f', 'a', 'l', 's', 'e'] then some (.bool false)
  else if isDate word then some (dateJson word)
  else
    match integer? word with
    | some n => if (Number.word? n).isSome then some (.integer n) else none
    | none => (float? word).map .float

/-- The word at the start of a text. A day and a time may have one space between them. -/
def scalar? (cs : List Char) : Option (Json × List Char) :=
  let word := cs.takeWhile isWordChar
  let rest := cs.dropWhile isWordChar
  match rest with
  | ' ' :: after =>
    let both := word ++ ' ' :: after.takeWhile isWordChar
    if isDate word ∧ isDate both then some (dateJson both, after.dropWhile isWordChar)
    else (word? word).map (·, rest)
  | _ => (word? word).map (·, rest)

/-- Skips blanks, line breaks and comments between the items of an array. -/
def skipLines (cs : List Char) : Option (List Char) :=
  match skipComment (skipBlankLines cs) with
  | none => none
  | some rest =>
    if skipBlankLines rest = rest then some rest
    else if (skipBlankLines rest).length < cs.length then skipLines (skipBlankLines rest)
    else none
  termination_by cs.length

mutual

/-- A value; arrays and inline tables may be nested `depth` deep in it. -/
def value? (depth : Nat) (cs : List Char) : Option (Json × List Char) :=
  match cs with
  | '[' :: rest =>
    match depth with
    | 0 => none
    | depth + 1 => (items? depth [] rest).map fun r => (.array r.1, r.2)
  | '\x7b' :: rest =>
    match depth with
    | 0 => none
    | depth + 1 =>
      match skipSpace rest with
      | '\x7d' :: after => some (.object [], after)
      | _ => (fields? depth [] rest).map fun r => (Tree.toJson r.1, r.2)
  | '"' :: _ | '\'' :: _ => (string? cs).map fun r => (.string (String.ofList r.1), r.2)
  | _ => scalar? cs
  termination_by (depth, 0)

/-- The items of an array up to its closing bracket; `done` holds those read, last one first. -/
def items? (depth : Nat) (done : List Json) (cs : List Char) : Option (List Json × List Char) :=
  match skipLines cs with
  | none => none
  | some (']' :: rest) => some (done.reverse, rest)
  | some start =>
    match value? depth start with
    | none => none
    | some (j, after) =>
      match skipLines after with
      | some (',' :: rest) =>
        if rest.length < cs.length then items? depth (j :: done) rest else none
      | some (']' :: rest) => some ((j :: done).reverse, rest)
      | _ => none
  termination_by (depth, cs.length + 1)

/-- The fields of an inline table up to its closing brace. -/
def fields? (depth : Nat) (done : Tree) (cs : List Char) : Option (Tree × List Char) :=
  match key? cs with
  | some (path, '=' :: rest) =>
    match value? depth (skipSpace rest) with
    | none => none
    | some (j, after) =>
      match done.insert path j with
      | none => none
      | some tree =>
        match skipSpace after with
        | ',' :: rest => if rest.length < cs.length then fields? depth tree rest else none
        | '\x7d' :: rest => some (tree, rest)
        | _ => none
  | _ => none
  termination_by (depth, cs.length + 1)

end

/-- What a line of a file says. -/
inductive Line where
  | blank
  | pair (path : List String) (value : Json)
  | header (path : List String)
  | nextHeader (path : List String)

/-- Reads a line, without what ends it. -/
def line? (cs : List Char) : Option (Line × List Char) :=
  match skipSpace cs with
  | [] => some (.blank, [])
  | '#' :: rest => some (.blank, '#' :: rest)
  | '\n' :: rest => some (.blank, '\n' :: rest)
  | '\r' :: rest => some (.blank, '\r' :: rest)
  | '[' :: '[' :: rest =>
    match key? rest with
    | some (path, ']' :: ']' :: after) => some (.nextHeader path, after)
    | _ => none
  | '[' :: rest =>
    match key? rest with
    | some (path, ']' :: after) => some (.header path, after)
    | _ => none
  | start =>
    match key? start with
    | some (path, '=' :: rest) =>
      (value? depthLimit (skipSpace rest)).map fun r => (.pair path r.1, r.2)
    | _ => none

/-- The tree after a line, and the table that the lines after it belong to. -/
def applyLine (current : List String) (t : Tree) : Line → Option (List String × Tree)
  | .blank => some (current, t)
  | .pair path value => (t.within (Tree.insert path value) current).map (current, ·)
  | .header path =>
    (t.within (Tree.openTable (path.getLastD "")) path.dropLast).map (path, ·)
  | .nextHeader path =>
    (t.within (Tree.openNext (path.getLastD "")) path.dropLast).map (path, ·)

/-- Reads lines; `current` is the table that they belong to. -/
def lines? (current : List String) (t : Tree) (cs : List Char) : Option Tree :=
  match line? cs with
  | none => none
  | some (line, rest) =>
    match applyLine current t line, endLine? rest with
    | some (current, t), some after =>
      if after = [] then some t
      else if after.length < cs.length then lines? current t after
      else none
    | _, _ => none
  termination_by cs.length

/-- A text without the mark that may stand before it to tell its encoding. -/
def dropByteOrderMark : List Char → List Char
  | '\ufeff' :: rest => rest
  | cs => cs

/-- The object that a file spells. -/
def parse? (text : String) : Option Json :=
  (lines? [] [] (dropByteOrderMark text.toList)).map Tree.toJson

end BlockTemplate.Toml
