/-!
# Blank characters

The characters with the white space property, and what is done with them: cutting them off at the
ends of a text and splitting a text at them.
-/

namespace BlockTemplate.Text

/-- Characters with the white space property. -/
def isBlank (c : Char) : Bool :=
  let n := c.toNat
  (9 ≤ n && n ≤ 13) || n = 0x20 || n = 0x85 || n = 0xa0 || n = 0x1680 ||
    (0x2000 ≤ n && n ≤ 0x200a) || n = 0x2028 || n = 0x2029 || n = 0x202f || n = 0x205f ||
    n = 0x3000

/-- A text without the characters at its end that satisfy `p`. -/
def dropEndWhile (p : Char → Bool) (cs : List Char) : List Char :=
  (cs.reverse.dropWhile p).reverse

/-- A text without blanks at its ends. -/
def trim (cs : List Char) : List Char := dropEndWhile isBlank (cs.dropWhile isBlank)

/-- The parts of a text between the characters that satisfy `p`, empty ones left out. -/
def splitWords (p : Char → Bool) : List Char → List (List Char)
  | [] => []
  | c :: cs =>
    if p c then splitWords p cs
    else
      match cs with
      | [] => [[c]]
      | d :: _ =>
        if p d then [c] :: splitWords p cs
        else
          match splitWords p cs with
          | [] => [[c]]
          | word :: words => (c :: word) :: words

/-- Texts joined with a separator between them. -/
def join (separator : List Char) : List (List Char) → List Char
  | [] => []
  | [part] => part
  | part :: parts => part ++ (separator ++ join separator parts)

end BlockTemplate.Text
