import BlockTemplate.Token
import BlockTemplate.Token.Markers
import BlockTemplate.Token.Escape
import BlockTemplate.Text.Search
/-!
# Scanning

A template is scanned one token at a time. Outside a block everything up to the next opening
marker is raw text; inside one, blanks are skipped and names, literals and punctuation are found.

## Implementation notes

`scan` looks at the text that is left and says what it begins with: it knows nothing of offsets.
`Scanner` adds the offset and remembers whether scanning has stopped. A found lexeme is never
empty, which is why `Scanner.tokens` ends.

Main statement: the text left is what was skipped, then the lexeme, then what is left after it,
and a lexeme is not empty (`scan_eq_found`).
-/

namespace BlockTemplate

open Text (breakOn breakOn_append)

/-- Blank characters inside a block. -/
def isBlockBlank (c : Char) : Bool :=
  c = ' ' || c = '\t' || c = '\n' || c = '\r' || c = '\x0b' || c = '\x0c' || c = '\u00a0' ||
    c = '\u2028' || c = '\u2029'

/-- Characters a name may start with. -/
def isNameStart (c : Char) : Bool := c.isAlpha || c = '_'

/-- Characters a name may go on with. -/
def isNameChar (c : Char) : Bool := c.isAlphanum || c = '_' || c = '#' || c = '.'

/-- The token a punctuation character is. -/
def punctuation? (c : Char) : Option TokenKind :=
  if c = '|' then some .filter
  else if c = ',' then some .comma
  else if c = '(' then some .bracketOpen
  else if c = ')' then some .bracketClose
  else if c = '?' then some .question
  else if c = '>' then some .greater
  else none

/-- The inside of a quoted string and what follows its closing quote. A backslash protects the
character after it. There is none if the text ends first. -/
def quotedBody? (mark : Char) : List Char → Option (List Char × List Char)
  | [] => none
  | [c] => if c = mark then some ([], []) else none
  | c :: d :: rest =>
    if c = mark then some ([], d :: rest)
    else if c = '\\' then
      (quotedBody? mark rest).map fun parts => (c :: d :: parts.1, parts.2)
    else
      (quotedBody? mark (d :: rest)).map fun parts => (c :: parts.1, parts.2)

theorem quotedBody?_eq_some {mark : Char} {cs body rest : List Char}
    (h : quotedBody? mark cs = some (body, rest)) : cs = body ++ mark :: rest := by
  fun_induction quotedBody? mark cs generalizing body rest with
  | case1 => simp at h
  | case2 => cases h; rfl
  | case3 => simp at h
  | case4 => cases h; rfl
  | case5 d tail hne ih =>
    obtain ⟨⟨b, r⟩, hb, he⟩ := Option.map_eq_some_iff.1 h
    obtain ⟨rfl, rfl⟩ := Prod.mk.inj he
    simp [ih hb]
  | case6 c d tail _ _ ih =>
    obtain ⟨⟨b, r⟩, hb, he⟩ := Option.map_eq_some_iff.1 h
    obtain ⟨rfl, rfl⟩ := Prod.mk.inj he
    simp [ih hb]

/-- A token without its place: its kind, its value and the text it was read from. -/
structure Lexeme where
  kind : TokenKind
  value : List Char
  text : List Char

namespace Lexeme

/-- A lexeme whose value is its text. -/
def plain (kind : TokenKind) (text : List Char) : Lexeme := ⟨kind, text, text⟩

end Lexeme

/-- Whether the text that is left stands inside a block. -/
inductive Mode where
  | outside
  | inside
  deriving DecidableEq, Repr

/-- What the text that is left begins with. -/
inductive Scan where
  /-- Nothing but blanks is left. -/
  | finished (skipped : List Char)
  | found (skipped : List Char) (lexeme : Lexeme) (mode : Mode) (rest : List Char)
  /-- `text` is the part of the template that is wrong. -/
  | wrong (skipped : List Char) (error : LexicalError) (text : List Char)

/-- Scans a quoted string that starts with `mark`; `body` is the text after that quote. -/
def scanQuoted (skipped : List Char) (mark : Char) (body : List Char) : Scan :=
  match quotedBody? mark body with
  | none => .wrong skipped .unterminatedString (mark :: body)
  | some (inner, rest) =>
    let text := mark :: (inner ++ [mark])
    match Escape.translate inner with
    | .error e => .wrong skipped e text
    | .ok value => .found skipped ⟨.string, value, text⟩ .inside rest

/-- Scans a number: `sign` is its sign, if any, and `cs` the text after it. -/
def scanNumber (skipped sign cs : List Char) : Scan :=
  let digits := cs.takeWhile Char.isDigit
  let rest := cs.dropWhile Char.isDigit
  let tail := rest.takeWhile isNameChar
  match sign, digits with
  | c :: _, [] => .wrong skipped (.loneSign c) [c]
  | _, _ =>
    if tail = [] then .found skipped (.plain .number (sign ++ digits)) .inside rest
    else
      let run := sign ++ digits ++ tail
      .wrong skipped (.ambiguousNumber (String.ofList run)) run

/-- Scans inside a block, at a character that is not blank. The closing marker is looked for
first, then the opening one, so that neither is hidden by punctuation. -/
def scanItem (d : Delimiters) (skipped : List Char) (c : Char) (cs : List Char) : Scan :=
  if d.closing.isPrefixOf (c :: cs) then
    .found skipped (.plain .blockClose d.closing) .outside ((c :: cs).drop d.closing.length)
  else if d.opening.isPrefixOf (c :: cs) then
    .found skipped (.plain .blockOpen d.opening) .inside ((c :: cs).drop d.opening.length)
  else
    match punctuation? c with
    | some kind => .found skipped (.plain kind [c]) .inside cs
    | none =>
      if isNameStart c then
        .found skipped (.plain .ident (c :: cs.takeWhile isNameChar)) .inside
          (cs.dropWhile isNameChar)
      else if c = '\'' || c = '"' then scanQuoted skipped c cs
      else if c.isDigit then scanNumber skipped [] (c :: cs)
      else if c = '+' || c = '-' then scanNumber skipped [c] cs
      else .wrong skipped (.unexpectedChar c) [c]

/-- Scans inside a block. -/
def scanInside (d : Delimiters) (cs : List Char) : Scan :=
  match cs.dropWhile isBlockBlank with
  | [] => .finished cs
  | c :: rest => scanItem d (cs.takeWhile isBlockBlank) c rest

/-- Scans outside a block. -/
def scanOutside (d : Delimiters) (cs : List Char) : Scan :=
  if cs = [] then .finished []
  else
    let parts := breakOn d.opening cs
    if parts.1 = [] then
      .found [] (.plain .blockOpen d.opening) .inside (cs.drop d.opening.length)
    else .found [] (.plain .rawText parts.1) .outside parts.2

/-- What the text that is left begins with. -/
def scan (d : Delimiters) : Mode → List Char → Scan
  | .outside, cs => scanOutside d cs
  | .inside, cs => scanInside d cs

theorem drop_of_isPrefixOf {m cs : List Char} (h : m.isPrefixOf cs = true) :
    cs = m ++ cs.drop m.length := by
  obtain ⟨t, rfl⟩ := List.isPrefixOf_iff_prefix.1 h
  simp

theorem scanQuoted_eq_found {skipped body sk rest : List Char} {mark : Char} {lx : Lexeme}
    {m : Mode} (h : scanQuoted skipped mark body = .found sk lx m rest) :
    sk = skipped ∧ mark :: body = lx.text ++ rest ∧ lx.text ≠ [] := by
  unfold scanQuoted at h
  split at h
  · simp at h
  · next inner after hq =>
    dsimp only at h
    split at h
    · simp at h
    · obtain ⟨rfl, rfl, -, rfl⟩ := by simpa using h
      simp [quotedBody?_eq_some hq]

theorem scanNumber_eq_found {skipped sign cs sk rest : List Char} {lx : Lexeme} {m : Mode}
    (h : scanNumber skipped sign cs = .found sk lx m rest)
    (hs : sign = [] → ∃ c t, cs = c :: t ∧ c.isDigit = true) :
    sk = skipped ∧ sign ++ cs = lx.text ++ rest ∧ lx.text ≠ [] := by
  unfold scanNumber at h
  dsimp only at h
  split at h
  · simp at h
  · next hne =>
    split at h
    · obtain ⟨rfl, rfl, -, rfl⟩ := by simpa using h
      refine ⟨rfl, by simp [Lexeme.plain, List.takeWhile_append_dropWhile], ?_⟩
      intro hnil
      obtain ⟨hsign, -⟩ := by simpa [Lexeme.plain] using hnil
      obtain ⟨c, t, rfl, hc⟩ := hs hsign
      simp [Lexeme.plain, List.takeWhile, hc] at hnil
    · simp at h

theorem scanItem_eq_found {d : Delimiters} {skipped cs sk rest : List Char} {c : Char}
    {lx : Lexeme} {m : Mode} (h : scanItem d skipped c cs = .found sk lx m rest) :
    sk = skipped ∧ c :: cs = lx.text ++ rest ∧ lx.text ≠ [] := by
  unfold scanItem at h
  split at h
  · next hp =>
    obtain ⟨rfl, rfl, -, rfl⟩ := by simpa using h
    exact ⟨rfl, drop_of_isPrefixOf hp, d.closing_ne_nil⟩
  split at h
  · next hp =>
    obtain ⟨rfl, rfl, -, rfl⟩ := by simpa using h
    exact ⟨rfl, drop_of_isPrefixOf hp, d.opening_ne_nil⟩
  split at h
  · obtain ⟨rfl, rfl, -, rfl⟩ := by simpa using h
    simp [Lexeme.plain]
  split at h
  · obtain ⟨rfl, rfl, -, rfl⟩ := by simpa using h
    simp [Lexeme.plain, List.takeWhile_append_dropWhile]
  split at h
  · exact scanQuoted_eq_found h
  split at h
  · next hd => simpa using scanNumber_eq_found h fun _ => ⟨c, cs, rfl, hd⟩
  split at h
  · simpa using scanNumber_eq_found h (by simp)
  · simp at h

theorem scanInside_eq_found {d : Delimiters} {cs sk rest : List Char} {lx : Lexeme} {m : Mode}
    (h : scanInside d cs = .found sk lx m rest) :
    cs = sk ++ (lx.text ++ rest) ∧ lx.text ≠ [] := by
  unfold scanInside at h
  split at h
  · simp at h
  · next c tail hc =>
    obtain ⟨rfl, ht, hne⟩ := scanItem_eq_found h
    refine ⟨?_, hne⟩
    rw [← ht, ← hc, List.takeWhile_append_dropWhile]

theorem scanOutside_eq_found {d : Delimiters} {cs sk rest : List Char} {lx : Lexeme} {m : Mode}
    (h : scanOutside d cs = .found sk lx m rest) :
    cs = sk ++ (lx.text ++ rest) ∧ lx.text ≠ [] := by
  unfold scanOutside at h
  split at h
  · simp at h
  · next hcs =>
    dsimp only at h
    split at h
    · next hb =>
      obtain ⟨rfl, rfl, -, rfl⟩ := by simpa using h
      refine ⟨?_, d.opening_ne_nil⟩
      cases cs with
      | nil => exact absurd rfl hcs
      | cons c cs =>
        unfold breakOn at hb
        split at hb
        · next hp => exact drop_of_isPrefixOf hp
        · simp at hb
    · next hb =>
      obtain ⟨rfl, rfl, -, rfl⟩ := by simpa using h
      exact ⟨(breakOn_append d.opening cs).symm, hb⟩

/-- The text that is left is what was skipped, the lexeme and the rest; a lexeme is not empty. -/
theorem scan_eq_found {d : Delimiters} {mode : Mode} {cs sk rest : List Char} {lx : Lexeme}
    {m : Mode} (h : scan d mode cs = .found sk lx m rest) :
    cs = sk ++ (lx.text ++ rest) ∧ lx.text ≠ [] := by
  cases mode with
  | outside => exact scanOutside_eq_found h
  | inside => exact scanInside_eq_found h

/-- A place in a template from which scanning goes on. -/
structure Scanner where
  rest : List Char
  offset : Nat
  mode : Mode
  /-- Set by the first error: nothing is scanned after it. -/
  stopped : Bool

/-- What scanning meets: a token, or an error where there is none. -/
abbrev Scanner.Item := Except (Located LexicalError) Token

namespace Scanner

/-- The start of a template. -/
def start (template : List Char) : Scanner := ⟨template, 0, .outside, false⟩

/-- The next item, if there is one, and the place after it. -/
def next? (d : Delimiters) (s : Scanner) : Option Item × Scanner :=
  if s.stopped then (none, s)
  else
    match scan d s.mode s.rest with
    | .finished skipped =>
        (none, { s with rest := [], offset := s.offset + Text.byteLength skipped })
    | .found skipped lx mode rest =>
        let begin := s.offset + Text.byteLength skipped
        let stop := begin + Text.byteLength lx.text
        (some (.ok ⟨lx.kind, String.ofList lx.value, ⟨begin, stop⟩⟩), ⟨rest, stop, mode, false⟩)
    | .wrong skipped error text =>
        let begin := s.offset + Text.byteLength skipped
        (some (.error ⟨error, begin, begin + Text.byteLength text⟩), { s with stopped := true })

/-- Each token leaves less text to scan. -/
theorem next?_rest_lt {d : Delimiters} {s s' : Scanner} {t : Token}
    (h : s.next? d = (some (.ok t), s')) : s'.rest.length < s.rest.length := by
  unfold next? at h
  split at h
  · simp at h
  split at h
  · simp at h
  · next sk lx m rest hs =>
    obtain ⟨-, rfl⟩ := by simpa using h
    obtain ⟨ht, hne⟩ := scan_eq_found hs
    have := List.length_pos_iff.2 hne
    simp only [ht, List.length_append]
    omega
  · simp at h

/-- All items from a place on, and the place where scanning ends. -/
def run (d : Delimiters) (s : Scanner) : List Item × Scanner :=
  match _h : s.next? d with
  | (none, s') => ([], s')
  | (some (.error e), s') => ([.error e], s')
  | (some (.ok t), s') =>
      let tail := run d s'
      (.ok t :: tail.1, tail.2)
  termination_by s.rest.length
  decreasing_by exact next?_rest_lt (by assumption)

end Scanner

/-- The items of a template, in order. An error is the last one. -/
def scanItems (m : Markers) (template : String) : List Scanner.Item :=
  ((Scanner.start template.toList).run m.delimiters).1

/-- The tokens of a template, or its first lexical error. -/
def tokenize (m : Markers) (template : String) : Except (Located LexicalError) (List Token) :=
  (scanItems m template).mapM id

end BlockTemplate
