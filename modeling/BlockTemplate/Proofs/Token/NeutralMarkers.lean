import BlockTemplate.Number.Natural
import BlockTemplate.Proofs.Text.Runs
import BlockTemplate.Proofs.Token.Escapes
import BlockTemplate.Proofs.Token.ScannerRun

/-!
# Scanning with neutral markers

Markers are neutral when neither starts with a character that blocks are written with. Inside a
block the first character of what is left then decides what is scanned: a marker is found where it
stands and hides nothing else.

## Implementation notes

`Spelled` says of a lexeme and the text after it that the lexeme is written out in full and does
not go on in that text. Of the text after it only the first character counts (`Spelled.of_endsRun`),
so more text can be added at its end (`Spelled.append`).

Main statement: markers and greater-than signs apart, exactly the spelled lexemes are scanned
inside a block (`scan_inside_of_spelled`, `spelled_of_scan`).
-/

namespace BlockTemplate

/-- The blanks inside a block, and the characters that its names, numbers, quotes and punctuation
are written with. -/
def isBlockChar (c : Char) : Bool :=
  isBlockBlank c || c.isAlphanum ||
    c ∈ ['_', '#', '.', '\'', '"', '+', '-', '|', ',', '(', ')', '?']

/-- Neither marker starts with a character that blocks are written with. -/
def Delimiters.Neutral (d : Delimiters) : Prop :=
  isBlockChar (d.opening.head d.opening_ne_nil) = false ∧
    isBlockChar (d.closing.head d.closing_ne_nil) = false

instance (d : Delimiters) : Decidable d.Neutral := inferInstanceAs (Decidable (_ ∧ _))

/-! ### Classes of characters -/

theorem notMem_of_class {p : Char → Bool} {chars : List Char} (h : chars.any p = false)
    {c : Char} (hc : p c = true) : c ∉ chars := by
  intro hmem
  exact List.any_eq_false.1 h c hmem hc

theorem isBlockBlank_eq_false {c : Char}
    (h : c ∉ [' ', '\t', '\n', '\r', '\x0b', '\x0c', '\u00a0', '\u2028', '\u2029']) :
    isBlockBlank c = false := by
  simpa [isBlockBlank, and_assoc] using h

/-- Quotes, signs and punctuation are characters of a block, and no blanks. -/
theorem isBlockBlank_of_mark {c : Char}
    (h : c ∈ ['\'', '"', '+', '-', '|', ',', '(', ')', '?']) :
    isBlockBlank c = false ∧ isBlockChar c = true := by
  have hall : (['\'', '"', '+', '-', '|', ',', '(', ')', '?'].all fun x =>
      !isBlockBlank x && isBlockChar x) = true := by
    decide
  simpa using List.all_eq_true.1 hall c h

theorem punctuation?_eq_none {c : Char} (h : c ∉ ['|', ',', '(', ')', '?', '>']) :
    punctuation? c = none := by
  simp only [List.mem_cons, List.not_mem_nil, or_false, not_or] at h
  obtain ⟨h₁, h₂, h₃, h₄, h₅, h₆⟩ := h
  simp [punctuation?, h₁, h₂, h₃, h₄, h₅, h₆]

theorem isBlockChar_of_isNameChar {c : Char} (h : isNameChar c = true) : isBlockChar c = true := by
  simp only [isNameChar, Bool.or_eq_true, decide_eq_true_eq] at h
  rcases h with ((h | rfl) | rfl) | rfl
  · simp [isBlockChar, h]
  all_goals decide

theorem isNameChar_of_isNameStart {c : Char} (h : isNameStart c = true) :
    isNameChar c = true := by
  simp only [isNameStart, Bool.or_eq_true, decide_eq_true_eq] at h
  rcases h with h | rfl
  · simp [isNameChar, Char.isAlphanum, h]
  · decide

theorem isNameChar_of_isDigit {c : Char} (h : c.isDigit = true) : isNameChar c = true := by
  simp [isNameChar, Char.isAlphanum, h]

theorem isBlockBlank_of_isNameChar {c : Char} (h : isNameChar c = true) :
    isBlockBlank c = false :=
  isBlockBlank_eq_false (notMem_of_class (by decide) h)

theorem punctuation?_of_isNameChar {c : Char} (h : isNameChar c = true) : punctuation? c = none :=
  punctuation?_eq_none (notMem_of_class (by decide) h)

theorem isNameStart_of_isDigit {c : Char} (h : c.isDigit = true) : isNameStart c = false := by
  have halpha : c.isAlpha = false := Number.isAlpha_eq_false_of_isDigit h
  have hne : c ≠ '_' := by
    rintro rfl
    cases h
  simp [isNameStart, halpha, hne]

/-! ### Spelled lexemes -/

/-- A lexeme other than a marker is written out in full before the given text. -/
inductive Spelled : Lexeme → List Char → Prop
  | punctuation {c : Char} {kind : TokenKind} (is : punctuation? c = some kind)
      (grammatical : kind ≠ .greater) (rest : List Char) : Spelled (.plain kind [c]) rest
  | name {c : Char} {cs rest : List Char} (start : isNameStart c = true)
      (more : ∀ x ∈ cs, isNameChar x = true) (ends : EndsRun isNameChar rest) :
      Spelled (.plain .ident (c :: cs)) rest
  | number {sign digits rest : List Char} (signed : sign ∈ [[], ['+'], ['-']])
      (nonempty : digits ≠ []) (decimal : ∀ x ∈ digits, x.isDigit = true)
      (ends : EndsRun isNameChar rest) : Spelled (.plain .number (sign ++ digits)) rest
  | quoted {mark : Char} (quote : mark ∈ ['\'', '"']) {inner value rest : List Char}
      (closes : quotedBody? mark (inner ++ mark :: rest) = some (inner, rest))
      (translated : Escape.translate inner = .ok value) :
      Spelled ⟨.string, value, mark :: (inner ++ [mark])⟩ rest

namespace Spelled

variable {lx : Lexeme} {rest : List Char}

theorem endsRun_append {p : Char → Bool} (h : EndsRun p rest) (hne : rest ≠ [])
    (more : List Char) : EndsRun p (rest ++ more) := by
  cases rest with
  | nil => exact absurd rfl hne
  | cons c rest => exact h

/-- Of the text behind a lexeme only its start counts, in which no name may go on. -/
theorem of_endsRun (h : Spelled lx rest) {rest' : List Char}
    (hends : EndsRun isNameChar rest → EndsRun isNameChar rest') : Spelled lx rest' := by
  cases h with
  | punctuation is grammatical => exact .punctuation is grammatical rest'
  | name start more ends => exact .name start more (hends ends)
  | number signed nonempty decimal ends => exact .number signed nonempty decimal (hends ends)
  | quoted quote closes translated =>
      refine .quoted quote (Escape.quotedBody?_of_quotedBody? ?_ closes rest') translated
      rintro rfl
      simp at quote

/-- A lexeme that does not stand at the end of the text stays what it is when text is added. -/
theorem append (h : Spelled lx rest) (hne : rest ≠ []) (more : List Char) :
    Spelled lx (rest ++ more) :=
  h.of_endsRun fun hends => endsRun_append hends hne more

/-- A number starts with its sign or with a digit. -/
theorem exists_first_number {sign digits : List Char} (signed : sign ∈ [[], ['+'], ['-']])
    (nonempty : digits ≠ []) (decimal : ∀ x ∈ digits, x.isDigit = true) :
    ∃ c cs, sign ++ digits = c :: cs ∧ isBlockBlank c = false ∧ isBlockChar c = true := by
  simp only [List.mem_cons, List.not_mem_nil, or_false] at signed
  rcases signed with rfl | rfl | rfl
  · obtain ⟨c, digits, rfl⟩ := List.exists_cons_of_ne_nil nonempty
    have hc := isNameChar_of_isDigit (decimal c (by simp))
    exact ⟨c, digits, rfl, isBlockBlank_of_isNameChar hc, isBlockChar_of_isNameChar hc⟩
  · exact ⟨'+', digits, rfl, by decide, by decide⟩
  · exact ⟨'-', digits, rfl, by decide, by decide⟩

/-- A spelled lexeme starts with a character that is no blank and starts no neutral marker. -/
theorem exists_first (h : Spelled lx rest) :
    ∃ c cs, lx.text = c :: cs ∧ isBlockBlank c = false ∧ isBlockChar c = true := by
  cases h with
  | @punctuation c kind is grammatical =>
      refine ⟨c, [], rfl, ?_⟩
      have hc : c ∈ ['|', ',', '(', ')', '?'] := by
        by_contra hc
        have hnone : punctuation? c = none ∨ c = '>' := by
          by_cases hgreater : c = '>'
          · exact Or.inr hgreater
          · exact Or.inl (punctuation?_eq_none (by simp_all))
        rcases hnone with hnone | rfl
        · rw [hnone] at is
          cases is
        · exact grammatical (Option.some.inj is).symm
      exact isBlockBlank_of_mark (by grind)
  | @name c cs _ start =>
      have hc := isNameChar_of_isNameStart start
      exact ⟨c, cs, rfl, isBlockBlank_of_isNameChar hc, isBlockChar_of_isNameChar hc⟩
  | number signed nonempty decimal => exact exists_first_number signed nonempty decimal
  | @quoted mark quote => exact ⟨mark, _, rfl, isBlockBlank_of_mark (by grind)⟩

/-- A spelled lexeme is no marker, so scanning stays where it is. -/
theorem after_eq (h : Spelled lx rest) (m : Mode) : m.after lx.kind = m := by
  cases h with
  | name | number | quoted => rfl
  | @punctuation c kind is =>
      have hkind := punctuation?_eq_some is
      simp only [List.mem_cons, List.not_mem_nil, or_false] at hkind
      rcases hkind with rfl | rfl | rfl | rfl | rfl | rfl <;> rfl

theorem kind_ne_blockClose (h : Spelled lx rest) : lx.kind ≠ .blockClose := by
  intro hk
  have hstays := h.after_eq .inside
  rw [hk] at hstays
  cases hstays

end Spelled

/-! ### Scans inside a block -/

variable {d : Delimiters}

/-- Neither marker stands at the start of a text. -/
def Delimiters.Clear (d : Delimiters) (text : List Char) : Prop :=
  ¬d.closing <+: text ∧ ¬d.opening <+: text

theorem Delimiters.Clear.isPrefixOf_eq_false {text : List Char} (h : d.Clear text) :
    d.closing.isPrefixOf text = false ∧ d.opening.isPrefixOf text = false := by
  simpa [Clear, ← List.isPrefixOf_iff_prefix] using h

/-- No neutral marker stands where a character of a block stands. -/
theorem Delimiters.Neutral.clear (hd : d.Neutral) {c : Char} (hc : isBlockChar c = true)
    (cs : List Char) : d.Clear (c :: cs) := by
  have hmarker {m : List Char} (hne : m ≠ []) (hm : isBlockChar (m.head hne) = false) :
      ¬m <+: c :: cs := by
    obtain ⟨x, xs, rfl⟩ := List.exists_cons_of_ne_nil hne
    intro hprefix
    obtain ⟨rfl, -⟩ := List.cons_prefix_cons.1 hprefix
    rw [List.head_cons, hc] at hm
    cases hm
  exact ⟨hmarker d.closing_ne_nil hd.2, hmarker d.opening_ne_nil hd.1⟩

section Clear

variable {sk cs : List Char} {c : Char}

theorem scanItem_quote (h : d.Clear (c :: cs)) (hc : c ∈ ['\'', '"']) :
    scanItem d sk c cs = scanQuoted sk c cs := by
  simp only [scanItem, h.isPrefixOf_eq_false, Bool.false_eq_true, if_false]
  simp only [List.mem_cons, List.not_mem_nil, or_false] at hc
  rcases hc with rfl | rfl <;> rfl

theorem scanItem_digit (h : d.Clear (c :: cs)) (hc : c.isDigit = true) :
    scanItem d sk c cs = scanNumber sk [] (c :: cs) := by
  have hquotes : c ∉ ['\'', '"'] := notMem_of_class (by decide) hc
  simp only [scanItem, h.isPrefixOf_eq_false, Bool.false_eq_true, if_false,
    punctuation?_of_isNameChar (isNameChar_of_isDigit hc), isNameStart_of_isDigit hc, hc]
  simp_all

theorem scanItem_sign (h : d.Clear (c :: cs)) (hc : c ∈ ['+', '-']) :
    scanItem d sk c cs = scanNumber sk [c] cs := by
  simp only [scanItem, h.isPrefixOf_eq_false, Bool.false_eq_true, if_false]
  simp only [List.mem_cons, List.not_mem_nil, or_false] at hc
  rcases hc with rfl | rfl <;> rfl

/-- A number is scanned from its sign or, without one, from its first digit on. -/
theorem scanItem_number {sign number : List Char} (h : d.Clear (c :: cs))
    (hsign : sign ∈ [[], ['+'], ['-']]) (hdigit : ∀ x ∈ number.head?, x.isDigit = true)
    (hne : number ≠ []) (htext : sign ++ number = c :: cs) :
    scanItem d sk c cs = scanNumber sk sign number := by
  simp only [List.mem_cons, List.not_mem_nil, or_false] at hsign
  rcases hsign with rfl | rfl | rfl
  · obtain rfl : number = c :: cs := htext
    exact scanItem_digit h (hdigit c rfl)
  · obtain ⟨rfl, rfl⟩ := List.cons.inj htext
    exact scanItem_sign h (by simp)
  · obtain ⟨rfl, rfl⟩ := List.cons.inj htext
    exact scanItem_sign h (by simp)

end Clear

/-- Blanks are skipped up to the first other character. -/
theorem scan_inside_eq {sk : List Char} (hsk : ∀ x ∈ sk, isBlockBlank x = true) {c : Char}
    (hc : isBlockBlank c = false) (cs : List Char) :
    scan d .inside (sk ++ c :: cs) = scanItem d sk c cs := by
  have hends : EndsRun isBlockBlank (c :: cs) := by simpa [EndsRun] using hc
  change scanInside d (sk ++ c :: cs) = _
  rw [scanInside, dropWhile_append_of_endsRun hsk hends, takeWhile_append_of_endsRun hsk hends]

theorem scanNumber_of_digits {sk sign digits rest : List Char}
    (hsign : sign = [] ∨ digits ≠ []) (hdigits : ∀ x ∈ digits, x.isDigit = true)
    (hrest : EndsRun isNameChar rest) :
    scanNumber sk sign (digits ++ rest) =
      .found sk (.plain .number (sign ++ digits)) .inside rest := by
  have hends : EndsRun Char.isDigit rest := hrest.mono fun _ => isNameChar_of_isDigit
  simp only [scanNumber, takeWhile_append_of_endsRun hdigits hends,
    dropWhile_append_of_endsRun hdigits hends, takeWhile_eq_nil_of_endsRun hrest]
  split
  · rcases hsign with h | h
    · cases h
    · exact absurd rfl h
  · simp

theorem scanItem_of_spelled (hd : d.Neutral) {sk rest cs : List Char} {lx : Lexeme} {c : Char}
    (h : Spelled lx rest) (htext : lx.text = c :: cs) (hchar : isBlockChar c = true) :
    scanItem d sk c (cs ++ rest) = .found sk lx .inside rest := by
  have hclear := hd.clear hchar (cs ++ rest)
  cases h with
  | @punctuation c' kind is _ =>
      obtain ⟨rfl, rfl⟩ := List.cons.inj htext
      simp only [scanItem, hclear.isPrefixOf_eq_false, Bool.false_eq_true, if_false, is]
      rfl
  | @name c' cs' _ start more ends =>
      obtain ⟨rfl, rfl⟩ := List.cons.inj htext
      simp only [scanItem, hclear.isPrefixOf_eq_false, Bool.false_eq_true, if_false,
        punctuation?_of_isNameChar (isNameChar_of_isNameStart start), start, if_true]
      rw [takeWhile_append_of_endsRun more ends, dropWhile_append_of_endsRun more ends]
  | @number sign digits _ signed nonempty decimal ends =>
      have hne : digits ++ rest ≠ [] := by simp [nonempty]
      have hdigit : ∀ x ∈ (digits ++ rest).head?, x.isDigit = true := by
        intro x hx
        rw [List.head?_append_of_ne_nil _ nonempty] at hx
        exact decimal x (List.mem_of_mem_head? hx)
      have hwhole : sign ++ (digits ++ rest) = c :: (cs ++ rest) := by
        rw [← List.append_assoc, ← List.cons_append, ← htext]
        rfl
      rw [scanItem_number hclear signed hdigit hne hwhole]
      exact scanNumber_of_digits (Or.inr nonempty) decimal ends
  | @quoted mark quote inner value _ closes translated =>
      obtain ⟨rfl, rfl⟩ : mark = c ∧ inner ++ [mark] = cs := List.cons.inj htext
      rw [scanItem_quote hclear quote, List.append_assoc, List.singleton_append, scanQuoted, closes]
      simp [translated]

/-- With neutral markers a spelled lexeme is scanned. -/
theorem scan_inside_of_spelled (hd : d.Neutral) {sk : List Char}
    (hsk : ∀ x ∈ sk, isBlockBlank x = true) {lx : Lexeme} {rest : List Char}
    (h : Spelled lx rest) :
    scan d .inside (sk ++ (lx.text ++ rest)) = .found sk lx .inside rest := by
  obtain ⟨c, cs, htext, hblank, hchar⟩ := h.exists_first
  rw [htext, List.cons_append, scan_inside_eq hsk hblank]
  exact scanItem_of_spelled hd h htext hchar

theorem isBlockChar_of_isBlockBlank {c : Char} (h : isBlockBlank c = true) :
    isBlockChar c = true := by
  simp [isBlockChar, h]

/-- Skipping blanks does not reach into the closing marker. -/
def Delimiters.ClosingUnskipped (d : Delimiters) : Prop :=
  isBlockBlank (d.closing.head d.closing_ne_nil) = false

instance (d : Delimiters) : Decidable d.ClosingUnskipped := inferInstanceAs (Decidable (_ = _))

theorem Delimiters.Neutral.closingUnskipped (hd : d.Neutral) : d.ClosingUnskipped := by
  by_contra hblank
  have hneutral := hd.2
  rw [isBlockChar_of_isBlockBlank (by simpa [ClosingUnskipped] using hblank)] at hneutral
  cases hneutral

/-- A closing marker that does not start with a blank is found after blanks. -/
theorem scan_inside_closing (hd : d.ClosingUnskipped) {sk : List Char}
    (hsk : ∀ x ∈ sk, isBlockBlank x = true) (rest : List Char) :
    scan d .inside (sk ++ (d.closing ++ rest)) =
      .found sk (.plain .blockClose d.closing) .outside rest := by
  obtain ⟨c, cs, hclosing⟩ := List.exists_cons_of_ne_nil d.closing_ne_nil
  have hblank : isBlockBlank c = false := by
    have hfirst : d.closing.head d.closing_ne_nil = c := by
      rw [List.head_eq_iff_head?_eq_some, hclosing, List.head?_cons]
    rw [← hfirst]
    exact hd
  have hprefix : d.closing.isPrefixOf (c :: (cs ++ rest)) = true :=
    List.isPrefixOf_iff_prefix.2 ⟨rest, by rw [hclosing, List.cons_append]⟩
  have hdrop : (c :: (cs ++ rest)).drop d.closing.length = rest := by
    rw [← List.cons_append, ← hclosing, List.drop_left]
  have htext : d.closing ++ rest = c :: (cs ++ rest) := by rw [hclosing, List.cons_append]
  rw [htext, scan_inside_eq hsk hblank, scanItem, if_pos hprefix, hdrop]

/-- Outside of blocks the token of an opening marker is next where the marker stands. -/
theorem Scanner.next?_opening (d : Delimiters) (rest : List Char) (offset : Nat) :
    (outside (d.opening ++ rest) offset).next? d =
      (some (.ok ⟨.blockOpen, String.ofList d.opening,
        ⟨offset, offset + Text.byteLength d.opening⟩⟩),
        inside rest (offset + Text.byteLength d.opening)) := by
  have hscan := scan_outside_opening (d := d) (List.prefix_append d.opening rest)
  rw [List.drop_left] at hscan
  exact next?_eq_token_iff.2 ⟨rfl, _, _, _, _, hscan, rfl, rfl⟩

/-- Inside a block the token of a closing marker is next where the marker stands. -/
theorem Scanner.next?_closing (hd : d.ClosingUnskipped) (rest : List Char) (offset : Nat) :
    (inside (d.closing ++ rest) offset).next? d =
      (some (.ok ⟨.blockClose, String.ofList d.closing,
        ⟨offset, offset + Text.byteLength d.closing⟩⟩),
        outside rest (offset + Text.byteLength d.closing)) := by
  have hscan := scan_inside_closing hd (List.forall_mem_nil _) rest
  rw [List.nil_append] at hscan
  exact next?_eq_token_iff.2 ⟨rfl, _, _, _, _, hscan, rfl, rfl⟩

/-- A quoted text is found where it can be enclosed. -/
theorem scanQuoted_eq_found_iff {mark : Char} (hmark : mark ≠ '\\')
    {skipped body sk rest : List Char} {lx : Lexeme} {m : Mode} :
    scanQuoted skipped mark body = .found sk lx m rest ↔
      sk = skipped ∧ m = .inside ∧ ∃ inner value, body = inner ++ mark :: rest ∧
        Escape.Enclosed mark inner ∧ Escape.translate inner = .ok value ∧
        lx = ⟨.string, value, mark :: (inner ++ [mark])⟩ := by
  constructor
  · intro h
    unfold scanQuoted at h
    split at h
    · cases h
    · next inner tail hbody =>
        dsimp only at h
        split at h
        · cases h
        · next value hvalue =>
            obtain ⟨rfl, rfl, rfl, rfl⟩ := Scan.found.inj h
            obtain rfl := quotedBody?_eq_some hbody
            have henclosed := (Escape.enclosed_iff hmark tail).2 ⟨hbody, value, hvalue⟩
            exact ⟨rfl, rfl, inner, value, rfl, henclosed, hvalue, rfl⟩
  · rintro ⟨rfl, rfl, inner, value, rfl, henclosed, hvalue, rfl⟩
    obtain ⟨hbody, -⟩ := (Escape.enclosed_iff hmark rest).1 henclosed
    simp [scanQuoted, hbody, hvalue]

theorem ne_backslash_of_quote {mark : Char} (h : mark ∈ ['\'', '"']) : mark ≠ '\\' := by
  rintro rfl
  simp at h

theorem spelled_of_scanQuoted {sk sk' body rest : List Char} {mark : Char}
    (hmark : mark ∈ ['\'', '"']) {lx : Lexeme} {m : Mode}
    (h : scanQuoted sk mark body = .found sk' lx m rest) : Spelled lx rest := by
  have hesc := ne_backslash_of_quote hmark
  obtain ⟨-, -, inner, value, -, henclosed, hvalue, rfl⟩ := (scanQuoted_eq_found_iff hesc).1 h
  exact .quoted hmark ((Escape.enclosed_iff hesc rest).1 henclosed).1 hvalue

theorem spelled_of_scanNumber {sk sk' sign cs rest : List Char} {lx : Lexeme} {m : Mode}
    (hsign : sign ∈ [[], ['+'], ['-']]) (hcs : sign = [] → cs.takeWhile Char.isDigit ≠ [])
    (h : scanNumber sk sign cs = .found sk' lx m rest) : Spelled lx rest := by
  have hsigned (hnil : cs.takeWhile Char.isDigit = []) : sign ≠ [] := fun hs => hcs hs hnil
  simp only [scanNumber] at h
  split at h
  · cases h
  · next hnot =>
      split at h
      · next htail =>
          obtain ⟨-, rfl, -, rfl⟩ := by simpa using h
          refine .number hsign ?_ (fun x hx => List.mem_takeWhile_imp hx)
            (endsRun_of_takeWhile_eq_nil htail)
          intro hnil
          obtain ⟨x, xs, hcons⟩ := List.exists_cons_of_ne_nil (hsigned hnil)
          exact hnot x xs hcons hnil
      · cases h

theorem eq_of_punctuation?_greater {c : Char} (h : punctuation? c = some .greater) : c = '>' := by
  unfold punctuation? at h
  repeat' split at h
  all_goals simp_all

theorem cases_of_scanItem {sk sk' cs rest : List Char} {c : Char} {lx : Lexeme} {m : Mode}
    (h : scanItem d sk c cs = .found sk' lx m rest) :
    lx = .plain .blockClose d.closing ∨ lx = .plain .blockOpen d.opening ∨
      lx = .plain .greater ['>'] ∨ Spelled lx rest := by
  unfold scanItem at h
  split at h
  · obtain ⟨-, rfl, -, -⟩ := by simpa using h
    exact Or.inl rfl
  split at h
  · obtain ⟨-, rfl, -, -⟩ := by simpa using h
    exact Or.inr (Or.inl rfl)
  refine Or.inr (Or.inr ?_)
  split at h
  · next kind hp =>
      obtain ⟨-, rfl, -, rfl⟩ := by simpa using h
      by_cases hkind : kind = .greater
      · subst hkind
        rw [eq_of_punctuation?_greater hp]
        exact Or.inl rfl
      · exact Or.inr (.punctuation hp hkind _)
  right
  split at h
  · next hstart =>
      obtain ⟨-, rfl, -, rfl⟩ := by simpa using h
      exact .name hstart (fun x hx => List.mem_takeWhile_imp hx) (endsRun_dropWhile _ _)
  split at h
  · next hmark => exact spelled_of_scanQuoted (by simpa using hmark) h
  split at h
  · next hdigit =>
      exact spelled_of_scanNumber (by decide) (fun _ => by simp [hdigit]) h
  split at h
  · next hsign => exact spelled_of_scanNumber (by simpa using hsign) (by simp) h
  · cases h

/-- What is scanned inside a block is a marker, a greater-than sign or a spelled lexeme. -/
theorem cases_of_scan_inside {cs sk rest : List Char} {lx : Lexeme} {m : Mode}
    (h : scan d .inside cs = .found sk lx m rest) :
    lx = .plain .blockClose d.closing ∨ lx = .plain .blockOpen d.opening ∨
      lx = .plain .greater ['>'] ∨ Spelled lx rest := by
  change scanInside d cs = _ at h
  unfold scanInside at h
  split at h
  · cases h
  · exact cases_of_scanItem h

theorem spelled_of_scan {cs sk rest : List Char} {lx : Lexeme} {m : Mode}
    (hkind : lx.kind ∉ [TokenKind.blockOpen, .blockClose, .greater])
    (h : scan d .inside cs = .found sk lx m rest) : Spelled lx rest := by
  rcases cases_of_scan_inside h with rfl | rfl | rfl | hspelled
  · exact absurd hkind (by simp [Lexeme.plain])
  · exact absurd hkind (by simp [Lexeme.plain])
  · exact absurd hkind (by simp [Lexeme.plain])
  · exact hspelled

/-- What is found inside a block is found after any blanks, and before any text in which a name goes
on only if it did before. -/
theorem scan_inside_again (hd : d.Neutral) {cs sk rest : List Char} {lx : Lexeme} {m : Mode}
    (h : scan d .inside cs = .found sk lx m rest)
    (hkind : lx.kind ∉ [TokenKind.blockOpen, .greater]) {sk' rest' : List Char}
    (hsk : ∀ c ∈ sk', isBlockBlank c = true)
    (hends : lx.kind ≠ .blockClose → EndsRun isNameChar rest → EndsRun isNameChar rest') :
    scan d .inside (sk' ++ (lx.text ++ rest')) = .found sk' lx m rest' := by
  obtain rfl := (finding_scan h).mode_eq
  rcases cases_of_scan_inside h with rfl | rfl | rfl | hspelled
  · exact scan_inside_closing hd.closingUnskipped hsk rest'
  · exact absurd hkind (by simp [Lexeme.plain])
  · exact absurd hkind (by simp [Lexeme.plain])
  · rw [hspelled.after_eq]
    exact scan_inside_of_spelled hd hsk (hspelled.of_endsRun (hends hspelled.kind_ne_blockClose))

end BlockTemplate
