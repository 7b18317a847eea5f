import BlockTemplate.Proofs.Token.NeutralMarkers
import BlockTemplate.Proofs.Token.TokenStream

/-!
# What a lexical error says

Scanning fails inside a block only, at the first character behind the last token that is no blank,
and where no marker stands. The error spans the part of the template that is wrong and says what is
wrong with it.

## Implementation notes

`Misread` says for each error what its part is, and what the text behind it is as far as that
counts. It holds of nothing else that fails: where a scan comes to a misread part, it fails with
that error (`scan_eq_wrong_iff`), so `Misread` is all that there is to know of a lexical error.

An escape without a partner has no case. The backslashes of a quoted text are paired in the search
for the closing quote, and what is found between the quotes is paired in the same way again.

Main statement: `failsAt_of_scanItems`.
-/

namespace BlockTemplate

/-! ### Errors and the text they are about -/

/-- The characters that a token other than a marker starts with inside a block. -/
def startsLexeme (c : Char) : Bool :=
  c.isAlphanum || c ∈ ['_', '\'', '"', '+', '-', '|', ',', '(', ')', '?', '>']

/-- An error, the part of a text that it spans, and the text behind that part. -/
inductive Misread : LexicalError → List Char → List Char → Prop
  | unexpectedChar {c : Char} (visible : isBlockBlank c = false) (starts : startsLexeme c = false)
      (rest : List Char) : Misread (.unexpectedChar c) [c] rest
  | loneSign {c : Char} (sign : c ∈ ['+', '-']) {rest : List Char}
      (ends : EndsRun Char.isDigit rest) : Misread (.loneSign c) [c] rest
  | ambiguousNumber {sign digits tail rest : List Char} (signed : sign ∈ [[], ['+'], ['-']])
      (nonempty : digits ≠ []) (decimal : ∀ x ∈ digits, x.isDigit = true)
      (goesOn : tail ≠ []) (more : ∀ x ∈ tail, isNameChar x = true)
      (first : EndsRun Char.isDigit tail) (ends : EndsRun isNameChar rest) :
      Misread (.ambiguousNumber (String.ofList (sign ++ digits ++ tail))) (sign ++ digits ++ tail)
        rest
  | unterminatedString {mark : Char} (quote : mark ∈ ['\'', '"']) {body : List Char}
      (unclosed : .plain mark ∉ Escape.pieces body) : Misread .unterminatedString (mark :: body) []
  | unsupportedEscape {mark : Char} (quote : mark ∈ ['\'', '"']) {inner : List Char}
      (closed : .plain mark ∉ Escape.pieces inner ∧ .loose ∉ Escape.pieces inner) {c : Char}
      {before after : List Escape.Piece}
      (pieces_eq : Escape.pieces inner = before ++ .pair c :: after)
      (supported : ∀ p ∈ before, p.Supported) (unsupported : c ∉ Escape.partners)
      (rest : List Char) : Misread (.unsupportedEscape c) (mark :: (inner ++ [mark])) rest

variable {d : Delimiters} {e : LexicalError} {part rest : List Char}

theorem startsLexeme_eq_false_iff {c : Char} : startsLexeme c = false ↔
    punctuation? c = none ∧ isNameStart c = false ∧ c ∉ ['\'', '"'] ∧ c.isDigit = false ∧
      c ∉ ['+', '-'] := by
  constructor
  · intro h
    refine ⟨punctuation?_eq_none ?_, ?_⟩ <;>
      simp_all [startsLexeme, isNameStart, Char.isAlphanum]
  · rintro ⟨hpunctuation, hname, hquote, hdigit, hsign⟩
    have hmark : c ∉ ['|', ',', '(', ')', '?', '>'] := by
      intro hc
      simp only [List.mem_cons, List.not_mem_nil, or_false] at hc
      rcases hc with rfl | rfl | rfl | rfl | rfl | rfl <;> cases hpunctuation
    simp_all [startsLexeme, isNameStart, Char.isAlphanum]

/-- What is misread starts with a character that is no blank. -/
theorem Misread.exists_first (h : Misread e part rest) :
    ∃ c cs, part = c :: cs ∧ isBlockBlank c = false := by
  cases h with
  | @unexpectedChar c visible => exact ⟨c, [], rfl, visible⟩
  | @loneSign c sign => exact ⟨c, [], rfl, (isBlockBlank_of_mark (by grind)).1⟩
  | @ambiguousNumber sign digits tail _ signed nonempty decimal =>
      obtain ⟨c, cs, htext, hblank, -⟩ := Spelled.exists_first_number signed nonempty decimal
      exact ⟨c, cs ++ tail, by rw [htext, List.cons_append], hblank⟩
  | @unterminatedString mark quote | @unsupportedEscape mark quote =>
      exact ⟨mark, _, rfl, (isBlockBlank_of_mark (by grind)).1⟩

/-! ### Scans that fail -/

section

variable {skipped sk cs : List Char}

theorem misread_of_scanQuoted {mark : Char} (hmark : mark ∈ ['\'', '"']) {body : List Char}
    (h : scanQuoted skipped mark body = .wrong sk e part) :
    sk = skipped ∧ ∃ rest, mark :: body = part ++ rest ∧ Misread e part rest := by
  have hesc := ne_backslash_of_quote hmark
  unfold scanQuoted at h
  split at h
  · next hnone =>
      obtain ⟨rfl, rfl, rfl⟩ := Scan.wrong.inj h
      have hunclosed := (Escape.quotedBody?_eq_none_iff hesc).1 hnone
      exact ⟨rfl, [], (List.append_nil _).symm, .unterminatedString hmark hunclosed⟩
  · next inner rest hsome =>
      dsimp only at h
      split at h
      · next cause hcause =>
          obtain ⟨rfl, rfl, rfl⟩ := Scan.wrong.inj h
          obtain ⟨rfl, hclosed⟩ := (Escape.quotedBody?_eq_some_iff hesc).1 hsome
          obtain ⟨c, before, after, rfl, hc, hpieces, hbefore⟩ :=
            (Escape.translate_eq_error_iff hclosed.2).1 hcause
          exact ⟨rfl, rest, by simp, .unsupportedEscape hmark hclosed hpieces hbefore hc rest⟩
      · cases h

theorem misread_of_scanNumber {sign : List Char} (hsign : sign ∈ [[], ['+'], ['-']])
    (hdigit : sign = [] → cs.takeWhile Char.isDigit ≠ [])
    (h : scanNumber skipped sign cs = .wrong sk e part) :
    sk = skipped ∧ ∃ rest, sign ++ cs = part ++ rest ∧ Misread e part rest := by
  unfold scanNumber at h
  dsimp only at h
  split at h
  · next c more hdigits =>
      obtain ⟨rfl, rfl, rfl⟩ := Scan.wrong.inj h
      obtain ⟨hc, rfl⟩ : c ∈ ['+', '-'] ∧ more = [] := by
        simp at hsign
        rcases hsign with ⟨rfl, rfl⟩ | ⟨rfl, rfl⟩ <;> simp
      exact ⟨rfl, cs, rfl, .loneSign hc (endsRun_of_takeWhile_eq_nil hdigits)⟩
  · next hnot =>
      split at h
      · cases h
      · next htail =>
          obtain ⟨rfl, rfl, rfl⟩ := Scan.wrong.inj h
          have hdigits : cs.takeWhile Char.isDigit ≠ [] := by
            intro hnil
            obtain ⟨c, more, rfl⟩ := List.exists_cons_of_ne_nil fun hs => hdigit hs hnil
            exact hnot c more rfl hnil
          have hrest := endsRun_dropWhile isNameChar (cs.dropWhile Char.isDigit)
          refine ⟨rfl, (cs.dropWhile Char.isDigit).dropWhile isNameChar, by simp, ?_⟩
          apply Misread.ambiguousNumber hsign hdigits ?_ htail ?_ ?_ hrest
          · exact fun x hx => List.mem_takeWhile_imp hx
          · exact fun x hx => List.mem_takeWhile_imp hx
          · exact (endsRun_dropWhile Char.isDigit cs).takeWhile isNameChar

theorem clear_of_scanItem {c : Char} (h : scanItem d skipped c cs = .wrong sk e part) :
    d.Clear (c :: cs) := by
  constructor
  · intro hclosing
    rw [scanItem, if_pos (List.isPrefixOf_iff_prefix.2 hclosing)] at h
    cases h
  · intro hopening
    rw [scanItem, if_pos (List.isPrefixOf_iff_prefix.2 hopening)] at h
    split at h <;> cases h

theorem misread_of_scanItem {c : Char} (visible : isBlockBlank c = false)
    (h : scanItem d skipped c cs = .wrong sk e part) :
    sk = skipped ∧ ∃ rest, c :: cs = part ++ rest ∧ Misread e part rest := by
  have hclear := clear_of_scanItem h
  by_cases hmark : c ∈ ['\'', '"']
  · rw [scanItem_quote hclear hmark] at h
    exact misread_of_scanQuoted hmark h
  by_cases hdigit : c.isDigit = true
  · rw [scanItem_digit hclear hdigit] at h
    exact misread_of_scanNumber (by simp) (fun _ => by simp [hdigit]) h
  by_cases hsign : c ∈ ['+', '-']
  · rw [scanItem_sign hclear hsign] at h
    exact misread_of_scanNumber (by simpa using hsign) (by simp) h
  have hdigit' : c.isDigit = false := by simpa using hdigit
  simp only [List.mem_cons, List.not_mem_nil, or_false, not_or] at hmark hsign
  simp only [scanItem, hclear.isPrefixOf_eq_false, Bool.false_eq_true, if_false, hdigit'] at h
  cases hpunctuation : punctuation? c with
  | some kind => simp [hpunctuation] at h
  | none =>
      cases hname : isNameStart c with
      | true => simp [hpunctuation, hname] at h
      | false =>
          obtain ⟨rfl, rfl, rfl⟩ : skipped = sk ∧ .unexpectedChar c = e ∧ [c] = part := by
            simpa [hpunctuation, hname, hmark, hsign] using h
          have hstarts : startsLexeme c = false := by
            apply startsLexeme_eq_false_iff.2
            simp [hpunctuation, hname, hmark, hdigit', hsign]
          exact ⟨rfl, cs, rfl, .unexpectedChar visible hstarts cs⟩

/-- A number that goes on like a name is ambiguous. -/
theorem scanNumber_of_tail {sign digits tail : List Char} (hdigits : digits ≠ [])
    (decimal : ∀ x ∈ digits, x.isDigit = true) (htail : tail ≠ [])
    (more : ∀ x ∈ tail, isNameChar x = true) (first : EndsRun Char.isDigit tail)
    (ends : EndsRun isNameChar rest) :
    scanNumber sk sign (digits ++ (tail ++ rest)) =
      .wrong sk (.ambiguousNumber (String.ofList (sign ++ digits ++ tail)))
        (sign ++ digits ++ tail) := by
  have hends : EndsRun Char.isDigit (tail ++ rest) := Spelled.endsRun_append first htail rest
  simp only [scanNumber, takeWhile_append_of_endsRun decimal hends,
    dropWhile_append_of_endsRun decimal hends, takeWhile_append_of_endsRun more ends]
  split
  · exact absurd rfl hdigits
  · rw [if_neg htail]

/-- Where no marker stands, what is misread is what scanning fails at. -/
theorem Misread.scanItem_eq (h : Misread e part rest) (hclear : d.Clear (part ++ rest)) {c : Char}
    (htext : part ++ rest = c :: cs) : scanItem d sk c cs = .wrong sk e part := by
  rw [htext] at hclear
  cases h with
  | unexpectedChar visible starts =>
      obtain ⟨rfl, rfl⟩ := List.cons.inj htext
      obtain ⟨hpunctuation, hname, hmark, hdigit, hsign⟩ := startsLexeme_eq_false_iff.1 starts
      simp only [scanItem, hclear.isPrefixOf_eq_false, Bool.false_eq_true, if_false, hpunctuation]
      simp_all
  | loneSign sign ends =>
      obtain ⟨rfl, rfl⟩ := List.cons.inj htext
      rw [scanItem_sign hclear sign]
      simp [scanNumber, takeWhile_eq_nil_of_endsRun ends]
  | @ambiguousNumber sign digits tail _ signed nonempty decimal goesOn more first ends =>
      have hne : digits ++ (tail ++ rest) ≠ [] := by simp [nonempty]
      have hdigit : ∀ x ∈ (digits ++ (tail ++ rest)).head?, x.isDigit = true := by
        intro x hx
        rw [List.head?_append_of_ne_nil _ nonempty] at hx
        exact decimal x (List.mem_of_mem_head? hx)
      have hwhole : sign ++ (digits ++ (tail ++ rest)) = c :: cs := by
        simpa using htext
      rw [scanItem_number hclear signed hdigit hne hwhole]
      exact scanNumber_of_tail nonempty decimal goesOn more first ends
  | @unterminatedString mark quote body unclosed =>
      obtain ⟨rfl, rfl⟩ : mark = c ∧ body = cs := by simpa using htext
      have hnone := (Escape.quotedBody?_eq_none_iff (ne_backslash_of_quote quote)).2 unclosed
      rw [scanItem_quote hclear quote, scanQuoted, hnone]
  | @unsupportedEscape mark quote inner closed c' before after pieces_eq supported unsupported =>
      obtain ⟨rfl, rfl⟩ : mark = c ∧ inner ++ mark :: rest = cs := by simpa using htext
      have hsome : quotedBody? mark (inner ++ mark :: rest) = some (inner, rest) :=
        (Escape.quotedBody?_eq_some_iff (ne_backslash_of_quote quote)).2 ⟨rfl, closed⟩
      have hcause := (Escape.translate_eq_error_iff closed.2).2
        ⟨c', before, after, rfl, unsupported, pieces_eq, supported⟩
      rw [scanItem_quote hclear quote, scanQuoted, hsome]
      simp [hcause]

/-- Scanning fails inside a block, at what is misread after some blanks and where no marker
stands. -/
theorem scan_eq_wrong_iff {mode : Mode} : scan d mode cs = .wrong sk e part ↔
    mode = .inside ∧ (∀ c ∈ sk, isBlockBlank c = true) ∧ ∃ rest, cs = sk ++ (part ++ rest) ∧
      d.Clear (part ++ rest) ∧ Misread e part rest := by
  constructor
  · intro h
    cases mode with
    | outside =>
        change scanOutside d cs = _ at h
        unfold scanOutside at h
        split at h
        · cases h
        · dsimp only at h
          split at h <;> cases h
    | inside =>
        change scanInside d cs = _ at h
        unfold scanInside at h
        split at h
        · cases h
        · next c tail htail =>
            have hvisible : isBlockBlank c = false :=
              endsRun_dropWhile isBlockBlank cs c (by rw [htail, List.head?_cons]; rfl)
            have hclear := clear_of_scanItem h
            obtain ⟨rfl, rest, htext, hmisread⟩ := misread_of_scanItem hvisible h
            rw [htext] at hclear
            refine ⟨rfl, fun x hx => List.mem_takeWhile_imp hx, rest, ?_, hclear, hmisread⟩
            rw [← htext, ← htail, List.takeWhile_append_dropWhile]
  · rintro ⟨rfl, hblank, rest, rfl, hclear, hmisread⟩
    obtain ⟨c, more, rfl, hvisible⟩ := hmisread.exists_first
    rw [List.cons_append, scan_inside_eq hblank hvisible]
    exact hmisread.scanItem_eq hclear rfl

end

/-! ### Runs that fail -/

namespace Scanner

/-- The next item is an error exactly when scanning fails. -/
theorem next?_eq_error_iff {s : Scanner} {e : Located LexicalError} :
    (s.next? d).1 = some (.error e) ↔
      s.stopped = false ∧ ∃ sk part, scan d s.mode s.rest = .wrong sk e.error part ∧
        e.span = ⟨s.offset + Text.byteLength sk,
          s.offset + Text.byteLength sk + Text.byteLength part⟩ := by
  unfold next?
  cases s.stopped with
  | true => simp
  | false =>
      cases hscan : scan d s.mode s.rest with
      | finished | found => simp
      | wrong sk cause part =>
          constructor
          · intro h
            obtain rfl := Except.error.inj (Option.some.inj h)
            exact ⟨rfl, sk, part, rfl, rfl⟩
          · rintro ⟨-, sk', part', hwrong, hspan⟩
            obtain ⟨rfl, hcause, rfl⟩ := Scan.wrong.inj hwrong
            obtain ⟨cause', span⟩ := e
            obtain rfl := hcause
            obtain rfl := hspan
            rfl

/-- The items of a run end with an error exactly when the tokens before it are found, and the error
behind them. -/
theorem run_eq_error_iff {s : Scanner} {ts : List Token} {e : Located LexicalError}
    {later : List Item} : (s.run d).1 = ts.map .ok ++ .error e :: later ↔
      later = [] ∧ ∃ s', Finds d s ts s' ∧ (s'.next? d).1 = some (.error e) := by
  constructor
  · intro h
    induction ts generalizing s with
    | nil =>
        cases hnext : s.next? d with
        | mk item s₁ =>
            rcases item with _ | e' | t
            · rw [run_of_none (by rw [hnext])] at h
              cases h
            · rw [run_of_error (by rw [hnext])] at h
              obtain ⟨rfl, rfl⟩ : e' = e ∧ later = [] := by simpa [eq_comm] using h
              exact ⟨rfl, s, .nil s, by rw [hnext]⟩
            · rw [run_of_next? hnext] at h
              cases h
    | cons t ts ih =>
        cases hnext : s.next? d with
        | mk item s₁ =>
            rcases item with _ | e' | t'
            · rw [run_of_none (by rw [hnext])] at h
              cases h
            · rw [run_of_error (by rw [hnext])] at h
              cases h
            · rw [run_of_next? hnext] at h
              obtain ⟨hhead, htail⟩ := List.cons.inj h
              obtain rfl := Except.ok.inj hhead
              obtain ⟨rfl, s', hfinds, herror⟩ := ih htail
              exact ⟨rfl, s', .cons hnext hfinds, herror⟩
  · rintro ⟨rfl, s', hfinds, herror⟩
    induction hfinds with
    | nil s => exact run_of_error herror
    | cons head _ ih =>
        rw [run_of_next? head, ih herror]
        rfl

/-- A run comes to the end of its last token. -/
theorem Finds.stop_eq_offset {s s' : Scanner} {ts : List Token} (h : Finds d s ts s') :
    ∀ t ∈ ts.getLast?, t.span.stop = s'.offset := by
  induction h with
  | nil => simp
  | @cons _ _ _ t ts head tail ih =>
      obtain ⟨-, sk, lx, m, rest, -, rfl, rfl⟩ := next?_eq_token_iff.1 head
      intro u hu
      cases tail with
      | nil =>
          obtain rfl : tokenOf _ sk lx = u := by simpa using hu
          rfl
      | cons =>
          rw [List.getLast?_cons_cons] at hu
          exact ih u hu

end Scanner

/-- Behind some tokens that leave a block open, scanning fails at a part of a text. -/
structure FailsAt (d : Delimiters) (text : List Char) (tokens : List Token)
    (e : Located LexicalError) (before skipped part after : List Char) : Prop where
  text_eq : text = before ++ (skipped ++ (part ++ after))
  inside : EndsInside tokens
  last : ∀ t ∈ tokens.getLast?, t.span.stop = Text.byteLength before
  blank : ∀ c ∈ skipped, isBlockBlank c = true
  span : e.span = ⟨Text.byteLength (before ++ skipped),
    Text.byteLength (before ++ skipped) + Text.byteLength part⟩
  clear : d.Clear (part ++ after)
  misread : Misread e.error part after

/-- A lexical error is the last item, and it says what is wrong with the part of the template that
it spans. -/
theorem failsAt_of_scanItems {m : Markers} {template : String} {tokens : List Token}
    {e : Located LexicalError} {later : List Scanner.Item}
    (h : scanItems m template = tokens.map .ok ++ .error e :: later) :
    later = [] ∧ e.error ≠ .interruptedEscape ∧ ∃ before skipped part after,
      FailsAt m.delimiters template.toList tokens e before skipped part after := by
  obtain ⟨rfl, s, hfinds, herror⟩ := Scanner.run_eq_error_iff.1 h
  obtain ⟨-, skipped, part, hscan, hspan⟩ := Scanner.next?_eq_error_iff.1 herror
  obtain ⟨hinside, hblank, after, hrest, hclear, hmisread⟩ := scan_eq_wrong_iff.1 hscan
  obtain ⟨before, htext, hoffset⟩ := hfinds.exists_used
  have hbefore : s.offset = Text.byteLength before := by
    rw [hoffset]
    exact Nat.zero_add _
  refine ⟨rfl, ?_, before, skipped, part, after, ?_⟩
  · intro hinterrupted
    rw [hinterrupted] at hmisread
    cases hmisread
  · constructor
    case text_eq =>
      rw [← hrest]
      exact htext
    case inside =>
      rw [endsInside_iff, ← hinside]
      exact hfinds.mode_eq.symm
    case last =>
      rw [← hbefore]
      exact hfinds.stop_eq_offset
    case blank => exact hblank
    case span => rw [hspan, hbefore, Text.byteLength_append]
    case clear => exact hclear
    case misread => exact hmisread

/-- A quote behind a backslash closes nothing, and a character of two bytes has no meaning there. -/
theorem failsAt_unsupported_escape :
    let template := "é \x7b a | 'it\\'s \\é' \x7d"
    let tokens : List Token := [⟨.rawText, "é ", ⟨0, 3⟩⟩, ⟨.blockOpen, "\x7b", ⟨3, 4⟩⟩,
      ⟨.ident, "a", ⟨5, 6⟩⟩, ⟨.filter, "|", ⟨7, 8⟩⟩]
    let e : Located LexicalError := ⟨.unsupportedEscape 'é', ⟨9, 20⟩⟩
    scanItems .standard template = tokens.map .ok ++ [.error e] ∧
      ∃ before skipped part after,
        FailsAt Markers.standard.delimiters template.toList tokens e before skipped part after := by
  intro template tokens e
  have hitems : scanItems .standard template = tokens.map .ok ++ [.error e] := by cbv
  obtain ⟨-, -, hfails⟩ := failsAt_of_scanItems hitems
  exact ⟨hitems, hfails⟩

end BlockTemplate
