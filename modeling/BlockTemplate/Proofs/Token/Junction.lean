import BlockTemplate.Proofs.Token.NeutralMarkers

/-!
# Scanning where two texts meet

Text that is added at the end of a template changes none of the scans that leave something of the
template, nor the scan of a closing marker. Only raw text at the end goes on into the added text,
and an opening marker may come to stand across the junction.

## Implementation notes

Where a place stands in a template matters to the spans of its tokens alone: moving the place moves
the spans (`Scanner.tokens_shift`).
-/

namespace BlockTemplate

/-! ### Spans further on -/

/-- The span `k` bytes further on. -/
def Span.shift (k : Nat) (s : Span) : Span := ⟨s.start + k, s.stop + k⟩

/-- The same failure `k` bytes further on. -/
def Located.shift {ε : Type} (k : Nat) (e : Located ε) : Located ε := ⟨e.error, e.span.shift k⟩

/-- The same token `k` bytes further on. -/
def Token.shift (k : Nat) (t : Token) : Token := { t with span := t.span.shift k }

namespace Scanner

/-- The same text `k` bytes further on. -/
def shift (k : Nat) (s : Scanner) : Scanner := { s with offset := s.offset + k }

variable {d : Delimiters}

theorem next?_shift (d : Delimiters) (k : Nat) (s : Scanner) :
    (s.shift k).next? d =
      ((s.next? d).1.map fun item => (item.mapError (Located.shift k)).map (Token.shift k),
        (s.next? d).2.shift k) := by
  have hmove (a b : Nat) : a + k + b = a + b + k := Nat.add_right_comm a k b
  unfold next?
  cases hs : s.stopped with
  | true => simp [shift, hs]
  | false =>
      simp only [shift, hs]
      cases scan d s.mode s.rest <;>
        simp [Except.map, Except.mapError, Located.shift, Token.shift, Span.shift, hmove]

theorem Finds.shift {s s' : Scanner} {ts : List Token} (h : Finds d s ts s') (k : Nat) :
    Finds d (s.shift k) (ts.map (Token.shift k)) (s'.shift k) := by
  induction h with
  | nil s => exact .nil _
  | cons head _ ih =>
      refine .cons ?_ ih
      rw [next?_shift, head]
      rfl

/-- Tokens and errors move with the place where scanning starts. -/
theorem tokens_shift (d : Delimiters) (k : Nat) (s : Scanner) :
    (s.shift k).tokens d =
      ((s.tokens d).mapError (Located.shift k)).map (List.map (Token.shift k)) := by
  obtain ⟨ts, s', hfinds, hend⟩ := exists_finds d s
  have hnext := congrArg Prod.fst (next?_shift d k s')
  rw [hfinds.tokens_eq, (hfinds.shift k).tokens_eq]
  rcases hend with hnone | ⟨e, herror⟩
  · rw [hnone] at hnext
    rw [tokens_of_none hnone, tokens_of_none hnext]
    simp [Except.map, Except.mapError]
  · rw [herror] at hnext
    rw [tokens_of_error herror, tokens_of_error hnext]
    rfl

end Scanner

/-! ### Raw text -/

/-- The token of raw text that starts at an offset. Empty text has none. -/
def rawTokens (offset : Nat) (text : List Char) : List Token :=
  if text = [] then []
  else [⟨.rawText, String.ofList text, ⟨offset, offset + Text.byteLength text⟩⟩]

theorem scan_outside_raw_iff {d : Delimiters} {cs text rest : List Char} :
    scan d .outside cs = .found [] (.plain .rawText text) .outside rest ↔
      text ≠ [] ∧ Text.breakOn d.opening cs = (text, rest) := by
  change scanOutside d cs = _ ↔ _
  constructor
  · intro h
    unfold scanOutside at h
    split at h
    · cases h
    · dsimp only at h
      split at h
      · simp [Lexeme.plain] at h
      · next hraw =>
          obtain ⟨rfl, rfl⟩ := by simpa [Lexeme.plain] using h
          exact ⟨hraw, rfl⟩
  · rintro ⟨htext, hbreak⟩
    have hcs : cs ≠ [] := by
      rintro rfl
      exact htext (congrArg Prod.fst hbreak).symm
    simp [scanOutside, hcs, hbreak, htext]

/-- What stands behind the first occurrence of a part does not matter to where it is found. -/
theorem Text.breakOn_of_breakOn {part text more : List Char}
    (h : breakOn part (text ++ (part ++ more)) = (text, part ++ more)) (hpart : part ≠ [])
    (more' : List Char) :
    breakOn part (text ++ (part ++ more')) = (text, part ++ more') := by
  induction text with
  | nil =>
    obtain ⟨c, cs, rfl⟩ := List.exists_cons_of_ne_nil hpart
    have hstarts : (c :: cs).isPrefixOf (c :: (cs ++ more')) = true :=
      List.isPrefixOf_iff_prefix.2 ⟨more', rfl⟩
    rw [List.nil_append, List.cons_append, breakOn, if_pos hstarts]
  | cons c text ih =>
    rw [List.cons_append, breakOn] at h
    split at h
    · cases h
    · next hnot =>
      obtain ⟨hbefore, hbehind⟩ := Prod.mk.inj h
      have hlater : ¬part.isPrefixOf (c :: (text ++ (part ++ more'))) = true := by
        -- an occurrence here would end before the first one does
        rw [List.isPrefixOf_iff_prefix] at hnot ⊢
        intro hstarts
        apply hnot
        have hlong : c :: text ++ part <+: c :: (text ++ (part ++ more')) := ⟨more', by simp⟩
        have hshort : part <+: c :: text ++ part :=
          List.prefix_of_prefix_length_le hstarts hlong (by simp; omega)
        exact hshort.trans ⟨more, by simp⟩
      have hrest := ih (Prod.ext (List.cons.inj hbefore).2 hbehind)
      rw [List.cons_append, breakOn, if_neg hlater, hrest]

/-- What is found outside of blocks is found before any text, raw text before any opening marker. -/
theorem scan_outside_again {d : Delimiters} {cs sk rest rest' : List Char} {lx : Lexeme} {m : Mode}
    (h : scan d .outside cs = .found sk lx m rest)
    (hraw : lx.kind = .rawText → d.opening <+: rest ∧ d.opening <+: rest') :
    scan d .outside (sk ++ (lx.text ++ rest')) = .found sk lx m rest' := by
  obtain ⟨htext, -⟩ := scan_eq_found h
  cases finding_scan h with
  | opening => exact (scan_outside_opening (List.prefix_append _ _)).trans (by simp [Lexeme.plain])
  | raw =>
      obtain ⟨⟨more, rfl⟩, more', rfl⟩ := hraw rfl
      obtain ⟨hne, hbreak⟩ := scan_outside_raw_iff.1 h
      rw [htext] at hbreak
      exact scan_outside_raw_iff.2 ⟨hne, Text.breakOn_of_breakOn hbreak d.opening_ne_nil more'⟩

/-- Outside of blocks the text before the next opening marker is scanned first. -/
theorem Scanner.tokens_outside (d : Delimiters) (cs : List Char) (offset : Nat) :
    (outside cs offset).tokens d =
      ((outside (Text.breakOn d.opening cs).2
        (offset + Text.byteLength (Text.breakOn d.opening cs).1)).tokens d).map
          (rawTokens offset (Text.breakOn d.opening cs).1 ++ ·) := by
  by_cases hraw : (Text.breakOn d.opening cs).1 = []
  · have hrest : (Text.breakOn d.opening cs).2 = cs := by
      have htext := Text.breakOn_append d.opening cs
      rwa [hraw, List.nil_append] at htext
    rw [hraw, hrest, rawTokens, if_pos rfl]
    change _ = Except.map id _
    rw [Except.map_id]
    rfl
  · have hscan : scan d .outside cs = .found [] (.plain .rawText (Text.breakOn d.opening cs).1)
        .outside (Text.breakOn d.opening cs).2 := scan_outside_raw_iff.2 ⟨hraw, rfl⟩
    rw [tokens_of_next? (next?_eq_token_iff.2 ⟨rfl, _, _, _, _, hscan, rfl, rfl⟩), rawTokens,
      if_neg hraw]
    simp [tokenOf, pass, Lexeme.plain]

/-! ### The junction -/

namespace Text

/-- A part that begins in one text and ends in the text after it. -/
def Straddles (part left right : List Char) : Prop :=
  ∃ a b, part = a ++ b ∧ a ≠ [] ∧ b ≠ [] ∧ a <:+ left ∧ b <+: right

variable {part cs left right : List Char}

theorem straddles_iff : Straddles part left right ↔
    ∃ i < part.length, 0 < i ∧ part.take i <:+ left ∧ part.drop i <+: right := by
  constructor
  · rintro ⟨a, b, rfl, ha, hb, hleft, hright⟩
    have hpos := List.length_pos_iff.2 hb
    refine ⟨a.length, ?_, List.length_pos_iff.2 ha, ?_, ?_⟩
    · rw [List.length_append]
      omega
    · rwa [List.take_left]
    · rwa [List.drop_left]
  · rintro ⟨i, hlt, hpos, hleft, hright⟩
    refine ⟨part.take i, part.drop i, (List.take_append_drop i part).symm, ?_, ?_, hleft, hright⟩
    · rw [← List.length_pos_iff, List.length_take]
      omega
    · rw [← List.length_pos_iff, List.length_drop]
      omega

instance (part left right : List Char) : Decidable (Straddles part left right) :=
  decidable_of_iff _ straddles_iff.symm

/-- A single character lies on one side. -/
theorem not_straddles_of_length_eq_one (h : part.length = 1) : ¬Straddles part left right := by
  rintro ⟨a, b, rfl, ha, hb, -, -⟩
  have ha := List.length_pos_iff.2 ha
  have hb := List.length_pos_iff.2 hb
  rw [List.length_append] at h
  omega

theorem Straddles.of_suffix (h : Straddles part cs right) (hcs : cs <:+ left) :
    Straddles part left right := by
  obtain ⟨a, b, hpart, ha, hb, hsuffix, hprefix⟩ := h
  exact ⟨a, b, hpart, ha, hb, hsuffix.trans hcs, hprefix⟩

theorem prefix_or_straddles (hleft : left ≠ []) (h : part <+: left ++ right) :
    part <+: left ∨ Straddles part left right := by
  obtain ⟨rest, h⟩ := h
  obtain ⟨more, hmore, -⟩ | ⟨b, hpart, hright⟩ := List.append_eq_append_iff.1 h
  · exact Or.inl ⟨more, hmore.symm⟩
  · by_cases hb : b = []
    · exact Or.inl ⟨[], by simp [hpart, hb]⟩
    · exact Or.inr ⟨left, b, hpart, hleft, hb, List.suffix_rfl, rest, hright.symm⟩

theorem breakOn_rest_eq_nil (h : ¬part <:+: cs) : (breakOn part cs).2 = [] := by
  rcases breakOn_rest part cs with hnil | hpart
  · exact hnil
  · have hrest : (breakOn part cs).2 <:+ cs := ⟨(breakOn part cs).1, breakOn_append part cs⟩
    exact absurd (hpart.isInfix.trans hrest.isInfix) h

/-- A part that occurs in a text is found where it was when more text is added. A part that does
not is looked for in the added text. -/
theorem breakOn_append_of_not_straddles (h : ¬Straddles part left right) :
    breakOn part (left ++ right) =
      if (breakOn part left).2 = [] then (left ++ (breakOn part right).1, (breakOn part right).2)
      else ((breakOn part left).1, (breakOn part left).2 ++ right) := by
  induction left with
  | nil => simp [breakOn]
  | cons c left ih =>
      have hrest : ¬Straddles part left right := by
        intro hs
        exact h (hs.of_suffix (List.suffix_cons c left))
      rw [List.cons_append, breakOn, breakOn]
      by_cases hpart : part <+: c :: left
      · have hlonger : part <+: c :: (left ++ right) := hpart.trans (List.prefix_append _ _)
        rw [if_pos (List.isPrefixOf_iff_prefix.2 hpart),
          if_pos (List.isPrefixOf_iff_prefix.2 hlonger)]
        simp
      · have hlonger : ¬part <+: c :: (left ++ right) := by
          intro hp
          exact (prefix_or_straddles (List.cons_ne_nil c left) hp).elim hpart h
        rw [if_neg (fun hp => hpart (List.isPrefixOf_iff_prefix.1 hp)),
          if_neg (fun hp => hlonger (List.isPrefixOf_iff_prefix.1 hp)), ih hrest]
        split <;> rfl

end Text

variable {d : Delimiters}

/-- A scan that leaves something, or ends a block, does not look into the text that is added. -/
theorem scan_append (hd : d.Neutral) {mode m : Mode} {cs sk rest more : List Char} {lx : Lexeme}
    (h : scan d mode cs = .found sk lx m rest)
    (hkind : mode = .inside → lx.kind ∉ [TokenKind.blockOpen, .greater])
    (hrest : rest ≠ [] ∨ lx.kind = .blockClose) :
    scan d mode (cs ++ more) = .found sk lx m (rest ++ more) := by
  obtain ⟨htext, -⟩ := scan_eq_found h
  rw [htext, List.append_assoc, List.append_assoc]
  cases mode with
  | outside =>
      apply scan_outside_again h
      intro hraw
      cases finding_scan h with
      | opening => cases hraw
      | raw _ ends =>
          have hopening : d.opening <+: rest := by
            apply ends.resolve_left
            apply hrest.resolve_right
            simp [hraw]
          exact ⟨hopening, hopening.trans (List.prefix_append rest more)⟩
  | inside =>
      apply scan_inside_again hd h (hkind rfl)
      · exact fun c hc => ((finding_scan h).blank c hc).1
      · intro hclose hends
        exact Spelled.endsRun_append hends (hrest.resolve_right hclose) more

namespace Scanner

/-- A place with more text at the end. -/
def extend (s : Scanner) (more : List Char) : Scanner := { s with rest := s.rest ++ more }

theorem next?_extend (hd : d.Neutral) {s s' : Scanner} {t : Token} {more : List Char}
    (h : s.next? d = (some (.ok t), s'))
    (hkind : s.mode = .inside → t.kind ∉ [TokenKind.blockOpen, .greater])
    (hrest : s'.rest ≠ [] ∨ t.kind = .blockClose) :
    (s.extend more).next? d = (some (.ok t), s'.extend more) := by
  obtain ⟨hstopped, sk, lx, m, rest, hscan, rfl, rfl⟩ := next?_eq_token_iff.1 h
  exact next?_eq_token_iff.2
    ⟨hstopped, sk, lx, m, rest ++ more, scan_append hd hscan hkind hrest, rfl, rfl⟩

end Scanner

end BlockTemplate
