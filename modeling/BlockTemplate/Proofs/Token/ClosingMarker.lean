import BlockTemplate.Proofs.Token.NeutralMarkers

/-!
# Where the closing marker is found

Inside a block the closing marker is looked for before anything else, but only at a character that
is no blank. A marker that starts with a blank is therefore never found: its first character is
skipped. Any other one is found wherever it stands, whatever its characters would be elsewhere.

Main statements: a closing marker that starts with a blank closes nothing (`Finds.ne_blockClose`);
where a closing marker stands directly after a token, it is found there exactly if it starts with no
blank (`closingMarker_found_iff`).
-/

namespace BlockTemplate

variable {d : Delimiters}

/-- What is scanned inside a block starts with no blank. -/
theorem head_of_scanInside {cs sk rest : List Char} {lx : Lexeme} {m : Mode}
    (h : scanInside d cs = .found sk lx m rest) :
    ∃ c text, lx.text = c :: text ∧ isBlockBlank c = false := by
  unfold scanInside at h
  split at h
  · cases h
  · next c tail hdrop =>
    obtain ⟨-, hcons, hne⟩ := scanItem_eq_found h
    obtain ⟨c', text, htext⟩ := List.exists_cons_of_ne_nil hne
    have hc : c = c' := by
      rw [htext, List.cons_append] at hcons
      exact (List.cons.inj hcons).1
    refine ⟨c', text, htext, ?_⟩
    have hhead := List.head_dropWhile_not isBlockBlank (l := cs) (by simp [hdrop])
    simpa [hdrop, hc] using hhead

/-- A closing marker is found only if its first character is no blank. -/
theorem closingUnskipped_of_scan {mode m : Mode} {cs sk rest : List Char} {lx : Lexeme}
    (h : scan d mode cs = .found sk lx m rest) (hkind : lx.kind = .blockClose) :
    d.ClosingUnskipped := by
  have hfinding := finding_scan h
  cases mode with
  | outside =>
    cases hfinding with
    | opening | raw => cases hkind
  | inside =>
    obtain ⟨c, text, htext, hblank⟩ := head_of_scanInside h
    rw [(hfinding.closing_text hkind).2] at htext
    simpa [Delimiters.ClosingUnskipped, htext] using hblank

namespace Scanner

/-- A closing marker that starts with a blank closes nothing. -/
theorem Finds.ne_blockClose {s s' : Scanner} {ts : List Token} (h : Finds d s ts s')
    (hd : ¬d.ClosingUnskipped) : ∀ t ∈ ts, t.kind ≠ .blockClose := by
  induction h with
  | nil s => simp
  | cons head _ ih =>
    obtain ⟨-, sk, lx, m, rest, hscan, rfl, -⟩ := next?_eq_token_iff.1 head
    intro t ht
    rcases List.mem_cons.1 ht with rfl | ht
    · intro hkind
      exact hd (closingUnskipped_of_scan hscan hkind)
    · exact ih t ht

/-- The token of a closing marker at an offset. -/
def closingToken (d : Delimiters) (offset : Nat) : Token :=
  ⟨.blockClose, String.ofList d.closing, ⟨offset, offset + Text.byteLength d.closing⟩⟩

/-- Whether a closing marker is found where it stands depends on its first character alone. -/
theorem next?_inside_iff (after : List Char) (offset : Nat) :
    (inside (d.closing ++ after) offset).next? d =
        (some (.ok (closingToken d offset)), outside after (closingToken d offset).span.stop) ↔
      d.ClosingUnskipped := by
  constructor
  · intro h
    obtain ⟨-, sk, lx, m, rest, hscan, htoken, -⟩ := next?_eq_token_iff.1 h
    exact closingUnskipped_of_scan hscan (congrArg Token.kind htoken).symm
  · intro hd
    have hscan : scan d .inside (d.closing ++ after) =
        .found [] (.plain .blockClose d.closing) .outside after := by
      simpa using scan_inside_closing hd (List.forall_mem_nil _) after
    exact next?_eq_token_iff.2 ⟨rfl, _, _, _, _, hscan, rfl, rfl⟩

end Scanner

open Scanner in
/-- At a place inside a block that a scan of a template comes to, the closing marker is the next
thing found exactly if it starts with no blank: at the byte where it stands, with its own length,
and the place after it is outside of blocks. A closing marker that starts with a blank is found
nowhere in any template. -/
theorem closingMarker_found_iff {m : Markers} {template : String} {ts : List Token} {s : Scanner}
    (hreached : Finds m.delimiters (start template.toList) ts s) (hinside : s.mode = .inside)
    {after : List Char} (hrest : s.rest = m.delimiters.closing ++ after) :
    (∃ before, template.toList = before ++ (m.delimiters.closing ++ after) ∧
        s.offset = Text.byteLength before) ∧
      (s.next? m.delimiters = (some (.ok (closingToken m.delimiters s.offset)),
          outside after (s.offset + Text.byteLength m.delimiters.closing)) ↔
        m.delimiters.ClosingUnskipped) ∧
      (¬m.delimiters.ClosingUnskipped → ∀ template' us s',
        Finds m.delimiters (start template') us s' → ∀ t ∈ us, t.kind ≠ .blockClose) := by
  refine ⟨?_, ?_, ?_⟩
  · obtain ⟨before, htemplate, hoffset⟩ := hreached.exists_used
    refine ⟨before, ?_, ?_⟩
    · rw [← hrest]
      exact htemplate
    · simpa [start] using hoffset
  · have hs : s = inside (m.delimiters.closing ++ after) s.offset := by
      obtain ⟨rest, offset, mode, stopped⟩ := s
      have hstopped := hreached.stopped_eq rfl
      simp_all
    have hnext := next?_inside_iff (d := m.delimiters) after s.offset
    rw [← hs] at hnext
    exact hnext
  · intro hd template' us s' hfinds
    exact hfinds.ne_blockClose hd

/-- A closing marker that begins like a name, directly after a quoted string, where two bytes make
one character before. -/
theorem closingMarker_found_after_string :
    let m : Markers := ⟨"<", "end"⟩
    let s := Scanner.inside "end.".toList 6
    Scanner.Finds m.delimiters (Scanner.start "é<'n'end.".toList)
        [⟨.rawText, "é", ⟨0, 2⟩⟩, ⟨.blockOpen, "<", ⟨2, 3⟩⟩, ⟨.string, "n", ⟨3, 6⟩⟩] s ∧
      m.delimiters.ClosingUnskipped ∧
      s.next? m.delimiters =
        (some (.ok ⟨.blockClose, "end", ⟨6, 9⟩⟩), Scanner.outside ".".toList 9) := by
  intro m s
  have hreached : Scanner.Finds m.delimiters (Scanner.start "é<'n'end.".toList)
      [⟨.rawText, "é", ⟨0, 2⟩⟩, ⟨.blockOpen, "<", ⟨2, 3⟩⟩, ⟨.string, "n", ⟨3, 6⟩⟩] s := by
    refine .cons (by cbv) (.cons (by cbv) (.cons (by cbv) (.nil _)))
  have hd : m.delimiters.ClosingUnskipped := by decide
  have htoken : Scanner.closingToken m.delimiters s.offset = ⟨.blockClose, "end", ⟨6, 9⟩⟩ := by
    decide
  have hstop : s.offset + Text.byteLength m.delimiters.closing = 9 := by decide
  obtain ⟨-, hnext, -⟩ := closingMarker_found_iff hreached rfl (show _ = _ ++ ".".toList by decide)
  rw [htoken, hstop] at hnext
  exact ⟨hreached, hd, hnext.2 hd⟩

/-- A line feed that closes blocks stands directly after a name, and is skipped as a blank: nothing
is found there. -/
theorem closingMarker_lineFeed_skipped :
    let m : Markers := ⟨"", "\n"⟩
    let s := Scanner.inside "\n".toList 2
    Scanner.Finds m.delimiters (Scanner.start "\x7ba\n".toList)
        [⟨.blockOpen, "\x7b", ⟨0, 1⟩⟩, ⟨.ident, "a", ⟨1, 2⟩⟩] s ∧
      m.delimiters.closing <+: s.rest ∧
      s.next? m.delimiters ≠
        (some (.ok ⟨.blockClose, "\n", ⟨2, 3⟩⟩), Scanner.outside [] 3) ∧
      tokenize m "\x7ba\n" = .ok [⟨.blockOpen, "\x7b", ⟨0, 1⟩⟩, ⟨.ident, "a", ⟨1, 2⟩⟩] := by
  intro m s
  refine ⟨.cons (by cbv) (.cons (by cbv) (.nil _)), by decide, ?_, by cbv⟩
  have hnone : (s.next? m.delimiters).1 = none := by cbv
  intro h
  rw [h] at hnone
  cases hnone

end BlockTemplate
