import BlockTemplate.Proofs.Token.ScannerRun

/-!
# The token stream accounts for the whole template

Every byte of a template lies in a token or in a blank inside a block. A token lies on a part of
the template that its value is read from, and raw text is what stands outside blocks.

## Implementation notes

Each token of a run is what one scan found at a known place (`Scanner.Finds.exists_finding`), so
facts about single tokens need no induction. Only the bytes between tokens do
(`Scanner.Finds.gap`).

Main statement: `accountsFor_of_tokenize`.
-/

namespace BlockTemplate

/-- The last marker among some tokens is an opening one. -/
def EndsInside (ts : List Token) : Prop :=
  (ts.filter fun t => t.kind = .blockOpen ∨ t.kind = .blockClose).getLast?.map (·.kind) =
    some .blockOpen

instance (ts : List Token) : Decidable (EndsInside ts) :=
  inferInstanceAs (Decidable (_ = _))

/-- What a token stream says about the template it was scanned from. -/
structure AccountsFor (d : Delimiters) (text : List Char) (tokens : List Token) : Prop where
  /-- A token spans whole characters of the text, at least one. -/
  spans : ∀ t ∈ tokens, ∃ before part after, text = before ++ (part ++ after) ∧ part ≠ [] ∧
    t.span = ⟨Text.byteLength before, Text.byteLength before + Text.byteLength part⟩
  ordered : tokens.Pairwise fun a b => a.span.stop ≤ b.span.start
  /-- A byte that no token covers belongs to a blank inside a block. -/
  gaps : ∀ i < Text.byteLength text, (∀ t ∈ tokens, ¬(t.span.start ≤ i ∧ i < t.span.stop)) →
    ∃ before c after, text = before ++ c :: after ∧ Text.byteLength before ≤ i ∧
      i < Text.byteLength before + c.utf8Size ∧ isBlockBlank c = true ∧
      EndsInside (tokens.filter fun t => t.span.stop ≤ i)
  verbatim : ∀ t ∈ tokens, t.kind ≠ .string → t.value.toList = t.span.slice text
  /-- A string stands between two equal quotes; its value is what is between them, translated. -/
  quoted : ∀ t ∈ tokens, t.kind = .string → ∃ mark inner, (mark = '\'' ∨ mark = '"') ∧
    t.span.slice text = mark :: (inner ++ [mark]) ∧ Escape.translate inner = .ok t.value.toList
  /-- Raw text stands outside of blocks, holds no opening marker, and goes on to the next one or
  to the end. -/
  raw : ∀ before t after, tokens = before ++ t :: after → t.kind = .rawText →
    ¬EndsInside before ∧ ¬d.opening <:+: t.value.toList ∧
      (after = [] ∧ t.span.stop = Text.byteLength text ∨
        ∃ u more, after = u :: more ∧ u.kind = .blockOpen ∧ u.span.start = t.span.stop)
  /-- Outside of blocks stand raw text and opening markers only. -/
  outside : ∀ before t after, tokens = before ++ t :: after → ¬EndsInside before →
    t.kind = .rawText ∨ t.kind = .blockOpen

theorem afterAll_eq_inside_iff (m : Mode) (ts : List Token) :
    m.afterAll ts = .inside ↔
      (((ts.filter fun t => t.kind = .blockOpen ∨ t.kind = .blockClose).getLast?.map (·.kind)).elim
        (m = .inside) (· = .blockOpen)) := by
  induction ts generalizing m with
  | nil => rfl
  | cons t ts ih =>
      change (m.after t.kind).afterAll ts = .inside ↔ _
      rw [ih]
      by_cases hmarker : t.kind = .blockOpen ∨ t.kind = .blockClose
      · rw [List.filter_cons_of_pos (by simpa using hmarker), List.getLast?_cons]
        cases (ts.filter fun t => t.kind = .blockOpen ∨ t.kind = .blockClose).getLast? with
        | none => rcases hmarker with hk | hk <;> simp [Mode.after, hk]
        | some u => simp
      · have hafter : m.after t.kind = m := by
          cases hk : t.kind <;> simp_all [Mode.after]
        rw [List.filter_cons_of_neg (by simpa using hmarker), hafter]

theorem endsInside_iff (ts : List Token) :
    EndsInside ts ↔ Mode.afterAll .outside ts = .inside := by
  rw [afterAll_eq_inside_iff, EndsInside]
  cases ((ts.filter fun t => t.kind = .blockOpen ∨ t.kind = .blockClose).getLast?.map (·.kind)) <;>
    simp

namespace Text

/-- Every byte of a text belongs to one of its characters. -/
theorem exists_char_of_lt {i : Nat} {cs : List Char} (h : i < byteLength cs) :
    ∃ before c after, cs = before ++ c :: after ∧ byteLength before ≤ i ∧
      i < byteLength before + c.utf8Size := by
  induction cs generalizing i with
  | nil => simp at h
  | cons c cs ih =>
      by_cases hi : i < c.utf8Size
      · exact ⟨[], c, cs, rfl, by simp, by simpa using hi⟩
      · have hrest : i - c.utf8Size < byteLength cs := by
          rw [byteLength_cons] at h
          omega
        obtain ⟨before, e, after, rfl, hle, hlt⟩ := ih hrest
        refine ⟨c :: before, e, after, rfl, ?_, ?_⟩
        · rw [byteLength_cons]
          omega
        · rw [byteLength_cons]
          omega

/-- Of two texts that one starts with, the one of fewer bytes is the start of the other. -/
theorem prefix_of_byteLength_le {xs ys text : List Char} (hxs : xs <+: text)
    (hys : ys <+: text) (h : byteLength xs ≤ byteLength ys) : xs <+: ys := by
  rcases List.prefix_or_prefix_of_prefix hxs hys with hprefix | ⟨more, rfl⟩
  · exact hprefix
  · have hmore : more = [] := by
      by_contra hne
      have hpos := byteLength_pos hne
      rw [byteLength_append] at h
      omega
    rw [hmore, List.append_nil]

end Text

variable {d : Delimiters}

namespace Scanner

namespace Finds

variable {s s' : Scanner} {ts : List Token}

/-- A token of a run is a lexeme that was found at the place where the tokens before it end. -/
theorem exists_finding {before after : List Token} {t : Token}
    (h : Finds d s (before ++ t :: after) s') :
    ∃ used sk lx m rest, s.rest = used ++ (sk ++ (lx.text ++ rest)) ∧ lx.text ≠ [] ∧
      Finding d (s.mode.afterAll before) sk lx m rest ∧
      t = ⟨lx.kind, String.ofList lx.value,
        ⟨s.offset + Text.byteLength (used ++ sk),
          s.offset + Text.byteLength (used ++ sk) + Text.byteLength lx.text⟩⟩ ∧
      Finds d ⟨rest, t.span.stop, m, false⟩ after s' := by
  obtain ⟨s₁, hbefore, hafter⟩ := h.exists_place
  obtain ⟨s₂, hnext, htail⟩ := hafter.exists_step
  obtain ⟨used, hrest, hoffset⟩ := hbefore.exists_used
  obtain ⟨-, sk, lx, m, rest, hscan, rfl, rfl⟩ := next?_eq_token_iff.1 hnext
  obtain ⟨htext, hne⟩ := scan_eq_found hscan
  refine ⟨used, sk, lx, m, rest, by rw [hrest, htext], hne, ?_, ?_, htail⟩
  · rw [← hbefore.mode_eq]
    exact finding_scan hscan
  · simp [tokenOf, hoffset, Nat.add_assoc]

/-- Tokens start where their run starts or later. -/
theorem offset_le (h : Finds d s ts s') : ∀ t ∈ ts, s.offset ≤ t.span.start := by
  intro t ht
  obtain ⟨before, after, rfl⟩ := List.append_of_mem ht
  obtain ⟨used, sk, lx, m, rest, -, -, -, rfl, -⟩ := h.exists_finding
  exact Nat.le_add_right _ _

theorem ordered (h : Finds d s ts s') :
    ts.Pairwise fun a b => a.span.stop ≤ b.span.start := by
  induction h with
  | nil s => exact .nil
  | cons head tail ih =>
      obtain ⟨-, sk, lx, m, rest, -, rfl, rfl⟩ := next?_eq_token_iff.1 head
      exact .cons (fun b hb => tail.offset_le b hb) ih

/-- Every token has a byte. -/
theorem start_lt_stop (h : Finds d s ts s') : ∀ t ∈ ts, t.span.start < t.span.stop := by
  intro t ht
  obtain ⟨before, after, rfl⟩ := List.append_of_mem ht
  obtain ⟨used, sk, lx, m, rest, -, hne, -, rfl, -⟩ := h.exists_finding
  exact Nat.lt_add_of_pos_right (Text.byteLength_pos hne)

end Finds

/-- Byte `i` of what is left belongs to a blank in a block: the tokens that end before it leave
scanning inside. -/
def Gap (s : Scanner) (ts : List Token) (i : Nat) : Prop :=
  ∃ before c after, s.rest = before ++ c :: after ∧ Text.byteLength before ≤ i ∧
    i < Text.byteLength before + c.utf8Size ∧ isBlockBlank c = true ∧
    s.mode.afterAll (ts.filter fun t => t.span.stop ≤ s.offset + i) = .inside

section Gap

variable {s s' : Scanner} {ts : List Token} {sk rest : List Char} {i : Nat}

/-- A byte that is skipped before all tokens. -/
theorem gap_of_skipped (htext : s.rest = sk ++ rest) (hi : i < Text.byteLength sk)
    (hblank : ∀ c ∈ sk, isBlockBlank c = true ∧ s.mode = .inside)
    (hafter : ∀ t ∈ ts, s.offset + Text.byteLength sk ≤ t.span.start ∧ t.span.start < t.span.stop) :
    s.Gap ts i := by
  obtain ⟨before, c, after, rfl, hle, hlt⟩ := Text.exists_char_of_lt hi
  obtain ⟨hc, hmode⟩ := hblank c (by simp)
  refine ⟨before, c, after ++ rest, by simp [htext], hle, hlt, hc, ?_⟩
  have hnone : ts.filter (fun t => t.span.stop ≤ s.offset + i) = [] := by
    rw [List.filter_eq_nil_iff]
    intro t ht
    have hstart := hafter t ht
    simp only [decide_eq_true_eq]
    omega
  rw [hnone]
  exact hmode

/-- A byte after the first token. -/
theorem Gap.of_pass {lx : Lexeme} {m : Mode} (htext : s.rest = sk ++ (lx.text ++ rest))
    (hm : m = s.mode.after lx.kind) (h : (s.pass sk lx m rest).Gap ts i) :
    s.Gap (s.tokenOf sk lx :: ts) (Text.byteLength sk + Text.byteLength lx.text + i) := by
  obtain ⟨before, c, after, hrest, hle, hlt, hblank, hmode⟩ := h
  have hoffset : s.offset + (Text.byteLength sk + Text.byteLength lx.text + i) =
      (s.pass sk lx m rest).offset + i := by
    simp only [pass]
    omega
  refine ⟨sk ++ (lx.text ++ before), c, after, ?_, ?_, ?_, hblank, ?_⟩
  · change rest = _ at hrest
    simp [htext, hrest]
  · simp only [Text.byteLength_append]
    omega
  · simp only [Text.byteLength_append]
    omega
  · rw [hoffset, List.filter_cons_of_pos (by simp [tokenOf, pass])]
    change (s.mode.after lx.kind).afterAll _ = _
    rwa [← hm]

/-- A byte that no token of a run to the end covers belongs to a blank, in a block. -/
theorem Finds.gap (h : Finds d s ts s') (hs : s.stopped = false) (hend : (s'.next? d).1 = none)
    (hi : i < Text.byteLength s.rest)
    (hfree : ∀ t ∈ ts, ¬(t.span.start ≤ s.offset + i ∧ s.offset + i < t.span.stop)) :
    s.Gap ts i := by
  induction h generalizing i with
  | nil s =>
      obtain ⟨sk, hscan⟩ := next?_eq_none hs hend
      exact gap_of_skipped (List.append_nil _).symm hi (blank_of_finished hscan).2 (by simp)
  | @cons s s₁ s' t ts head tail ih =>
      have hwhole := Finds.cons head tail
      obtain ⟨-, sk, lx, m, rest, hscan, rfl, rfl⟩ := next?_eq_token_iff.1 head
      obtain ⟨htext, -⟩ := scan_eq_found hscan
      have hfinding := finding_scan hscan
      by_cases hskipped : i < Text.byteLength sk
      · apply gap_of_skipped htext hskipped hfinding.blank
        intro t ht
        refine ⟨?_, hwhole.start_lt_stop t ht⟩
        rcases List.mem_cons.1 ht with rfl | ht
        · exact Nat.le_refl _
        · exact Nat.le_trans (Nat.le_add_right _ _) (tail.offset_le t ht)
      · have hspan : Text.byteLength sk + Text.byteLength lx.text ≤ i := by
          have hfirst := hfree _ List.mem_cons_self
          simp only [tokenOf] at hfirst
          omega
        obtain ⟨j, rfl⟩ := Nat.exists_eq_add_of_le hspan
        have hoffset : s.offset + (Text.byteLength sk + Text.byteLength lx.text + j) =
            (s.pass sk lx m rest).offset + j := by
          simp only [pass]
          omega
        apply Gap.of_pass htext hfinding.mode_eq
        apply ih rfl hend
        · rw [htext, Text.byteLength_append, Text.byteLength_append] at hi
          change j < Text.byteLength rest
          omega
        · intro t ht
          rw [← hoffset]
          exact hfree t (List.mem_cons_of_mem _ ht)

end Gap

end Scanner

theorem Finding.value_eq {mode m : Mode} {sk rest : List Char} {lx : Lexeme}
    (h : Finding d mode sk lx m rest) (hk : lx.kind ≠ .string) : lx.value = lx.text := by
  cases h with
  | opening | raw | closing | plain => rfl
  | quoted => exact absurd rfl hk

theorem Finding.quotes {mode m : Mode} {sk rest : List Char} {lx : Lexeme}
    (h : Finding d mode sk lx m rest) (hk : lx.kind = .string) :
    ∃ mark inner, (mark = '\'' ∨ mark = '"') ∧ lx.text = mark :: (inner ++ [mark]) ∧
      Escape.translate inner = .ok lx.value := by
  cases h with
  | opening | raw | closing => cases hk
  | plain _ inner => exact absurd hk (by rintro rfl; simp at inner)
  | quoted _ quote translated => exact ⟨_, _, quote, rfl, translated⟩

theorem Finding.raw_text {mode m : Mode} {sk rest : List Char} {lx : Lexeme}
    (h : Finding d mode sk lx m rest) (hk : lx.kind = .rawText) :
    mode = .outside ∧ m = .outside ∧ ¬d.opening <:+: lx.value ∧
      (rest = [] ∨ d.opening <+: rest) := by
  cases h with
  | opening | closing | quoted => cases hk
  | plain _ inner => exact absurd hk (by rintro rfl; simp at inner)
  | raw without ends => exact ⟨rfl, rfl, without, ends⟩

theorem Finding.kind_of_outside {mode m : Mode} {sk rest : List Char} {lx : Lexeme}
    (h : Finding d mode sk lx m rest) (hmode : mode = .outside) :
    lx.kind = .rawText ∨ lx.kind = .blockOpen := by
  cases h with
  | opening => exact Or.inr rfl
  | raw => exact Or.inl rfl
  | closing | plain | quoted => cases hmode

namespace Scanner.Finds

variable {ts : List Token} {s' : Scanner}

/-- Raw text that a run finds is followed by an opening marker or the end. -/
theorem after_raw {rest : List Char} {offset : Nat} (h : Finds d (.outside rest offset) ts s')
    (hend : (s'.next? d).1 = none) (hrest : rest = [] ∨ d.opening <+: rest) :
    ts = [] ∧ rest = [] ∨ ∃ u more, ts = u :: more ∧ u.kind = .blockOpen ∧
      u.span.start = offset := by
  cases h with
  | nil =>
      obtain ⟨sk, hscan⟩ := next?_eq_none rfl hend
      rcases hrest with hnil | hprefix
      · exact Or.inl ⟨rfl, hnil⟩
      · rw [scan_outside_opening hprefix] at hscan
        cases hscan
  | @cons _ _ _ t ts head _ =>
      obtain ⟨-, sk, lx, m, tail, hscan, rfl, -⟩ := next?_eq_token_iff.1 head
      rcases hrest with rfl | hprefix
      · cases hscan
      · rw [scan_outside_opening hprefix] at hscan
        obtain ⟨rfl, rfl, -, -⟩ := by simpa using hscan
        exact Or.inr ⟨_, ts, rfl, rfl, rfl⟩

/-- A token of a template covers the text of the lexeme that was found there. -/
theorem exists_lexeme {template : List Char} (h : Finds d (start template) ts s') {t : Token}
    (ht : t ∈ ts) :
    ∃ before after mode sk m lx, template = before ++ (lx.text ++ after) ∧ lx.text ≠ [] ∧
      Finding d mode sk lx m after ∧ t = ⟨lx.kind, String.ofList lx.value,
        ⟨Text.byteLength before, Text.byteLength before + Text.byteLength lx.text⟩⟩ := by
  obtain ⟨first, last, rfl⟩ := List.append_of_mem ht
  obtain ⟨used, sk, lx, m, rest, htext, hne, hfinding, rfl, -⟩ := h.exists_finding
  refine ⟨used ++ sk, rest, _, sk, m, lx, ?_, hne, hfinding, by simp [start]⟩
  simpa [start] using htext

end Scanner.Finds

/-- A token stream accounts for every byte of the template it was scanned from. -/
theorem accountsFor_of_tokenize {m : Markers} {template : String} {tokens : List Token}
    (h : tokenize m template = .ok tokens) :
    AccountsFor m.delimiters template.toList tokens := by
  rw [Scanner.tokenize_eq, Scanner.tokens_eq_ok_iff] at h
  obtain ⟨s', hfinds, hend⟩ := h
  constructor
  case spans =>
    intro t ht
    obtain ⟨before, after, mode, sk, m', lx, htext, hne, -, rfl⟩ := hfinds.exists_lexeme ht
    exact ⟨before, lx.text, after, htext, hne, rfl⟩
  case ordered => exact hfinds.ordered
  case gaps =>
    intro i hi hfree
    obtain ⟨before, c, after, hrest, hle, hlt, hblank, hmode⟩ :=
      hfinds.gap rfl hend hi (by simpa [Scanner.start] using hfree)
    refine ⟨before, c, after, hrest, hle, hlt, hblank, ?_⟩
    rw [endsInside_iff]
    simpa [Scanner.start] using hmode
  case verbatim =>
    intro t ht hkind
    obtain ⟨before, after, mode, sk, m', lx, htext, -, hfinding, rfl⟩ := hfinds.exists_lexeme ht
    rw [htext, Span.slice_middle, String.toList_ofList]
    exact hfinding.value_eq hkind
  case quoted =>
    intro t ht hkind
    obtain ⟨before, after, mode, sk, m', lx, htext, -, hfinding, rfl⟩ := hfinds.exists_lexeme ht
    obtain ⟨mark, inner, hmark, hslice, htranslate⟩ := hfinding.quotes hkind
    refine ⟨mark, inner, hmark, ?_, by rwa [String.toList_ofList]⟩
    rw [htext, Span.slice_middle, hslice]
  case raw =>
    rintro before t after rfl hkind
    obtain ⟨used, sk, lx, m', rest, htext, -, hfinding, rfl, hafter⟩ := hfinds.exists_finding
    obtain ⟨hmode, rfl, hwithout, hends⟩ := hfinding.raw_text hkind
    refine ⟨?_, by rwa [String.toList_ofList], ?_⟩
    · rw [endsInside_iff]
      intro hinside
      cases hmode.symm.trans hinside
    · rcases hafter.after_raw hend hends with ⟨rfl, rfl⟩ | hopening
      · have hlength := congrArg Text.byteLength htext
        refine Or.inl ⟨rfl, ?_⟩
        simpa [Scanner.start, Nat.add_assoc] using hlength.symm
      · exact Or.inr hopening
  case outside =>
    rintro before t after rfl houtside
    obtain ⟨used, sk, lx, m', rest, -, -, hfinding, rfl, -⟩ := hfinds.exists_finding
    apply hfinding.kind_of_outside
    rw [endsInside_iff] at houtside
    cases hmode : (Scanner.start template.toList).mode.afterAll before with
    | outside => rfl
    | inside => exact absurd hmode houtside

/-- A two-character opening marker beside the default closing one, a character of two bytes, and
a template that ends inside a block. -/
theorem accountsFor_open_block :
    let m : Markers := ⟨"<%", ""⟩
    let template := "é <% a|'x\\'' \x7d<% "
    let tokens : List Token := [⟨.rawText, "é ", ⟨0, 3⟩⟩, ⟨.blockOpen, "<%", ⟨3, 5⟩⟩,
      ⟨.ident, "a", ⟨6, 7⟩⟩, ⟨.filter, "|", ⟨7, 8⟩⟩, ⟨.string, "x'", ⟨8, 13⟩⟩,
      ⟨.blockClose, "\x7d", ⟨14, 15⟩⟩, ⟨.blockOpen, "<%", ⟨15, 17⟩⟩]
    tokenize m template = .ok tokens ∧ AccountsFor m.delimiters template.toList tokens := by
  intro m template tokens
  have htokens : tokenize m template = .ok tokens := by cbv
  exact ⟨htokens, accountsFor_of_tokenize htokens⟩

end BlockTemplate
