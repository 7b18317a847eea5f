import BlockTemplate.Proofs.Syntax.PrintedBlock
import BlockTemplate.Proofs.Text.CaseDifference
import BlockTemplate.Proofs.Token.Junction
import BlockTemplate.Proofs.Token.TokenStream

/-!
# Scanning and the case of names

Two templates that differ only in the case of letters, and only where both have a name, are cut
into the same tokens. The scanner is followed in both of them at once. Where it finds anything but
a name in one of them, no letter of it differs, so the other has the same text there; a name goes on
for as long in the other, since the class of a letter does not depend on its case.

## Implementation notes

A letter that differs lies in a name of both. That it lies in a name of one of them is not enough: a
marker may start with `>`, which is also a mark of its own inside of blocks, so that with the
closing marker `>a` there is a name in `x>A` where `x>a` has the marker.

Main statements: one scan finds the same in both (`Scanner.Lockstep.exists_scan`), and so do all
(`tokenize_caseVariant`).
-/

namespace BlockTemplate

/-! ### Letters in names -/

theorem isNameStart_of_isAlpha (c : Char) (h : c.isAlpha = true) : isNameStart c = true := by
  rw [isNameStart, h, Bool.true_or]

theorem isNameChar_of_isAlpha (c : Char) (h : c.isAlpha = true) : isNameChar c = true :=
  isNameChar_of_isNameStart (isNameStart_of_isAlpha c h)

/-! ### Names among items -/

/-- The spans of the names among some items. -/
def nameSpans (items : List Scanner.Item) : List Span :=
  items.filterMap fun
    | .ok t => if t.kind = .ident then some t.span else none
    | .error _ => none

/-- A byte lies in one of the names among some items. -/
def InName (items : List Scanner.Item) (k : Nat) : Prop :=
  ∃ s ∈ nameSpans items, s.start ≤ k ∧ k < s.stop

instance (items : List Scanner.Item) (k : Nat) : Decidable (InName items k) :=
  inferInstanceAs (Decidable (∃ s ∈ nameSpans items, _))

theorem inName_iff {items : List Scanner.Item} {k : Nat} :
    InName items k ↔
      ∃ t, .ok t ∈ items ∧ t.kind = .ident ∧ t.span.start ≤ k ∧ k < t.span.stop := by
  simp only [InName, nameSpans, List.mem_filterMap]
  constructor
  · rintro ⟨s, ⟨item, hitem, hs⟩, hle, hlt⟩
    cases item with
    | error e => cases hs
    | ok t =>
      obtain ⟨hkind, hspan⟩ := Option.ite_none_right_eq_some.1 hs
      obtain rfl := Option.some.inj hspan
      exact ⟨t, hitem, hkind, hle, hlt⟩
  · rintro ⟨t, hitem, hkind, hle, hlt⟩
    exact ⟨t.span, ⟨.ok t, hitem, if_pos hkind⟩, hle, hlt⟩

namespace Scanner

variable {d : Delimiters} {p p' : Scanner} {t : Token} {ts : List Token} {k : Nat}

/-- Where no token comes next, none comes at all. -/
theorem ok_notMem_run (h : ∀ t p', p.next? d ≠ (some (.ok t), p')) : .ok t ∉ (p.run d).1 := by
  rw [run]
  split
  · simp
  · simp
  · next t p' hnext => exact absurd hnext (h t p')

theorem exists_finds_of_mem_run (h : .ok t ∈ (p.run d).1) :
    ∃ ts p', Finds d p ts p' ∧ t ∈ ts := by
  obtain ⟨ts, p', hfinds, hend⟩ := exists_finds d p
  refine ⟨ts, p', hfinds, ?_⟩
  induction hfinds with
  | nil p =>
    refine absurd h (ok_notMem_run ?_)
    intro t q hnext
    simp [hnext] at hend
  | cons head _ ih =>
    rw [run_of_next? head] at h
    rcases List.mem_cons.1 h with hfirst | hlater
    · exact List.mem_cons.2 (Or.inl (Except.ok.inj hfirst))
    · exact List.mem_cons_of_mem _ (ih hlater hend)

/-- Names stand where scanning starts, or later. -/
theorem offset_le_of_inName (h : InName (p.run d).1 k) : p.offset ≤ k := by
  obtain ⟨t, ht, -, hle, -⟩ := inName_iff.1 h
  obtain ⟨ts, p', hfinds, hmem⟩ := exists_finds_of_mem_run ht
  exact Nat.le_trans (hfinds.offset_le t hmem) hle

/-- A byte in a name lies in the name that comes next, or in one that is scanned after it. -/
theorem inName_run_iff (h : p.next? d = (some (.ok t), p')) : InName (p.run d).1 k ↔
    (t.kind = .ident ∧ t.span.start ≤ k ∧ k < t.span.stop) ∨ InName (p'.run d).1 k := by
  rw [run_of_next? h, inName_iff, inName_iff]
  constructor
  · rintro ⟨u, hu, hname⟩
    rcases List.mem_cons.1 hu with hfirst | hlater
    · obtain rfl := Except.ok.inj hfirst
      exact Or.inl hname
    · exact Or.inr ⟨u, hlater, hname⟩
  · rintro (hname | ⟨u, hu, hname⟩)
    · exact ⟨t, List.mem_cons_self, hname⟩
    · exact ⟨u, List.mem_cons_of_mem _ hu, hname⟩

/-! ### Two scanners in lockstep -/

/-- The bytes in which texts scanned from two places may differ: those in a name of both. -/
def InBothNames (d : Delimiters) (p p' : Scanner) (k : Nat) : Prop :=
  InName (p.run d).1 k ∧ InName (p'.run d).1 k

/-- Places of two templates that differ in the case of their names only. -/
structure Lockstep (d : Delimiters) (p p' : Scanner) : Prop where
  offset_eq : p'.offset = p.offset
  mode_eq : p'.mode = p.mode
  stopped : p.stopped = false
  stopped' : p'.stopped = false
  texts : DifferInCase (InBothNames d p p') p.offset p.rest p'.rest

namespace Lockstep

theorem symm (h : Lockstep d p p') : Lockstep d p' p where
  offset_eq := h.offset_eq.symm
  mode_eq := h.mode_eq.symm
  stopped := h.stopped'
  stopped' := h.stopped
  texts := by
    rw [h.offset_eq]
    exact h.texts.symm.mono fun k _ hk => ⟨hk.2, hk.1⟩

/-- Where one of them finds no token, no name is ahead, so they are at the same text. -/
theorem eq_of_no_token (h : Lockstep d p p') (hno : ∀ t q, p.next? d ≠ (some (.ok t), q)) :
    p' = p := by
  have hrest : p'.rest = p.rest := by
    apply h.texts.eq_of_forall_not
    rintro k ⟨hname, -⟩
    obtain ⟨t, ht, -⟩ := inName_iff.1 hname
    exact ok_notMem_run hno ht
  obtain ⟨rest, offset, mode, stopped⟩ := p
  obtain ⟨rest', offset', mode', stopped'⟩ := p'
  obtain ⟨rfl, rfl, rfl, rfl, -⟩ := h
  exact congrArg (Scanner.mk · offset' mode' false) hrest

variable {sk rest : List Char} {lx : Lexeme} {m : Mode}

/-- No name is ahead before the place where a token ends, except the token itself. -/
theorem not_inName_of_found (hstopped : p.stopped = false)
    (hscan : scan d p.mode p.rest = .found sk lx m rest)
    (hk : k < p.offset + Text.byteLength sk ∨
      lx.kind ≠ .ident ∧ k < p.offset + Text.byteLength sk + Text.byteLength lx.text) :
    ¬InName (p.run d).1 k := by
  have hnext : p.next? d = (some (.ok (p.tokenOf sk lx)), p.pass sk lx m rest) :=
    next?_eq_token_iff.2 ⟨hstopped, sk, lx, m, rest, hscan, rfl, rfl⟩
  rw [inName_run_iff hnext]
  rintro (⟨hkind, hle, -⟩ | hlater)
  · rcases hk with hk | ⟨hne, -⟩
    · exact Nat.not_lt.2 hle hk
    · exact hne hkind
  · have hbehind : p.offset + Text.byteLength sk + Text.byteLength lx.text ≤ k :=
      offset_le_of_inName hlater
    omega

/-- The text that is skipped before a token is the same in both. -/
theorem exists_skipped (h : Lockstep d p p') (hscan : scan d p.mode p.rest = .found sk lx m rest) :
    ∃ text, p'.rest = sk ++ text ∧
      DifferInCase (InBothNames d p p') (p.offset + Text.byteLength sk) (lx.text ++ rest) text := by
  have htexts := h.texts
  rw [(scan_eq_found hscan).1] at htexts
  exact htexts.exists_append fun k _ hk hboth =>
    not_inName_of_found h.stopped hscan (Or.inl hk) hboth.1

/-- The text of a token that is no name is the same in both. -/
theorem exists_rest (h : Lockstep d p p') (hscan : scan d p.mode p.rest = .found sk lx m rest)
    (hkind : lx.kind ≠ .ident) :
    ∃ rest', p'.rest = sk ++ (lx.text ++ rest') ∧ DifferInCase (InBothNames d p p')
      (p.offset + Text.byteLength sk + Text.byteLength lx.text) rest rest' := by
  obtain ⟨text, htext, hdiffer⟩ := h.exists_skipped hscan
  obtain ⟨rest', rfl, hrest⟩ := hdiffer.exists_append fun k _ hk hboth =>
    not_inName_of_found h.stopped hscan (Or.inr ⟨hkind, hk⟩) hboth.1
  exact ⟨rest', htext, hrest⟩

end Lockstep

end Scanner

/-! ### Lexemes before a text that differs in case -/

theorem DifferInCase.endsRun {P : Nat → Prop} {offset : Nat} {rest rest' : List Char}
    {p : Char → Bool} {b : Bool} (hp : ∀ c, c.isAlpha = true → p c = b)
    (h : DifferInCase P offset rest rest') (hrest : EndsRun p rest) : EndsRun p rest' := by
  cases rest with
  | nil =>
    rw [h.eq_nil]
    exact hrest
  | cons c rest =>
    obtain ⟨c', tail, rfl, hc, -⟩ := h.exists_cons
    intro x hx
    obtain rfl : c' = x := by simpa using hx
    have hends : p c = false := hrest c (by simp)
    rcases eq_or_isAlpha hc with rfl | ⟨hc, hc'⟩
    · exact hends
    · rw [hp c' hc', ← hp c hc, hends]

theorem scan_inside_opening {d : Delimiters} (hd : d.Neutral) {sk rest : List Char}
    (hsk : ∀ x ∈ sk, isBlockBlank x = true) (hclosing : ¬d.closing <+: d.opening ++ rest) :
    scan d .inside (sk ++ (d.opening ++ rest)) =
      .found sk (.plain .blockOpen d.opening) .inside rest := by
  obtain ⟨c, cs, hopening⟩ := List.exists_cons_of_ne_nil d.opening_ne_nil
  have hfirst : d.opening.head d.opening_ne_nil = c := by
    rw [List.head_eq_iff_head?_eq_some, hopening, List.head?_cons]
  have hblank : isBlockBlank c = false := by
    by_contra hc
    have hneutral := hd.1
    rw [hfirst, isBlockChar_of_isBlockBlank (by simpa using hc)] at hneutral
    cases hneutral
  have htext : d.opening ++ rest = c :: (cs ++ rest) := by rw [hopening, List.cons_append]
  have hprefix : d.opening.isPrefixOf (c :: (cs ++ rest)) = true :=
    List.isPrefixOf_iff_prefix.2 ⟨rest, htext⟩
  have hdrop : (c :: (cs ++ rest)).drop d.opening.length = rest := by
    rw [← htext, List.drop_left]
  rw [htext, ← List.isPrefixOf_iff_prefix] at hclosing
  rw [htext, scan_inside_eq hsk hblank, scanItem, if_neg hclosing, if_pos hprefix, hdrop]

theorem scan_inside_greater {d : Delimiters} {sk rest : List Char}
    (hsk : ∀ x ∈ sk, isBlockBlank x = true) (hclosing : ¬d.closing <+: '>' :: rest)
    (hopening : ¬d.opening <+: '>' :: rest) :
    scan d .inside (sk ++ '>' :: rest) = .found sk (.plain .greater ['>']) .inside rest := by
  rw [← List.isPrefixOf_iff_prefix] at hclosing hopening
  rw [scan_inside_eq hsk (by decide), scanItem, if_neg hclosing, if_neg hopening]
  rfl

/-- Lexemes that are equal, or names that differ in case. -/
inductive Lexeme.Alike : Lexeme → Lexeme → Prop
  | refl (lx : Lexeme) : Alike lx lx
  | name {cs cs' : List Char} (isName : IsName (String.ofList cs))
      (isName' : IsName (String.ofList cs'))
      (letters : cs.map Char.toLower = cs'.map Char.toLower) :
      Alike (.plain .ident cs) (.plain .ident cs')

theorem Lexeme.Alike.kind_eq {lx lx' : Lexeme} (h : lx.Alike lx') : lx'.kind = lx.kind := by
  cases h <;> rfl

theorem Lexeme.Alike.byteLength_eq {lx lx' : Lexeme} (h : lx.Alike lx') :
    Text.byteLength lx'.text = Text.byteLength lx.text := by
  cases h with
  | refl => rfl
  | @name cs cs' _ _ letters =>
    change Text.byteLength cs' = Text.byteLength cs
    rw [← Text.byteLength_map_toLower, ← letters, Text.byteLength_map_toLower]

/-- Tokens that are equal, or names in the same place that differ in case. -/
inductive Token.Alike : Token → Token → Prop
  | refl (t : Token) : Alike t t
  | name {name name' : String} {span : Span} (isName : IsName name) (isName' : IsName name')
      (letters : name.toList.map Char.toLower = name'.toList.map Char.toLower) :
      Alike ⟨.ident, name, span⟩ ⟨.ident, name', span⟩

theorem Lexeme.Alike.tokenOf {lx lx' : Lexeme} (h : lx.Alike lx') {p p' : Scanner}
    (hoffset : p'.offset = p.offset) (sk : List Char) :
    (p.tokenOf sk lx).Alike (p'.tokenOf sk lx') := by
  rw [Scanner.tokenOf, Scanner.tokenOf, hoffset, h.byteLength_eq]
  cases h with
  | refl => exact .refl _
  | name isName isName' letters =>
    exact .name isName isName' (by rwa [String.toList_ofList, String.toList_ofList])

/-- Only blanks are skipped, and the lexeme says in which mode scanning goes on. -/
theorem blank_and_mode_of_scan {d : Delimiters} {mode m : Mode} {cs sk rest : List Char}
    {lx : Lexeme} (h : scan d mode cs = .found sk lx m rest) :
    (∀ c ∈ sk, isBlockBlank c = true) ∧ m = mode.after lx.kind :=
  ⟨fun c hc => ((finding_scan h).blank c hc).1, (finding_scan h).mode_eq⟩

namespace Scanner

variable {d : Delimiters} {p p' : Scanner} {sk rest : List Char} {lx : Lexeme} {m : Mode}

/-- What is found at a place is found, but for the case of a name, at a second place too. -/
def FoundAlike (d : Delimiters) (p p' : Scanner) (sk : List Char) (lx : Lexeme) (m : Mode)
    (rest : List Char) : Prop :=
  ∃ lx' rest', scan d p'.mode p'.rest = .found sk lx' m rest' ∧ lx.Alike lx' ∧
    DifferInCase (InBothNames d p p')
      (p.offset + Text.byteLength sk + Text.byteLength lx.text) rest rest'

namespace Lockstep

/-- A token that is no name is found at the second place too if the scan is the same there before
the text that stands behind the token. -/
theorem found_again (h : Lockstep d p p') (hscan : scan d p.mode p.rest = .found sk lx m rest)
    (hkind : lx.kind ≠ .ident)
    (hagain : ∀ rest', p'.rest = sk ++ (lx.text ++ rest') →
      DifferInCase (InBothNames d p p')
        (p.offset + Text.byteLength sk + Text.byteLength lx.text) rest rest' →
      scan d p.mode (sk ++ (lx.text ++ rest')) = .found sk lx m rest') :
    FoundAlike d p p' sk lx m rest := by
  obtain ⟨rest', htext, hrest⟩ := h.exists_rest hscan hkind
  refine ⟨lx, rest', ?_, .refl lx, hrest⟩
  rw [h.mode_eq, htext]
  exact hagain rest' htext hrest

/-! ### Outside of blocks -/

theorem opening_outside (h : Lockstep d p p') (hmode : p.mode = .outside)
    (hscan : scan d p.mode p.rest = .found sk lx m rest) (hkind : lx.kind = .blockOpen) :
    FoundAlike d p p' sk lx m rest := by
  refine h.found_again hscan (by simp [hkind]) fun rest' _ _ => ?_
  rw [hmode] at hscan ⊢
  exact scan_outside_again hscan (by simp [hkind])

theorem raw_outside (h : Lockstep d p p') (hmode : p.mode = .outside)
    (hscan : scan d p.mode p.rest = .found sk lx m rest) (hkind : lx.kind = .rawText) :
    FoundAlike d p p' sk lx m rest := by
  refine h.found_again hscan (by simp [hkind]) fun rest' _ hrest => ?_
  have hnext : p.next? d = (some (.ok (p.tokenOf sk lx)), p.pass sk lx m rest) :=
    next?_eq_token_iff.2 ⟨h.stopped, sk, lx, m, rest, hscan, rfl, rfl⟩
  have hown := (scan_eq_found hscan).1
  rw [hmode] at hscan ⊢
  cases finding_scan hscan with
  | opening => cases hkind
  | @raw text _ _ ends =>
    rcases ends with rfl | ⟨more, rfl⟩
    · rw [hrest.eq_nil, ← hown]
      exact hscan
    · -- the opening marker behind the raw text is the next token, so it stands in both
      have hmarker : scan d .outside (d.opening ++ more) = _ :=
        scan_outside_opening (List.prefix_append _ _)
      have hnames := hrest.mono (Q := InName ((p.pass [] _ .outside (d.opening ++ more)).run d).1)
        fun k _ hk => ((inName_run_iff hnext).1 hk.1).resolve_left fun hname => nomatch hname.1
      obtain ⟨more', rfl, -⟩ := hnames.exists_append fun k _ hk =>
        not_inName_of_found rfl hmarker (Or.inr ⟨TokenKind.noConfusion, hk⟩)
      exact scan_outside_again hscan fun _ => ⟨List.prefix_append _ _, List.prefix_append _ _⟩

/-! ### Inside a block -/

theorem closing_inside (hd : d.Neutral) (h : Lockstep d p p') (hmode : p.mode = .inside)
    (hscan : scan d p.mode p.rest = .found sk (.plain .blockClose d.closing) m rest) :
    FoundAlike d p p' sk (.plain .blockClose d.closing) m rest := by
  obtain ⟨hblank, rfl⟩ := blank_and_mode_of_scan (hmode ▸ hscan)
  refine h.found_again hscan TokenKind.noConfusion fun rest' _ _ => ?_
  rw [hmode]
  exact scan_inside_closing hd.closingUnskipped hblank rest'

/-- Where one of them finds something else, no closing marker stands in the other. -/
theorem not_closing_prefix (hd : d.Neutral) (h : Lockstep d p p') (hmode : p.mode = .inside)
    (hscan : scan d p.mode p.rest = .found sk lx m rest) (hkind : lx.kind ≠ .blockClose)
    {text : List Char} (htext : p'.rest = sk ++ text) : ¬d.closing <+: text := by
  rintro ⟨more, rfl⟩
  obtain ⟨hblank, -⟩ := blank_and_mode_of_scan (hmode ▸ hscan)
  have hscan' : scan d p'.mode p'.rest =
      .found sk (.plain .blockClose d.closing) .outside more := by
    rw [h.mode_eq, hmode, htext]
    exact scan_inside_closing hd.closingUnskipped hblank more
  obtain ⟨lx', rest', hfound, halike, -⟩ := h.symm.closing_inside hd (h.mode_eq.trans hmode) hscan'
  obtain ⟨rfl, -⟩ : lx = lx' ∧ _ := by simpa [hscan] using hfound
  exact hkind halike.kind_eq

theorem opening_inside (hd : d.Neutral) (h : Lockstep d p p') (hmode : p.mode = .inside)
    (hscan : scan d p.mode p.rest = .found sk (.plain .blockOpen d.opening) m rest) :
    FoundAlike d p p' sk (.plain .blockOpen d.opening) m rest := by
  obtain ⟨hblank, rfl⟩ := blank_and_mode_of_scan (hmode ▸ hscan)
  refine h.found_again hscan TokenKind.noConfusion fun rest' htext _ => ?_
  rw [hmode]
  exact scan_inside_opening hd hblank
    (h.not_closing_prefix hd hmode hscan TokenKind.noConfusion htext)

theorem not_opening_prefix (hd : d.Neutral) (h : Lockstep d p p') (hmode : p.mode = .inside)
    (hscan : scan d p.mode p.rest = .found sk lx m rest)
    (hkind : lx.kind ≠ .blockClose ∧ lx.kind ≠ .blockOpen)
    {text : List Char} (htext : p'.rest = sk ++ text) : ¬d.opening <+: text := by
  have hclosing := h.not_closing_prefix hd hmode hscan hkind.1 htext
  rintro ⟨more, rfl⟩
  obtain ⟨hblank, -⟩ := blank_and_mode_of_scan (hmode ▸ hscan)
  have hscan' : scan d p'.mode p'.rest = .found sk (.plain .blockOpen d.opening) .inside more := by
    rw [h.mode_eq, hmode, htext]
    exact scan_inside_opening hd hblank hclosing
  obtain ⟨lx', rest', hfound, halike, -⟩ := h.symm.opening_inside hd (h.mode_eq.trans hmode) hscan'
  obtain ⟨rfl, -⟩ : lx = lx' ∧ _ := by simpa [hscan] using hfound
  exact hkind.2 halike.kind_eq

theorem greater_inside (hd : d.Neutral) (h : Lockstep d p p') (hmode : p.mode = .inside)
    (hscan : scan d p.mode p.rest = .found sk (.plain .greater ['>']) m rest) :
    FoundAlike d p p' sk (.plain .greater ['>']) m rest := by
  obtain ⟨hblank, rfl⟩ := blank_and_mode_of_scan (hmode ▸ hscan)
  refine h.found_again hscan TokenKind.noConfusion fun rest' htext _ => ?_
  have hclosing := h.not_closing_prefix hd hmode hscan TokenKind.noConfusion htext
  have hopening := h.not_opening_prefix hd hmode hscan
    ⟨TokenKind.noConfusion, TokenKind.noConfusion⟩ htext
  rw [hmode]
  exact scan_inside_greater hblank hclosing hopening

theorem spelled_inside (hd : d.Neutral) (h : Lockstep d p p') (hmode : p.mode = .inside)
    (hscan : scan d p.mode p.rest = .found sk lx m rest) (hspelled : Spelled lx rest)
    (hkind : lx.kind ≠ .ident) : FoundAlike d p p' sk lx m rest := by
  obtain ⟨hblank, rfl⟩ := blank_and_mode_of_scan (hmode ▸ hscan)
  refine h.found_again hscan hkind fun rest' _ hrest => ?_
  rw [hmode, hspelled.after_eq]
  exact scan_inside_of_spelled hd hblank (hspelled.of_endsRun (hrest.endsRun isNameChar_of_isAlpha))

/-- A name goes on for as long in both. -/
theorem name_inside (hd : d.Neutral) (h : Lockstep d p p') (hmode : p.mode = .inside) {c : Char}
    {cs : List Char} (hscan : scan d p.mode p.rest = .found sk (.plain .ident (c :: cs)) m rest)
    (start : isNameStart c = true) (more : ∀ x ∈ cs, isNameChar x = true)
    (ends : EndsRun isNameChar rest) :
    FoundAlike d p p' sk (.plain .ident (c :: cs)) m rest := by
  obtain ⟨text, htext, hdiffer⟩ := h.exists_skipped hscan
  obtain ⟨hblank, rfl⟩ := blank_and_mode_of_scan (hmode ▸ hscan)
  change DifferInCase _ _ (c :: (cs ++ rest)) _ at hdiffer
  obtain ⟨c', tail, rfl, hc, htail⟩ := hdiffer.exists_cons
  obtain ⟨hletters, hrest⟩ := htail.takeWhile isNameChar_of_isAlpha
  rw [takeWhile_append_of_endsRun more ends, dropWhile_append_of_endsRun more ends] at hrest
  rw [takeWhile_append_of_endsRun more ends] at hletters
  have hlower : c.toLower = c'.toLower := hc.elim (congrArg _) And.left
  have hstart' : isNameStart c' = true := by
    rcases DifferInCase.eq_or_isAlpha hc with rfl | ⟨-, hc'⟩
    · exact start
    · exact isNameStart_of_isAlpha c' hc'
  have hmore' : ∀ x ∈ tail.takeWhile isNameChar, isNameChar x = true :=
    fun x hx => List.mem_takeWhile_imp hx
  refine ⟨.plain .ident (c' :: tail.takeWhile isNameChar), tail.dropWhile isNameChar, ?_,
    .name ⟨c, cs, String.toList_ofList, start, more⟩
      ⟨c', _, String.toList_ofList, hstart', hmore'⟩ ?_, ?_⟩
  · have hspelled := scan_inside_of_spelled hd hblank
      (.name hstart' hmore' (endsRun_dropWhile isNameChar tail))
    rw [h.mode_eq, hmode, htext]
    simpa [Lexeme.plain, Mode.after, List.takeWhile_append_dropWhile] using hspelled
  · rw [List.map_cons, List.map_cons, hlower, hletters]
  · simpa [Lexeme.plain, Nat.add_assoc] using hrest

/-- One scan finds the same in both. -/
theorem exists_scan (hd : d.Neutral) (h : Lockstep d p p')
    (hscan : scan d p.mode p.rest = .found sk lx m rest) : FoundAlike d p p' sk lx m rest := by
  cases hmode : p.mode with
  | outside =>
    rcases (finding_scan hscan).kind_of_outside hmode with hkind | hkind
    · exact h.raw_outside hmode hscan hkind
    · exact h.opening_outside hmode hscan hkind
  | inside =>
    rcases cases_of_scan_inside (hmode ▸ hscan) with rfl | rfl | rfl | hspelled
    · exact h.closing_inside hd hmode hscan
    · exact h.opening_inside hd hmode hscan
    · exact h.greater_inside hd hmode hscan
    · by_cases hkind : lx.kind = .ident
      · cases hspelled with
        | number | quoted => cases hkind
        | @punctuation c kind is =>
          obtain rfl : kind = .ident := hkind
          have hpunctuation := punctuation?_eq_some is
          simp at hpunctuation
        | name start more ends => exact h.name_inside hd hmode hscan start more ends
      · exact h.spelled_inside hd hmode hscan hspelled hkind

/-- The places behind what one scan finds are in lockstep again: a name that is ahead of them was
ahead before. -/
theorem pass (h : Lockstep d p p') {lx' : Lexeme} {rest' : List Char}
    (hscan : scan d p.mode p.rest = .found sk lx m rest)
    (hscan' : scan d p'.mode p'.rest = .found sk lx' m rest') (halike : lx.Alike lx')
    (hrest : DifferInCase (InBothNames d p p')
      (p.offset + Text.byteLength sk + Text.byteLength lx.text) rest rest') :
    Lockstep d (p.pass sk lx m rest) (p'.pass sk lx' m rest') := by
  have hnext : p.next? d = (some (.ok (p.tokenOf sk lx)), p.pass sk lx m rest) :=
    next?_eq_token_iff.2 ⟨h.stopped, sk, lx, m, rest, hscan, rfl, rfl⟩
  have hnext' : p'.next? d = (some (.ok (p'.tokenOf sk lx')), p'.pass sk lx' m rest') :=
    next?_eq_token_iff.2 ⟨h.stopped', sk, lx', m, rest', hscan', rfl, rfl⟩
  have hoffset : (p'.pass sk lx' m rest').offset = (p.pass sk lx m rest).offset := by
    rw [Scanner.pass, Scanner.pass, h.offset_eq, halike.byteLength_eq]
  constructor
  case offset_eq => exact hoffset
  case mode_eq => rfl
  case stopped => rfl
  case stopped' => rfl
  case texts =>
    refine hrest.mono fun k hk hboth => ⟨?_, ?_⟩
    · refine ((inName_run_iff hnext).1 hboth.1).resolve_left fun hname => ?_
      exact Nat.not_lt.2 hk hname.2.2
    · refine ((inName_run_iff hnext').1 hboth.2).resolve_left fun hname => ?_
      have hstop : (p.pass sk lx m rest).offset ≤ k := hk
      rw [← hoffset] at hstop
      exact Nat.not_lt.2 hstop hname.2.2

/-- From places in lockstep on the same error is met, or tokens that differ in the case of names. -/
theorem exists_tokens (hd : d.Neutral) {p p' : Scanner} (h : Lockstep d p p') :
    (∃ e, p.tokens d = .error e ∧ p'.tokens d = .error e) ∨
      ∃ ts ts', p.tokens d = .ok ts ∧ p'.tokens d = .ok ts' ∧ List.Forall₂ Token.Alike ts ts' := by
  by_cases hno : ∀ t q, p.next? d ≠ (some (.ok t), q)
  · rw [h.eq_of_no_token hno]
    cases p.tokens d with
    | error e => exact Or.inl ⟨e, rfl, rfl⟩
    | ok ts => exact Or.inr ⟨ts, ts, rfl, rfl, List.forall₂_same.2 fun t _ => .refl t⟩
  · push Not at hno
    obtain ⟨t, q, hnext⟩ := hno
    have hlt := next?_rest_lt hnext
    obtain ⟨-, sk, lx, m, rest, hscan, rfl, rfl⟩ := next?_eq_token_iff.1 hnext
    obtain ⟨lx', rest', hscan', halike, hrest⟩ := h.exists_scan hd hscan
    have hnext' : p'.next? d = (some (.ok (p'.tokenOf sk lx')), p'.pass sk lx' m rest') :=
      next?_eq_token_iff.2 ⟨h.stopped', sk, lx', m, rest', hscan', rfl, rfl⟩
    have hfirst := halike.tokenOf h.offset_eq sk
    rw [tokens_of_next? hnext, tokens_of_next? hnext']
    obtain ⟨e, he, he'⟩ | ⟨ts, ts', hts, hts', hall⟩ :=
      exists_tokens hd (h.pass hscan hscan' halike hrest)
    · rw [he, he']
      exact Or.inl ⟨e, rfl, rfl⟩
    · rw [hts, hts']
      exact Or.inr ⟨_, _, rfl, rfl, .cons hfirst hall⟩
  termination_by p.rest.length

end Lockstep

end Scanner

/-- Two templates that differ in the case of letters only, each of them inside a name of both. -/
def CaseVariant (m : Markers) (template template' : String) : Prop :=
  DifferInCase (fun k => InName (scanItems m template) k ∧ InName (scanItems m template') k) 0
    template.toList template'.toList

instance (m : Markers) (template template' : String) :
    Decidable (CaseVariant m template template') :=
  inferInstanceAs (Decidable (DifferInCase _ _ _ _))

example : ¬CaseVariant ⟨"\x7b", ">a"⟩ "\x7bx>A" "\x7bx>a" := by decide +kernel

/-- Scanning does not depend on the case of names: the same error is met, or tokens that differ in
the case of names alone. -/
theorem tokenize_caseVariant {m : Markers} (hm : m.delimiters.Neutral) {template template' : String}
    (h : CaseVariant m template template') :
    (∃ e, tokenize m template = .error e ∧ tokenize m template' = .error e) ∨
      ∃ ts ts', tokenize m template = .ok ts ∧ tokenize m template' = .ok ts' ∧
        List.Forall₂ Token.Alike ts ts' := by
  have hstart : Scanner.Lockstep m.delimiters (.start template.toList) (.start template'.toList) :=
    ⟨rfl, rfl, rfl, rfl, h⟩
  exact hstart.exists_tokens hm

end BlockTemplate
