import BlockTemplate.Proofs.Syntax.Reading
import BlockTemplate.Proofs.Token.NeutralMarkers
import BlockTemplate.Syntax.Printer

/-!
# Reading back what is printed

The text of a block between neutral markers is a template of that one block. Scanning finds the
leaves of a derivation of the block, and reading such leaves gives the block.

## Implementation notes

The offsets between the tokens are left open: where a run ends follows from the text it has used.

Main statement: `parse_printed`.
-/

namespace BlockTemplate

open Grammar

/-- A letter or an underscore, then letters, digits, underscores, number signs and points. -/
def IsName (s : String) : Prop :=
  ∃ c cs, s.toList = c :: cs ∧ isNameStart c = true ∧ ∀ x ∈ cs, isNameChar x = true

theorem isName_iff {name : String} : IsName name ↔
    (name.toList.head?.any isNameStart && name.toList.tail.all isNameChar) = true := by
  rw [IsName]
  cases name.toList with
  | nil => simp
  | cons c cs =>
      simp only [List.head?_cons, Option.any_some, List.tail_cons, Bool.and_eq_true,
        List.all_eq_true, List.cons.injEq]
      constructor
      · rintro ⟨_, _, ⟨rfl, rfl⟩, hname⟩
        exact hname
      · exact fun hname => ⟨c, cs, ⟨rfl, rfl⟩, hname⟩

instance (name : String) : Decidable (IsName name) := decidable_of_iff _ isName_iff.symm

/-- Digits, at least one, perhaps after a sign. -/
def IsNumber (s : String) : Prop :=
  ∃ sign digits, s.toList = sign ++ digits ∧ sign ∈ [[], ['+'], ['-']] ∧ digits ≠ [] ∧
    ∀ x ∈ digits, x.isDigit = true

/-- Names and numbers are spelled as the scanner takes them; strings are arbitrary. -/
inductive Expr.Spellable : Expr → Prop
  | ident {name : String} (isName : IsName name) : Spellable (.ident name)
  | call {name : String} {args : List Expr} (isName : IsName name)
      (all : ∀ e ∈ args, Spellable e) : Spellable (.call name args)
  | string (value : String) : Spellable (.string value)
  | number {literal : String} (isNumber : IsNumber literal) : Spellable (.number literal)

def Block.Spellable (b : Block) : Prop := ∀ e ∈ b.chain, e.Spellable

/-! ### Leaves -/

variable {d : Delimiters}

/-- A spelled lexeme is found after blanks. -/
theorem exists_leaf (hd : d.Neutral) {sk : List Char} (hsk : ∀ x ∈ sk, isBlockBlank x = true)
    {lx : Lexeme} {rest : List Char} (h : Spelled lx rest) (offset : Nat) :
    ∃ (leaf : Leaf lx.kind) (stop : Nat), leaf.1.value = String.ofList lx.value ∧
      Scanner.Finds d (.inside (sk ++ (lx.text ++ rest)) offset) [leaf.1] (.inside rest stop) := by
  have hscan := scan_inside_of_spelled hd hsk h
  have hnext := Scanner.next?_eq_token_iff (s := .inside (sk ++ (lx.text ++ rest)) offset)
    |>.2 ⟨rfl, sk, lx, .inside, rest, hscan, rfl, rfl⟩
  exact ⟨⟨_, rfl⟩, _, rfl, .cons hnext (.nil _)⟩

/-- A punctuation character is found where it stands. -/
theorem exists_mark (hd : d.Neutral) {c : Char} {kind : TokenKind}
    (h : punctuation? c = some kind) (hkind : kind ≠ .greater) (rest : List Char)
    (offset : Nat) :
    ∃ (leaf : Leaf kind) (stop : Nat),
      Scanner.Finds d (.inside (c :: rest) offset) [leaf.1] (.inside rest stop) := by
  obtain ⟨leaf, stop, -, hfinds⟩ :=
    exists_leaf hd (List.forall_mem_nil _) (.punctuation h hkind rest) offset
  exact ⟨leaf, stop, hfinds⟩

theorem IsName.spelled {name : String} (h : IsName name) {rest : List Char}
    (hrest : EndsRun isNameChar rest) : Spelled (.plain .ident name.toList) rest := by
  obtain ⟨c, cs, hname, hstart, hmore⟩ := h
  rw [hname]
  exact .name hstart hmore hrest

theorem IsNumber.spelled {literal : String} (h : IsNumber literal) {rest : List Char}
    (hrest : EndsRun isNameChar rest) : Spelled (.plain .number literal.toList) rest := by
  obtain ⟨sign, digits, hliteral, hsign, hne, hdigits⟩ := h
  rw [hliteral]
  exact .number hsign hne hdigits hrest

theorem spelled_quote (value rest : List Char) :
    Spelled ⟨.string, value, Escape.quote value⟩ rest := by
  have hcloses := ((Escape.enclosed_iff (by decide) rest).1 (Escape.enclosed_escaped value)).1
  exact .quoted (by simp) hcloses (Escape.translate_escaped value)

/-! ### Expressions -/

theorem endsRun_cons {p : Char → Bool} {c : Char} (h : p c = false) (rest : List Char) :
    EndsRun p (c :: rest) := by
  intro x hx
  obtain rfl : c = x := by simpa using hx
  exact h

/-- Scanned after blanks and before text in which no name goes on, an expression as it is spelled
gives the leaves of a tree of that expression. -/
def ScansBack (d : Delimiters) (e : Expr) : Prop :=
  ∀ (sk rest : List Char) (offset : Nat), (∀ x ∈ sk, isBlockBlank x = true) →
    EndsRun isNameChar rest → ∃ (tree : ExprTree) (stop : Nat), tree.expr = e ∧
      Scanner.Finds d (.inside (sk ++ (e.spell ++ rest)) offset) tree.tokens (.inside rest stop)

theorem endsRun_spellMoreArgs (es : List Expr) (rest : List Char) :
    EndsRun isNameChar (Expr.spellMoreArgs es ++ ')' :: rest) := by
  cases es with
  | nil => exact endsRun_cons (by decide) _
  | cons e es =>
      rw [Expr.spellMoreArgs]
      exact endsRun_cons (by decide) _

theorem exists_moreTree (hd : d.Neutral) {es : List Expr} (h : ∀ e ∈ es, ScansBack d e)
    (rest : List Char) (offset : Nat) :
    ∃ (m : MoreTree) (stop : Nat), m.exprs = es ∧
      Scanner.Finds d (.inside (Expr.spellMoreArgs es ++ ')' :: rest) offset) m.tokens
        (.inside (')' :: rest) stop) := by
  induction es generalizing offset with
  | nil => exact ⟨.nil, offset, rfl, .nil _⟩
  | cons e es ih =>
      obtain ⟨comma, o₁, hcomma⟩ := exists_mark hd (c := ',') rfl (by decide)
        (' ' :: (e.spell ++ (Expr.spellMoreArgs es ++ ')' :: rest))) offset
      have hblank : ∀ x ∈ [' '], isBlockBlank x = true := List.forall_mem_singleton.2 rfl
      obtain ⟨arg, o₂, harg, hfinds⟩ := h e List.mem_cons_self [' '] _ o₁ hblank
        (endsRun_spellMoreArgs es rest)
      obtain ⟨more, o₃, hmore, hrest⟩ := ih (fun x hx => h x (List.mem_cons_of_mem _ hx)) o₂
      refine ⟨.cons comma arg more, o₃, by simp only [MoreTree.exprs, harg, hmore], ?_⟩
      simpa [Expr.spellMoreArgs, MoreTree.tokens, Lexeme.plain] using
        hcomma.append (hfinds.append hrest)

theorem exists_argsTree (hd : d.Neutral) {es : List Expr} (h : ∀ e ∈ es, ScansBack d e)
    (rest : List Char) (offset : Nat) :
    ∃ (a : ArgsTree) (stop : Nat), a.exprs = es ∧
      Scanner.Finds d (.inside (Expr.spellArgs es ++ ')' :: rest) offset) a.tokens
        (.inside (')' :: rest) stop) := by
  cases es with
  | nil => exact ⟨.none, offset, rfl, .nil _⟩
  | cons e es =>
      obtain ⟨first, o₁, hfirst, hfinds⟩ := h e List.mem_cons_self [] _ offset
        (List.forall_mem_nil _) (endsRun_spellMoreArgs es rest)
      obtain ⟨more, o₂, hmore, hrest⟩ := exists_moreTree hd
        (fun x hx => h x (List.mem_cons_of_mem _ hx)) rest o₁
      refine ⟨.some first more, o₂, by simp only [ArgsTree.exprs, hfirst, hmore], ?_⟩
      simpa [Expr.spellArgs, ArgsTree.tokens] using hfinds.append hrest

theorem scansBack (hd : d.Neutral) {e : Expr} (h : e.Spellable) : ScansBack d e := by
  induction h with
  | @ident name isName =>
      intro sk rest offset hsk hrest
      obtain ⟨leaf, stop, hvalue, hfinds⟩ := exists_leaf hd hsk (isName.spelled hrest) offset
      exact ⟨.name leaf, stop, by simp [ExprTree.expr, hvalue, Lexeme.plain], hfinds⟩
  | @call name args isName _ ih =>
      intro sk rest offset hsk hrest
      obtain ⟨leaf, o₁, hvalue, hname⟩ := exists_leaf hd hsk
        (isName.spelled (endsRun_cons (c := '(') (by decide)
          (Expr.spellArgs args ++ ')' :: rest))) offset
      obtain ⟨opening, o₂, hopening⟩ := exists_mark hd (c := '(') rfl (by decide)
        (Expr.spellArgs args ++ ')' :: rest) o₁
      obtain ⟨a, o₃, hexprs, hargs⟩ := exists_argsTree hd ih rest o₂
      obtain ⟨closing, o₄, hclosing⟩ := exists_mark hd (c := ')') rfl (by decide) rest o₃
      refine ⟨.call leaf opening a closing, o₄, ?_, ?_⟩
      · simp [ExprTree.expr, hvalue, hexprs, Lexeme.plain]
      · simpa [Expr.spell, ExprTree.tokens, Lexeme.plain] using
          hname.append (hopening.append (hargs.append hclosing))
  | string value =>
      intro sk rest offset hsk _
      obtain ⟨leaf, stop, hvalue, hfinds⟩ := exists_leaf hd hsk
        (spelled_quote value.toList rest) offset
      exact ⟨.string leaf, stop, by simp [ExprTree.expr, hvalue], hfinds⟩
  | @number literal isNumber =>
      intro sk rest offset hsk hrest
      obtain ⟨leaf, stop, hvalue, hfinds⟩ := exists_leaf hd hsk (isNumber.spelled hrest) offset
      exact ⟨.number leaf, stop, by simp [ExprTree.expr, hvalue, Lexeme.plain], hfinds⟩

/-! ### Blocks -/

/-- No name goes on in a neutral closing marker. -/
theorem Delimiters.Neutral.endsRun_closing (hd : d.Neutral) : EndsRun isNameChar d.closing := by
  intro c hc
  have hfirst : d.closing.head d.closing_ne_nil = c := by
    rw [List.head_eq_iff_head?_eq_some]
    exact hc
  by_contra hname
  have hneutral := hd.2
  rw [hfirst, isBlockChar_of_isNameChar (by simpa using hname)] at hneutral
  cases hneutral

theorem endsRun_spellFilters (hd : d.Neutral) (es : List Expr) (rest : List Char) :
    EndsRun isNameChar (Expr.spellFilters es ++ (d.closing ++ rest)) := by
  cases es with
  | nil => exact Spelled.endsRun_append hd.endsRun_closing d.closing_ne_nil rest
  | cons e es =>
      rw [Expr.spellFilters]
      exact endsRun_cons (by decide) _

theorem exists_filtersTree (hd : d.Neutral) {es : List Expr} (h : ∀ e ∈ es, ScansBack d e)
    (rest : List Char) (offset : Nat) :
    ∃ (fs : FiltersTree) (stop : Nat), (fs.map fun f => f.2.expr) = es ∧
      Scanner.Finds d (.inside (Expr.spellFilters es ++ (d.closing ++ rest)) offset)
        (FiltersTree.tokens fs) (.inside (d.closing ++ rest) stop) := by
  induction es generalizing offset with
  | nil => exact ⟨[], offset, rfl, .nil _⟩
  | cons e es ih =>
      obtain ⟨bar, o₁, hbar⟩ := exists_mark hd (c := '|') rfl (by decide)
        (e.spell ++ (Expr.spellFilters es ++ (d.closing ++ rest))) offset
      obtain ⟨filter, o₂, hfilter, hfinds⟩ := h e List.mem_cons_self [] _ o₁ (List.forall_mem_nil _)
        (endsRun_spellFilters hd es rest)
      obtain ⟨fs, o₃, hfs, hrest⟩ := ih (fun x hx => h x (List.mem_cons_of_mem _ hx)) o₂
      refine ⟨(bar, filter) :: fs, o₃, by simp [hfilter, hfs], ?_⟩
      simpa [Expr.spellFilters, FiltersTree.tokens, Lexeme.plain] using
        hbar.append (hfinds.append hrest)

theorem exists_question (hd : d.Neutral) (optional : Bool) (rest : List Char) (offset : Nat) :
    ∃ (q : Option (Leaf .question)) (stop : Nat), q.isSome = optional ∧
      Scanner.Finds d (.inside ((if optional then ['?'] else []) ++ rest) offset)
        (q.toList.map Subtype.val) (.inside rest stop) := by
  cases optional with
  | false => exact ⟨none, offset, rfl, .nil _⟩
  | true =>
      obtain ⟨leaf, stop, hfinds⟩ := exists_mark hd (c := '?') rfl (by decide) rest offset
      exact ⟨some leaf, stop, rfl, hfinds⟩

theorem exists_opening (d : Delimiters) (rest : List Char) (offset : Nat) :
    ∃ (leaf : Leaf .blockOpen) (stop : Nat), leaf.1.span.start = offset ∧
      Scanner.Finds d (.outside (d.opening ++ rest) offset) [leaf.1]
        (.inside rest stop) :=
  ⟨⟨_, rfl⟩, _, rfl, .cons (Scanner.next?_opening d rest offset) (.nil _)⟩

theorem exists_closing (hd : d.Neutral) (rest : List Char) (offset : Nat) :
    ∃ leaf : Leaf .blockClose, Scanner.Finds d (.inside (d.closing ++ rest) offset) [leaf.1]
      (.outside rest leaf.1.span.stop) :=
  ⟨⟨_, rfl⟩, .cons (Scanner.next?_closing hd.closingUnskipped rest offset) (.nil _)⟩

/-- Between its markers, a block as it is spelled gives the leaves of a tree of that block, wherever
it stands. -/
theorem exists_blockTree_append (hd : d.Neutral) {b : Block} (hb : b.Spellable)
    (rest : List Char) (offset : Nat) :
    ∃ (tree : BlockTree), tree.toBlock = b ∧ tree.opening.1.span.start = offset ∧
      Scanner.Finds d (.outside (d.opening ++ (b.spell ++ (d.closing ++ rest))) offset) tree.tokens
        (.outside rest tree.closing.1.span.stop) := by
  have hspells : ∀ e ∈ b.chain, ScansBack d e := fun e he => scansBack hd (hb e he)
  obtain ⟨opening, o₁, hstart, hopening⟩ :=
    exists_opening d (b.spell ++ (d.closing ++ rest)) offset
  obtain ⟨question, o₂, hoptional, hquestion⟩ := exists_question hd b.optional
    (b.head.spell ++ (Expr.spellFilters b.filters ++ (d.closing ++ rest))) o₁
  obtain ⟨head, o₃, hhead, hfinds⟩ := hspells b.head List.mem_cons_self [] _ o₂
    (List.forall_mem_nil _) (endsRun_spellFilters hd b.filters rest)
  obtain ⟨filters, o₄, hfilters, hrest⟩ := exists_filtersTree hd
    (fun e he => hspells e (List.mem_cons_of_mem _ he)) rest o₃
  obtain ⟨closing, hclosing⟩ := exists_closing hd rest o₄
  refine ⟨⟨opening, question, head, filters, closing⟩, ?_, hstart, ?_⟩
  · simp only [BlockTree.toBlock, hoptional, hhead, hfilters]
  · have hbody := hquestion.append (hfinds.append (hrest.append hclosing))
    apply hopening.append
    simpa [Block.spell] using hbody

theorem exists_blockTree (hd : d.Neutral) {b : Block} (hb : b.Spellable) :
    ∃ (tree : BlockTree), tree.toBlock = b ∧ tree.opening.1.span.start = 0 ∧
      Scanner.Finds d (.start (d.opening ++ (b.spell ++ d.closing))) tree.tokens
        (.outside [] tree.closing.1.span.stop) := by
  simpa [Scanner.start, Scanner.outside] using exists_blockTree_append hd hb [] 0

theorem Markers.opening_standard : standard.delimiters.opening = ['\x7b'] := by decide +kernel

theorem Markers.closing_standard : standard.delimiters.closing = ['\x7d'] := by decide +kernel

theorem Markers.neutral_standard : standard.delimiters.Neutral := by decide +kernel

/-- A source that spells a block between neutral markers is a template of that one block. -/
theorem parse_spelled {m : Markers} (hm : m.delimiters = d) (hd : d.Neutral) {b : Block}
    (hb : b.Spellable) {source : String}
    (hsource : source.toList = d.opening ++ (b.spell ++ d.closing)) :
    Template.parse m source = .ok [⟨.block b, ⟨0, Text.byteLength source.toList⟩⟩] := by
  obtain ⟨tree, hblock, hstart, hfinds⟩ := exists_blockTree hd hb
  rw [← hsource, ← hm] at hfinds
  obtain ⟨used, hused, hoffset⟩ := hfinds.exists_used
  obtain rfl : source.toList = used := by simpa [Scanner.start] using hused
  have hstop : tree.closing.1.span.stop = Text.byteLength source.toList := by
    simpa [Scanner.start] using hoffset
  rw [← hblock, ← hstop, ← hstart]
  apply Template.parse_eq_ok_iff.2
  refine ⟨tree.tokens, Scanner.tokens_eq_ok_iff.2 ⟨_, hfinds, rfl⟩, ?_⟩
  exact TokenMachine.run_eq_ok_iff.2 (TokenMachine.reads_nodeTree (.block tree))

/-- A block that is printed between neutral markers is parsed back: the template has that one
block and spans the whole text. -/
theorem parse_printed {m : Markers} (hm : m.delimiters.Neutral) {b : Block}
    (hb : b.Spellable) :
    Template.parse m (String.ofList m.delimiters.opening ++ b.text ++
        String.ofList m.delimiters.closing) =
      .ok [⟨.block b, ⟨0, Text.byteLength (m.delimiters.opening ++ b.spell ++
        m.delimiters.closing)⟩⟩] := by
  obtain ⟨tree, hblock, hstart, hfinds⟩ := exists_blockTree hm hb
  have hstop : tree.closing.1.span.stop =
      Text.byteLength (m.delimiters.opening ++ b.spell ++ m.delimiters.closing) := by
    obtain ⟨used, hused, hoffset⟩ := hfinds.exists_used
    have htext : m.delimiters.opening ++ b.spell ++ m.delimiters.closing = used := by
      simpa [Scanner.start] using hused
    rw [htext]
    simpa [Scanner.start] using hoffset
  have htokens : tokenize m (String.ofList m.delimiters.opening ++ b.text ++
      String.ofList m.delimiters.closing) = .ok tree.tokens := by
    rw [Scanner.tokenize_eq, Scanner.tokens_eq_ok_iff]
    refine ⟨.outside [] tree.closing.1.span.stop, ?_, rfl⟩
    simpa [Block.text] using hfinds
  have hread : Template.ofTokens tree.tokens = .ok [(NodeTree.block tree).placed] :=
    TokenMachine.run_eq_ok_iff.2 (TokenMachine.reads_nodeTree (.block tree))
  rw [Template.parse, htokens]
  simp only [hread, NodeTree.placed, hblock, hstart, hstop]

/-- Equal markers around a block with nested calls and a string that holds the marker. -/
theorem parse_printed_equal_markers :
    let m : Markers := ⟨"«%", "«%"⟩
    let b : Block := ⟨true, .call "f" [.string "«%\"\\", .call "g.x" [], .number "-12"],
      [.ident "upper_#"]⟩
    m.delimiters.Neutral ∧ b.Spellable ∧
      b.text = "?f(\"«%\\\"\\\\\", g.x(), -12)|upper_#" ∧
      Template.parse m (String.ofList m.delimiters.opening ++ b.text ++
          String.ofList m.delimiters.closing) = .ok [⟨.block b, ⟨0, 39⟩⟩] := by
  intro m b
  have hm : m.delimiters.Neutral := by decide +kernel
  have hname (c : Char) (cs : List Char) (hc : isNameStart c = true)
      (hcs : cs.all isNameChar = true) : IsName (String.ofList (c :: cs)) :=
    ⟨c, cs, String.toList_ofList, hc, List.all_eq_true.1 hcs⟩
  have hb : b.Spellable := by
    have hnumber : IsNumber "-12" := ⟨['-'], ['1', '2'], by decide +kernel, by decide, by decide,
      List.all_eq_true.1 (by decide)⟩
    have hg : Expr.Spellable (.call "g.x" []) :=
      .call (hname 'g' ['.', 'x'] rfl rfl) (by simp)
    have hf : Expr.Spellable b.head := by
      apply Expr.Spellable.call (hname 'f' [] rfl rfl)
      simpa using ⟨.string _, hg, .number hnumber⟩
    have hupper : Expr.Spellable (.ident "upper_#") :=
      .ident (hname 'u' ['p', 'p', 'e', 'r', '_', '#'] rfl rfl)
    simpa [Block.Spellable, Block.chain, b] using ⟨hf, hupper⟩
  have hstop : Text.byteLength (m.delimiters.opening ++ b.spell ++ m.delimiters.closing) = 39 := by
    decide +kernel
  have hparse := parse_printed hm hb
  rw [hstop] at hparse
  exact ⟨hm, hb, by decide +kernel, hparse⟩

end BlockTemplate
