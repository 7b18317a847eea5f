import BlockTemplate.Syntax
import BlockTemplate.Token

/-!
# Derivations from the grammar of templates

    template := (rawText | block)*
    block    := blockOpen '?'? expr ('|' expr)* blockClose
    expr     := string | number | ident ('(' (expr (',' expr)*)? ')')?

A derivation is a tree with one constructor for each way a rule can be applied. The tokens at its
leaves, from left to right, are the sequence it derives, and the tree says which template that
sequence spells.

## Implementation notes

A leaf carries the proof of its kind, so every tree is a derivation. What may follow an expression
is never part of it: this is why a sequence has at most one derivation (`templateTree_unique`).
-/

namespace BlockTemplate.Grammar

/-- A token of the kind that a rule asks for. -/
abbrev Leaf (kind : TokenKind) := { t : Token // t.kind = kind }

theorem Leaf.val_ne {k k' : TokenKind} (h : k ≠ k') (a : Leaf k) (b : Leaf k') : a.1 ≠ b.1 := by
  intro hab
  exact h (a.2.symm.trans ((congrArg Token.kind hab).trans b.2))

mutual

/-- Derivations of `expr`. -/
inductive ExprTree where
  | string (leaf : Leaf .string)
  | number (leaf : Leaf .number)
  | name (leaf : Leaf .ident)
  | call (name : Leaf .ident) (opening : Leaf .bracketOpen) (args : ArgsTree)
      (closing : Leaf .bracketClose)

/-- Derivations of `(expr (',' expr)*)?`. -/
inductive ArgsTree where
  | none
  | some (first : ExprTree) (more : MoreTree)

/-- Derivations of `(',' expr)*`. -/
inductive MoreTree where
  | nil
  | cons (comma : Leaf .comma) (arg : ExprTree) (more : MoreTree)

end

/-- Derivations of `('|' expr)*`. -/
abbrev FiltersTree := List (Leaf .filter × ExprTree)

/-- Derivations of `block`. -/
structure BlockTree where
  opening : Leaf .blockOpen
  question : Option (Leaf .question)
  head : ExprTree
  filters : FiltersTree
  closing : Leaf .blockClose

/-- Derivations of `rawText | block`. -/
inductive NodeTree where
  | raw (leaf : Leaf .rawText)
  | block (tree : BlockTree)

/-- Derivations of `template`. -/
abbrev TemplateTree := List NodeTree

/-! ### The derived sequence -/

mutual

/-- The leaves of a tree from left to right. -/
def ExprTree.tokens : ExprTree → List Token
  | .string leaf => [leaf.1]
  | .number leaf => [leaf.1]
  | .name leaf => [leaf.1]
  | .call name opening args closing => name.1 :: opening.1 :: (args.tokens ++ [closing.1])

@[inherit_doc ExprTree.tokens]
def ArgsTree.tokens : ArgsTree → List Token
  | .none => []
  | .some first more => first.tokens ++ more.tokens

@[inherit_doc ExprTree.tokens]
def MoreTree.tokens : MoreTree → List Token
  | .nil => []
  | .cons comma arg more => comma.1 :: (arg.tokens ++ more.tokens)

end

@[inherit_doc ExprTree.tokens]
def FiltersTree.tokens : FiltersTree → List Token
  | [] => []
  | (bar, e) :: filters => bar.1 :: (e.tokens ++ FiltersTree.tokens filters)

@[inherit_doc ExprTree.tokens]
def BlockTree.tokens (b : BlockTree) : List Token :=
  b.opening.1 :: (b.question.toList.map Subtype.val ++
    (b.head.tokens ++ (FiltersTree.tokens b.filters ++ [b.closing.1])))

@[inherit_doc ExprTree.tokens]
def NodeTree.tokens : NodeTree → List Token
  | .raw leaf => [leaf.1]
  | .block tree => tree.tokens

@[inherit_doc ExprTree.tokens]
def TemplateTree.tokens (tree : TemplateTree) : List Token := tree.flatMap NodeTree.tokens

/-- The grammar is about kinds alone: a sequence of kinds is derivable when some tree has leaves
of these kinds. -/
def Derivable (kinds : List TokenKind) : Prop :=
  ∃ tree : TemplateTree, (TemplateTree.tokens tree).map (·.kind) = kinds

/-! ### The derived template -/

mutual

/-- The expression that a tree spells. -/
def ExprTree.expr : ExprTree → Expr
  | .string leaf => .string leaf.1.value
  | .number leaf => .number leaf.1.value
  | .name leaf => .ident leaf.1.value
  | .call name _ args _ => .call name.1.value args.exprs

/-- The arguments that a tree spells, in order. -/
def ArgsTree.exprs : ArgsTree → List Expr
  | .none => []
  | .some first more => first.expr :: more.exprs

@[inherit_doc ArgsTree.exprs]
def MoreTree.exprs : MoreTree → List Expr
  | .nil => []
  | .cons _ arg more => arg.expr :: more.exprs

end

/-- A block is optional when its question mark is there, and its filters are in order. -/
def BlockTree.toBlock (b : BlockTree) : Block :=
  ⟨b.question.isSome, b.head.expr, b.filters.map fun f => f.2.expr⟩

/-- A block spans everything from the start of its opening marker to the end of its closing one;
raw text spans its token. -/
def NodeTree.placed : NodeTree → Placed
  | .raw leaf => ⟨.raw leaf.1.value, leaf.1.span⟩
  | .block tree => ⟨.block tree.toBlock, ⟨tree.opening.1.span.start, tree.closing.1.span.stop⟩⟩

/-- One node for each raw text and each block, in order. -/
def TemplateTree.template (tree : TemplateTree) : Template := tree.map NodeTree.placed

/-! ### Uniqueness -/

/-- The kinds that an expression starts with. -/
def BeginsExpr (k : TokenKind) : Prop := k = .string ∨ k = .number ∨ k = .ident

theorem ExprTree.exists_first (e : ExprTree) :
    ∃ t ts, e.tokens = t :: ts ∧ BeginsExpr t.kind := by
  cases e with
  | string leaf => exact ⟨leaf.1, _, rfl, Or.inl leaf.2⟩
  | number leaf => exact ⟨leaf.1, _, rfl, Or.inr (Or.inl leaf.2)⟩
  | name leaf => exact ⟨leaf.1, _, rfl, Or.inr (Or.inr leaf.2)⟩
  | call name opening args closing => exact ⟨name.1, _, rfl, Or.inr (Or.inr name.2)⟩

theorem ExprTree.tokens_ne_nil (e : ExprTree) : e.tokens ≠ [] := by
  obtain ⟨t, ts, h, -⟩ := e.exists_first
  simp [h]

/-- What is left after an expression is shorter by at least its first token. -/
theorem ExprTree.length_lt_of_append (e : ExprTree) {t : Token} {ts rest : List Token}
    (h : t :: ts = e.tokens ++ rest) : rest.length < ts.length + 1 := by
  have hlen := congrArg List.length h
  have hpos := List.length_pos_iff.2 e.tokens_ne_nil
  simp only [List.length_cons, List.length_append] at hlen
  omega

/-- What follows starts with none of the given kinds. -/
def StartsWithout (kinds : List TokenKind) (rest : List Token) : Prop :=
  ∀ t ∈ rest.head?, t.kind ∉ kinds

theorem startsWithout_cons {kinds : List TokenKind} {t : Token} {rest : List Token} :
    StartsWithout kinds (t :: rest) ↔ t.kind ∉ kinds := by
  simp [StartsWithout]

theorem MoreTree.startsWithout_bracketOpen (m : MoreTree) {rest : List Token}
    (h : StartsWithout [.bracketOpen] rest) : StartsWithout [.bracketOpen] (m.tokens ++ rest) := by
  cases m with
  | nil => exact h
  | cons comma arg more =>
      simp [MoreTree.tokens, startsWithout_cons, comma.2]

mutual

/-- An expression ends where the tree says when no bracket follows. -/
theorem ExprTree.eq_of_append_eq : ∀ (e e' : ExprTree) {rest rest' : List Token},
    e.tokens ++ rest = e'.tokens ++ rest' → StartsWithout [.bracketOpen] rest →
      StartsWithout [.bracketOpen] rest' → e = e' ∧ rest = rest'
  | .string leaf, e', rest, rest', h, _, _ => by
      cases e' with
      | string leaf' =>
          obtain ⟨hl, hr⟩ := List.cons.inj h
          exact ⟨congrArg _ (Subtype.ext hl), hr⟩
      | number leaf' | name leaf' | call leaf' _ _ _ =>
          exact absurd (List.cons.inj h).1 (Leaf.val_ne (by decide) _ _)
  | .number leaf, e', rest, rest', h, _, _ => by
      cases e' with
      | number leaf' =>
          obtain ⟨hl, hr⟩ := List.cons.inj h
          exact ⟨congrArg _ (Subtype.ext hl), hr⟩
      | string leaf' | name leaf' | call leaf' _ _ _ =>
          exact absurd (List.cons.inj h).1 (Leaf.val_ne (by decide) _ _)
  | .name leaf, e', rest, rest', h, hr, _ => by
      cases e' with
      | string leaf' | number leaf' =>
          exact absurd (List.cons.inj h).1 (Leaf.val_ne (by decide) _ _)
      | name leaf' =>
          obtain ⟨hl, hr⟩ := List.cons.inj h
          exact ⟨congrArg _ (Subtype.ext hl), hr⟩
      | call name opening args closing =>
          have hrest : rest = opening.1 :: (args.tokens ++ [closing.1] ++ rest') :=
            (List.cons.inj h).2
          rw [hrest, startsWithout_cons, opening.2] at hr
          simp at hr
  | .call name opening args closing, e', rest, rest', h, _, hr' => by
      cases e' with
      | string leaf' | number leaf' =>
          exact absurd (List.cons.inj h).1 (Leaf.val_ne (by decide) _ _)
      | name leaf' =>
          have hrest : opening.1 :: (args.tokens ++ [closing.1] ++ rest) = rest' :=
            (List.cons.inj h).2
          rw [← hrest, startsWithout_cons, opening.2] at hr'
          simp at hr'
      | call name' opening' args' closing' =>
          obtain ⟨hn, h⟩ := List.cons.inj h
          obtain ⟨ho, h⟩ := List.cons.inj h
          have h : args.tokens ++ closing.1 :: rest = args'.tokens ++ closing'.1 :: rest' := by
            simpa using h
          obtain ⟨ha, hc⟩ := ArgsTree.eq_of_append_eq args args' h
          obtain ⟨hc, hrest⟩ := List.cons.inj hc
          exact ⟨by rw [Subtype.ext hn, Subtype.ext ho, ha, Subtype.ext hc], hrest⟩

/-- Arguments end at their closing bracket. -/
theorem ArgsTree.eq_of_append_eq : ∀ (a a' : ArgsTree) {c c' : Leaf .bracketClose}
    {rest rest' : List Token}, a.tokens ++ c.1 :: rest = a'.tokens ++ c'.1 :: rest' →
      a = a' ∧ c.1 :: rest = c'.1 :: rest'
  | .none, a', c, c', rest, rest', h => by
      cases a' with
      | none => exact ⟨rfl, h⟩
      | some first more =>
          obtain ⟨t, ts, ht, hk⟩ := first.exists_first
          have hc : c.1 = t := by
            simp only [ArgsTree.tokens, ht] at h
            exact (List.cons.inj h).1
          simp [BeginsExpr, ← hc, c.2] at hk
  | .some first more, a', c, c', rest, rest', h => by
      have hwithout (x : Leaf .bracketClose) (xs : List Token) (ks : List TokenKind)
          (hk : .bracketClose ∉ ks) : StartsWithout ks (x.1 :: xs) := by
        rwa [startsWithout_cons, x.2]
      cases a' with
      | none =>
          obtain ⟨t, ts, ht, hk⟩ := first.exists_first
          have hc : t = c'.1 := by
            simp only [ArgsTree.tokens, ht] at h
            exact (List.cons.inj h).1
          simp [BeginsExpr, hc, c'.2] at hk
      | some first' more' =>
          simp only [ArgsTree.tokens, List.append_assoc] at h
          obtain ⟨hf, h⟩ := ExprTree.eq_of_append_eq first first' h
            (more.startsWithout_bracketOpen (hwithout c rest _ (by decide)))
            (more'.startsWithout_bracketOpen (hwithout c' rest' _ (by decide)))
          obtain ⟨hm, h⟩ := MoreTree.eq_of_append_eq more more' h
            (hwithout c rest _ (by decide)) (hwithout c' rest' _ (by decide))
          exact ⟨by rw [hf, hm], h⟩

/-- Further arguments end where neither a bracket nor a comma follows. -/
theorem MoreTree.eq_of_append_eq : ∀ (m m' : MoreTree) {rest rest' : List Token},
    m.tokens ++ rest = m'.tokens ++ rest' → StartsWithout [.bracketOpen, .comma] rest →
      StartsWithout [.bracketOpen, .comma] rest' → m = m' ∧ rest = rest'
  | .nil, m', rest, rest', h, hr, _ => by
      cases m' with
      | nil => exact ⟨rfl, h⟩
      | cons comma arg more =>
          have hrest : rest = comma.1 :: (arg.tokens ++ more.tokens ++ rest') := h
          rw [hrest, startsWithout_cons, comma.2] at hr
          simp at hr
  | .cons comma arg more, m', rest, rest', h, hr, hr' => by
      have hweak {ts : List Token} (hts : StartsWithout [.bracketOpen, .comma] ts) :
          StartsWithout [.bracketOpen] ts := fun t ht hk => hts t ht (by simp_all)
      cases m' with
      | nil =>
          have hrest : comma.1 :: (arg.tokens ++ more.tokens ++ rest) = rest' := h
          rw [← hrest, startsWithout_cons, comma.2] at hr'
          simp at hr'
      | cons comma' arg' more' =>
          obtain ⟨hc, h⟩ := List.cons.inj h
          simp only [List.append_eq, List.append_assoc] at h
          have hfollows := more.startsWithout_bracketOpen (hweak hr)
          have hfollows' := more'.startsWithout_bracketOpen (hweak hr')
          obtain ⟨ha, h⟩ := ExprTree.eq_of_append_eq arg arg' h hfollows hfollows'
          obtain ⟨hm, h⟩ := MoreTree.eq_of_append_eq more more' h hr hr'
          exact ⟨by rw [Subtype.ext hc, ha, hm], h⟩

end

theorem FiltersTree.startsWithout_bracketOpen (fs : FiltersTree) (c : Leaf .blockClose)
    (rest : List Token) : StartsWithout [.bracketOpen] (FiltersTree.tokens fs ++ c.1 :: rest) := by
  cases fs with
  | nil => simp [FiltersTree.tokens, startsWithout_cons, c.2]
  | cons f fs => simp [FiltersTree.tokens, startsWithout_cons, f.1.2]

/-- Filters end at the closing marker. -/
theorem FiltersTree.eq_of_append_eq (fs fs' : FiltersTree) {c c' : Leaf .blockClose}
    {rest rest' : List Token}
    (h : FiltersTree.tokens fs ++ c.1 :: rest = FiltersTree.tokens fs' ++ c'.1 :: rest') :
    fs = fs' ∧ c = c' ∧ rest = rest' := by
  induction fs generalizing fs' with
  | nil =>
      cases fs' with
      | nil =>
          obtain ⟨hc, hrest⟩ := List.cons.inj h
          exact ⟨rfl, Subtype.ext hc, hrest⟩
      | cons f fs' => exact absurd (List.cons.inj h).1 (Leaf.val_ne (by decide) _ _)
  | cons f fs ih =>
      cases fs' with
      | nil => exact absurd (List.cons.inj h).1 (Leaf.val_ne (by decide) _ _)
      | cons f' fs' =>
          obtain ⟨hbar, h⟩ := List.cons.inj h
          simp only [List.append_eq, List.append_assoc] at h
          obtain ⟨he, h⟩ := ExprTree.eq_of_append_eq f.2 f'.2 h
            (startsWithout_bracketOpen fs c rest) (startsWithout_bracketOpen fs' c' rest')
          obtain ⟨hfs, hc⟩ := ih fs' h
          exact ⟨by rw [Prod.ext (Subtype.ext hbar) he, hfs], hc⟩

/-- The question mark of a block is the token after its opening marker, if it is one at all. -/
theorem question_eq_of_append_eq (q q' : Option (Leaf .question)) (e e' : ExprTree)
    {rest rest' : List Token}
    (h : q.toList.map Subtype.val ++ (e.tokens ++ rest) =
      q'.toList.map Subtype.val ++ (e'.tokens ++ rest')) :
    q = q' ∧ e.tokens ++ rest = e'.tokens ++ rest' := by
  have hclash (x : Leaf .question) (y : ExprTree) {r r' : List Token} :
      x.1 :: r ≠ y.tokens ++ r' := by
    obtain ⟨t, ts, ht, hk⟩ := y.exists_first
    rw [ht]
    intro hxy
    simp [BeginsExpr, ← (List.cons.inj hxy).1, x.2] at hk
  cases q with
  | none =>
      cases q' with
      | none => exact ⟨rfl, h⟩
      | some x => exact absurd h.symm (hclash x e)
  | some x =>
      cases q' with
      | none => exact absurd h (hclash x e')
      | some x' =>
          obtain ⟨hx, h⟩ := List.cons.inj h
          exact ⟨congrArg some (Subtype.ext hx), h⟩

theorem BlockTree.eq_of_append_eq (b b' : BlockTree) {rest rest' : List Token}
    (h : b.tokens ++ rest = b'.tokens ++ rest') : b = b' ∧ rest = rest' := by
  obtain ⟨hopen, h⟩ := List.cons.inj h
  simp only [List.append_eq, List.append_assoc, List.cons_append, List.nil_append] at h
  obtain ⟨hq, h⟩ := question_eq_of_append_eq _ _ _ _ h
  obtain ⟨he, h⟩ := ExprTree.eq_of_append_eq _ _ h
    (FiltersTree.startsWithout_bracketOpen _ _ _) (FiltersTree.startsWithout_bracketOpen _ _ _)
  obtain ⟨hf, hc, hrest⟩ := FiltersTree.eq_of_append_eq _ _ h
  refine ⟨?_, hrest⟩
  cases b
  cases b'
  congr
  exact Subtype.ext hopen

theorem NodeTree.eq_of_append_eq (n n' : NodeTree) {rest rest' : List Token}
    (h : n.tokens ++ rest = n'.tokens ++ rest') : n = n' ∧ rest = rest' := by
  cases n with
  | raw leaf =>
      cases n' with
      | raw leaf' =>
          obtain ⟨hl, hrest⟩ := List.cons.inj h
          exact ⟨congrArg _ (Subtype.ext hl), hrest⟩
      | block b' => exact absurd (List.cons.inj h).1 (Leaf.val_ne (by decide) leaf b'.opening)
  | block b =>
      cases n' with
      | raw leaf' => exact absurd (List.cons.inj h).1 (Leaf.val_ne (by decide) b.opening leaf')
      | block b' =>
          obtain ⟨hb, hrest⟩ := BlockTree.eq_of_append_eq b b' h
          exact ⟨congrArg _ hb, hrest⟩

theorem NodeTree.tokens_ne_nil (n : NodeTree) : n.tokens ≠ [] := by
  cases n <;> simp [NodeTree.tokens, BlockTree.tokens]

/-- A token sequence has at most one derivation. -/
theorem templateTree_unique : Function.Injective TemplateTree.tokens := by
  intro tree
  induction tree with
  | nil =>
      intro tree' h
      cases tree' with
      | nil => rfl
      | cons n' tree' =>
          exact absurd (List.append_eq_nil_iff.1 h.symm).1 n'.tokens_ne_nil
  | cons n tree ih =>
      intro tree' h
      cases tree' with
      | nil => exact absurd (List.append_eq_nil_iff.1 h).1 n.tokens_ne_nil
      | cons n' tree' =>
          obtain ⟨hn, hrest⟩ := NodeTree.eq_of_append_eq n n' h
          rw [hn, ih hrest]

/-! ### Derivability of kinds -/

mutual

/-- Other tokens of the same kinds can stand at the leaves of a tree. -/
theorem ExprTree.exists_relabel : ∀ (e : ExprTree) {ts : List Token},
    ts.map (·.kind) = e.tokens.map (·.kind) → ∃ e' : ExprTree, e'.tokens = ts
  | .string leaf, ts, h => by
      obtain ⟨t, rfl, ht⟩ := List.map_eq_singleton_iff.1 h
      exact ⟨.string ⟨t, ht.trans leaf.2⟩, rfl⟩
  | .number leaf, ts, h => by
      obtain ⟨t, rfl, ht⟩ := List.map_eq_singleton_iff.1 h
      exact ⟨.number ⟨t, ht.trans leaf.2⟩, rfl⟩
  | .name leaf, ts, h => by
      obtain ⟨t, rfl, ht⟩ := List.map_eq_singleton_iff.1 h
      exact ⟨.name ⟨t, ht.trans leaf.2⟩, rfl⟩
  | .call name opening args closing, ts, h => by
      simp only [ExprTree.tokens, List.map_cons, List.map_append, List.map_nil] at h
      obtain ⟨n, ts, rfl, hn, h⟩ := List.map_eq_cons_iff.1 h
      obtain ⟨o, ts, rfl, ho, h⟩ := List.map_eq_cons_iff.1 h
      obtain ⟨as, cs, rfl, ha, hc⟩ := List.map_eq_append_iff.1 h
      obtain ⟨c, rfl, hk⟩ := List.map_eq_singleton_iff.1 hc
      obtain ⟨args', rfl⟩ := ArgsTree.exists_relabel args ha
      exact ⟨.call ⟨n, hn.trans name.2⟩ ⟨o, ho.trans opening.2⟩ args' ⟨c, hk.trans closing.2⟩, rfl⟩

@[inherit_doc ExprTree.exists_relabel]
theorem ArgsTree.exists_relabel : ∀ (a : ArgsTree) {ts : List Token},
    ts.map (·.kind) = a.tokens.map (·.kind) → ∃ a' : ArgsTree, a'.tokens = ts
  | .none, ts, h => ⟨.none, (List.map_eq_nil_iff.1 h).symm⟩
  | .some first more, ts, h => by
      rw [ArgsTree.tokens, List.map_append] at h
      obtain ⟨fs, ms, rfl, hf, hm⟩ := List.map_eq_append_iff.1 h
      obtain ⟨first', rfl⟩ := ExprTree.exists_relabel first hf
      obtain ⟨more', rfl⟩ := MoreTree.exists_relabel more hm
      exact ⟨.some first' more', rfl⟩

@[inherit_doc ExprTree.exists_relabel]
theorem MoreTree.exists_relabel : ∀ (m : MoreTree) {ts : List Token},
    ts.map (·.kind) = m.tokens.map (·.kind) → ∃ m' : MoreTree, m'.tokens = ts
  | .nil, ts, h => ⟨.nil, (List.map_eq_nil_iff.1 h).symm⟩
  | .cons comma arg more, ts, h => by
      rw [MoreTree.tokens, List.map_cons, List.map_append] at h
      obtain ⟨c, ts, rfl, hc, h⟩ := List.map_eq_cons_iff.1 h
      obtain ⟨as, ms, rfl, ha, hm⟩ := List.map_eq_append_iff.1 h
      obtain ⟨arg', rfl⟩ := ExprTree.exists_relabel arg ha
      obtain ⟨more', rfl⟩ := MoreTree.exists_relabel more hm
      exact ⟨.cons ⟨c, hc.trans comma.2⟩ arg' more', rfl⟩

end

theorem FiltersTree.exists_relabel (fs : FiltersTree) {ts : List Token}
    (h : ts.map (·.kind) = (FiltersTree.tokens fs).map (·.kind)) :
    ∃ fs' : FiltersTree, FiltersTree.tokens fs' = ts := by
  induction fs generalizing ts with
  | nil => exact ⟨[], (List.map_eq_nil_iff.1 h).symm⟩
  | cons f fs ih =>
      rw [FiltersTree.tokens, List.map_cons, List.map_append] at h
      obtain ⟨b, ts, rfl, hb, h⟩ := List.map_eq_cons_iff.1 h
      obtain ⟨es, rs, rfl, he, hr⟩ := List.map_eq_append_iff.1 h
      obtain ⟨e', rfl⟩ := f.2.exists_relabel he
      obtain ⟨fs', rfl⟩ := ih hr
      exact ⟨(⟨b, hb.trans f.1.2⟩, e') :: fs', rfl⟩

theorem exists_question_relabel (q : Option (Leaf .question)) {ts : List Token}
    (h : ts.map (·.kind) = (q.toList.map Subtype.val).map (·.kind)) :
    ∃ q' : Option (Leaf .question), q'.toList.map Subtype.val = ts := by
  cases q with
  | none => exact ⟨none, (List.map_eq_nil_iff.1 h).symm⟩
  | some x =>
      obtain ⟨t, rfl, ht⟩ := List.map_eq_singleton_iff.1 h
      exact ⟨some ⟨t, ht.trans x.2⟩, rfl⟩

theorem NodeTree.exists_relabel (n : NodeTree) {ts : List Token}
    (h : ts.map (·.kind) = n.tokens.map (·.kind)) : ∃ n' : NodeTree, n'.tokens = ts := by
  cases n with
  | raw leaf =>
      obtain ⟨t, rfl, ht⟩ := List.map_eq_singleton_iff.1 h
      exact ⟨.raw ⟨t, ht.trans leaf.2⟩, rfl⟩
  | block b =>
      simp only [NodeTree.tokens, BlockTree.tokens, List.map_cons, List.map_append] at h
      obtain ⟨o, ts, rfl, ho, h⟩ := List.map_eq_cons_iff.1 h
      obtain ⟨qs, ts, rfl, hq, h⟩ := List.map_eq_append_iff.1 h
      obtain ⟨es, ts, rfl, he, h⟩ := List.map_eq_append_iff.1 h
      obtain ⟨fs, cs, rfl, hf, hc⟩ := List.map_eq_append_iff.1 h
      obtain ⟨c, rfl, hk⟩ := List.map_eq_singleton_iff.1 hc
      obtain ⟨question, rfl⟩ := exists_question_relabel b.question hq
      obtain ⟨head, rfl⟩ := b.head.exists_relabel he
      obtain ⟨filters, rfl⟩ := FiltersTree.exists_relabel b.filters hf
      exact ⟨.block ⟨⟨o, ho.trans b.opening.2⟩, question, head, filters,
        ⟨c, hk.trans b.closing.2⟩⟩, rfl⟩

theorem TemplateTree.exists_relabel (tree : TemplateTree) {ts : List Token}
    (h : ts.map (·.kind) = (TemplateTree.tokens tree).map (·.kind)) :
    ∃ tree' : TemplateTree, TemplateTree.tokens tree' = ts := by
  induction tree generalizing ts with
  | nil => exact ⟨[], (List.map_eq_nil_iff.1 h).symm⟩
  | cons n tree ih =>
      rw [TemplateTree.tokens, List.flatMap_cons, List.map_append] at h
      obtain ⟨ns, rs, rfl, hn, hr⟩ := List.map_eq_append_iff.1 h
      obtain ⟨n', rfl⟩ := n.exists_relabel hn
      obtain ⟨tree', rfl⟩ := ih hr
      exact ⟨n' :: tree', rfl⟩

/-- The kinds of a token sequence are derivable exactly when the sequence has a derivation. -/
theorem derivable_iff (tokens : List Token) :
    Derivable (tokens.map (·.kind)) ↔ ∃ tree, TemplateTree.tokens tree = tokens := by
  constructor
  · rintro ⟨tree, h⟩
    exact tree.exists_relabel h.symm
  · rintro ⟨tree, rfl⟩
    exact ⟨tree, rfl⟩

end BlockTemplate.Grammar
