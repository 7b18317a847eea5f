import BlockTemplate.Proofs.Syntax.Junction
import BlockTemplate.Proofs.Syntax.PrintedBlock

/-!
# What is read can be spelled

The names and numbers of a template are those that scanning finds, so the blocks of a template are
spellable: their names start with a letter or an underscore, and their numbers are digits after at
most one sign.

Main statement: `Template.spellable_of_parse`.
-/

namespace BlockTemplate

open Grammar

variable {d : Delimiters}

/-- The value of a name or number is spelled the way its kind wants it. -/
def Token.WellSpelled (t : Token) : Prop :=
  (t.kind = .ident → IsName t.value) ∧ (t.kind = .number → IsNumber t.value)

theorem Spelled.wellSpelled {lx : Lexeme} {rest : List Char} (h : Spelled lx rest) (span : Span) :
    Token.WellSpelled ⟨lx.kind, String.ofList lx.value, span⟩ := by
  cases h with
  | punctuation is =>
      have hkind := punctuation?_eq_some is
      constructor <;> rintro rfl <;> simp at hkind
  | @name c cs _ start more =>
      exact ⟨fun _ => ⟨c, cs, String.toList_ofList, start, more⟩, nofun⟩
  | @number sign digits _ signed nonempty decimal =>
      exact ⟨nofun, fun _ => ⟨sign, digits, String.toList_ofList, signed, nonempty, decimal⟩⟩
  | quoted => exact ⟨nofun, nofun⟩

theorem wellSpelled_of_scan {mode m : Mode} {cs sk rest : List Char} {lx : Lexeme}
    (h : scan d mode cs = .found sk lx m rest) (span : Span) :
    Token.WellSpelled ⟨lx.kind, String.ofList lx.value, span⟩ := by
  by_cases hmarker : lx.kind ∈ [TokenKind.rawText, .blockOpen, .blockClose, .greater]
  · constructor <;> intro hk <;> rw [show lx.kind = _ from hk] at hmarker <;> simp at hmarker
  · cases mode with
    | outside =>
        cases finding_scan h with
        | opening | raw => simp [Lexeme.plain] at hmarker
    | inside => exact (spelled_of_scan (by simp_all) h).wellSpelled span

theorem Scanner.Finds.wellSpelled {s s' : Scanner} {ts : List Token} (h : Finds d s ts s') :
    ∀ t ∈ ts, t.WellSpelled := by
  induction h with
  | nil => simp
  | cons head _ ih =>
      obtain ⟨-, sk, lx, m, rest, hscan, rfl, rfl⟩ := next?_eq_token_iff.1 head
      exact List.forall_mem_cons.2 ⟨wellSpelled_of_scan hscan _, ih⟩

mutual

/-- An expression is spellable when the leaves of its tree are. -/
theorem ExprTree.spellable : ∀ e : ExprTree, (∀ t ∈ e.tokens, t.WellSpelled) → e.expr.Spellable
  | .string leaf, _ => .string leaf.1.value
  | .number leaf, h => .number ((h leaf.1 (by simp [ExprTree.tokens])).2 leaf.2)
  | .name leaf, h => .ident ((h leaf.1 (by simp [ExprTree.tokens])).1 leaf.2)
  | .call name opening args closing, h =>
      .call ((h name.1 (by simp [ExprTree.tokens])).1 name.2)
        (ArgsTree.spellable args fun t ht => h t (by simp [ExprTree.tokens, ht]))

@[inherit_doc ExprTree.spellable]
theorem ArgsTree.spellable : ∀ a : ArgsTree, (∀ t ∈ a.tokens, t.WellSpelled) →
    ∀ e ∈ a.exprs, e.Spellable
  | .none, _ => by simp [ArgsTree.exprs]
  | .some first more, h => by
      rw [ArgsTree.exprs]
      exact List.forall_mem_cons.2
        ⟨ExprTree.spellable first fun t ht => h t (by simp [ArgsTree.tokens, ht]),
          MoreTree.spellable more fun t ht => h t (by simp [ArgsTree.tokens, ht])⟩

@[inherit_doc ExprTree.spellable]
theorem MoreTree.spellable : ∀ m : MoreTree, (∀ t ∈ m.tokens, t.WellSpelled) →
    ∀ e ∈ m.exprs, e.Spellable
  | .nil, _ => by simp [MoreTree.exprs]
  | .cons comma arg more, h => by
      rw [MoreTree.exprs]
      exact List.forall_mem_cons.2
        ⟨ExprTree.spellable arg fun t ht => h t (by simp [MoreTree.tokens, ht]),
          MoreTree.spellable more fun t ht => h t (by simp [MoreTree.tokens, ht])⟩

end

theorem FiltersTree.spellable (fs : FiltersTree)
    (h : ∀ t ∈ FiltersTree.tokens fs, t.WellSpelled) : ∀ f ∈ fs, f.2.expr.Spellable := by
  induction fs with
  | nil => simp
  | cons f fs ih =>
      obtain ⟨bar, e⟩ := f
      refine List.forall_mem_cons.2 ⟨?_, ih fun t ht => h t (by simp [FiltersTree.tokens, ht])⟩
      exact ExprTree.spellable e fun t ht => h t (by simp [FiltersTree.tokens, ht])

theorem BlockTree.spellable (b : BlockTree) (h : ∀ t ∈ b.tokens, t.WellSpelled) :
    b.toBlock.Spellable := by
  have hhead : b.head.expr.Spellable :=
    ExprTree.spellable b.head fun t ht => h t (by simp [BlockTree.tokens, ht])
  have hfilters : ∀ f ∈ b.filters, f.2.expr.Spellable :=
    FiltersTree.spellable b.filters fun t ht => h t (by simp [BlockTree.tokens, ht])
  intro e he
  rcases List.mem_cons.1 he with rfl | he
  · exact hhead
  · obtain ⟨f, hf, rfl⟩ := List.mem_map.1 he
    exact hfilters f hf

/-- The blocks of a template that is read can be spelled. -/
theorem Template.spellable_of_parse {m : Markers} {source : String} {template : Template}
    (h : Template.parse m source = .ok template) :
    ∀ n ∈ template, ∀ b, n.node = .block b → b.Spellable := by
  obtain ⟨tokens, htokens, hread⟩ := Template.parse_eq_ok_iff.1 h
  obtain ⟨p, hfinds, -⟩ := Scanner.tokens_eq_ok_iff.1 htokens
  obtain ⟨tree, rfl, rfl⟩ := TokenMachine.templateTree_of_reads (TokenMachine.run_eq_ok_iff.1 hread)
  intro n hn b hb
  obtain ⟨node, hnode, rfl⟩ := List.mem_map.1 hn
  cases node with
  | raw leaf => cases hb
  | block tree' =>
      obtain rfl : tree'.toBlock = b := Node.block.inj hb
      refine BlockTree.spellable tree' fun t ht => hfinds.wellSpelled t ?_
      exact List.mem_flatMap.2 ⟨_, hnode, ht⟩

end BlockTemplate
