import BlockTemplate.Syntax.TokenMachine
import BlockTemplate.Proofs.Syntax.Derivation

/-!
# Reading a token sequence decides the grammar

The machine is compared with derivations in both directions. Along the leaves of a tree it goes
from one state to another without a fault and finishes the nodes of that tree. Conversely, what it
reads from a state to the end of a block splits into the leaves of trees.

## Implementation notes

`Reads` lists the steps of a run and leaves out where the last token ends, which only the fault at
the end of the tokens needs. A bare name is the one expression that the machine has not finished
with its last leaf: `afterTree` is the state in which it waits for a bracket.

Main statement: a token sequence is read exactly when it has a derivation, and what is read is the
template of that derivation (`ofTokens_iff_derivation`).
-/

namespace BlockTemplate.TokenMachine

open Grammar

/-- The tokens lead from one state to another and finish the given nodes on the way. -/
inductive Reads : State → List Token → State → Template → Prop
  | nil (s : State) : Reads s [] s []
  | cons {s s' s'' : State} {t : Token} {ts : List Token} {finished : Option Placed}
      {nodes : Template} (head : step s t = .ok (s', finished)) (tail : Reads s' ts s'' nodes) :
      Reads s (t :: ts) s'' (finished.toList ++ nodes)

namespace Reads

variable {s s' s'' : State} {t : Token} {ts us : List Token} {nodes more : Template}

/-- A step that finishes no node. -/
theorem next (h : step s t = .ok (s', none)) (tail : Reads s' ts s'' nodes) :
    Reads s (t :: ts) s'' nodes := by
  simpa using cons h tail

theorem single (h : step s t = .ok (s', none)) : Reads s [t] s' [] := next h (nil s')

/-- A step that finishes a node. -/
theorem finish {n : Placed} (h : step s t = .ok (s', some n)) : Reads s [t] s' [n] :=
  cons h (nil s')

theorem append (h : Reads s ts s' nodes) (h' : Reads s' us s'' more) :
    Reads s (ts ++ us) s'' (nodes ++ more) := by
  induction h with
  | nil s => exact h'
  | cons head _ ih =>
      rw [List.cons_append, List.append_assoc]
      exact cons head (ih h')

theorem exists_step (h : Reads s (t :: ts) s'' nodes) :
    ∃ s' finished more, step s t = .ok (s', finished) ∧ Reads s' ts s'' more ∧
      nodes = finished.toList ++ more := by
  cases h with
  | cons head tail => exact ⟨_, _, _, head, tail, rfl⟩

/-- What is read from two lists of tokens is read from the first, and then from the second. -/
theorem exists_place (h : Reads s (ts ++ us) s'' nodes) :
    ∃ s' first second, Reads s ts s' first ∧ Reads s' us s'' second ∧ nodes = first ++ second := by
  induction ts generalizing s nodes with
  | nil => exact ⟨s, [], nodes, .nil s, h, rfl⟩
  | cons t ts ih =>
      obtain ⟨s₁, finished, more, hstep, htail, rfl⟩ := h.exists_step
      obtain ⟨s', first, second, hfirst, hsecond, rfl⟩ := ih htail
      refine ⟨s', finished.toList ++ first, second, .cons hstep hfirst, hsecond, ?_⟩
      rw [List.append_assoc]

/-- Tokens that finish no node, and those after them. -/
theorem followed (h : Reads s ts s' []) (h' : Reads s' us s'' nodes) :
    Reads s (ts ++ us) s'' nodes := h.append h'

/-- Two different states are at least a token apart. -/
theorem exists_cons (h : Reads s ts s'' nodes) (hne : s ≠ s'') :
    ∃ t us s' finished more, ts = t :: us ∧ step s t = .ok (s', finished) ∧
      Reads s' us s'' more ∧ nodes = finished.toList ++ more := by
  cases h with
  | nil s => exact absurd rfl hne
  | cons head tail => exact ⟨_, _, _, _, _, rfl, head, tail, rfl⟩

end Reads

/-- Where the last of some tokens ends, or `stop` when there is none. -/
def stopAfter (stop : Nat) (ts : List Token) : Nat := ts.foldl (fun _ t => t.span.stop) stop

/-- A run goes on from the state that the first tokens lead to. -/
theorem run_append {s s' : State} {ts : List Token} {nodes : Template} (h : Reads s ts s' nodes)
    (stop : Nat) (us : List Token) :
    run stop s (ts ++ us) = (run (stopAfter stop ts) s' us).map (nodes ++ ·) := by
  induction h generalizing stop with
  | nil s =>
      change run stop s us = (run stop s us).map id
      rw [Except.map_id]
      rfl
  | @cons s s' _ t ts finished nodes head _ ih =>
      have hstop : stopAfter stop (t :: ts) = stopAfter t.span.stop ts := rfl
      rw [List.cons_append, run, head, hstop]
      simp only [ih]
      cases run (stopAfter t.span.stop ts) _ us <;> simp [Except.map]

theorem State.owed_eq_none_iff {s : State} : s.owed = none ↔ s = .top := by
  constructor
  · intro h
    cases s with
    | top => rfl
    | opened | operand | firstArgument => simp [State.owed] at h
    | named context name => cases hc : context.calls <;> simp [State.owed, hc] at h
    | finished context e => cases hc : context.calls <;> simp [State.owed, hc] at h
  · rintro rfl
    rfl

/-- A run gives a template exactly when the tokens lead back to the top. -/
theorem run_eq_ok_iff {stop : Nat} {s : State} {ts : List Token} {nodes : Template} :
    run stop s ts = .ok nodes ↔ Reads s ts .top nodes := by
  constructor
  · intro h
    induction ts generalizing stop s nodes with
    | nil =>
        rw [run] at h
        split at h
        · next howed =>
            obtain rfl := Except.ok.inj h
            rw [State.owed_eq_none_iff.1 howed]
            exact .nil .top
        · cases h
    | cons t ts ih =>
        rw [run] at h
        split at h
        · cases h
        · next s' finished hstep =>
            cases hrun : run t.span.stop s' ts with
            | error fault => simp [hrun, Except.map] at h
            | ok more =>
                obtain rfl : finished.toList ++ more = nodes := by
                  simpa [hrun, Except.map] using h
                exact .cons hstep (ih hrun)
  · intro h
    have hrun := run_append h stop []
    simpa [run, State.owed, Except.map] using hrun

/-! ### Along a derivation -/

/-- A state in which an expression is read, with its surroundings once it has begun. -/
def Awaits (s : State) (context : Context) : Prop :=
  ∀ t : Token, BeginsExpr t.kind → step s t = (beginExpr context t).map (·, none)

theorem awaits_operand (context : Context) : Awaits (.operand context) context :=
  fun _ _ => rfl

theorem awaits_opened (start : Nat) (optional : Bool) :
    Awaits (.opened start optional) ⟨⟨start, optional, []⟩, []⟩ := by
  rintro t (h | h | h) <;> simp [step, h]

theorem awaits_firstArgument (context : Context) (name : String) :
    Awaits (.firstArgument context name) ⟨context.block, ⟨name, []⟩ :: context.calls⟩ := by
  rintro t (h | h | h) <;> simp [step, h]

/-- The state after the leaves of an expression. -/
def afterTree (context : Context) : ExprTree → State
  | .name leaf => .named context leaf.1.value
  | e => .finished context e.expr

theorem step_named {t : Token} (h : t.kind ≠ .bracketOpen) (context : Context) (name : String) :
    step (.named context name) t = afterExpr context (.ident name) t := by
  simp only [step]

theorem step_afterTree {t : Token} (h : t.kind ≠ .bracketOpen) (context : Context)
    (e : ExprTree) : step (afterTree context e) t = afterExpr context e.expr t := by
  cases e with
  | name leaf => exact step_named h context leaf.1.value
  | string | number | call => rfl

mutual

theorem reads_exprTree : ∀ (e : ExprTree) {s : State} {context : Context}, Awaits s context →
    Reads s e.tokens (afterTree context e) []
  | .string leaf, s, context, h => by
      apply Reads.single
      rw [h leaf.1 (Or.inl leaf.2), beginExpr, leaf.2]
      rfl
  | .number leaf, s, context, h => by
      apply Reads.single
      rw [h leaf.1 (Or.inr (Or.inl leaf.2)), beginExpr, leaf.2]
      rfl
  | .name leaf, s, context, h => by
      apply Reads.single
      rw [h leaf.1 (Or.inr (Or.inr leaf.2)), beginExpr, leaf.2]
      rfl
  | .call name opening args closing, s, context, h => by
      have hname : step s name.1 = .ok (.named context name.1.value, none) := by
        rw [h name.1 (Or.inr (Or.inr name.2)), beginExpr, name.2]
        rfl
      have hopen : step (.named context name.1.value) opening.1 =
          .ok (.firstArgument context name.1.value, none) := by
        simp only [step, opening.2]
      exact .next hname (.next hopen (reads_argsTree args context _ closing))

/-- Arguments and their closing bracket finish a call. -/
theorem reads_argsTree : ∀ (a : ArgsTree) (context : Context) (name : String)
    (closing : Leaf .bracketClose), Reads (.firstArgument context name) (a.tokens ++ [closing.1])
      (.finished context (.call name a.exprs)) []
  | .none, context, name, closing => by
      apply Reads.single
      simp only [step, closing.2, ArgsTree.exprs]
  | .some first more, context, name, closing => by
      have hfirst := reads_exprTree first (awaits_firstArgument context name)
      have hmore := reads_moreTree more context.block name [] context.calls first closing
      simpa [ArgsTree.tokens, ArgsTree.exprs] using hfirst.followed hmore

/-- Further arguments and the closing bracket finish the innermost call. -/
theorem reads_moreTree : ∀ (m : MoreTree) (block : OpenBlock) (name : String) (done : List Expr)
    (calls : List OpenCall) (e : ExprTree) (closing : Leaf .bracketClose),
    Reads (afterTree ⟨block, ⟨name, done⟩ :: calls⟩ e) (m.tokens ++ [closing.1])
      (.finished ⟨block, calls⟩ (.call name (done ++ e.expr :: m.exprs))) []
  | .nil, block, name, done, calls, e, closing => by
      apply Reads.single
      rw [step_afterTree (by simp [closing.2])]
      simp only [afterExpr, closing.2, MoreTree.exprs]
  | .cons comma arg more, block, name, done, calls, e, closing => by
      have hcomma : step (afterTree ⟨block, ⟨name, done⟩ :: calls⟩ e) comma.1 =
          .ok (.operand ⟨block, ⟨name, done ++ [e.expr]⟩ :: calls⟩, none) := by
        rw [step_afterTree (by simp [comma.2])]
        simp only [afterExpr, comma.2]
      have harg := reads_exprTree arg
        (awaits_operand ⟨block, ⟨name, done ++ [e.expr]⟩ :: calls⟩)
      have hmore := reads_moreTree more block name (done ++ [e.expr]) calls arg closing
      simpa [MoreTree.tokens, MoreTree.exprs] using Reads.next hcomma (harg.followed hmore)

end

/-- The block with the given expressions: `done` before `e` and `more` after it. -/
def chainBlock (optional : Bool) (done : List Expr) (e : Expr) (more : List Expr) : Block :=
  match done with
  | [] => ⟨optional, e, more⟩
  | head :: filters => ⟨optional, head, filters ++ e :: more⟩

theorem close_eq_chainBlock (b : OpenBlock) (last : Expr) :
    b.close last = chainBlock b.optional b.done last [] := by
  unfold OpenBlock.close chainBlock
  split <;> simp_all

theorem chainBlock_append (optional : Bool) (done : List Expr) (e e' : Expr) (more : List Expr) :
    chainBlock optional (done ++ [e]) e' more = chainBlock optional done e (e' :: more) := by
  cases done <;> simp [chainBlock]

/-- Filters and the closing marker finish a block. -/
theorem reads_filtersTree (fs : FiltersTree) (start : Nat) (optional : Bool) (done : List Expr)
    (e : ExprTree) (closing : Leaf .blockClose) :
    Reads (afterTree ⟨⟨start, optional, done⟩, []⟩ e) (FiltersTree.tokens fs ++ [closing.1]) .top
      [⟨.block (chainBlock optional done e.expr (fs.map fun f => f.2.expr)),
        ⟨start, closing.1.span.stop⟩⟩] := by
  induction fs generalizing done e with
  | nil =>
      apply Reads.finish
      rw [step_afterTree (by simp [closing.2])]
      simp only [afterExpr, closing.2, close_eq_chainBlock, List.map_nil]
  | cons f fs ih =>
      have hbar : step (afterTree ⟨⟨start, optional, done⟩, []⟩ e) f.1.1 =
          .ok (.operand ⟨⟨start, optional, done ++ [e.expr]⟩, []⟩, none) := by
        rw [step_afterTree (by simp [f.1.2])]
        simp only [afterExpr, f.1.2]
      have hfilter := reads_exprTree f.2
        (awaits_operand ⟨⟨start, optional, done ++ [e.expr]⟩, []⟩)
      have hrest := ih (done ++ [e.expr]) f.2
      rw [chainBlock_append] at hrest
      simpa [FiltersTree.tokens] using Reads.next hbar (hfilter.followed hrest)

theorem reads_question (q : Option (Leaf .question)) (start : Nat) :
    Reads (.opened start false) (q.toList.map Subtype.val) (.opened start q.isSome) [] := by
  cases q with
  | none => exact .nil _
  | some x =>
      apply Reads.single
      simp only [step, x.2, Option.isSome_some]

theorem reads_nodeTree (n : NodeTree) : Reads .top n.tokens .top [n.placed] := by
  cases n with
  | raw leaf =>
      apply Reads.finish
      simp only [step, leaf.2, NodeTree.placed]
  | block b =>
      have hopen : step .top b.opening.1 = .ok (.opened b.opening.1.span.start false, none) := by
        simp only [step, b.opening.2]
      have hquestion := reads_question b.question b.opening.1.span.start
      have hhead := reads_exprTree b.head
        (awaits_opened b.opening.1.span.start b.question.isSome)
      have hfilters := reads_filtersTree b.filters b.opening.1.span.start b.question.isSome []
        b.head b.closing
      exact .next hopen (hquestion.followed (hhead.followed hfilters))

/-- The leaves of a tree are read as its template. -/
theorem reads_templateTree (tree : TemplateTree) :
    Reads .top (TemplateTree.tokens tree) .top (TemplateTree.template tree) := by
  induction tree with
  | nil => exact .nil .top
  | cons n tree ih => exact (reads_nodeTree n).append ih

/-! ### From a run to a derivation -/

theorem beginExpr_eq_ok {context : Context} {t : Token} {s : State}
    (h : beginExpr context t = .ok s) :
    t.kind = .string ∧ s = .finished context (.string t.value) ∨
      t.kind = .number ∧ s = .finished context (.number t.value) ∨
      t.kind = .ident ∧ s = .named context t.value := by
  unfold beginExpr at h
  split at h
  · next hk => exact Or.inl ⟨hk, (Except.ok.inj h).symm⟩
  · next hk => exact Or.inr (Or.inl ⟨hk, (Except.ok.inj h).symm⟩)
  · next hk => exact Or.inr (Or.inr ⟨hk, (Except.ok.inj h).symm⟩)
  · cases h

/-- Outside of calls an expression is followed by a filter or ends the block. -/
theorem afterExpr_block_eq_ok {block : OpenBlock} {e : Expr} {t : Token} {s : State}
    {finished : Option Placed} (h : afterExpr ⟨block, []⟩ e t = .ok (s, finished)) :
    t.kind = .filter ∧ s = .operand ⟨{ block with done := block.done ++ [e] }, []⟩ ∧
        finished = none ∨
      t.kind = .blockClose ∧ s = .top ∧
        finished = some ⟨.block (block.close e), ⟨block.start, t.span.stop⟩⟩ := by
  simp only [afterExpr] at h
  split at h
  · next hk =>
      obtain ⟨rfl, rfl⟩ := Prod.mk.inj (Except.ok.inj h)
      exact Or.inl ⟨hk, rfl, rfl⟩
  · next hk =>
      obtain ⟨rfl, rfl⟩ := Prod.mk.inj (Except.ok.inj h)
      exact Or.inr ⟨hk, rfl, rfl⟩
  · cases h

/-- In a call an expression is followed by another argument or ends the call. -/
theorem afterExpr_call_eq_ok {block : OpenBlock} {call : OpenCall} {calls : List OpenCall}
    {e : Expr} {t : Token} {s : State} {finished : Option Placed}
    (h : afterExpr ⟨block, call :: calls⟩ e t = .ok (s, finished)) :
    t.kind = .comma ∧ s = .operand ⟨block, { call with done := call.done ++ [e] } :: calls⟩ ∧
        finished = none ∨
      t.kind = .bracketClose ∧ s = .finished ⟨block, calls⟩ (.call call.name (call.done ++ [e])) ∧
        finished = none := by
  simp only [afterExpr] at h
  split at h
  · next hk =>
      obtain ⟨rfl, rfl⟩ := Prod.mk.inj (Except.ok.inj h)
      exact Or.inl ⟨hk, rfl, rfl⟩
  · next hk =>
      obtain ⟨rfl, rfl⟩ := Prod.mk.inj (Except.ok.inj h)
      exact Or.inr ⟨hk, rfl, rfl⟩
  · cases h

theorem exists_begin {context : Context} {t : Token} {s : State} {finished : Option Placed}
    (h : (beginExpr context t).map (·, none) = .ok (s, finished)) :
    beginExpr context t = .ok s ∧ finished = none := by
  cases hb : beginExpr context t with
  | error fault => simp [hb, Except.map] at h
  | ok s' =>
      obtain ⟨rfl, rfl⟩ : s' = s ∧ none = finished := by simpa [hb, Except.map] using h
      exact ⟨rfl, rfl⟩

/-- After an opening bracket stands the closing one or the first argument. -/
theorem firstArgument_eq_ok {context : Context} {name : String} {t : Token} {s : State}
    {finished : Option Placed} (h : step (.firstArgument context name) t = .ok (s, finished)) :
    finished = none ∧ (t.kind = .bracketClose ∧ s = .finished context (.call name []) ∨
      beginExpr ⟨context.block, ⟨name, []⟩ :: context.calls⟩ t = .ok s) := by
  simp only [step] at h
  split at h
  · next hk =>
      obtain ⟨rfl, rfl⟩ := Prod.mk.inj (Except.ok.inj h)
      exact ⟨rfl, Or.inl ⟨hk, rfl⟩⟩
  · obtain ⟨hb, hf⟩ := exists_begin h
    exact ⟨hf, Or.inr hb⟩

theorem Reads.finished_of_named {context : Context} {name : String} {ts : List Token}
    {nodes : Template} (h : Reads (.named context name) ts .top nodes)
    (hts : StartsWithout [.bracketOpen] ts) :
    Reads (.finished context (.ident name)) ts .top nodes := by
  obtain ⟨t, us, s', finished, more, rfl, hstep, htail, rfl⟩ := h.exists_cons (by simp)
  rw [step_named (by simpa [startsWithout_cons] using hts)] at hstep
  exact .cons hstep htail

theorem length_lt_of_cons_cons {t u : Token} {ts us vs : List Token} (hts : ts = t :: us)
    (hus : us = u :: vs) : vs.length < ts.length := by
  rw [hts, hus, List.length_cons, List.length_cons]
  omega

mutual

/-- What is read from the first token of an expression on starts with an expression. -/
theorem exprTree_of_reads {context : Context} {t : Token} {ts : List Token} {s : State}
    {nodes : Template} (hbegin : beginExpr context t = .ok s) (h : Reads s ts .top nodes) :
    ∃ (e : ExprTree) (rest : List Token), t :: ts = e.tokens ++ rest ∧
      Reads (.finished context e.expr) rest .top nodes := by
  rcases beginExpr_eq_ok hbegin with ⟨hk, rfl⟩ | ⟨hk, rfl⟩ | ⟨hk, rfl⟩
  · exact ⟨.string ⟨t, hk⟩, ts, rfl, h⟩
  · exact ⟨.number ⟨t, hk⟩, ts, rfl, h⟩
  by_cases hname : StartsWithout [.bracketOpen] ts
  · exact ⟨.name ⟨t, hk⟩, ts, rfl, h.finished_of_named hname⟩
  -- the name is that of a call
  obtain ⟨o, us, s₁, _, _, hts, hopen, hargs, rfl⟩ := h.exists_cons (by simp)
  have ho : o.kind = .bracketOpen := by simpa [hts, startsWithout_cons] using hname
  simp only [step, ho] at hopen
  obtain ⟨rfl, rfl⟩ := Prod.mk.inj (Except.ok.inj hopen)
  obtain ⟨u, vs, s₂, _, _, hus, hfirst, harg, rfl⟩ := hargs.exists_cons (by simp)
  have hlen : vs.length < ts.length := length_lt_of_cons_cons hts hus
  obtain ⟨rfl, ⟨hu, rfl⟩ | hbegin⟩ := firstArgument_eq_ok hfirst
  · exact ⟨.call ⟨t, hk⟩ ⟨o, ho⟩ .none ⟨u, hu⟩, vs, by rw [hts, hus]; rfl, harg⟩
  · obtain ⟨first, ws, hvs, hmore⟩ := exprTree_of_reads hbegin harg
    have hshort := first.length_lt_of_append hvs
    obtain ⟨more, closing, rest, hws, hcall⟩ := moreTree_of_reads hmore
    exact ⟨.call ⟨t, hk⟩ ⟨o, ho⟩ (.some first more) closing, rest,
      by simp [ExprTree.tokens, ArgsTree.tokens, hts, hus, hvs, hws], hcall⟩
  termination_by ts.length

/-- What is read after an argument starts with the further arguments of its call. -/
theorem moreTree_of_reads {block : OpenBlock} {name : String} {done : List Expr}
    {calls : List OpenCall} {e : Expr} {ts : List Token} {nodes : Template}
    (h : Reads (.finished ⟨block, ⟨name, done⟩ :: calls⟩ e) ts .top nodes) :
    ∃ (m : MoreTree) (closing : Leaf .bracketClose) (rest : List Token),
      ts = m.tokens ++ closing.1 :: rest ∧
        Reads (.finished ⟨block, calls⟩ (.call name (done ++ e :: m.exprs))) rest .top nodes := by
  obtain ⟨t, us, s₁, _, _, hts, hstep, hrest, rfl⟩ := h.exists_cons (by simp)
  obtain ⟨hk, rfl, rfl⟩ | ⟨hk, rfl, rfl⟩ := afterExpr_call_eq_ok hstep
  · obtain ⟨u, vs, s₂, _, _, hus, hoperand, harg, rfl⟩ := hrest.exists_cons (by simp)
    have hlen : vs.length < ts.length := length_lt_of_cons_cons hts hus
    obtain ⟨hbegin, rfl⟩ := exists_begin hoperand
    obtain ⟨arg, ws, hvs, hmore⟩ := exprTree_of_reads hbegin harg
    have hshort := arg.length_lt_of_append hvs
    obtain ⟨m, closing, rest, hws, hcall⟩ := moreTree_of_reads hmore
    exact ⟨.cons ⟨t, hk⟩ arg m, closing, rest, by simp [MoreTree.tokens, hts, hus, hvs, hws],
      by simpa [MoreTree.exprs] using hcall⟩
  · exact ⟨.nil, ⟨t, hk⟩, us, hts, hrest⟩
  termination_by ts.length

end

/-- What is read after an expression of a block starts with its filters and its end. -/
theorem filtersTree_of_reads {start : Nat} {optional : Bool} {done : List Expr} {e : Expr}
    {ts : List Token} {nodes : Template}
    (h : Reads (.finished ⟨⟨start, optional, done⟩, []⟩ e) ts .top nodes) :
    ∃ (fs : FiltersTree) (closing : Leaf .blockClose) (rest : List Token) (more : Template),
      ts = FiltersTree.tokens fs ++ closing.1 :: rest ∧ Reads .top rest .top more ∧
        nodes = ⟨.block (chainBlock optional done e (fs.map fun f => f.2.expr)),
          ⟨start, closing.1.span.stop⟩⟩ :: more := by
  obtain ⟨t, us, s₁, _, _, hts, hstep, hrest, rfl⟩ := h.exists_cons (by simp)
  obtain ⟨hk, rfl, rfl⟩ | ⟨hk, rfl, rfl⟩ := afterExpr_block_eq_ok hstep
  · obtain ⟨u, vs, s₂, _, _, hus, hoperand, hfilter, rfl⟩ := hrest.exists_cons (by simp)
    have hlen : vs.length < ts.length := length_lt_of_cons_cons hts hus
    obtain ⟨hbegin, rfl⟩ := exists_begin hoperand
    obtain ⟨filter, ws, hvs, hmore⟩ := exprTree_of_reads hbegin hfilter
    have hshort := filter.length_lt_of_append hvs
    obtain ⟨fs, closing, rest, more, hws, htop, hnodes⟩ := filtersTree_of_reads hmore
    rw [chainBlock_append] at hnodes
    exact ⟨(⟨t, hk⟩, filter) :: fs, closing, rest, more,
      by simp [FiltersTree.tokens, hts, hus, hvs, hws], htop, hnodes⟩
  · exact ⟨[], ⟨t, hk⟩, us, _, hts, hrest, by rw [close_eq_chainBlock]; rfl⟩
  termination_by ts.length

/-- After an opening marker stands a question mark or the head. -/
theorem opened_eq_ok {start : Nat} {optional : Bool} {t : Token} {s : State}
    {finished : Option Placed} (h : step (.opened start optional) t = .ok (s, finished)) :
    finished = none ∧ (t.kind = .question ∧ optional = false ∧ s = .opened start true ∨
      beginExpr ⟨⟨start, optional, []⟩, []⟩ t = .ok s) := by
  simp only [step] at h
  split at h
  · next hk =>
      obtain ⟨rfl, rfl⟩ := Prod.mk.inj (Except.ok.inj h)
      exact ⟨rfl, Or.inl ⟨hk, rfl, rfl⟩⟩
  · cases h
  · obtain ⟨hb, hf⟩ := exists_begin h
    exact ⟨hf, Or.inr hb⟩

/-- What is read after an opening marker starts with the question mark, if there is one, and the
head. -/
theorem headTree_of_reads {start : Nat} {ts : List Token} {nodes : Template}
    (h : Reads (.opened start false) ts .top nodes) :
    ∃ (q : Option (Leaf .question)) (e : ExprTree) (rest : List Token),
      ts = q.toList.map Subtype.val ++ (e.tokens ++ rest) ∧
        Reads (.finished ⟨⟨start, q.isSome, []⟩, []⟩ e.expr) rest .top nodes := by
  obtain ⟨t, us, s₁, _, _, rfl, hstep, hrest, rfl⟩ := h.exists_cons (by simp)
  obtain ⟨rfl, ⟨hk, -, rfl⟩ | hbegin⟩ := opened_eq_ok hstep
  · obtain ⟨u, vs, s₂, _, _, rfl, hstep', hhead, rfl⟩ := hrest.exists_cons (by simp)
    obtain ⟨rfl, ⟨-, hoptional, -⟩ | hbegin⟩ := opened_eq_ok hstep'
    · cases hoptional
    · obtain ⟨e, rest, heq, hfinished⟩ := exprTree_of_reads hbegin hhead
      exact ⟨some ⟨t, hk⟩, e, rest, by simp [heq], hfinished⟩
  · obtain ⟨e, rest, heq, hfinished⟩ := exprTree_of_reads hbegin hrest
    exact ⟨none, e, rest, heq, hfinished⟩

/-- Between nodes stands raw text or an opening marker. -/
theorem top_eq_ok {t : Token} {s : State} {finished : Option Placed}
    (h : step .top t = .ok (s, finished)) :
    t.kind = .rawText ∧ s = .top ∧ finished = some ⟨.raw t.value, t.span⟩ ∨
      t.kind = .blockOpen ∧ s = .opened t.span.start false ∧ finished = none := by
  simp only [step] at h
  split at h
  · next hk =>
      obtain ⟨rfl, rfl⟩ := Prod.mk.inj (Except.ok.inj h)
      exact Or.inl ⟨hk, rfl, rfl⟩
  · next hk =>
      obtain ⟨rfl, rfl⟩ := Prod.mk.inj (Except.ok.inj h)
      exact Or.inr ⟨hk, rfl, rfl⟩
  · cases h

/-- What is read from the top to the top is derived, and its nodes are those of the derivation. -/
theorem templateTree_of_reads {ts : List Token} {nodes : Template}
    (h : Reads .top ts .top nodes) :
    ∃ tree : TemplateTree, TemplateTree.tokens tree = ts ∧
      TemplateTree.template tree = nodes := by
  cases hts : ts with
  | nil =>
      subst hts
      cases h
      exact ⟨[], rfl, rfl⟩
  | cons t us =>
      obtain ⟨s₁, _, _, hstep, hrest, rfl⟩ := (hts ▸ h).exists_step
      have hlen : us.length < ts.length := by simp [hts]
      obtain ⟨hk, rfl, rfl⟩ | ⟨hk, rfl, rfl⟩ := top_eq_ok hstep
      · obtain ⟨tree, rfl, rfl⟩ := templateTree_of_reads hrest
        exact ⟨.raw ⟨t, hk⟩ :: tree, rfl, rfl⟩
      · obtain ⟨q, e, vs, hus, hfinished⟩ := headTree_of_reads hrest
        obtain ⟨fs, closing, ws, more, hvs, htop, rfl⟩ := filtersTree_of_reads hfinished
        have hshort : ws.length < us.length := by simp [hus, hvs]; omega
        obtain ⟨tree, htree, rfl⟩ := templateTree_of_reads htop
        refine ⟨.block ⟨⟨t, hk⟩, q, e, fs, closing⟩ :: tree, ?_, rfl⟩
        rw [hus, hvs, ← htree]
        simp [TemplateTree.tokens, NodeTree.tokens, BlockTree.tokens]
  termination_by ts.length

end BlockTemplate.TokenMachine

namespace BlockTemplate.Grammar

/-- A token sequence is read exactly when its kinds are derivable. It then has one derivation, and
what is read is the template of that derivation: its leaves are all tokens in order, each once. -/
theorem ofTokens_iff_derivation (tokens : List Token) :
    ((∃ template, Template.ofTokens tokens = .ok template) ↔
        Derivable (tokens.map (·.kind))) ∧
      ∀ template, Template.ofTokens tokens = .ok template ↔
        ∃ tree : TemplateTree, TemplateTree.tokens tree = tokens ∧
          TemplateTree.template tree = template ∧
          ∀ other : TemplateTree, TemplateTree.tokens other = tokens → other = tree := by
  have hread (template : Template) : Template.ofTokens tokens = .ok template ↔
      ∃ tree, TemplateTree.tokens tree = tokens ∧ TemplateTree.template tree = template := by
    rw [Template.ofTokens, TokenMachine.run_eq_ok_iff]
    constructor
    · exact TokenMachine.templateTree_of_reads
    · rintro ⟨tree, rfl, rfl⟩
      exact TokenMachine.reads_templateTree tree
  refine ⟨?_, fun template => ?_⟩
  · rw [derivable_iff]
    constructor
    · rintro ⟨template, h⟩
      obtain ⟨tree, htokens, -⟩ := (hread template).1 h
      exact ⟨tree, htokens⟩
    · rintro ⟨tree, htokens⟩
      exact ⟨_, (hread _).2 ⟨tree, htokens, rfl⟩⟩
  · rw [hread]
    constructor
    · rintro ⟨tree, rfl, rfl⟩
      exact ⟨tree, rfl, rfl, fun other h => templateTree_unique h⟩
    · rintro ⟨tree, htokens, htemplate, -⟩
      exact ⟨tree, htokens, htemplate⟩

end BlockTemplate.Grammar

namespace BlockTemplate.Template

/-- A source is a template when it is scanned without an error and its tokens are read. -/
theorem parse_eq_ok_iff {m : Markers} {source : String} {template : Template} :
    parse m source = .ok template ↔
      ∃ tokens, tokenize m source = .ok tokens ∧ ofTokens tokens = .ok template := by
  unfold parse
  cases tokenize m source with
  | error e => simp
  | ok tokens => cases hread : ofTokens tokens <;> simp [hread]

end BlockTemplate.Template
