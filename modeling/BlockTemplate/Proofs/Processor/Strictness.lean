import BlockTemplate.Proofs.Processor.Observation
import BlockTemplate.Proofs.Syntax.Partition

/-!
# Strict and lenient processors

A strict processor does what the lenient one does, up to the first name that stands for nothing.
There it fails where the lenient one goes on with null, so it makes an initial part of the lenient
one's exchanges.

## Implementation notes

Both runs are behind the recorder. `Tightens` relates them step by step: they agree, or the strict
one has stopped with a failure that may depend on what becomes of the lenient one. This is how the
place of the failure is compared with that of a later one.

Main statement: `onlyAddsFailures_setStrict`.
-/

namespace BlockTemplate

section

variable {σ ε α β : Type}

/-- Behind the recorder, every run adds exchanges to the record and ends as `Q` allows. -/
def Ensures (x : ExceptT ε (Recording (StateM σ)) α) (Q : Except ε α → Prop) : Prop :=
  ∀ log world, ∃ events result world',
    ((x.run.run log).run world).run = ((result, log ++ events), world') ∧ Q result

protected theorem Ensures.pure {a : α} {Q : Except ε α → Prop} (h : Q (.ok a)) :
    Ensures (pure a : ExceptT ε (Recording (StateM σ)) α) Q :=
  fun log world => ⟨[], .ok a, world, by rw [List.append_nil]; rfl, h⟩

theorem Records.ensures {y : ExceptT ε (Recording (StateM σ)) α} {x : ExceptT ε (StateM σ) α}
    {P : List Exchange → Except ε α → Prop} {Q : Except ε α → Prop} (h : Records y x P)
    (hPQ : ∀ events result, P events result → Q result) : Ensures y Q := by
  intro log world
  obtain ⟨events, result, world', hy, -, hP⟩ := h log world
  exact ⟨events, result, world', hy, hPQ events result hP⟩

/-- The strict computation runs as the lenient one does, or it stops earlier, with a failure that
`refused` allows for the result of the lenient one. -/
def Tightens (strict lenient : ExceptT ε (Recording (StateM σ)) α)
    (refused : ε → Except ε α → Prop) : Prop :=
  ∀ log world, ∃ events result world',
    ((lenient.run.run log).run world).run = ((result, log ++ events), world') ∧
      (((strict.run.run log).run world).run = ((result, log ++ events), world') ∨
        ∃ earlier e stopped, earlier <+: events ∧ refused e result ∧
          ((strict.run.run log).run world).run = ((.error e, log ++ earlier), stopped))

/-- A recorded computation runs as itself. -/
theorem Records.tightens {y : ExceptT ε (Recording (StateM σ)) α} {x : ExceptT ε (StateM σ) α}
    {P : List Exchange → Except ε α → Prop} (h : Records y x P)
    (refused : ε → Except ε α → Prop) : Tightens y y refused := by
  intro log world
  obtain ⟨events, result, world', hy, -⟩ := h log world
  exact ⟨events, result, world', hy, .inl hy⟩

namespace Tightens

variable {strict lenient : ExceptT ε (Recording (StateM σ)) α}
  {refused : ε → Except ε α → Prop} {refused' : ε → Except ε β → Prop}
  {g f : α → ExceptT ε (Recording (StateM σ)) β}

theorem ensures (h : Tightens strict lenient refused) : Ensures lenient fun _ => True := by
  intro log world
  obtain ⟨events, result, world', hlenient, -⟩ := h log world
  exact ⟨events, result, world', hlenient, trivial⟩

protected theorem pure (a : α) (refused : ε → Except ε α → Prop) :
    Tightens (pure a : ExceptT ε (Recording (StateM σ)) α) (pure a) refused :=
  (Records.pure (P := fun _ _ => True) trivial).tightens refused

protected theorem throw (e : ε) (refused : ε → Except ε α → Prop) :
    Tightens (throw e : ExceptT ε (Recording (StateM σ)) α) (throw e) refused :=
  (Records.throw (P := fun _ _ => True) trivial).tightens refused

/-- The strict computation fails where the lenient one has a value. -/
theorem refuse {e : ε} {a : α} (h : refused e (.ok a)) :
    Tightens (throw e : ExceptT ε (Recording (StateM σ)) α) (pure a) refused := by
  intro log world
  have hlog : log = log ++ [] := (List.append_nil log).symm
  refine ⟨[], .ok a, world, ?_, .inr ⟨[], e, world, List.prefix_rfl, h, ?_⟩⟩
  · rw [← hlog]; rfl
  · rw [← hlog]; rfl

/-- After a refusal in the first part, the lenient computation goes on with the second part alone,
and the refusal has to be allowed for what becomes of it. -/
protected theorem bind (h : Tightens strict lenient refused)
    (herr : ∀ e e', refused e (.error e') → refused' e (.error e'))
    (hstop : ∀ e a, refused e (.ok a) → Ensures (f a) (refused' e))
    (hok : ∀ a, Tightens (g a) (f a) refused') :
    Tightens (strict >>= g) (lenient >>= f) refused' := by
  intro log world
  obtain ⟨events, result, world', hlenient, hstrict⟩ := h log world
  cases result with
  | error e' =>
      refine ⟨events, .error e', world', by simp [ExceptT.run_bind, hlenient], ?_⟩
      rcases hstrict with hsame | ⟨earlier, e, stopped, hprefix, hrefused, hrun⟩
      · exact .inl (by simp [ExceptT.run_bind, hsame])
      · exact .inr ⟨earlier, e, stopped, hprefix, herr e e' hrefused,
          by simp [ExceptT.run_bind, hrun]⟩
  | ok a =>
      rcases hstrict with hsame | ⟨earlier, e, stopped, hprefix, hrefused, hrun⟩
      · obtain ⟨more, result, world'', hf, hg⟩ := hok a (log ++ events) world'
        refine ⟨events ++ more, result, world'',
          by simp [ExceptT.run_bind, hlenient, hf, List.append_assoc], ?_⟩
        rcases hg with hg | ⟨earlier, e, stopped, hprefix, hrefused, hg⟩
        · exact .inl (by simp [ExceptT.run_bind, hsame, hg, List.append_assoc])
        · exact .inr ⟨events ++ earlier, e, stopped,
            (List.prefix_append_right_inj events).2 hprefix, hrefused,
            by simp [ExceptT.run_bind, hsame, hg, List.append_assoc]⟩
      · obtain ⟨more, result, world'', hf, hallowed⟩ := hstop e a hrefused (log ++ events) world'
        exact ⟨events ++ more, result, world'',
          by simp [ExceptT.run_bind, hlenient, hf, List.append_assoc],
          .inr ⟨earlier, e, stopped, hprefix.trans (List.prefix_append events more), hallowed,
            by simp [ExceptT.run_bind, hrun]⟩⟩

/-- Where a refusal is allowed for any result, only the second parts have to be compared. -/
theorem bind_of_forall {Q : ε → Prop} (h : Tightens strict lenient fun e _ => Q e)
    (hok : ∀ a, Tightens (g a) (f a) fun e _ => Q e) :
    Tightens (strict >>= g) (lenient >>= f) fun e _ => Q e := by
  refine h.bind (fun _ _ => id) (fun e a hQ log world => ?_) hok
  obtain ⟨events, result, world', hf, -⟩ := (hok a).ensures log world
  exact ⟨events, result, world', hf, hQ⟩

end Tightens

end

/-- The failure of a strict processor at a name that stands for nothing. -/
def ResolutionError.Unresolved (e : ResolutionError) : Prop :=
  ∃ name, e = .unresolvedVariable name

namespace Processor

section

variable {σ : Type}

/-! ### Blocks -/

/-- A bare name is where the two differ: the strict processor refuses a name whose answer is
null. -/
theorem tightens_evalName (p : Processor (StateM σ)) {name : String} (h : IsName name) :
    Tightens ((p.setStrict true).recorded.evalName name)
      ((p.setStrict false).recorded.evalName name) fun e _ => e.Unresolved := by
  refine Tightens.bind_of_forall
    ((records_resolveVariable (p.setStrict false) name).tightens _) fun known => ?_
  cases known with
  | some value => exact Tightens.pure value _
  | none =>
      refine Tightens.bind_of_forall
        ((records_resolveFunction (p.setStrict false) h .null []).tightens _) fun answer => ?_
      cases hnull : (answer.getD .null).isNull with
      | true =>
          simp only [hnull, settings_recorded, setStrict, Bool.and_true, Bool.and_false, if_true,
            Bool.false_eq_true, if_false]
          exact Tightens.refuse ⟨name, rfl⟩
      | false =>
          simp only [hnull, Bool.false_and, Bool.false_eq_true, if_false]
          exact Tightens.pure _ _

mutual

/-- A strict processor refuses nothing but bare names in heads and arguments. -/
theorem tightens_evalHead (p : Processor (StateM σ)) :
    ∀ {e : Expr}, e.Spellable → Tightens ((p.setStrict true).recorded.evalHead e)
      ((p.setStrict false).recorded.evalHead e) fun e _ => e.Unresolved
  | .string value, _ => Tightens.pure _ _
  | .number literal, _ => Tightens.pure _ _
  | .ident name, h => by
      cases h with
      | ident isName =>
          rw [evalHead, evalHead]
          exact tightens_evalName p isName
  | .call name args, h => by
      cases h with
      | call isName all =>
          rw [evalHead, evalHead]
          refine (tightens_evalArgs p all).bind_of_forall fun values => ?_
          exact (records_call (p.setStrict false) isName .null values).tightens _

@[inherit_doc tightens_evalHead]
theorem tightens_evalArgs (p : Processor (StateM σ)) :
    ∀ {es : List Expr}, (∀ e ∈ es, e.Spellable) →
      Tightens ((p.setStrict true).recorded.evalArgs es)
        ((p.setStrict false).recorded.evalArgs es) fun e _ => e.Unresolved
  | [], _ => Tightens.pure _ _
  | e :: es, h => by
      obtain ⟨hhead, htail⟩ := List.forall_mem_cons.1 h
      rw [evalArgs, evalArgs]
      refine (tightens_evalHead p hhead).bind_of_forall fun value => ?_
      exact (tightens_evalArgs p htail).bind_of_forall fun values => Tightens.pure _ _

end

theorem tightens_evalFilter (p : Processor (StateM σ)) {e : Expr} (h : e.Spellable)
    (input : Value) :
    Tightens ((p.setStrict true).recorded.evalFilter input e)
      ((p.setStrict false).recorded.evalFilter input e) fun e _ => e.Unresolved := by
  cases h with
  | string | number => exact Tightens.throw _ _
  | ident isName => exact (records_call (p.setStrict false) isName input []).tightens _
  | call isName all =>
      refine (tightens_evalArgs p all).bind_of_forall fun values => ?_
      exact (records_call (p.setStrict false) isName input values).tightens _

theorem tightens_evalFilters (p : Processor (StateM σ)) {es : List Expr}
    (h : ∀ e ∈ es, e.Spellable) (input : Value) :
    Tightens ((p.setStrict true).recorded.evalFilters input es)
      ((p.setStrict false).recorded.evalFilters input es) fun e _ => e.Unresolved := by
  induction es generalizing input with
  | nil => exact Tightens.pure _ _
  | cons e es ih =>
      obtain ⟨hhead, htail⟩ := List.forall_mem_cons.1 h
      exact (tightens_evalFilter p hhead input).bind_of_forall fun value => ih htail value

theorem tightens_evalBlock (p : Processor (StateM σ)) {b : Block} (h : b.Spellable) :
    Tightens ((p.setStrict true).recorded.evalBlock b)
      ((p.setStrict false).recorded.evalBlock b) fun e _ => e.Unresolved := by
  obtain ⟨hhead, hfilters⟩ := List.forall_mem_cons.1 h
  refine (tightens_evalHead p hhead).bind_of_forall fun value => ?_
  cases hskip : b.optional && value.isEmpty with
  | true => exact Tightens.pure _ _
  | false =>
      exact (tightens_evalFilters p hfilters value).bind_of_forall fun last => Tightens.pure _ _

/-! ### Templates -/

/-- A strict processor fails because of a name, no further on than the lenient one does. -/
def Refuses {α : Type} (e : Located TemplateError)
    (lenient : Except (Located TemplateError) α) : Prop :=
  (∃ name, e.error = .resolution (.unresolvedVariable name)) ∧
    ∀ e', lenient = .error e' → e.span.start ≤ e'.span.start

/-- Both fail with the span of the node. -/
theorem tightens_expandNode (p : Processor (StateM σ)) {n : Placed}
    (h : ∀ b, n.node = .block b → b.Spellable) :
    Tightens ((p.setStrict true).recorded.expandNode n)
      ((p.setStrict false).recorded.expandNode n) fun e result => e.span = n.span ∧
        Refuses e result := by
  obtain ⟨node, span⟩ := n
  cases node with
  | raw text => exact Tightens.pure _ _
  | block b =>
      intro log world
      obtain ⟨events, result, world', hlenient, hstrict⟩ := tightens_evalBlock p (h b rfl) log world
      refine ⟨events, result.mapError (⟨.resolution ·, span⟩), world', ?_, ?_⟩
      · simp only [expandNode, locate, ExceptT.run_mk, StateT.run_bind, Id.run_bind, hlenient]
        cases result <;> rfl
      · rcases hstrict with hsame | ⟨earlier, e, stopped, hprefix, ⟨name, rfl⟩, hrun⟩
        · refine .inl ?_
          simp only [expandNode, locate, ExceptT.run_mk, StateT.run_bind, Id.run_bind, hsame]
          cases result <;> rfl
        · refine .inr ⟨earlier, ⟨.resolution (.unresolvedVariable name), span⟩, stopped, hprefix,
            ⟨rfl, ⟨name, rfl⟩, fun e' he' => ?_⟩, ?_⟩
          · cases result with
            | ok text => cases he'
            | error e =>
              obtain rfl := Except.error.inj he'
              exact Nat.le_refl _
          · simp only [expandNode, locate, ExceptT.run_mk, StateT.run_bind, Id.run_bind, hrun]
            rfl

/-- An expansion fails with the span of one of its nodes. -/
theorem Expands.exists_node {m : Type → Type} [Monad m] {p : Processor m} {template : Template}
    {events : List Exchange} {e : Located TemplateError}
    (h : p.Expands template events (.error e)) : ∃ n ∈ template, e.span = n.span := by
  cases h with
  | @cut before after n _ _ _ _ fails =>
      refine ⟨n, by simp, ?_⟩
      cases fails
      rfl

/-- Text before an expansion changes nothing about how it fails. -/
theorem ensures_expand (p : Processor (StateM σ)) {template : Template}
    (h : ∀ n ∈ template, ∀ b, n.node = .block b → b.Spellable) (text : List Char) :
    Ensures (do let more ← p.recorded.expand template; pure (text ++ more))
      fun result => ∀ e, result = .error e → ∃ n ∈ template, e.span = n.span := by
  have hrecords : Records (do let more ← p.recorded.expand template; pure (text ++ more))
      (do let more ← p.expand template; pure (text ++ more)) fun _ result =>
        ∀ e, result = .error e → ∃ n ∈ template, e.span = n.span := by
    refine (records_expand p h).bind (fun events e hexpands e' he' => ?_)
      fun events more _ => Records.pure nofun
    obtain rfl := Except.error.inj he'
    exact Expands.exists_node hexpands
  exact hrecords.ensures fun _ _ => id

/-- A refusal at a node comes before every failure further on, as nodes stand in order. -/
theorem tightens_expand (p : Processor (StateM σ)) {template : Template}
    (h : ∀ n ∈ template, ∀ b, n.node = .block b → b.Spellable)
    (hordered : template.Pairwise fun a b => a.span.start ≤ b.span.start) :
    Tightens ((p.setStrict true).recorded.expand template)
      ((p.setStrict false).recorded.expand template) Refuses := by
  induction template with
  | nil => exact Tightens.pure _ _
  | cons n rest ih =>
      obtain ⟨hn, hrest⟩ := List.forall_mem_cons.1 h
      obtain ⟨hfirst, hlater⟩ := List.pairwise_cons.1 hordered
      refine (tightens_expandNode p hn).bind (fun e e' hrefused => hrefused.2)
        (fun e text hrefused log world => ?_) fun text => ?_
      · obtain ⟨events, result, world', hrun, hfails⟩ :=
          ensures_expand (p.setStrict false) hrest text log world
        refine ⟨events, result, world', hrun, hrefused.2.1, fun e' he' => ?_⟩
        obtain ⟨m, hm, hspan⟩ := hfails e' he'
        rw [hrefused.1, hspan]
        exact hfirst m hm
      · refine (ih hrest hlater).bind (fun e e' => id) (fun e more hrefused => ?_)
          fun more => Tightens.pure _ _
        exact Ensures.pure ⟨hrefused.1, nofun⟩

/-! ### Expansions -/

/-- How an expansion by a strict processor is related to the one by the lenient processor. -/
structure OnlyAddsFailures (strict lenient : Observation σ) : Prop where
  /-- Where the strict processor succeeds, both do the same. -/
  succeeds : ∀ text, strict.result = .ok text → lenient = strict
  /-- Where the lenient processor alone succeeds, a name stands for nothing. -/
  refuses : ∀ text e, lenient.result = .ok text → strict.result = .error e →
    ∃ name, e.error = .resolution (.unresolvedVariable name)
  /-- Where the lenient processor fails, the strict one fails alike, or because of a name, no
  further on. -/
  fails : ∀ e, lenient.result = .error e → strict.result = .error e ∨
    ∃ name span, strict.result = .error ⟨.resolution (.unresolvedVariable name), span⟩ ∧
      span.start ≤ e.span.start
  /-- The strict processor makes no exchange that the lenient one does not make. -/
  exchanges : strict.exchanges <+: lenient.exchanges

theorem OnlyAddsFailures.refl (seen : Observation σ) : OnlyAddsFailures seen seen where
  succeeds _ _ := rfl
  refuses text e hok herr := by
    rw [hok] at herr
    cases herr
  fails _ := .inl
  exchanges := List.prefix_rfl

/-- Strictness adds failures at names that stand for nothing, and changes nothing else. -/
theorem onlyAddsFailures_setStrict (p : Processor (StateM σ)) (source : String) (world : σ) :
    OnlyAddsFailures ((p.setStrict true).observe source world)
      ((p.setStrict false).observe source world) := by
  cases hparse : Template.parse p.settings.markers source with
  | error e =>
      have hobserve (strict : Bool) := observe_of_parse_error (p := p.setStrict strict) hparse world
      rw [hobserve true, hobserve false]
      exact .refl _
  | ok template =>
      obtain ⟨events, result, world', hlenient, hstrict⟩ :=
        tightens_expand p (Template.spellable_of_parse hparse)
          (Template.tiles_of_parse hparse).pairwise_start_le [] world
      rw [observe_of_run (p := p.setStrict false) hparse hlenient]
      rcases hstrict with hsame | ⟨earlier, e, stopped, hprefix, ⟨⟨name, hname⟩, hstart⟩, hrun⟩
      · rw [observe_of_run (p := p.setStrict true) hparse hsame]
        exact .refl _
      · obtain ⟨error, span⟩ := e
        obtain rfl : error = .resolution (.unresolvedVariable name) := hname
        rw [observe_of_run (p := p.setStrict true) hparse hrun]
        constructor
        case succeeds => exact nofun
        case refuses =>
          intro text e _ he
          obtain rfl := Except.error.inj he
          exact ⟨name, rfl⟩
        case fails =>
          intro e he
          refine .inr ⟨name, span, rfl, hstart e ?_⟩
          cases result with
          | ok text => cases he
          | error e' =>
              obtain rfl := Except.error.inj he
              rfl
        case exchanges => exact hprefix

end

end Processor

end BlockTemplate
