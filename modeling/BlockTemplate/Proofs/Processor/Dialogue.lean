import BlockTemplate.Proofs.Processor.Record
import BlockTemplate.Proofs.Syntax.Spelling

/-!
# What an expansion asks its host

The relations say which exchanges an evaluation makes, in which order, and what comes of their
answers. There is one relation for each kind of evaluation, and one rule for each way in which
it can end.

## Implementation notes

The rules look at nothing but the answers in the record, the settings of the processor, and
which names are those of functions.

Main statement: `process_recorded`.
-/

namespace BlockTemplate.Processor

/-- Asking the resolvers from a position on, one after the other, until one fails or knows a value
that is not null. -/
inductive Asks (r : Reference) (count : Nat) :
    Nat → List Exchange → Except ResolutionError (Option Value) → Prop
  | exhausted : Asks r count count [] (.ok none)
  | passed {position : Nat} {answer : Option Value} {events : List Exchange}
      {result : Except ResolutionError (Option Value)} (unknown : ∀ v ∈ answer, v.isNull = true)
      (later : Asks r count (position + 1) events result) :
      Asks r count position (.asked position r (.ok answer) :: events) result
  | known {position : Nat} {value : Value} (there : position < count)
      (notNull : value.isNull = false) :
      Asks r count position [.asked position r (.ok (some value))] (.ok (some value))
  | failed {position : Nat} {reason : String} (there : position < count) :
      Asks r count position [.asked position r (.error reason)]
        (.error (.variableResolverFailed r.name reason))

section

variable {m : Type → Type} [Monad m] (p : Processor m)

/-- Calling the function of a name, if there is one. -/
inductive Calls (name : String) (input : Value) (args : List Value) :
    List Exchange → Except ResolutionError (Option Value) → Prop
  | missing (unknown : p.function? name = none) : Calls name input args [] (.ok none)
  | returned {value : Value} (known : (p.function? name).isSome = true) :
      Calls name input args
        [.called (nameKey name) input args p.settings.formatting (.ok value)] (.ok (some value))
  | failed {cause : FunctionError} (known : (p.function? name).isSome = true) :
      Calls name input args
        [.called (nameKey name) input args p.settings.formatting (.error cause)]
        (.error (.functionFailed name cause))

/-- Calling the function of a name that has to be one. -/
inductive Applies (name : String) (input : Value) (args : List Value) :
    List Exchange → Except ResolutionError Value → Prop
  | unknown {events : List Exchange} (calls : p.Calls name input args events (.ok none)) :
      Applies name input args events (.error (.unknownFunction name))
  | returned {events : List Exchange} {value : Value}
      (calls : p.Calls name input args events (.ok (some value))) :
      Applies name input args events (.ok value)
  | failed {events : List Exchange} {e : ResolutionError}
      (calls : p.Calls name input args events (.error e)) :
      Applies name input args events (.error e)

/-- A bare name where nothing flows in. The function of the name is called with nothing, and only
when no resolver knows a value. -/
inductive EvalsName (name : String) : List Exchange → Except ResolutionError Value → Prop
  | variable {events : List Exchange} {value : Value}
      (asks : Asks (.ofName name) p.resolvers.length 0 events (.ok (some value))) :
      EvalsName name events (.ok value)
  | resolverFailed {events : List Exchange} {e : ResolutionError}
      (asks : Asks (.ofName name) p.resolvers.length 0 events (.error e)) :
      EvalsName name events (.error e)
  | answered {asked called : List Exchange} {answer : Option Value}
      (asks : Asks (.ofName name) p.resolvers.length 0 asked (.ok none))
      (calls : p.Calls name .null [] called (.ok answer))
      (admitted : ((answer.getD .null).isNull && p.settings.strict) = false) :
      EvalsName name (asked ++ called) (.ok (answer.getD .null))
  | unresolved {asked called : List Exchange} {answer : Option Value}
      (asks : Asks (.ofName name) p.resolvers.length 0 asked (.ok none))
      (calls : p.Calls name .null [] called (.ok answer))
      (refused : ((answer.getD .null).isNull && p.settings.strict) = true) :
      EvalsName name (asked ++ called) (.error (.unresolvedVariable name))
  | functionFailed {asked called : List Exchange} {e : ResolutionError}
      (asks : Asks (.ofName name) p.resolvers.length 0 asked (.ok none))
      (calls : p.Calls name .null [] called (.error e)) :
      EvalsName name (asked ++ called) (.error e)

mutual

/-- An expression that nothing flows into. A call makes the exchanges of its arguments before its
own, and no resolver is asked for its name. -/
inductive EvalsHead : Expr → List Exchange → Except ResolutionError Value → Prop
  | string (value : String) : EvalsHead (.string value) [] (.ok (.string value))
  | number (literal : String) : EvalsHead (.number literal) [] (.ok (.string literal))
  | ident {name : String} {events : List Exchange} {result : Except ResolutionError Value}
      (bare : p.EvalsName name events result) : EvalsHead (.ident name) events result
  | call {name : String} {args : List Expr} {before own : List Exchange} {values : List Value}
      {result : Except ResolutionError Value} (arguments : EvalsArgs args before (.ok values))
      (applies : p.Applies name .null values own result) :
      EvalsHead (.call name args) (before ++ own) result
  | argumentFailed {name : String} {args : List Expr} {events : List Exchange}
      {e : ResolutionError} (arguments : EvalsArgs args events (.error e)) :
      EvalsHead (.call name args) events (.error e)

/-- Arguments from left to right, up to the first that fails. -/
inductive EvalsArgs : List Expr → List Exchange → Except ResolutionError (List Value) → Prop
  | nil : EvalsArgs [] [] (.ok [])
  | cons {e : Expr} {es : List Expr} {first later : List Exchange} {value : Value}
      {values : List Value} (head : EvalsHead e first (.ok value))
      (tail : EvalsArgs es later (.ok values)) :
      EvalsArgs (e :: es) (first ++ later) (.ok (value :: values))
  | headFailed {e : Expr} {es : List Expr} {events : List Exchange} {err : ResolutionError}
      (head : EvalsHead e events (.error err)) : EvalsArgs (e :: es) events (.error err)
  | tailFailed {e : Expr} {es : List Expr} {first later : List Exchange} {value : Value}
      {err : ResolutionError} (head : EvalsHead e first (.ok value))
      (tail : EvalsArgs es later (.error err)) :
      EvalsArgs (e :: es) (first ++ later) (.error err)

end

/-- A filter is a call that its input flows into. A literal fails without an exchange. -/
inductive EvalsFilter (input : Value) :
    Expr → List Exchange → Except ResolutionError Value → Prop
  | ident {name : String} {events : List Exchange} {result : Except ResolutionError Value}
      (applies : p.Applies name input [] events result) :
      EvalsFilter input (.ident name) events result
  | call {name : String} {args : List Expr} {before own : List Exchange} {values : List Value}
      {result : Except ResolutionError Value} (arguments : p.EvalsArgs args before (.ok values))
      (applies : p.Applies name input values own result) :
      EvalsFilter input (.call name args) (before ++ own) result
  | argumentFailed {name : String} {args : List Expr} {events : List Exchange}
      {e : ResolutionError} (arguments : p.EvalsArgs args events (.error e)) :
      EvalsFilter input (.call name args) events (.error e)
  | string (value : String) :
      EvalsFilter input (.string value) [] (.error (.unknownFunction (Expr.string value).text))
  | number (literal : String) :
      EvalsFilter input (.number literal) [] (.error (.unknownFunction (Expr.number literal).text))

/-- Filters from left to right, up to the first that fails. -/
inductive EvalsFilters :
    Value → List Expr → List Exchange → Except ResolutionError Value → Prop
  | nil (input : Value) : EvalsFilters input [] [] (.ok input)
  | cons {input value : Value} {e : Expr} {es : List Expr} {first later : List Exchange}
      {result : Except ResolutionError Value} (head : p.EvalsFilter input e first (.ok value))
      (tail : EvalsFilters value es later result) :
      EvalsFilters input (e :: es) (first ++ later) result
  | failed {input : Value} {e : Expr} {es : List Expr} {events : List Exchange}
      {err : ResolutionError} (head : p.EvalsFilter input e events (.error err)) :
      EvalsFilters input (e :: es) events (.error err)

/-- A block: its head, then its filters. An optional block whose head is null or a text without
characters is nothing, and its filters make no exchange. -/
inductive EvalsBlock (b : Block) : List Exchange → Except ResolutionError (List Char) → Prop
  | headFailed {events : List Exchange} {e : ResolutionError}
      (head : p.EvalsHead b.head events (.error e)) : EvalsBlock b events (.error e)
  | skipped {events : List Exchange} {value : Value} (head : p.EvalsHead b.head events (.ok value))
      (optional : b.optional = true) (empty : value = .null ∨ value = .string "") :
      EvalsBlock b events (.ok [])
  | filtered {first later : List Exchange} {value last : Value}
      (head : p.EvalsHead b.head first (.ok value))
      (kept : ¬(b.optional = true ∧ (value = .null ∨ value = .string "")))
      (filters : p.EvalsFilters value b.filters later (.ok last)) :
      EvalsBlock b (first ++ later) (.ok (last.text p.settings.formatting))
  | filterFailed {first later : List Exchange} {value : Value} {e : ResolutionError}
      (head : p.EvalsHead b.head first (.ok value))
      (kept : ¬(b.optional = true ∧ (value = .null ∨ value = .string "")))
      (filters : p.EvalsFilters value b.filters later (.error e)) :
      EvalsBlock b (first ++ later) (.error e)

/-- A node of a template. Raw text makes no exchange, and a block fails with its own span. -/
inductive EvalsNode : Placed → List Exchange → Except (Located TemplateError) (List Char) → Prop
  | raw (text : String) (span : Span) : EvalsNode ⟨.raw text, span⟩ [] (.ok text.toList)
  | block {b : Block} {span : Span} {events : List Exchange} {text : List Char}
      (block : p.EvalsBlock b events (.ok text)) : EvalsNode ⟨.block b, span⟩ events (.ok text)
  | failed {b : Block} {span : Span} {events : List Exchange} {e : ResolutionError}
      (block : p.EvalsBlock b events (.error e)) :
      EvalsNode ⟨.block b, span⟩ events (.error ⟨.resolution e, span⟩)

/-- The nodes of a template in order. The exchanges are those of every node, or those of the nodes
up to the first one that fails. -/
inductive Expands : Template → List Exchange → Except (Located TemplateError) String → Prop
  | complete {template : Template} {parts : List (List Exchange × List Char)}
      (nodes : List.Forall₂ (fun n part => p.EvalsNode n part.1 (.ok part.2)) template parts) :
      Expands template (parts.flatMap (·.1)) (.ok (String.ofList (parts.flatMap (·.2))))
  | cut {before after : Template} {n : Placed} {parts : List (List Exchange × List Char)}
      {events : List Exchange} {e : Located TemplateError}
      (nodes : List.Forall₂ (fun n part => p.EvalsNode n part.1 (.ok part.2)) before parts)
      (fails : p.EvalsNode n events (.error e)) :
      Expands (before ++ n :: after) (parts.flatMap (·.1) ++ events) (.error e)

end

/-! ### Evaluation makes these exchanges -/

section

variable {σ : Type} {p : Processor (StateM σ)}

theorem records_ask (r : Reference) (resolvers : List (Resolver (StateM σ))) (position : Nat) :
    Records (ask r (resolvers.mapIdx fun i resolver => resolver.recorded (position + i)))
      (ask r resolvers) (Asks r (position + resolvers.length) position) := by
  induction resolvers generalizing position with
  | nil => exact Records.pure .exhausted
  | cons resolver rest ih =>
      have hthere : position < position + (resolver :: rest).length := by simp
      have hrest : (rest.mapIdx fun i resolver => resolver.recorded (position + (i + 1))) =
          rest.mapIdx fun i resolver => resolver.recorded (position + 1 + i) := by
        simp only [Nat.add_assoc, Nat.add_comm 1]
      have hlength : position + (resolver :: rest).length = position + 1 + rest.length := by
        simp only [List.length_cons]; omega
      rw [List.mapIdx_cons, hrest]
      refine Records.exchange_bind fun answer => ?_
      match answer with
      | .error reason => exact Records.throw (.failed hthere)
      | .ok none =>
          exact (ih (position + 1)).weaken fun events result later =>
            .passed (by simp) (hlength ▸ later)
      | .ok (some value) =>
          by_cases hnull : value.isNull = true
          · simp only [hnull, if_true]
            exact (ih (position + 1)).weaken fun events result later =>
              .passed (by simpa using hnull) (hlength ▸ later)
          · simp only [hnull, Bool.false_eq_true, if_false]
            exact Records.pure (.known hthere (by simpa using hnull))

theorem records_resolveVariable (p : Processor (StateM σ)) (name : String) :
    Records (p.recorded.resolveVariable name) (p.resolveVariable name)
      (Asks (.ofName name) p.resolvers.length 0) := by
  have hasks := records_ask (.ofName name) p.resolvers 0
  simp only [Nat.zero_add] at hasks
  exact hasks

theorem records_resolveFunction (p : Processor (StateM σ)) {name : String} (h : IsName name)
    (input : Value) (args : List Value) :
    Records (p.recorded.resolveFunction name input args) (p.resolveFunction name input args)
      (p.Calls name input args) := by
  rw [resolveFunction, resolveFunction, function?_recorded p h]
  cases hf : p.function? name with
  | none => exact Records.pure (.missing hf)
  | some f =>
      have hknown : (p.function? name).isSome = true := by rw [hf]; rfl
      refine Records.exchange_bind fun answer => ?_
      cases answer with
      | error cause => exact Records.throw (.failed hknown)
      | ok value => exact Records.pure (.returned hknown)

theorem records_call (p : Processor (StateM σ)) {name : String} (h : IsName name)
    (input : Value) (args : List Value) :
    Records (p.recorded.call name input args) (p.call name input args)
      (p.Applies name input args) := by
  refine (records_resolveFunction p h input args).bind (fun _ _ => .failed)
    fun events answer calls => ?_
  cases answer with
  | none => exact Records.throw (by simpa using .unknown calls)
  | some value => exact Records.pure (by simpa using .returned calls)

theorem records_evalName (p : Processor (StateM σ)) {name : String} (h : IsName name) :
    Records (p.recorded.evalName name) (p.evalName name) (p.EvalsName name) := by
  refine (records_resolveVariable p name).bind (fun _ _ => .resolverFailed)
    fun asked known asks => ?_
  cases known with
  | some value => exact Records.pure (by simpa using .variable asks)
  | none =>
      refine (records_resolveFunction p h .null []).bind (fun _ _ => .functionFailed asks)
        fun called answer calls => ?_
      rw [settings_recorded]
      dsimp only
      cases hrefused : (answer.getD .null).isNull && p.settings.strict with
      | true => exact Records.throw (by simpa using EvalsName.unresolved asks calls hrefused)
      | false => exact Records.pure (by simpa using EvalsName.answered asks calls hrefused)

mutual

/-- Evaluating a head makes the exchanges of its relation, argument by argument in a call. -/
theorem records_evalHead (p : Processor (StateM σ)) :
    ∀ {e : Expr}, e.Spellable → Records (p.recorded.evalHead e) (p.evalHead e) (p.EvalsHead e)
  | .string value, _ => Records.pure (.string value)
  | .number literal, _ => Records.pure (.number literal)
  | .ident name, h => by
      cases h with
      | ident isName =>
          rw [evalHead, evalHead]
          exact (records_evalName p isName).weaken fun _ _ => .ident
  | .call name args, h => by
      cases h with
      | call isName all =>
          rw [evalHead, evalHead]
          refine (records_evalArgs p all).bind (fun _ _ => .argumentFailed)
            fun before values arguments => ?_
          exact (records_call p isName .null values).weaken fun _ _ => .call arguments

@[inherit_doc records_evalHead]
theorem records_evalArgs (p : Processor (StateM σ)) :
    ∀ {es : List Expr}, (∀ e ∈ es, e.Spellable) →
      Records (p.recorded.evalArgs es) (p.evalArgs es) (p.EvalsArgs es)
  | [], _ => Records.pure .nil
  | e :: es, h => by
      obtain ⟨hhead, htail⟩ := List.forall_mem_cons.1 h
      rw [evalArgs, evalArgs]
      refine (records_evalHead p hhead).bind (fun _ _ => .headFailed) fun first value head => ?_
      refine (records_evalArgs p htail).bind (fun _ _ => .tailFailed head)
        fun later values tail => ?_
      exact Records.pure (by simpa using .cons head tail)

end

theorem records_evalFilter (p : Processor (StateM σ)) {e : Expr} (h : e.Spellable)
    (input : Value) :
    Records (p.recorded.evalFilter input e) (p.evalFilter input e) (p.EvalsFilter input e) := by
  cases h with
  | string value => exact Records.throw (.string value)
  | @number literal _ => exact Records.throw (.number literal)
  | ident isName => exact (records_call p isName input []).weaken fun _ _ => .ident
  | call isName all =>
      refine (records_evalArgs p all).bind (fun _ _ => .argumentFailed)
        fun before values arguments => ?_
      exact (records_call p isName input values).weaken fun _ _ => .call arguments

theorem records_evalFilters (p : Processor (StateM σ)) {es : List Expr}
    (h : ∀ e ∈ es, e.Spellable) (input : Value) :
    Records (p.recorded.evalFilters input es) (p.evalFilters input es)
      (p.EvalsFilters input es) := by
  induction es generalizing input with
  | nil => exact Records.pure (.nil input)
  | cons e es ih =>
      obtain ⟨hhead, htail⟩ := List.forall_mem_cons.1 h
      refine (records_evalFilter p hhead input).bind (fun _ _ => .failed)
        fun first value head => ?_
      exact (ih htail value).weaken fun _ _ => .cons head

theorem records_evalBlock (p : Processor (StateM σ)) {b : Block} (h : b.Spellable) :
    Records (p.recorded.evalBlock b) (p.evalBlock b) (p.EvalsBlock b) := by
  obtain ⟨hhead, hfilters⟩ := List.forall_mem_cons.1 h
  refine (records_evalHead p hhead).bind (fun _ _ => .headFailed) fun first value head => ?_
  have hskips : (b.optional && value.isEmpty) = true ↔
      b.optional = true ∧ (value = .null ∨ value = .string "") := by
    rw [Bool.and_eq_true, Value.isEmpty_iff]
  cases hkept : b.optional && value.isEmpty with
  | true =>
      obtain ⟨hoptional, hempty⟩ := hskips.1 hkept
      exact Records.pure (by simpa using .skipped head hoptional hempty)
  | false =>
      have hkept := hskips.not.1 (Bool.not_eq_true _ ▸ hkept)
      refine (records_evalFilters p hfilters value).bind (fun _ _ => .filterFailed head hkept)
        fun later last filters => ?_
      exact Records.pure (by simpa using .filtered head hkept filters)

theorem records_expandNode (p : Processor (StateM σ)) {n : Placed}
    (h : ∀ b, n.node = .block b → b.Spellable) :
    Records (p.recorded.expandNode n) (p.expandNode n) (p.EvalsNode n) := by
  obtain ⟨node, span⟩ := n
  cases node with
  | raw text => exact Records.pure (.raw text span)
  | block b =>
      intro log world
      obtain ⟨events, result, world', hy, hx, hblock⟩ := records_evalBlock p (h b rfl) log world
      refine ⟨events, result.mapError (⟨.resolution ·, span⟩), world', ?_, ?_, ?_⟩
      · simp only [expandNode, locate, ExceptT.run_mk, StateT.run_bind, Id.run_bind, hy]
        cases result <;> rfl
      · simp only [expandNode, locate, ExceptT.run_mk, StateT.run_bind, Id.run_bind, hx]
        cases result <;> rfl
      · cases result with
        | error e => exact .failed hblock
        | ok text => exact .block hblock

theorem Expands.cons {n : Placed} {rest : Template} {first later : List Exchange}
    {text : List Char} {result : Except (Located TemplateError) String}
    (head : p.EvalsNode n first (.ok text)) (tail : p.Expands rest later result) :
    p.Expands (n :: rest) (first ++ later) (result.map (String.ofList text ++ ·)) := by
  cases tail with
  | @complete _ parts nodes =>
      have hcons : p.Expands (n :: rest) (((first, text) :: parts).flatMap (·.1))
          (.ok (String.ofList (((first, text) :: parts).flatMap (·.2)))) :=
        .complete (.cons head nodes)
      simpa [Except.map] using hcons
  | @cut before after m parts events e nodes fails =>
      have hcons : p.Expands ((n :: before) ++ m :: after)
          (((first, text) :: parts).flatMap (·.1) ++ events) (.error e) :=
        .cut (.cons head nodes) fails
      simpa [Except.map] using hcons

theorem records_expand (p : Processor (StateM σ)) {template : Template}
    (h : ∀ n ∈ template, ∀ b, n.node = .block b → b.Spellable) :
    Records (p.recorded.expand template) (p.expand template) fun events result =>
      p.Expands template events (result.map String.ofList) := by
  induction template with
  | nil => exact Records.pure (.complete .nil)
  | cons n rest ih =>
      obtain ⟨hn, hrest⟩ := List.forall_mem_cons.1 h
      refine (records_expandNode p hn).bind (fun events e fails => ?_) fun first text head => ?_
      · exact @Expands.cut _ _ p [] rest n [] events e .nil fails
      refine (ih hrest).bind (fun later e tail => Expands.cons head tail) fun later more tail => ?_
      exact Records.pure (by simpa [Except.map] using Expands.cons head tail)

/-- A source expands behind the recorder as it does before it, to the same result and the same
state of the host. A source that cannot be read makes no exchange. What the record holds otherwise
is what each node exchanges, in order and up to the first node that fails, whose failure is the
result. -/
theorem process_recorded (p : Processor (StateM σ)) (source : String) (world : σ) :
    ∃ events result world',
      (((p.recorded.process source).run []).run world).run = ((result, events), world') ∧
        ((p.process source).run world).run = (result, world') ∧
        match Template.parse p.settings.markers source with
        | .error e => events = [] ∧ result = .error e ∧ world' = world
        | .ok template => p.Expands template events result := by
  cases hparse : Template.parse p.settings.markers source with
  | error e =>
      refine ⟨[], .error e, world, ?_, ?_, rfl, rfl, rfl⟩
      · simp only [process, settings_recorded, hparse]
        rfl
      · simp only [process, hparse]
        rfl
  | ok template =>
      obtain ⟨events, result, world', hy, hx, hexpands⟩ :=
        records_expand p (Template.spellable_of_parse hparse) [] world
      refine ⟨events, result.map String.ofList, world', ?_, ?_, hexpands⟩
      · simp only [process, settings_recorded, hparse, StateT.run_bind, Id.run_bind, hy]
        cases result <;> rfl
      · simp only [process, hparse, StateT.run_bind, Id.run_bind, hx]
        cases result <;> rfl

end

end BlockTemplate.Processor
