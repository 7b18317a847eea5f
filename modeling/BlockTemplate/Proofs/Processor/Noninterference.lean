import BlockTemplate.Proofs.Processor.Registry

/-!
# What a name of a template can depend on

A name stands in a template either bare, where a value is expected, or applied, as a filter or with
an argument list. Only a bare name is asked of the resolvers; every name may be looked up among the
functions. Two processors that agree on the names a template uses, each in the way it is used, make
the same of the template, whatever else they know.

## Implementation notes

The two processors may stand before different hosts. Their computations are compared along a
relation between the states of the hosts: from related states they give the same result and leave
related states.

Main statements: agreement is kept by each way of putting computations together (`Agree.bind`,
`Agree.except_bind`) and so by evaluation (`agree_evalHead`, `agree_expand`); names that are not
used, or are used in another way, have no influence (`noninterference`).
-/

namespace BlockTemplate

/-! ### The names that a template uses -/

/-- A name of a template and how it is used there. -/
inductive NameUse where
  /-- A head or an argument without an argument list. -/
  | bare (name : String)
  /-- A filter, or a name with an argument list. -/
  | applied (name : String)
  deriving DecidableEq, Repr

def NameUse.name : NameUse → String
  | bare name => name
  | applied name => name

mutual

/-- The names of an expression that nothing flows into. -/
def Expr.uses : Expr → List NameUse
  | .ident name => [.bare name]
  | .call name args => .applied name :: Expr.usesIn args
  | .string _ => []
  | .number _ => []

/-- The names of arguments. -/
def Expr.usesIn : List Expr → List NameUse
  | [] => []
  | e :: es => e.uses ++ Expr.usesIn es

end

/-- The names of a filter. Its own name is applied even when it has no argument list. -/
def Expr.filterUses : Expr → List NameUse
  | .ident name => [.applied name]
  | e => e.uses

def Block.uses (b : Block) : List NameUse := b.head.uses ++ b.filters.flatMap Expr.filterUses

def Node.uses : Node → List NameUse
  | .raw _ => []
  | .block b => b.uses

def Template.uses (t : Template) : List NameUse := t.flatMap fun n => n.node.uses

/-- The names that a source uses; none if it is no template. -/
def usesOf (markers : Markers) (source : String) : List NameUse :=
  match Template.parse markers source with
  | .ok template => template.uses
  | .error _ => []

/-! ### Computations that agree -/

section

variable {σ τ ε α β : Type} {R : σ → τ → Prop}

/-- From related states two computations give the same result and leave related states. -/
def Agree (R : σ → τ → Prop) (x : StateM σ α) (y : StateM τ α) : Prop :=
  ∀ s t, R s t → (x.run s).run.1 = (y.run t).run.1 ∧ R (x.run s).run.2 (y.run t).run.2

theorem agree_eq_iff {x y : StateM σ α} : Agree Eq x y ↔ x = y := by
  constructor
  · intro h
    funext s
    exact Prod.ext (h s s rfl).1 (h s s rfl).2
  · rintro rfl s t rfl
    exact ⟨rfl, rfl⟩

namespace Agree

protected theorem pure (a : α) : Agree R (pure a) (pure a) := fun _ _ h => ⟨rfl, h⟩

protected theorem bind {x : StateM σ α} {y : StateM τ α} {f : α → StateM σ β} {g : α → StateM τ β}
    (h : Agree R x y) (hfg : ∀ a, Agree R (f a) (g a)) : Agree R (x >>= f) (y >>= g) := by
  intro s t hst
  obtain ⟨hresult, hstates⟩ := h s t hst
  have hnext := hfg (x.run s).run.1 _ _ hstates
  rw [hresult] at hnext
  simpa only [StateT.run_bind, Id.run_bind, hresult] using hnext

variable {x : ExceptT ε (StateM σ) α} {y : ExceptT ε (StateM τ) α}

theorem except_bind {f : α → ExceptT ε (StateM σ) β} {g : α → ExceptT ε (StateM τ) β}
    (h : Agree R x.run y.run) (hfg : ∀ a, Agree R (f a).run (g a).run) :
    Agree R (x >>= f).run (y >>= g).run := by
  rw [ExceptT.run_bind, ExceptT.run_bind]
  refine h.bind fun result => ?_
  cases result with
  | error e => exact Agree.pure _
  | ok a => exact hfg a

theorem except_lift {x : StateM σ α} {y : StateM τ α} (h : Agree R x y) :
    Agree R (ExceptT.lift x : ExceptT ε (StateM σ) α).run (ExceptT.lift y).run :=
  h.bind fun _ => Agree.pure _

end Agree

end

namespace Processor

section

variable {σ τ : Type} {R : σ → τ → Prop} {p : Processor (StateM σ)} {q : Processor (StateM τ)}

/-- A name stands for no function on either side, or for functions whose answers agree. -/
def SameFunction (R : σ → τ → Prop) (p : Processor (StateM σ)) (q : Processor (StateM τ))
    (name : String) : Prop :=
  Option.Rel (fun f g => ∀ input args formatting,
    Agree R (f input args formatting) (g input args formatting))
    (p.function? name) (q.function? name)

/-- Two processors agree on a name in the way it is used. The variable of an applied name does not
matter. -/
def AgreeOn (R : σ → τ → Prop) (p : Processor (StateM σ)) (q : Processor (StateM τ)) :
    NameUse → Prop
  | .bare name =>
    Agree R (p.resolveVariable name).run (q.resolveVariable name).run ∧ SameFunction R p q name
  | .applied name => SameFunction R p q name

/-- A name that neither processor has registered stands for the same built-in function, if any. -/
theorem sameFunction_of_unregistered {name : String} (hpresent : p.present = q.present)
    (hp : p.registered? (nameKey name) = none) (hq : q.registered? (nameKey name) = none) :
    SameFunction R p q name := by
  simp only [SameFunction, function?, hp, hq, hpresent]
  cases Builtin.find? (nameKey name) with
  | none => exact .none
  | some b => exact .some fun input args formatting => Agree.pure _

/-! ### Evaluation -/

variable (hsettings : p.settings = q.settings)

include hsettings

theorem agree_resolveFunction {name : String} (h : SameFunction R p q name) (input : Value)
    (args : List Value) :
    Agree R (p.resolveFunction name input args).run (q.resolveFunction name input args).run := by
  rw [resolveFunction, resolveFunction, hsettings]
  rw [SameFunction] at h
  cases hp : p.function? name <;> cases hq : q.function? name <;> rw [hp, hq] at h
  case none.none => exact Agree.pure _
  case none.some => cases h
  case some.none => cases h
  case some.some f g =>
    have hanswers := Option.rel_some_some.1 h
    refine (hanswers input args q.settings.formatting).except_lift.except_bind fun answer => ?_
    cases answer <;> exact Agree.pure _

theorem agree_call {name : String} (h : SameFunction R p q name) (input : Value)
    (args : List Value) : Agree R (p.call name input args).run (q.call name input args).run := by
  refine (agree_resolveFunction hsettings h input args).except_bind fun answer => ?_
  cases answer <;> exact Agree.pure _

theorem agree_evalName {name : String} (h : AgreeOn R p q (.bare name)) :
    Agree R (p.evalName name).run (q.evalName name).run := by
  refine h.1.except_bind fun known => ?_
  cases known with
  | some value => exact Agree.pure _
  | none =>
    refine (agree_resolveFunction hsettings h.2 .null []).except_bind fun answer => ?_
    rw [hsettings]
    cases hrefused : (answer.getD .null).isNull && q.settings.strict <;>
      simp only [hrefused, if_true, Bool.false_eq_true, if_false] <;> exact Agree.pure _

-- arguments depend on the settings by way of their heads alone
set_option linter.unusedSectionVars false in
mutual

theorem agree_evalHead : ∀ e : Expr, (∀ u ∈ e.uses, AgreeOn R p q u) →
    Agree R (p.evalHead e).run (q.evalHead e).run
  | .string value, _ => Agree.pure _
  | .number literal, _ => Agree.pure _
  | .ident name, h => by
    rw [evalHead, evalHead]
    exact agree_evalName hsettings (h _ (by simp [Expr.uses]))
  | .call name args, h => by
    rw [Expr.uses, List.forall_mem_cons] at h
    rw [evalHead, evalHead]
    refine (agree_evalArgs args h.2).except_bind fun values => ?_
    exact agree_call hsettings h.1 .null values

theorem agree_evalArgs : ∀ es : List Expr, (∀ u ∈ Expr.usesIn es, AgreeOn R p q u) →
    Agree R (p.evalArgs es).run (q.evalArgs es).run
  | [], _ => Agree.pure _
  | e :: es, h => by
    rw [Expr.usesIn, List.forall_mem_append] at h
    rw [evalArgs, evalArgs]
    refine (agree_evalHead e h.1).except_bind fun value => ?_
    exact (agree_evalArgs es h.2).except_bind fun values => Agree.pure _

end

theorem agree_evalFilter {e : Expr} (h : ∀ u ∈ e.filterUses, AgreeOn R p q u) (input : Value) :
    Agree R (p.evalFilter input e).run (q.evalFilter input e).run := by
  cases e with
  | string value => exact Agree.pure _
  | number literal => exact Agree.pure _
  | ident name =>
    exact agree_call hsettings (h (.applied name) (by simp [Expr.filterUses])) input []
  | call name args =>
    rw [Expr.filterUses, Expr.uses, List.forall_mem_cons] at h
    · refine (agree_evalArgs hsettings args h.2).except_bind fun values => ?_
      exact agree_call hsettings h.1 input values
    · exact fun _ h => nomatch h

theorem agree_evalFilters {es : List Expr}
    (h : ∀ u ∈ es.flatMap Expr.filterUses, AgreeOn R p q u) (input : Value) :
    Agree R (p.evalFilters input es).run (q.evalFilters input es).run := by
  induction es generalizing input with
  | nil => exact Agree.pure _
  | cons e es ih =>
    rw [List.flatMap_cons, List.forall_mem_append] at h
    exact (agree_evalFilter hsettings h.1 input).except_bind fun value => ih h.2 value

theorem agree_evalBlock {b : Block} (h : ∀ u ∈ b.uses, AgreeOn R p q u) :
    Agree R (p.evalBlock b).run (q.evalBlock b).run := by
  rw [Block.uses, List.forall_mem_append] at h
  refine (agree_evalHead hsettings b.head h.1).except_bind fun head => ?_
  split
  · exact Agree.pure _
  · refine (agree_evalFilters hsettings h.2 head).except_bind fun value => ?_
    rw [hsettings]
    exact Agree.pure _

theorem agree_expandNode {n : Placed} (h : ∀ u ∈ n.node.uses, AgreeOn R p q u) :
    Agree R (p.expandNode n).run (q.expandNode n).run := by
  obtain ⟨node, span⟩ := n
  cases node with
  | raw text => exact Agree.pure _
  | block b =>
    refine (agree_evalBlock hsettings h).bind fun result => ?_
    cases result <;> exact Agree.pure _

theorem agree_expand {template : Template} (h : ∀ u ∈ template.uses, AgreeOn R p q u) :
    Agree R (p.expand template).run (q.expand template).run := by
  induction template with
  | nil => exact Agree.pure _
  | cons n rest ih =>
    rw [Template.uses, List.flatMap_cons, List.forall_mem_append] at h
    refine (agree_expandNode hsettings h.1).except_bind fun text => ?_
    exact (ih h.2).except_bind fun more => Agree.pure _

theorem agree_process {source : String}
    (h : ∀ u ∈ usesOf p.settings.markers source, AgreeOn R p q u) :
    Agree R (p.process source) (q.process source) := by
  rw [process, process, ← hsettings]
  rw [usesOf] at h
  cases hparse : Template.parse p.settings.markers source with
  | error e => exact Agree.pure _
  | ok template =>
    rw [hparse] at h
    refine (agree_expand hsettings h).bind fun result => ?_
    cases result <;> exact Agree.pure _

end

/-! ### Answers that nobody asks for -/

section

variable {σ : Type} {p q : Processor (StateM σ)}

/-- A resolver answers nothing, or null, to a reference and leaves the host as it is. -/
def Silent (r : Resolver (StateM σ)) (reference : Reference) : Prop :=
  ∀ world, ∃ answer, (r reference.name reference.specifier).run world = (.ok answer, world) ∧
    ∀ value ∈ answer, value.isNull = true

theorem ask_cons_of_silent {r : Resolver (StateM σ)} {reference : Reference}
    (h : Silent r reference) (resolvers : List (Resolver (StateM σ))) :
    ask reference (r :: resolvers) = ask reference resolvers := by
  apply ExceptT.ext
  apply StateT.ext
  intro world
  obtain ⟨answer, hanswer, hnull⟩ := h world
  rw [ask, ExceptT.run_bind, ExceptT.run_lift, bind_map_left, StateT.run_bind, hanswer]
  cases answer with
  | none => rfl
  | some value =>
    change StateT.run (ExceptT.run
      (if value.isNull = true then ask reference resolvers else _)) world = _
    rw [if_pos (hnull value rfl)]

/-- A silent resolver may stand anywhere among the others. -/
theorem ask_insert {r : Resolver (StateM σ)} {reference : Reference} (h : Silent r reference)
    (before after : List (Resolver (StateM σ))) :
    ask reference (before ++ r :: after) = ask reference (before ++ after) := by
  induction before with
  | nil => exact ask_cons_of_silent h after
  | cons first before ih => rw [List.cons_append, List.cons_append, ask, ask, ih]

/-- A registered function changes no name of another key. -/
theorem function?_of_addFunction {name other : String} {f : HostFunction (StateM σ)}
    (h : p.addFunction name f = .ok q) (hother : nameKey other ≠ Text.lowerString name) :
    q.function? other = p.function? other := by
  obtain ⟨-, -, rfl⟩ := addFunction_eq_ok_iff.1 h
  have hregistered : registered? { p with functions := p.functions ++ [(Text.lowerString name, f)] }
      (nameKey other) = p.registered? (nameKey other) := by
    simp [registered?, List.find?_append, hother.symm]
  rw [function?, function?, hregistered]

theorem sameFunction_refl (name : String) (h : p.function? name = q.function? name) :
    SameFunction Eq p q name := by
  rw [SameFunction, h]
  cases q.function? name with
  | none => exact .none
  | some f => exact .some fun input args formatting => agree_eq_iff.2 rfl

theorem agreeOn_eq {u : NameUse}
    (hvariable : ∀ name, u = .bare name → p.resolveVariable name = q.resolveVariable name)
    (hfunction : p.function? u.name = q.function? u.name) : AgreeOn Eq p q u := by
  cases u with
  | bare name => exact ⟨agree_eq_iff.2 (hvariable name rfl ▸ rfl), sameFunction_refl name hfunction⟩
  | applied name => exact sameFunction_refl name hfunction

end

/-- The use that a source makes of names decides what they can have to do with its expansion. Two
processors that agree on every bare name and on the function of every name, be their hosts as they
may, come to the same text or to the same error at the same place. So neither a resolver that knows
no bare name of the source, in particular one that knows only names of functions, nor a function
registered under a key that no name of the source has changes anything. -/
theorem noninterference {σ τ : Type} (R : σ → τ → Prop) (p : Processor (StateM σ))
    (q : Processor (StateM τ)) (source : String) :
    (p.settings = q.settings → (∀ u ∈ usesOf p.settings.markers source, AgreeOn R p q u) →
      Agree R (p.process source) (q.process source)) ∧
    (∀ before after r, p.resolvers = before ++ after →
      (∀ name, .bare name ∈ usesOf p.settings.markers source → Silent r (.ofName name)) →
      process { p with resolvers := before ++ r :: after } source = p.process source) ∧
    (∀ name f p', p.addFunction name f = .ok p' →
      (∀ u ∈ usesOf p.settings.markers source, nameKey u.name ≠ Text.lowerString name) →
      p'.process source = p.process source) := by
  refine ⟨fun hsettings hnames => agree_process hsettings hnames, ?_, ?_⟩
  · intro before after r hresolvers hsilent
    apply agree_eq_iff.1
    apply agree_process
    · rfl
    · intro u hu
      apply agreeOn_eq
      · rintro name rfl
        rw [resolveVariable, resolveVariable, hresolvers]
        exact ask_insert (hsilent name hu) before after
      · rfl
  · intro name f p' hadd hunused
    have hp' := (addFunction_eq_ok_iff.1 hadd).2.2
    apply agree_eq_iff.1
    apply agree_process
    · rw [hp']
    · intro u hu
      rw [hp'] at hu
      apply agreeOn_eq
      · rintro name rfl
        rw [hp']
        rfl
      · exact function?_of_addFunction hadd (hunused u hu)

/-- The built-in filter keeps its meaning before hosts that know a variable of its name, and no
function of another name is ever asked. -/
theorem noninterference_of_shadowed_filter :
    let source := "\x7buser | uppercase\x7d"
    let p : Processor (StateM Unit) := ⟨.standard,
      [fun name _ => pure (.ok (if name = "user" then some (.string "Ann") else none))],
      [], default⟩
    let q : Processor (StateM Nat) := ⟨.standard,
      [fun name _ => modifyGet fun n =>
        (.ok (some (.string (if name = "user" then "Ann" else "shadow"))), n + 1)], [], default⟩
    let shadow : Resolver (StateM Unit) := fun name _ =>
      pure (.ok (if name = "uppercase" then some (.string "shadow") else none))
    let f : HostFunction (StateM Unit) := fun _ _ _ => pure (.ok .null)
    ((p.process source).run ()).run.1 = .ok "ANN" ∧
      ((p.process source).run ()).run.1 = ((q.process source).run 0).run.1 ∧
      (p.addResolver shadow).process source = p.process source ∧
      ∃ p', p.addFunction "user2" f = .ok p' ∧ p'.process source = p.process source := by
  intro source p q shadow f
  have huses : usesOf Settings.standard.markers source = [.bare "user", .applied "uppercase"] := by
    decide +kernel
  have huser : Reference.ofName "user" = ⟨"user", none⟩ := by decide +kernel
  obtain ⟨hagree, hresolver, hfunction⟩ := noninterference (fun _ _ => True) p q source
  have hbuiltin (name : String) : SameFunction (fun _ _ => True) p q name :=
    sameFunction_of_unregistered rfl rfl rfl
  refine ⟨by cbv, ?_, ?_, ?_⟩
  · refine (hagree rfl ?_ () 0 trivial).1
    rw [huses]
    simp only [List.forall_mem_cons]
    refine ⟨⟨?_, hbuiltin "user"⟩, hbuiltin "uppercase", by simp⟩
    intro world count _
    rw [resolveVariable, resolveVariable, huser]
    exact ⟨rfl, trivial⟩
  · refine hresolver p.resolvers [] shadow (List.append_nil _).symm ?_
    rw [huses]
    intro name hname world
    obtain rfl : name = "user" := by simpa using hname
    exact ⟨none, by rw [huser]; rfl, by simp⟩
  · have hkey : Text.lowerString "user2" = "user2" := by decide +kernel
    have hadd : p.addFunction "user2" f = .ok { p with functions := [("user2", f)] } := by
      rw [addFunction_eq_ok_iff, hkey]
      exact ⟨by decide +kernel, rfl, rfl⟩
    refine ⟨_, hadd, hfunction "user2" f _ hadd ?_⟩
    rw [huses, hkey]
    decide +kernel

end Processor

end BlockTemplate
