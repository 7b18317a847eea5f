import BlockTemplate.Proofs.Processor.Observation
import BlockTemplate.Proofs.Processor.Relocation
import BlockTemplate.Proofs.Syntax.IdentifierCase

/-!
# Evaluation and the case of names

A name asks the same of the host in every case that it is written in: the same variable with the
same specifier, and the same function. So a template and one that differs from it in the case of
names alone make the same exchanges with the host, and come to the same text or to errors that
differ in the case of a name that they quote.

## Implementation notes

An evaluation whose errors have their names in lower case does not depend on the case of the names
it is given. This is an equation between computations, so what the host is asked, in which order,
and what it is left with are all part of it.

Main statements: `fold_evalHead`, `adapt_expand`, `observe_caseVariant`.
-/

namespace BlockTemplate

open Processor (Reference)

/-! ### Names -/

theorem mem_map_toLower {cs : List Char} (h : ∀ c ∈ cs, isNameChar c = true) :
    ∀ c ∈ cs.map Char.toLower, isNameChar c = true := by
  intro _ hmem
  obtain ⟨c, hc, rfl⟩ := List.mem_map.1 hmem
  exact isNameChar_toLower (h c hc)

/-- The text that names are looked up by is the same for a name in lower case. -/
theorem lower_trim_foldName (name : String) :
    Text.lower (Text.trim (foldName name).toList) = Text.lower (Text.trim name.toList) := by
  by_cases h : IsName name
  · have hchars := h.isNameChar
    have hlower := mem_map_toLower hchars
    rw [foldName, if_pos h, String.toList_ofList, trim_of_isNameChar hlower,
      trim_of_isNameChar hchars, lower_of_isNameChar hlower, lower_of_isNameChar hchars,
      List.map_map]
    exact List.map_congr_left fun c _ => Char.toLower_toLower_eq_toLower c
  · rw [foldName, if_neg h]

namespace Processor

theorem ofName_foldName (name : String) :
    Reference.ofName (foldName name) = Reference.ofName name := by
  rw [Reference.ofName, Reference.ofName, lower_trim_foldName]

theorem function?_foldName {m : Type → Type} [Monad m] (p : Processor m) (name : String) :
    p.function? (foldName name) = p.function? name := by
  have hkey : nameKey (foldName name) = nameKey name := by
    rw [nameKey, nameKey, lower_trim_foldName]
  rw [function?, function?, hkey]

section

variable {m : Type → Type} [Monad m] [LawfulMonad m] (p : Processor m)

/-- An evaluation whose errors have their names in lower case. -/
abbrev Eval.fold {α : Type} (x : Eval m α) : Eval m α := ExceptT.adapt ResolutionError.fold x

/-! ### Evaluation -/

theorem fold_throw {α : Type} {e e' : ResolutionError} (h : e.fold = e'.fold) :
    (throw e : Eval m α).fold = (throw e' : Eval m α).fold := by
  rw [Eval.fold, Eval.fold, adapt_throw, adapt_throw, h]

theorem fold_resolveFunction (name : String) (input : Value) (args : List Value) :
    (p.resolveFunction (foldName name) input args).fold =
      (p.resolveFunction name input args).fold := by
  rw [resolveFunction, resolveFunction, function?_foldName]
  cases p.function? name with
  | none => rfl
  | some f =>
    refine adapt_bind_congr rfl fun answer => ?_
    cases answer with
    | error cause => exact fold_throw (by rw [ResolutionError.fold, foldName_foldName]; rfl)
    | ok value => rfl

theorem fold_call (name : String) (input : Value) (args : List Value) :
    (p.call (foldName name) input args).fold = (p.call name input args).fold := by
  refine adapt_bind_congr (p.fold_resolveFunction name input args) fun answer => ?_
  cases answer with
  | none => exact fold_throw (by rw [ResolutionError.fold, foldName_foldName]; rfl)
  | some value => rfl

theorem fold_evalName (name : String) :
    (p.evalName (foldName name)).fold = (p.evalName name).fold := by
  rw [evalName, evalName, resolveVariable, resolveVariable, ofName_foldName]
  refine adapt_bind_congr rfl fun known => ?_
  cases known with
  | some value => rfl
  | none =>
    refine adapt_bind_congr (p.fold_resolveFunction name .null []) fun answer => ?_
    cases hrefused : (answer.getD .null).isNull && p.settings.strict with
    | false => simp only [hrefused, Bool.false_eq_true, if_false]
    | true =>
      simp only [hrefused, if_true]
      exact fold_throw (by rw [ResolutionError.fold, foldName_foldName]; rfl)

mutual

/-- Heads ask the same of the host in every case that their names are written in. -/
theorem fold_evalHead : ∀ e : Expr, (p.evalHead e.fold).fold = (p.evalHead e).fold
  | .string value => rfl
  | .number literal => rfl
  | .ident name => by
    rw [Expr.fold, evalHead, evalHead]
    exact p.fold_evalName name
  | .call name args => by
    rw [Expr.fold, evalHead, evalHead]
    exact adapt_bind_congr (fold_evalArgs args) fun values => p.fold_call name .null values

@[inherit_doc fold_evalHead]
theorem fold_evalArgs : ∀ es : List Expr,
    (p.evalArgs (Expr.foldAll es)).fold = (p.evalArgs es).fold
  | [] => rfl
  | e :: es => by
    rw [Expr.foldAll, evalArgs, evalArgs]
    refine adapt_bind_congr (fold_evalHead e) fun value => ?_
    exact adapt_bind_congr (fold_evalArgs es) fun values => rfl

end

theorem fold_evalFilter (input : Value) (e : Expr) :
    (p.evalFilter input e.fold).fold = (p.evalFilter input e).fold := by
  cases e with
  | string value => rfl
  | number literal => rfl
  | ident name =>
    rw [Expr.fold, evalFilter, evalFilter]
    exact p.fold_call name input []
  | call name args =>
    rw [Expr.fold, evalFilter, evalFilter]
    exact adapt_bind_congr (p.fold_evalArgs args) fun values => p.fold_call name input values

theorem fold_evalFilters (input : Value) (es : List Expr) :
    (p.evalFilters input (es.map Expr.fold)).fold = (p.evalFilters input es).fold := by
  induction es generalizing input with
  | nil => rfl
  | cons e es ih => exact adapt_bind_congr (p.fold_evalFilter input e) fun value => ih value

theorem fold_evalBlock (b : Block) : (p.evalBlock b.fold).fold = (p.evalBlock b).fold := by
  refine adapt_bind_congr (p.fold_evalHead b.head) fun head => ?_
  change Eval.fold (if (b.optional && head.isEmpty) = true then _ else _) = _
  split
  · rfl
  · exact adapt_bind_congr (p.fold_evalFilters head b.filters) fun value => rfl

theorem adapt_locate {α : Type} (span : Span) (x : Eval m α) :
    ExceptT.adapt (Located.map TemplateError.fold) (locate span x) = locate span x.fold := by
  apply ExceptT.ext
  rw [ExceptT.run_adapt, locate, locate, ExceptT.run_mk, ExceptT.run_mk, map_bind,
    ExceptT.run_adapt, bind_map_left]
  refine bind_congr fun result => ?_
  cases result with
  | error e => exact map_pure _ _
  | ok a => exact map_pure _ _

theorem adapt_expandNode (n : Placed) :
    ExceptT.adapt (Located.map TemplateError.fold) (p.expandNode n.fold) =
      ExceptT.adapt (Located.map TemplateError.fold) (p.expandNode n) := by
  obtain ⟨node, span⟩ := n
  cases node with
  | raw text => rfl
  | block b =>
    change ExceptT.adapt _ (locate span (p.evalBlock b.fold)) =
      ExceptT.adapt _ (locate span (p.evalBlock b))
    rw [adapt_locate, adapt_locate, p.fold_evalBlock b]

theorem adapt_expand (template : Template) :
    ExceptT.adapt (Located.map TemplateError.fold) (p.expand (template.map Placed.fold)) =
      ExceptT.adapt (Located.map TemplateError.fold) (p.expand template) := by
  induction template with
  | nil => rfl
  | cons n rest ih =>
    refine adapt_bind_congr (p.adapt_expandNode n) fun text => ?_
    exact adapt_bind_congr ih fun more => rfl

/-- The failure of an expansion with the name that it quotes in lower case. -/
def foldResult (x : Except (Located TemplateError) String) :
    Except (Located TemplateError) String :=
  x.mapError (Located.map TemplateError.fold)

/-- What comes of a template that has been read. -/
def expandText (template : Template) : m (Except (Located TemplateError) String) := do
  match ← (p.expand template).run with
  | .ok text => pure (.ok (String.ofList text))
  | .error e => pure (.error e)

theorem foldResult_expandText (template : Template) :
    foldResult <$> p.expandText template = Except.map String.ofList <$>
      (ExceptT.adapt (Located.map TemplateError.fold) (p.expand template)).run := by
  rw [expandText, map_bind, ExceptT.run_adapt, Functor.map_map, map_eq_pure_bind]
  refine bind_congr fun result => ?_
  cases result with
  | error e => exact map_pure _ _
  | ok text => exact map_pure _ _

theorem foldResult_process {source source' : String} (hp : p.settings.markers.delimiters.Neutral)
    (h : CaseVariant p.settings.markers source source') :
    foldResult <$> p.process source = foldResult <$> p.process source' := by
  have hparse := Template.parse_caseVariant hp h
  rw [process, process]
  cases hfirst : Template.parse p.settings.markers source with
  | error e =>
    cases hsecond : Template.parse p.settings.markers source' with
    | error e' =>
      rw [hfirst, hsecond] at hparse
      have he : Located.map TemplateError.fold e = Located.map TemplateError.fold e' :=
        Except.error.inj hparse
      change foldResult <$> pure (.error e) = foldResult <$> pure (.error e')
      rw [map_pure, map_pure]
      exact congrArg (fun e => pure (Except.error e)) he
    | ok template' =>
      rw [hfirst, hsecond] at hparse
      cases hparse
  | ok template =>
    cases hsecond : Template.parse p.settings.markers source' with
    | error e' =>
      rw [hfirst, hsecond] at hparse
      cases hparse
    | ok template' =>
      rw [hfirst, hsecond] at hparse
      have htemplates : template.map Placed.fold = template'.map Placed.fold :=
        Except.ok.inj hparse
      change foldResult <$> p.expandText template = foldResult <$> p.expandText template'
      rw [foldResult_expandText, foldResult_expandText, ← p.adapt_expand template, htemplates,
        p.adapt_expand template']

end

/-- Sources that differ in the case of names only make the same exchanges with the host and leave it
in the same state, and they come to the same text or to the same failure but for the case of a name
that it quotes. -/
theorem observe_caseVariant {σ : Type} (p : Processor (StateM σ))
    (hp : p.settings.markers.delimiters.Neutral) {source source' : String}
    (h : CaseVariant p.settings.markers source source') (world : σ) :
    (p.observe source world).exchanges = (p.observe source' world).exchanges ∧
      (p.observe source world).world = (p.observe source' world).world ∧
      foldResult (p.observe source world).result = foldResult (p.observe source' world).result := by
  have hplain := congrArg (fun x => (StateT.run x world).run) (p.foldResult_process hp h)
  have hrecorded := congrArg (fun x => (StateT.run (StateT.run x []) world).run)
    (p.recorded.foldResult_process hp h)
  simp only [StateT.run_map, Id.run_map, Prod.mk.injEq] at hplain hrecorded
  exact ⟨hrecorded.1.2, hplain.2, hplain.1⟩

/-- A variable, a built-in filter and a filter nobody knows, which the error quotes as it is
written. -/
theorem observe_caseVariant_unknown_filter :
    let source := "\x7bUser | TRIM | nope\x7d"
    let source' := "\x7buSER | Trim | Nope\x7d"
    let p : Processor (StateM Nat) := ⟨.standard,
      [fun name _ => modifyGet fun n =>
        (.ok (if name = "user" then some (.string " Ann ") else none), n + 1)], [], default⟩
    CaseVariant p.settings.markers source source' ∧
      (p.observe source 0).exchanges = (p.observe source' 0).exchanges ∧
      (p.observe source 0).world = (p.observe source' 0).world ∧
      (p.observe source 0).result = .error ⟨.resolution (.unknownFunction "nope"), ⟨0, 20⟩⟩ ∧
      (p.observe source' 0).result = .error ⟨.resolution (.unknownFunction "Nope"), ⟨0, 20⟩⟩ := by
  intro source source' p
  have hvariant : CaseVariant p.settings.markers source source' := by decide +kernel
  obtain ⟨hexchanges, hworld, -⟩ := p.observe_caseVariant (by decide) hvariant 0
  exact ⟨hvariant, hexchanges, hworld, by cbv, by cbv⟩

end Processor

end BlockTemplate
