import BlockTemplate.Proofs.Processor.Record

/-!
# Blocks that call built-in functions

A name that no registered function has calls the built-in one, which answers without the host. So
what a block of such calls comes to is read off the answers of the functions.

Main statements: `call_builtin`, `process_block`.
-/

namespace BlockTemplate

/-- A built-in function is found under its own name. -/
theorem Builtin.find?_name (b : Builtin) : Builtin.find? b.name = some b := by
  cases b <;> decide +kernel

theorem Builtin.isName_name (b : Builtin) : IsName b.name := by cases b <;> decide +kernel

theorem Builtin.nameKey_name (b : Builtin) : Processor.nameKey b.name = b.name := by
  cases b <;> decide +kernel

/-- Two values fill two slots. -/
theorem Function.bind_two {input value : Value} (hinput : input.isNull = false)
    (hvalue : value.isNull = false) :
    Function.bind 2 input [value] = .ok #v[input, value] := by
  simp [Function.bind, Function.slotValues, hinput, hvalue]

/-- An answer made of characters prints them in any formatting. -/
theorem Value.text_ofChars (f : Formatting) (cs : List Char) : (ofChars cs).text f = cs :=
  String.toList_ofList

namespace Processor

/-! ### Evaluations that start from a state of the host -/

namespace Eval

variable {σ α β : Type} {x : Eval (StateM σ) α} {g : α → Eval (StateM σ) β}
  {world world' : σ}

/-- What comes of an evaluation, and the state that it leaves the host in. -/
def runFrom (x : Eval (StateM σ) α) (world : σ) : Except ResolutionError α × σ :=
  (x.run.run world).run

@[simp] theorem runFrom_pure (a : α) (world : σ) :
    (pure a : Eval (StateM σ) α).runFrom world = (.ok a, world) := rfl

@[simp] theorem runFrom_throw (e : ResolutionError) (world : σ) :
    (throw e : Eval (StateM σ) α).runFrom world = (.error e, world) := rfl

theorem runFrom_bind (x : Eval (StateM σ) α) (g : α → Eval (StateM σ) β) (world : σ) :
    (x >>= g).runFrom world =
      match x.runFrom world with
      | (.ok a, world') => (g a).runFrom world'
      | (.error e, world') => (.error e, world') := by
  simp only [runFrom, ExceptT.run_bind, StateT.run_bind, Id.run_bind]
  rcases (x.run.run world).run with ⟨_ | a, world'⟩ <;> rfl

end Eval

/-! ### Calls -/

section

variable {m : Type → Type} [Monad m] {p : Processor m} {name : String} {b : Builtin}

/-- A name that is not registered stands for the built-in function of that name. -/
theorem function?_builtin (hname : nameKey name = b.name) (hfree : p.registered? b.name = none) :
    p.function? name = some (b.onHost p.present) := by
  simp only [function?, hname, hfree, Builtin.find?_name]
  rfl

/-- A built-in function answers from its arguments and asks nothing of the host. -/
theorem call_builtin [LawfulMonad m] (hname : nameKey name = b.name)
    (hfree : p.registered? b.name = none) (input : Value) (args : List Value) :
    p.call name input args =
      match b.call p.present input args p.settings.formatting with
      | .ok answer => pure answer
      | .error cause => throw (.functionFailed name cause) := by
  simp only [call, resolveFunction, function?_builtin hname hfree, Builtin.onHost]
  cases b.call p.present input args p.settings.formatting <;> simp [ExceptT.lift_pure]

end

variable {σ : Type} {p : Processor (StateM σ)}

/-- A built-in function leaves the host as it is. -/
theorem runFrom_call_builtin {name : String} {b : Builtin} (hname : nameKey name = b.name)
    (hfree : p.registered? b.name = none) (input : Value) (args : List Value) (world : σ) :
    (p.call name input args).runFrom world =
      ((b.call p.present input args p.settings.formatting).mapError (.functionFailed name),
        world) := by
  rw [call_builtin hname hfree]
  cases b.call p.present input args p.settings.formatting <;> rfl

/-! ### Blocks -/

section

variable {m : Type → Type} [Monad m] [LawfulMonad m]

/-- A template of one block expands to the text of the block. -/
theorem process_block {p : Processor m} {source : String} {b : Block} {span : Span}
    (h : Template.parse p.settings.markers source = .ok [⟨.block b, span⟩]) :
    p.process source = (do
      match ← (p.evalBlock b).run with
      | .ok text => pure (.ok (String.ofList text))
      | .error cause => pure (.error ⟨.resolution cause, span⟩)) := by
  simp only [process, h, expand, expandNode, locate, bind_pure_comp, map_pure, List.append_nil,
    bind_pure, ExceptT.run_mk, bind_assoc]
  refine bind_congr fun answer => ?_
  cases answer <;> simp

theorem process_block_of_pure {p : Processor m} {source : String} {b : Block} {span : Span}
    (h : Template.parse p.settings.markers source = .ok [⟨.block b, span⟩]) {text : List Char}
    (hb : p.evalBlock b = pure text) : p.process source = pure (.ok (String.ofList text)) := by
  rw [process_block h, hb, ExceptT.run_pure, pure_bind]

/-- A value that flows into a call is evaluated before the arguments of the call. -/
theorem evalBlock_piped (p : Processor m) (name : String) (e : Expr) (args : List Expr) :
    p.evalBlock ⟨false, e, [.call name args]⟩ = (do
      let head ← p.evalHead e
      let values ← p.evalArgs args
      let answer ← p.call name head values
      pure (answer.text p.settings.formatting)) := by
  simp [evalBlock, evalFilters, evalFilter]

/-- A first argument is evaluated before the other ones. -/
theorem evalBlock_passed (p : Processor m) (name : String) (e : Expr) (args : List Expr) :
    p.evalBlock ⟨false, .call name (e :: args), []⟩ = (do
      let head ← p.evalHead e
      let values ← p.evalArgs args
      let answer ← p.call name .null (head :: values)
      pure (answer.text p.settings.formatting)) := by
  simp [evalBlock, evalFilters, evalHead, evalArgs]

end

/-- A template of one block expands to the text of the block and leaves the host as the block
does. -/
theorem run_process_block {source : String} {b : Block} {span : Span}
    (h : Template.parse p.settings.markers source = .ok [⟨.block b, span⟩]) {text : List Char}
    {world world' : σ} (hb : (p.evalBlock b).runFrom world = (.ok text, world')) :
    ((p.process source).run world).run = (.ok (String.ofList text), world') := by
  rw [Eval.runFrom] at hb
  simp only [process_block h, StateT.run_bind, Id.run_bind, hb]
  rfl

/-- A block without filters prints its value in the formatting of the processor. -/
theorem runFrom_evalBlock_head {e : Expr} {v : Value} {world world' : σ}
    (hhead : (p.evalHead e).runFrom world = (.ok v, world')) :
    (p.evalBlock ⟨false, e, []⟩).runFrom world = (.ok (v.text p.settings.formatting), world') := by
  simp only [evalBlock, evalFilters, Eval.runFrom_bind, hhead]
  rfl

end Processor

end BlockTemplate
