import BlockTemplate.Proofs.Processor.BuiltinCall

/-!
# Piping and passing

For most built-in functions the value that flows in is nothing but their first argument: a filter
and a call with the value in front of the arguments give the same answer. Only the count that an
error reports says which of the two it was.

## Implementation notes

A function binds its slots first, and what it does with them reports no counts. So every function
is compared by `bind_bind_null_cons` alone, and the errors of its body are fixed by `withoutInput`.

Main statement: `piped_eq_passed`.
-/

namespace BlockTemplate

/-- The same error, where a count does not tell whether a value flowed in. -/
def FunctionError.withoutInput : FunctionError → FunctionError
  | argumentCount expected _ => argumentCount expected false
  | invalidArgument position expected => invalidArgument position expected
  | failed reason => failed reason

def ResolutionError.withoutInput : ResolutionError → ResolutionError
  | functionFailed name cause => functionFailed name cause.withoutInput
  | unknownFunction name => unknownFunction name
  | unresolvedVariable name => unresolvedVariable name
  | variableResolverFailed name reason => variableResolverFailed name reason

/-! ### Functions -/

namespace Function

variable {α β : Type} {v : Value}

theorem slotValues_null_cons (hv : v.isNull = false) (args : List Value) :
    slotValues .null (v :: args) = slotValues v args := by
  have hnull : Value.null.isNull = true := rfl
  rw [slotValues, slotValues, if_pos hnull, if_neg (by simp [hv])]

theorem bind_null_cons (slots : Nat) (hv : v.isNull = false) (args : List Value) :
    bind slots .null (v :: args) = (bind slots v args).mapError FunctionError.withoutInput := by
  have hcount : countError slots .null = (countError slots v).withoutInput := rfl
  simp only [bind, slotValues_null_cons hv, hcount]
  split
  · split <;> rfl
  · rfl

theorem textOf_null_cons (hv : v.isNull = false) (args : List Value) (f : Formatting) :
    textOf .null (v :: args) f = textOf v args f := by
  have hnull : Value.null.isNull = true := rfl
  rw [textOf, textOf, if_pos hnull, if_neg (by simp [hv]), List.headD_cons]

/-- Errors that count no arguments are the same with and without an input. -/
theorem mapError_bind (x : Except FunctionError α) {g : α → Except FunctionError β}
    (hg : ∀ a, (g a).mapError FunctionError.withoutInput = g a) :
    x.mapError FunctionError.withoutInput >>= g =
      (x >>= g).mapError FunctionError.withoutInput := by
  cases x with
  | error e => rfl
  | ok a => exact (hg a).symm

/-- Nothing but the binding of slots looks at where a value comes from. -/
theorem bind_bind_null_cons (slots : Nat) (hv : v.isNull = false) (args : List Value)
    {g : Vector Value slots → Except FunctionError α}
    (hg : ∀ values, (g values).mapError FunctionError.withoutInput = g values) :
    bind slots .null (v :: args) >>= g =
      (bind slots v args >>= g).mapError FunctionError.withoutInput := by
  rw [bind_null_cons slots hv]
  exact mapError_bind _ hg

end Function

namespace Builtin

variable {v : Value}

/-- The functions whose input is their first argument. -/
def inputFirst : List Builtin :=
  [lowercase, uppercase, trim, properCase, add, subtract, wrap, join, utc, formatDate, formatNumber]

theorem integers_null_cons (hv : v.isNull = false) (args : List Value) :
    integers .null (v :: args) = (integers v args).mapError FunctionError.withoutInput := by
  refine Function.bind_bind_null_cons 2 hv args fun slots => ?_
  split <;> rfl

theorem mapError_checked (n : Int) :
    (checked n).mapError FunctionError.withoutInput = checked n := by
  rw [checked]
  cases Number.word? n <;> rfl

theorem call_null_cons (present : Calendar.Moment) {b : Builtin} (hb : b ∈ inputFirst)
    (hv : v.isNull = false) (args : List Value) (f : Formatting) :
    b.call present .null (v :: args) f =
      (b.call present v args f).mapError FunctionError.withoutInput := by
  cases b with
  | lorem | defaultTo | list | now => simp [inputFirst] at hb
  | lowercase | uppercase | trim | properCase =>
      simp only [call, Function.textOf_null_cons hv]
      rfl
  | add | subtract =>
      simp only [call, integers_null_cons hv]
      exact Function.mapError_bind _ fun _ => mapError_checked _
  | wrap =>
      refine Function.bind_bind_null_cons _ hv args fun slots => ?_
      dsimp only
      split <;> rfl
  | join | utc | formatDate | formatNumber =>
      refine Function.bind_bind_null_cons _ hv args fun slots => ?_
      split <;> rfl

end Builtin

/-! ### Blocks -/

namespace Processor

/-- The answers of the function are all that the two blocks differ in. -/
theorem runFrom_passed_eq_piped {σ : Type} {p : Processor (StateM σ)} {name : String} {b : Builtin}
    (hb : b ∈ Builtin.inputFirst) (hname : nameKey name = b.name)
    (hfree : p.registered? b.name = none) {e : Expr} {v : Value} {world world' : σ}
    (hhead : (p.evalHead e).runFrom world = (.ok v, world')) (hv : v.isNull = false)
    (args : List Expr) :
    let piped := (p.evalBlock ⟨false, e, [.call name args]⟩).runFrom world
    let passed := (p.evalBlock ⟨false, .call name (e :: args), []⟩).runFrom world
    passed.1.mapError ResolutionError.withoutInput =
        piped.1.mapError ResolutionError.withoutInput ∧ passed.2 = piped.2 := by
  intro piped passed
  simp only [piped, passed, evalBlock_piped, evalBlock_passed, Eval.runFrom_bind, hhead]
  rcases (p.evalArgs args).runFrom world' with ⟨e | values, left⟩
  · exact ⟨rfl, rfl⟩
  · simp only [runFrom_call_builtin hname hfree, Builtin.call_null_cons p.present hb hv]
    rcases b.call p.present v values p.settings.formatting with ⟨_ | _⟩ | answer <;>
      exact ⟨rfl, rfl⟩

end Processor

/-- A function whose input is its first argument answers alike for a value that flows in and for one
that is passed first, up to what an error says about the count of arguments. So do the blocks that
pipe the value of an expression and that pass it. -/
theorem piped_eq_passed {b : Builtin} (hb : b ∈ Builtin.inputFirst) :
    (∀ (present : Calendar.Moment) (v : Value) (args : List Value) (f : Formatting),
      v.isNull = false →
        b.call present .null (v :: args) f =
          (b.call present v args f).mapError FunctionError.withoutInput) ∧
    ∀ {σ : Type} (p : Processor (StateM σ)) (name : String), Processor.nameKey name = b.name →
      p.registered? b.name = none →
        ∀ (e : Expr) (args : List Expr) (v : Value) (world world' : σ),
          (p.evalHead e).runFrom world = (.ok v, world') → v.isNull = false →
            let piped := (p.evalBlock ⟨false, e, [.call name args]⟩).runFrom world
            let passed := (p.evalBlock ⟨false, .call name (e :: args), []⟩).runFrom world
            passed.1.mapError ResolutionError.withoutInput =
                piped.1.mapError ResolutionError.withoutInput ∧ passed.2 = piped.2 :=
  ⟨fun present _ args f hv => Builtin.call_null_cons present hb hv args f,
    fun _ _ hname hfree _ args _ _ _ hhead hv =>
      Processor.runFrom_passed_eq_piped hb hname hfree hhead hv args⟩

/-- A host that counts how often it is asked, a name in upper case, and an argument too few. -/
theorem piped_eq_passed_argument_count :
    let p : Processor (StateM Nat) := ⟨.standard,
      [fun _ _ => modifyGet fun n => (.ok (some (.integer (.ofNat n))), n + 1)], [], default⟩
    let piped := (p.evalBlock ⟨false, .ident "n", [.call "SUB" []]⟩).runFrom 7
    let passed := (p.evalBlock ⟨false, .call "SUB" [.ident "n"], []⟩).runFrom 7
    Builtin.subtract ∈ Builtin.inputFirst ∧
      Processor.nameKey "SUB" = Builtin.subtract.name ∧
      p.registered? Builtin.subtract.name = none ∧
      (p.evalHead (.ident "n")).runFrom 7 = (.ok (.integer 7), 8) ∧
      (Value.integer 7).isNull = false ∧
      piped = (.error (.functionFailed "SUB" (.argumentCount 2 true)), 8) ∧
      passed.1.mapError ResolutionError.withoutInput =
        .error (.functionFailed "SUB" (.argumentCount 2 false)) ∧ passed.2 = 8 := by
  intro p piped passed
  have hb : Builtin.subtract ∈ Builtin.inputFirst := by decide
  have hname : Processor.nameKey "SUB" = Builtin.subtract.name := by decide +kernel
  have hfree : p.registered? Builtin.subtract.name = none := rfl
  have hhead : (p.evalHead (.ident "n")).runFrom 7 = (.ok (.integer 7), 8) := by cbv
  have hv : (Value.integer 7).isNull = false := rfl
  have hpiped : piped = (.error (.functionFailed "SUB" (.argumentCount 2 true)), 8) := by cbv
  obtain ⟨hresult, hworld⟩ :=
    (piped_eq_passed hb).2 p "SUB" hname hfree (.ident "n") [] (.integer 7) 7 8 hhead hv
  change passed.1.mapError _ = piped.1.mapError _ at hresult
  change passed.2 = piped.2 at hworld
  rw [hpiped] at hresult hworld
  exact ⟨hb, hname, hfree, hhead, hv, hpiped, hresult, hworld⟩

end BlockTemplate
