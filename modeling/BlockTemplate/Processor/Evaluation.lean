import BlockTemplate.Processor
import BlockTemplate.Syntax.Printer
import BlockTemplate.Syntax.TokenMachine
/-!
# Expanding templates

Blocks are evaluated one after the other, and each chain from left to right: the head, then for
each filter its arguments and its function. The first failure ends the expansion; it is reported
at the block it happened in.
-/

namespace BlockTemplate.Processor

variable {m : Type → Type} [Monad m]

/-- An answer of the host, or why there is none. -/
abbrev Eval (m : Type → Type) := ExceptT ResolutionError m

/-- A reference to a variable: a name and the specifier after its first number sign. -/
structure Reference where
  name : String
  specifier : Option String
  deriving DecidableEq, Repr

/-- The reference that a name spells, without regard to case and blanks around it. -/
def Reference.ofName (name : String) : Reference :=
  let key := Text.lower (Text.trim name.toList)
  match key.dropWhile (· ≠ '#') with
  | [] => ⟨String.ofList key, none⟩
  | _ :: specifier => ⟨String.ofList (key.takeWhile (· ≠ '#')), some (String.ofList specifier)⟩

/-- Asks resolvers in turn until one knows a value that is not null. -/
def ask (r : Reference) : List (Resolver m) → Eval m (Option Value)
  | [] => pure none
  | resolver :: rest => do
    match ← ExceptT.lift (resolver r.name r.specifier) with
    | .error reason => throw (.variableResolverFailed r.name reason)
    | .ok none => ask r rest
    | .ok (some value) => if value.isNull then ask r rest else pure (some value)

/-- The value of a variable, if a resolver knows it. -/
def resolveVariable (p : Processor m) (name : String) : Eval m (Option Value) :=
  ask (.ofName name) p.resolvers

/-- The answer of a function, if there is one of that name. -/
def resolveFunction (p : Processor m) (name : String) (input : Value) (args : List Value) :
    Eval m (Option Value) :=
  match p.function? name with
  | none => pure none
  | some f => do
    match ← ExceptT.lift (f input args p.settings.formatting) with
    | .error cause => throw (.functionFailed name cause)
    | .ok value => pure (some value)

/-- The answer of a function that there has to be. -/
def call (p : Processor m) (name : String) (input : Value) (args : List Value) : Eval m Value := do
  match ← p.resolveFunction name input args with
  | none => throw (.unknownFunction name)
  | some value => pure value

/-- The value of a bare name: a variable, else a function called with nothing. -/
def evalName (p : Processor m) (name : String) : Eval m Value := do
  match ← p.resolveVariable name with
  | some value => pure value
  | none =>
    let answer := (← p.resolveFunction name .null []).getD .null
    if answer.isNull && p.settings.strict then throw (.unresolvedVariable name)
    else pure answer

mutual

/-- The value of an expression that nothing flows into: a head or an argument. -/
def evalHead (p : Processor m) : Expr → Eval m Value
  | .string value => pure (.string value)
  | .number literal => pure (.string literal)
  | .call name args => do
    let values ← evalArgs p args
    p.call name .null values
  | .ident name => p.evalName name

/-- The values of arguments, from left to right. -/
def evalArgs (p : Processor m) : List Expr → Eval m (List Value)
  | [] => pure []
  | e :: es => do
    let value ← evalHead p e
    let values ← evalArgs p es
    pure (value :: values)

end

/-- The value that a filter makes of its input. A literal is no filter. -/
def evalFilter (p : Processor m) (input : Value) (e : Expr) : Eval m Value :=
  match e with
  | .ident name => p.call name input []
  | .call name args => do
    let values ← p.evalArgs args
    p.call name input values
  | .string _ => throw (.unknownFunction e.text)
  | .number _ => throw (.unknownFunction e.text)

/-- The value at the end of a chain. -/
def evalFilters (p : Processor m) (input : Value) : List Expr → Eval m Value
  | [] => pure input
  | e :: es => do
    let value ← p.evalFilter input e
    evalFilters p value es

/-- The text of a block. Nothing is made of an optional one whose head is empty. -/
def evalBlock (p : Processor m) (b : Block) : Eval m (List Char) := do
  let head ← p.evalHead b.head
  if b.optional && head.isEmpty then pure []
  else
    let value ← p.evalFilters head b.filters
    pure (value.text p.settings.formatting)

/-- A failure of the host as a failure at a place of the template. -/
def locate {α : Type} (span : Span) (x : Eval m α) : ExceptT (Located TemplateError) m α :=
  ExceptT.mk do
    match ← x.run with
    | .ok a => pure (.ok a)
    | .error e => pure (.error ⟨.resolution e, span⟩)

/-- The text of a node. -/
def expandNode (p : Processor m) (n : Placed) : ExceptT (Located TemplateError) m (List Char) :=
  match n.node with
  | .raw text => pure text.toList
  | .block b => locate n.span (p.evalBlock b)

/-- The text of a template, node by node. -/
def expand (p : Processor m) : Template → ExceptT (Located TemplateError) m (List Char)
  | [] => pure []
  | n :: rest => do
    let text ← p.expandNode n
    let more ← expand p rest
    pure (text ++ more)

/-- Reads a template and expands it. -/
def process (p : Processor m) (source : String) : m (Except (Located TemplateError) String) :=
  match Template.parse p.settings.markers source with
  | .error e => pure (.error e)
  | .ok template => do
    match ← (p.expand template).run with
    | .ok text => pure (.ok (String.ofList text))
    | .error e => pure (.error e)

end BlockTemplate.Processor
