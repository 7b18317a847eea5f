import BlockTemplate.Proofs.Syntax.Junction
import BlockTemplate.Proofs.Token.IdentifierCase

/-!
# Reading and the case of names

Names in lower case stand for all their spellings. Reading puts names into nodes and errors as they
are written and does not look at them otherwise, so reading commutes with putting names in lower
case. Templates that differ in the case of names are read as the same nodes but for that, or are
refused with the same error but for the case of a name that it quotes.

## Implementation notes

An error quotes the value of any token. It is put in lower case if it is spelled like a name, which
leaves the choice to the text alone; so the equations hold for every token sequence, and an error is
compared after its name is in lower case (`foldName_foldName`).

Main statements: `TokenMachine.run_fold`, `Template.parse_caseVariant`.
-/

namespace BlockTemplate

/-! ### Names in lower case -/

/-- A name with its letters in lower case. Other texts stay as they are. -/
def foldName (s : String) : String :=
  if IsName s then String.ofList (s.toList.map Char.toLower) else s

theorem foldName_foldName (s : String) : foldName (foldName s) = foldName s := by
  by_cases h : IsName s
  · have hlower : foldName s = String.ofList (s.toList.map Char.toLower) := if_pos h
    have htwice : (String.ofList (s.toList.map Char.toLower)).toList.map Char.toLower =
        s.toList.map Char.toLower := by
      rw [String.toList_ofList, List.map_map]
      exact List.map_congr_left fun c _ => Char.toLower_toLower_eq_toLower c
    rw [hlower, foldName, htwice]
    exact ite_self _
  · have hsame : foldName s = s := if_neg h
    rw [hsame, hsame]

theorem foldName_eq_foldName {s s' : String} (h : IsName s) (h' : IsName s')
    (letters : s.toList.map Char.toLower = s'.toList.map Char.toLower) :
    foldName s = foldName s' := by
  rw [foldName, foldName, if_pos h, if_pos h', letters]

/-- A token with a name in lower case, if it is one. -/
def Token.fold (t : Token) : Token :=
  match t.kind with
  | .ident => { t with value := foldName t.value }
  | _ => t

theorem Token.fold_kind (t : Token) : t.fold.kind = t.kind := by
  obtain ⟨kind, value, span⟩ := t
  cases kind <;> rfl

theorem Token.fold_span (t : Token) : t.fold.span = t.span := by
  obtain ⟨kind, value, span⟩ := t
  cases kind <;> rfl

theorem Token.Alike.fold_eq {t t' : Token} (h : t.Alike t') : t.fold = t'.fold := by
  cases h with
  | refl => rfl
  | name isName isName' letters =>
    rw [Token.fold, Token.fold, foldName_eq_foldName isName isName' letters]

mutual

/-- An expression with its names in lower case. -/
def Expr.fold : Expr → Expr
  | .ident name => .ident (foldName name)
  | .call name args => .call (foldName name) (Expr.foldAll args)
  | .string value => .string value
  | .number literal => .number literal

def Expr.foldAll : List Expr → List Expr
  | [] => []
  | e :: es => e.fold :: Expr.foldAll es

end

theorem Expr.foldAll_eq_map (es : List Expr) : Expr.foldAll es = es.map Expr.fold := by
  induction es with
  | nil => rfl
  | cons e es ih => rw [Expr.foldAll, ih, List.map_cons]

def Block.fold (b : Block) : Block := ⟨b.optional, b.head.fold, b.filters.map Expr.fold⟩

def Node.fold : Node → Node
  | .raw text => .raw text
  | .block b => .block b.fold

def Placed.fold (n : Placed) : Placed := { n with node := n.node.fold }

/-! ### Errors -/

/-- Another error in the same place. -/
def Located.map {ε ε' : Type} (f : ε → ε') (e : Located ε) : Located ε' := ⟨f e.error, e.span⟩

/-- An error with a name that it quotes in lower case. -/
def SyntaxError.fold : SyntaxError → SyntaxError
  | .unexpectedToken found expected => .unexpectedToken (foldName found) expected
  | e => e

@[inherit_doc SyntaxError.fold]
def ResolutionError.fold : ResolutionError → ResolutionError
  | .unknownFunction name => .unknownFunction (foldName name)
  | .unresolvedVariable name => .unresolvedVariable (foldName name)
  | .functionFailed name cause => .functionFailed (foldName name) cause
  | .variableResolverFailed name reason => .variableResolverFailed name reason

@[inherit_doc SyntaxError.fold]
def TemplateError.fold : TemplateError → TemplateError
  | .lexical cause => .lexical cause
  | .syntactic cause => .syntactic cause.fold
  | .resolution cause => .resolution cause.fold

namespace TokenMachine

/-! ### The machine -/

def OpenBlock.fold (b : OpenBlock) : OpenBlock := { b with done := b.done.map Expr.fold }

def OpenCall.fold (c : OpenCall) : OpenCall := ⟨foldName c.name, c.done.map Expr.fold⟩

def Context.fold (c : Context) : Context := ⟨c.block.fold, c.calls.map OpenCall.fold⟩

/-- A state with all names in lower case. -/
def State.fold : State → State
  | .top => .top
  | .opened start optional => .opened start optional
  | .operand context => .operand context.fold
  | .firstArgument context name => .firstArgument context.fold (foldName name)
  | .named context name => .named context.fold (foldName name)
  | .finished context e => .finished context.fold e.fold

/-- An outcome with the name that its fault quotes in lower case. -/
def foldFault {α : Type} (x : Except Fault α) : Except Fault α :=
  x.mapError (Located.map SyntaxError.fold)

/-- What a token leads to, with all names in lower case. -/
def foldNext (next : State × Option Placed) : State × Option Placed :=
  (next.1.fold, next.2.map Placed.fold)

theorem foldFault_map {α β : Type} (f : α → β) (x : Except Fault α) :
    foldFault (x.map f) = (foldFault x).map f := by
  cases x <;> rfl

theorem foldFault_unexpected {α : Type} (t : Token) (e : Expectation) :
    foldFault (.error (unexpected t.fold e) : Except Fault α) =
      foldFault (.error (unexpected t e)) := by
  obtain ⟨kind, value, span⟩ := t
  cases kind with
  | ident =>
    have hvalue := foldName_foldName value
    simp only [foldFault, unexpected, Token.fold, Except.mapError, Located.map, SyntaxError.fold,
      hvalue]
  | _ => rfl

theorem OpenBlock.close_fold (b : OpenBlock) (last : Expr) :
    b.fold.close last.fold = (b.close last).fold := by
  obtain ⟨start, optional, done⟩ := b
  cases done with
  | nil => rfl
  | cons head filters => simp [OpenBlock.fold, OpenBlock.close, Block.fold]

theorem afterExpr_fold (context : Context) (e : Expr) (t : Token) :
    foldFault (afterExpr context.fold e.fold t.fold) =
      (foldFault (afterExpr context e t)).map foldNext := by
  obtain ⟨block, calls⟩ := context
  obtain ⟨kind, value, span⟩ := t
  cases calls with
  | nil =>
    cases kind with
    | filter =>
      have hdone : block.done.map Expr.fold ++ [e.fold] = (block.done ++ [e]).map Expr.fold := by
        rw [List.map_append, List.map_singleton]
      change Except.ok (State.operand
        ⟨{ block.fold with done := block.done.map Expr.fold ++ _ }, []⟩, none) = _
      rw [hdone]
      rfl
    | blockClose =>
      change Except.ok (State.top, some (Placed.mk (.block (block.fold.close e.fold)) _)) = _
      rw [block.close_fold e]
      rfl
    | ident => exact foldFault_unexpected ⟨.ident, value, span⟩ .filterOrBlockEnd
    | _ => rfl
  | cons call calls =>
    have hdone : call.done.map Expr.fold ++ [e.fold] = (call.done ++ [e]).map Expr.fold := by
      rw [List.map_append, List.map_singleton]
    cases kind with
    | comma =>
      change Except.ok (State.operand ⟨block.fold,
        ⟨foldName call.name, call.done.map Expr.fold ++ _⟩ :: calls.map OpenCall.fold⟩, none) = _
      rw [hdone]
      rfl
    | bracketClose =>
      change Except.ok (State.finished ⟨block.fold, calls.map OpenCall.fold⟩
        (.call (foldName call.name) (call.done.map Expr.fold ++ _)), none) = _
      rw [hdone, ← Expr.foldAll_eq_map]
      rfl
    | ident => exact foldFault_unexpected ⟨.ident, value, span⟩ .argumentOrClosingBracket
    | _ => rfl

/-- The machine does not look at the case of names. -/
theorem step_fold (s : State) (t : Token) :
    foldFault (step s.fold t.fold) = (foldFault (step s t)).map foldNext := by
  cases s with
  | finished context e => exact afterExpr_fold context e t
  | named context name =>
    by_cases hbracket : t.kind = .bracketOpen
    · obtain ⟨kind, value, span⟩ := t
      subst hbracket
      rfl
    · have hfolded : t.fold.kind ≠ .bracketOpen := by
        rwa [Token.fold_kind]
      rw [State.fold, step_named hfolded, step_named hbracket]
      exact afterExpr_fold context (.ident name) t
  | top =>
    obtain ⟨kind, value, span⟩ := t
    cases kind with
    | ident => exact foldFault_unexpected ⟨.ident, value, span⟩ .rawTextOrBlock
    | _ => rfl
  | opened start optional =>
    obtain ⟨kind, value, span⟩ := t
    cases optional <;> cases kind <;> rfl
  | operand | firstArgument =>
    obtain ⟨kind, value, span⟩ := t
    cases kind <;> rfl

theorem State.owed_fold (s : State) : s.fold.owed = s.owed := by
  cases s with
  | top | opened | operand | firstArgument => rfl
  | named context | finished context =>
    obtain ⟨block, calls⟩ := context
    cases calls <;> rfl

theorem run_fold (stop : Nat) (s : State) (ts : List Token) :
    foldFault (run stop s.fold (ts.map Token.fold)) =
      (foldFault (run stop s ts)).map (List.map Placed.fold) := by
  induction ts generalizing stop s with
  | nil =>
    rw [List.map_nil, run, run, State.owed_fold]
    cases s.owed <;> rfl
  | cons t ts ih =>
    have hstep := step_fold s t
    rw [List.map_cons, run, run, Token.fold_span]
    cases hfolded : step s.fold t.fold with
    | error fault =>
      cases hplain : step s t with
      | error fault' =>
        rw [hfolded, hplain] at hstep
        exact congrArg Except.error (Except.error.inj hstep)
      | ok next =>
        rw [hfolded, hplain] at hstep
        cases hstep
    | ok next =>
      cases hplain : step s t with
      | error fault' =>
        rw [hfolded, hplain] at hstep
        cases hstep
      | ok next' =>
        rw [hfolded, hplain] at hstep
        obtain rfl : next = foldNext next' := Except.ok.inj hstep
        have hrest := ih t.span.stop next'.1
        simp only [foldFault_map]
        change Except.map _ (foldFault (run t.span.stop next'.1.fold (ts.map Token.fold))) = _
        rw [hrest]
        obtain ⟨s', finished⟩ := next'
        cases foldFault (run t.span.stop s' ts) with
        | error fault => rfl
        | ok nodes => cases finished <;> simp [Except.map, foldNext]

end TokenMachine

open TokenMachine (foldFault run_fold)

/-- An outcome of reading with all names in lower case. -/
def foldParse (x : Except (Located TemplateError) Template) :
    Except (Located TemplateError) Template :=
  (x.mapError (Located.map TemplateError.fold)).map (List.map Placed.fold)

theorem ofTokens_alike {ts ts' : List Token} (h : List.Forall₂ Token.Alike ts ts') :
    (foldFault (Template.ofTokens ts)).map (List.map Placed.fold) =
      (foldFault (Template.ofTokens ts')).map (List.map Placed.fold) := by
  have htokens : ts.map Token.fold = ts'.map Token.fold := by
    induction h with
    | nil => rfl
    | cons hhead _ ih => rw [List.map_cons, List.map_cons, hhead.fold_eq, ih]
  have hread := run_fold 0 .top ts
  have hread' := run_fold 0 .top ts'
  rw [htokens] at hread
  exact hread.symm.trans hread'

/-- Templates that differ in the case of names are read as nodes that differ in the case of names,
or refused with errors that do. -/
theorem Template.parse_caseVariant {m : Markers} (hm : m.delimiters.Neutral)
    {source source' : String} (h : CaseVariant m source source') :
    foldParse (Template.parse m source) = foldParse (Template.parse m source') := by
  have hofScan (ts : List Token) : foldParse (Template.ofScan (.ok ts)) =
      ((foldFault (Template.ofTokens ts)).map (List.map Placed.fold)).mapError
        (Located.map .syntactic) := by
    rw [Template.ofScan]
    cases Template.ofTokens ts <;> rfl
  change foldParse (Template.ofScan (tokenize m source)) =
    foldParse (Template.ofScan (tokenize m source'))
  obtain ⟨e, he, he'⟩ | ⟨ts, ts', hts, hts', halike⟩ := tokenize_caseVariant hm h
  · rw [he, he']
  · rw [hts, hts', hofScan, hofScan, ofTokens_alike halike]

end BlockTemplate
