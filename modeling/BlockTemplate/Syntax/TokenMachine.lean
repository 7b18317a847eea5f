import BlockTemplate.Syntax
import BlockTemplate.Token
import BlockTemplate.Token.Scanner
/-!
# Reading tokens as a template

The grammar of templates, with `?` for the question token and so on:

    template := (rawText | block)*
    block    := blockOpen '?'? expr ('|' expr)* blockClose
    expr     := string | number | ident ('(' (expr (',' expr)*)? ')')?

A machine takes the tokens one at a time. Its state is what has been read of the block it is in:
the finished expressions of the chain, and the calls whose brackets are still open, innermost
first. A state accepts exactly the tokens that can go on, so an error is met at the first token
that has no place.

## Implementation notes

An expectation is a cause, and `Expectation.phrase` words it. The machine has no separate rule
for the end of the tokens: `State.owed` names what a state still waits for, and only `top` waits
for nothing.
-/

namespace BlockTemplate

/-- What may stand where something else was found. -/
inductive Expectation where
  | rawTextOrBlock
  | operand
  | blockEnding
  | filterOrBlockEnd
  | closingBracket
  | argumentOrClosingBracket
  deriving DecidableEq, Repr

namespace Expectation

/-- The words for an expectation that a token disappoints. -/
def phrase : Expectation → String
  | rawTextOrBlock => "Raw text or block"
  | operand => "Function or variable name"
  | blockEnding => "Block ending"
  | filterOrBlockEnd => "Filter or end of block"
  | closingBracket => "Closing bracket"
  | argumentOrClosingBracket => "Argument or closing bracket"

/-- The words for an expectation that the end disappoints, inside a sentence. -/
def phraseAtEnd : Expectation → String
  | rawTextOrBlock => "raw text or block"
  | operand => "function or variable name"
  | blockEnding => "block ending"
  | filterOrBlockEnd => "filter or end of block"
  | closingBracket => "closing bracket"
  | argumentOrClosingBracket => "argument or closing bracket"

end Expectation

namespace TokenMachine

/-- A block whose closing marker has not been read. -/
structure OpenBlock where
  /-- Offset of its opening marker. -/
  start : Nat
  optional : Bool
  /-- Finished expressions of the chain. -/
  done : List Expr
  deriving Repr

/-- A call whose closing bracket has not been read. -/
structure OpenCall where
  name : String
  /-- Finished arguments. -/
  done : List Expr
  deriving Repr

/-- What surrounds the expression being read. -/
structure Context where
  block : OpenBlock
  /-- Open calls, innermost first. -/
  calls : List OpenCall
  deriving Repr

inductive State where
  /-- Between nodes. -/
  | top
  /-- After an opening marker and possibly a question mark. -/
  | opened (start : Nat) (optional : Bool)
  /-- An expression has to follow. -/
  | operand (context : Context)
  /-- After the opening bracket of a call: an argument or the closing bracket follows. -/
  | firstArgument (context : Context) (name : String)
  /-- After a name, which a bracket may turn into a call. -/
  | named (context : Context) (name : String)
  /-- After a finished expression. -/
  | finished (context : Context) (expr : Expr)
  deriving Repr

/-- A token sequence that is no template, and where that shows. -/
abbrev Fault := Located SyntaxError

def unexpected (t : Token) (e : Expectation) : Fault := ⟨.unexpectedToken t.value e.phrase, t.span⟩

/-- Reads the first token of an expression. -/
def beginExpr (context : Context) (t : Token) : Except Fault State :=
  match t.kind with
  | .string => .ok (.finished context (.string t.value))
  | .number => .ok (.finished context (.number t.value))
  | .ident => .ok (.named context t.value)
  | _ => .error (unexpected t .operand)

/-- The block with the given finished expressions and a last one. -/
def OpenBlock.close (b : OpenBlock) (last : Expr) : Block :=
  match b.done with
  | [] => ⟨b.optional, last, []⟩
  | head :: filters => ⟨b.optional, head, filters ++ [last]⟩

/-- Reads the token after a finished expression. A closing marker finishes the block. -/
def afterExpr (context : Context) (e : Expr) (t : Token) :
    Except Fault (State × Option Placed) :=
  match context.calls with
  | [] =>
    match t.kind with
    | .filter =>
      .ok (.operand ⟨{ context.block with done := context.block.done ++ [e] }, []⟩, none)
    | .blockClose =>
      .ok (.top, some ⟨.block (context.block.close e), ⟨context.block.start, t.span.stop⟩⟩)
    | _ => .error (unexpected t .filterOrBlockEnd)
  | call :: calls =>
    match t.kind with
    | .comma =>
      .ok (.operand ⟨context.block, { call with done := call.done ++ [e] } :: calls⟩, none)
    | .bracketClose =>
      .ok (.finished ⟨context.block, calls⟩ (.call call.name (call.done ++ [e])), none)
    | _ => .error (unexpected t .argumentOrClosingBracket)

/-- Reads a token: the next state, and the node that the token finishes, if it does. -/
def step (s : State) (t : Token) : Except Fault (State × Option Placed) :=
  match s with
  | .top =>
    match t.kind with
    | .rawText => .ok (.top, some ⟨.raw t.value, t.span⟩)
    | .blockOpen => .ok (.opened t.span.start false, none)
    | _ => .error (unexpected t .rawTextOrBlock)
  | .opened start optional =>
    match t.kind, optional with
    | .question, false => .ok (.opened start true, none)
    | .blockClose, _ => .error ⟨.emptyBlock, start, t.span.stop⟩
    | _, _ => (beginExpr ⟨⟨start, optional, []⟩, []⟩ t).map (·, none)
  | .operand context => (beginExpr context t).map (·, none)
  | .firstArgument context name =>
    match t.kind with
    | .bracketClose => .ok (.finished context (.call name []), none)
    | _ => (beginExpr ⟨context.block, ⟨name, []⟩ :: context.calls⟩ t).map (·, none)
  | .named context name =>
    match t.kind with
    | .bracketOpen => .ok (.firstArgument context name, none)
    | _ => afterExpr context (.ident name) t
  | .finished context e => afterExpr context e t

namespace State

/-- What a state still waits for when the tokens end. -/
def owed : State → Option Expectation
  | top => none
  | opened _ _ | operand _ | firstArgument _ _ => some .operand
  | named context _ | finished context _ =>
      match context.calls with
      | [] => some .blockEnding
      | _ :: _ => some .closingBracket

end State

/-- Reads tokens from a state on; `stop` is where the token before them ends. -/
def run (stop : Nat) (s : State) : List Token → Except Fault Template
  | [] =>
    match s.owed with
    | none => .ok []
    | some e => .error ⟨.unexpectedEnd e.phraseAtEnd, Span.point stop⟩
  | t :: ts =>
    match step s t with
    | .error fault => .error fault
    | .ok (s', finished) => (run t.span.stop s' ts).map (finished.toList ++ ·)

end TokenMachine

namespace Template

/-- The template that a token sequence spells. -/
def ofTokens (tokens : List Token) : Except (Located SyntaxError) Template :=
  TokenMachine.run 0 .top tokens

/-- Scans and reads a template. -/
def parse (m : Markers) (source : String) : Except (Located TemplateError) Template :=
  match tokenize m source with
  | .error e => .error ⟨.lexical e.error, e.span⟩
  | .ok tokens =>
    match ofTokens tokens with
    | .error e => .error ⟨.syntactic e.error, e.span⟩
    | .ok template => .ok template

/-- Whether a source can be read and has at least one node. -/
def isValid (m : Markers) (source : String) : Bool :=
  match parse m source with
  | .error _ => false
  | .ok template => !template.isEmpty

end Template

end BlockTemplate
