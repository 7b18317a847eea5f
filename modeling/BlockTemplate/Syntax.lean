import BlockTemplate.Span
/-!
# Template trees

A template is a sequence of nodes with their spans: raw text and blocks. A block is a chain: a
head expression and the filters applied to its value, left to right.
-/

namespace BlockTemplate

inductive Expr where
  /-- A bare name: a variable, or a function called without arguments when there is no such
  variable. -/
  | ident (name : String)
  /-- A name with an argument list, possibly empty. -/
  | call (name : String) (args : List Expr)
  | string (value : String)
  /-- A number kept as written. -/
  | number (literal : String)
  deriving Repr, Inhabited

/-- A chain of expressions. An optional block prints nothing when its head is empty. -/
structure Block where
  optional : Bool
  head : Expr
  filters : List Expr
  deriving Repr, Inhabited

inductive Node where
  | raw (text : String)
  | block (block : Block)
  deriving Repr, Inhabited

/-- A node of a template and where it stands. -/
structure Placed where
  node : Node
  span : Span
  deriving Repr, Inhabited

/-- The nodes of a template in order. -/
abbrev Template := List Placed

namespace Expr

/-- The name of a variable or function; literals have none. -/
def name? : Expr → Option String
  | ident name => some name
  | call name _ => some name
  | string _ => none
  | number _ => none

end Expr

namespace Block

/-- Head and filters in the order they are evaluated. -/
def chain (b : Block) : List Expr := b.head :: b.filters

end Block

namespace Template

/-- The blocks of a template in order. -/
def blocks (t : Template) : List Block :=
  t.filterMap fun p => match p.node with
    | .raw _ => none
    | .block b => some b

end Template

end BlockTemplate
