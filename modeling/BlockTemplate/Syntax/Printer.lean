import BlockTemplate.Syntax
import BlockTemplate.Token.Escape
/-!
# The text of a block

Expressions and blocks are written the way a template spells them, markers left out: arguments
are separated by a comma and a space, filters by a vertical bar, and strings stand between double
quotes.
-/

namespace BlockTemplate

mutual

/-- The characters that spell an expression. -/
def Expr.spell : Expr → List Char
  | .ident name => name.toList
  | .call name args => name.toList ++ '(' :: (Expr.spellArgs args ++ [')'])
  | .string value => Escape.quote value.toList
  | .number literal => literal.toList

/-- Arguments, separated by a comma and a space. -/
def Expr.spellArgs : List Expr → List Char
  | [] => []
  | e :: es => Expr.spell e ++ Expr.spellMoreArgs es

/-- Arguments after the first one. -/
def Expr.spellMoreArgs : List Expr → List Char
  | [] => []
  | e :: es => ',' :: ' ' :: (Expr.spell e ++ Expr.spellMoreArgs es)

end

/-- Each filter with the bar before it. -/
def Expr.spellFilters : List Expr → List Char
  | [] => []
  | e :: es => '|' :: (Expr.spell e ++ Expr.spellFilters es)

/-- The text of an expression. -/
def Expr.text (e : Expr) : String := String.ofList e.spell

namespace Block

/-- The characters that spell a block between its markers. -/
def spell (b : Block) : List Char :=
  (if b.optional then ['?'] else []) ++ (b.head.spell ++ Expr.spellFilters b.filters)

/-- The text of a block between its markers. -/
def text (b : Block) : String := String.ofList b.spell

end Block

end BlockTemplate
