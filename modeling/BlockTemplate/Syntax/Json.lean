import BlockTemplate.Syntax
import BlockTemplate.Token.Json
/-!
# Templates as JSON

A template is an array of nodes, each paired with its span. Nodes and expressions are tagged with
what they are.
-/

namespace BlockTemplate

mutual

def Expr.toJson : Expr → Json
  | .ident name => .tagged "FunctionOrVariable" (.string name)
  | .call name args =>
    .tagged "Function" (.object [("name", .string name), ("args", .array (Expr.listToJson args))])
  | .string value => .tagged "String" (.string value)
  | .number literal => .tagged "Number" (.string literal)

def Expr.listToJson : List Expr → List Json
  | [] => []
  | e :: es => Expr.toJson e :: Expr.listToJson es

end

def Block.toJson (b : Block) : Json :=
  .object [("optional", .bool b.optional), ("head", b.head.toJson),
    ("filters", .array (Expr.listToJson b.filters))]

def Node.toJson : Node → Json
  | raw text => .tagged "RawText" (.string text)
  | block b => .tagged "Block" b.toJson

def Template.toJson (t : Template) : Json :=
  .array (t.map fun p => .array [p.node.toJson, p.span.toJson])

end BlockTemplate
