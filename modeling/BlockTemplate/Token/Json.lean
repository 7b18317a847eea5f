import BlockTemplate.Token
import BlockTemplate.Json.Decode
/-!
# Tokens and spans as JSON
-/

namespace BlockTemplate

namespace Span

def toJson (s : Span) : Json := .object [("start", .nat s.start), ("end", .nat s.stop)]

/-- A span has no other fields than its two ends. -/
def ofJson? (j : Json) : Option Span :=
  let onlyEnds := match j with
    | .object fields => fields.all fun f => f.1 = "start" || f.1 = "end"
    | _ => true
  if onlyEnds then
    match j.record? ["start", "end"] with
    | some [start, stop] => do return ⟨← start.nat?, ← stop.nat?⟩
    | _ => none
  else none

end Span

namespace TokenKind

def ofJson? (j : Json) : Option TokenKind :=
  match j.variant? with
  | some (name, carried) => if Json.isNothing carried then ofName? name else none
  | none => none

end TokenKind

namespace Token

def toJson (t : Token) : Json :=
  .object [("kind", .string t.kind.name), ("value", .string t.value), ("span", t.span.toJson)]

def ofJson? (j : Json) : Option Token :=
  match j.record? ["kind", "value", "span"] with
  | some [kind, value, span] => do
    return ⟨← TokenKind.ofJson? kind, ← value.string?, ← Span.ofJson? span⟩
  | _ => none

end Token

end BlockTemplate
