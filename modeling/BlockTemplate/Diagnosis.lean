import BlockTemplate.Failure
import BlockTemplate.Position
import BlockTemplate.Json
/-!
# Diagnoses

A failure as an editor wants it: a range of positions, a severity and a message.
-/

namespace BlockTemplate

/-- A position as editors count it, in 32 bits. -/
structure EditorPosition where
  line : UInt32
  character : UInt32
  deriving DecidableEq, Repr, Inhabited

namespace EditorPosition

/-- Of a number that has more than 32 bits, the lowest are kept. -/
def ofPosition (p : Position) : EditorPosition := ⟨.ofNat p.line, .ofNat p.column⟩

def toJson (p : EditorPosition) : Json :=
  .object [("line", .nat p.line.toNat), ("character", .nat p.character.toNat)]

end EditorPosition

/-- A failure and the range of positions it is about. -/
structure Diagnosis where
  start : EditorPosition
  stop : EditorPosition
  message : String
  deriving DecidableEq, Repr

namespace Diagnosis

/-- The severity of an error. -/
def severity : Nat := 1

/-- The diagnosis of a failure in a source. -/
def ofError (source : List Char) (e : Located TemplateError) : Diagnosis where
  start := .ofPosition (.ofOffset source e.span.start)
  stop := .ofPosition (.ofOffset source e.span.stop)
  message := e.error.message

def toJson (d : Diagnosis) : Json :=
  .object [("range", .object [("start", d.start.toJson), ("end", d.stop.toJson)]),
    ("severity", .nat severity), ("message", .string d.message)]

end Diagnosis

end BlockTemplate
