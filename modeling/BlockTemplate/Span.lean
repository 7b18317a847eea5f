import BlockTemplate.Text.Offset
/-!
# Spans

A span is a range of byte offsets in a text, from the first byte it covers to the byte after the
last one.
-/

namespace BlockTemplate

/-- A range of byte offsets, `stop` excluded. -/
structure Span where
  start : Nat
  stop : Nat
  deriving DecidableEq, Repr, Inhabited

namespace Span

/-- The empty span at an offset, where something is missing. -/
def point (offset : Nat) : Span := ⟨offset, offset⟩

/-- The smallest span that covers both. -/
def join (a b : Span) : Span := ⟨min a.start b.start, max a.stop b.stop⟩

/-- Whether a span covers no byte. -/
def isEmpty (s : Span) : Bool := !(s.start < s.stop)

/-- The characters of a text that a span covers. -/
def slice (s : Span) (text : List Char) : List Char :=
  Text.takeBytes (s.stop - s.start) (Text.dropBytes s.start text)

/-- The span of a middle part of a text covers exactly that part. -/
theorem slice_middle (before middle after : List Char) :
    slice ⟨Text.byteLength before, Text.byteLength before + Text.byteLength middle⟩
      (before ++ (middle ++ after)) = middle := by
  simp [slice, Text.dropBytes_append, Text.takeBytes_append]

end Span

end BlockTemplate
