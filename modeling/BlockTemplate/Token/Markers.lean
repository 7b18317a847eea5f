/-!
# Block markers

A block stands between an opening and a closing marker. Markers may be of any length and are
matched literally; an empty one stands for the default.

## Implementation notes

`Markers` is what a user configures. `Delimiters` is what scanning uses: two texts that carry the
proof that they are not empty, so that passing one always makes progress.
-/

namespace BlockTemplate

/-- Markers as configured, possibly empty. -/
structure Markers where
  opening : String
  closing : String
  deriving DecidableEq, Repr

/-- The opening marker used where none is given. -/
def defaultOpening : List Char := ['\x7b']

/-- The closing marker used where none is given. -/
def defaultClosing : List Char := ['\x7d']

/-- Markers in effect: never empty. -/
structure Delimiters where
  opening : List Char
  closing : List Char
  opening_ne_nil : opening ≠ []
  closing_ne_nil : closing ≠ []

/-- A marker, or the given default in place of an empty one. -/
def markerOr (marker fallback : List Char) : List Char :=
  if marker = [] then fallback else marker

theorem markerOr_ne_nil (marker : List Char) {fallback : List Char} (h : fallback ≠ []) :
    markerOr marker fallback ≠ [] := by
  unfold markerOr
  split <;> assumption

namespace Markers

/-- Single curly braces. -/
def standard : Markers := ⟨String.ofList defaultOpening, String.ofList defaultClosing⟩

instance : Inhabited Markers := ⟨standard⟩

/-- The markers in effect, empty ones replaced by the defaults. -/
def delimiters (m : Markers) : Delimiters where
  opening := markerOr m.opening.toList defaultOpening
  closing := markerOr m.closing.toList defaultClosing
  opening_ne_nil := markerOr_ne_nil _ (by decide)
  closing_ne_nil := markerOr_ne_nil _ (by decide)

end Markers

end BlockTemplate
