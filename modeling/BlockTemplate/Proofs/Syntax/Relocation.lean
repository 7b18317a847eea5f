import BlockTemplate.Proofs.Syntax.Reading

/-!
# Reading tokens that stand elsewhere

Offsets are for spans: reading copies the start of one token and the end of another into the span of
a node or of a fault, and looks at neither. So tokens whose starts and whose ends are moved, each in
its own way, are read as before, and the spans of what is read move along.

## Implementation notes

Two maps are needed where text is put into a block. Its place may be the end of one token and the
start of the next, and only the second of them moves.

Main statements: `step_relocate`, `Reads.relocate`.
-/

namespace BlockTemplate

section

variable (f g : Nat → Nat)

/-- A span with both its ends moved. -/
def Span.relocate (s : Span) : Span := ⟨f s.start, g s.stop⟩

def Located.relocate {ε : Type} (e : Located ε) : Located ε := ⟨e.error, e.span.relocate f g⟩

def Token.relocate (t : Token) : Token := { t with span := t.span.relocate f g }

def Placed.relocate (n : Placed) : Placed := { n with span := n.span.relocate f g }

end

namespace TokenMachine

variable (f g : Nat → Nat)

/-- The same surroundings where the block starts elsewhere. -/
def Context.relocate (c : Context) : Context :=
  { c with block := { c.block with start := f c.block.start } }

/-- The same state where the block starts elsewhere. -/
def State.relocate : State → State
  | .top => .top
  | .opened start optional => .opened (f start) optional
  | .operand context => .operand (context.relocate f)
  | .firstArgument context name => .firstArgument (context.relocate f) name
  | .named context name => .named (context.relocate f) name
  | .finished context e => .finished (context.relocate f) e

theorem afterExpr_relocate (context : Context) (e : Expr) (t : Token) :
    afterExpr (context.relocate f) e (t.relocate f g) =
      ((afterExpr context e t).mapError (Located.relocate f g)).map
        fun next => (next.1.relocate f, next.2.map (Placed.relocate f g)) := by
  obtain ⟨kind, value, span⟩ := t
  obtain ⟨block, calls⟩ := context
  cases calls with
  | nil => cases kind <;> rfl
  | cons call calls => cases kind <;> rfl

/-- The machine uses offsets for spans alone. -/
theorem step_relocate (s : State) (t : Token) :
    step (s.relocate f) (t.relocate f g) =
      ((step s t).mapError (Located.relocate f g)).map
        fun next => (next.1.relocate f, next.2.map (Placed.relocate f g)) := by
  cases s with
  | finished context e => exact afterExpr_relocate f g context e t
  | named context name =>
      by_cases hbracket : t.kind = .bracketOpen
      · simp only [step, State.relocate, Token.relocate, hbracket]
        rfl
      · have hmoved : (t.relocate f g).kind ≠ .bracketOpen := hbracket
        rw [State.relocate, step_named hmoved, step_named hbracket]
        exact afterExpr_relocate f g context (.ident name) t
  | opened start optional =>
      obtain ⟨kind, value, span⟩ := t
      cases optional <;> cases kind <;> rfl
  | top | operand | firstArgument =>
      obtain ⟨kind, value, span⟩ := t
      cases kind <;> rfl

/-- What is read from tokens moves with them. -/
theorem Reads.relocate {s s' : State} {ts : List Token} {nodes : Template}
    (h : Reads s ts s' nodes) :
    Reads (s.relocate f) (ts.map (Token.relocate f g)) (s'.relocate f)
      (nodes.map (Placed.relocate f g)) := by
  induction h with
  | nil s => exact .nil _
  | @cons s s' s'' t ts finished nodes head _ ih =>
      have hstep : step (s.relocate f) (t.relocate f g) =
          .ok (s'.relocate f, finished.map (Placed.relocate f g)) := by
        rw [step_relocate, head]
        rfl
      have hnodes : (finished.toList ++ nodes).map (Placed.relocate f g) =
          (finished.map (Placed.relocate f g)).toList ++ nodes.map (Placed.relocate f g) := by
        cases finished <;> rfl
      rw [List.map_cons, hnodes]
      exact .cons hstep ih

end TokenMachine

end BlockTemplate
