import Mathlib
import BlockTemplate.Processor.Evaluation
import BlockTemplate.Proofs.Syntax.Relocation

/-!
# Expanding nodes that stand elsewhere

Where the nodes of a template stand does not matter to what they expand to. A failure is reported at
the block it happened in, so its span moves with the block.

## Implementation notes

Two expansions are equal as computations in the monad of the host: it is asked the same in the same
order, and only the failure at the end is adapted.

Main statements: `expand_relocate`, `process_relocate`.
-/

namespace BlockTemplate

/-! ### Errors of computations -/

section

variable {m : Type → Type} [Monad m] [LawfulMonad m] {ε ε' α β : Type}

theorem adapt_throw (f : ε → ε') (e : ε) :
    ExceptT.adapt f (throw e : ExceptT ε m α) = throw (f e) := by
  apply ExceptT.ext
  rw [ExceptT.run_adapt, ExceptT.run_throw, ExceptT.run_throw, map_pure]
  rfl

theorem adapt_pure (f : ε → ε') (a : α) :
    ExceptT.adapt f (pure a : ExceptT ε m α) = pure a := by
  apply ExceptT.ext
  rw [ExceptT.run_adapt, ExceptT.run_pure, ExceptT.run_pure, map_pure]
  rfl

theorem adapt_bind (f : ε → ε') (x : ExceptT ε m α) (g : α → ExceptT ε m β) :
    ExceptT.adapt f (x >>= g) = ExceptT.adapt f x >>= fun a => ExceptT.adapt f (g a) := by
  apply ExceptT.ext
  rw [ExceptT.run_adapt, ExceptT.run_bind, ExceptT.run_bind, ExceptT.run_adapt, map_bind,
    bind_map_left]
  refine bind_congr fun result => ?_
  cases result with
  | error e => exact map_pure _ _
  | ok a => rfl

/-- Equal first steps, then equal second steps. -/
theorem adapt_bind_congr {f : ε → ε'} {x y : ExceptT ε m α} {g h : α → ExceptT ε m β}
    (hxy : ExceptT.adapt f x = ExceptT.adapt f y)
    (hgh : ∀ a, ExceptT.adapt f (g a) = ExceptT.adapt f (h a)) :
    ExceptT.adapt f (x >>= g) = ExceptT.adapt f (y >>= h) := by
  rw [adapt_bind, adapt_bind, hxy]
  exact bind_congr hgh

end

namespace Processor

variable {m : Type → Type} [Monad m] [LawfulMonad m] (p : Processor m) (f g : Nat → Nat)

theorem locate_relocate {α : Type} (span : Span) (x : Eval m α) :
    locate (span.relocate f g) x = ExceptT.adapt (Located.relocate f g) (locate span x) := by
  apply ExceptT.ext
  rw [ExceptT.run_adapt, locate, locate, ExceptT.run_mk, ExceptT.run_mk, map_bind]
  refine bind_congr fun result => ?_
  cases result <;> simp [Except.mapError, Located.relocate]

theorem expandNode_relocate (n : Placed) :
    p.expandNode (n.relocate f g) =
      ExceptT.adapt (Located.relocate f g) (p.expandNode n) := by
  obtain ⟨node, span⟩ := n
  cases node with
  | raw text => exact (adapt_pure _ _).symm
  | block b => exact locate_relocate f g span (p.evalBlock b)

/-- Where nodes stand matters to failures alone. -/
theorem expand_relocate (template : Template) :
    p.expand (template.map (Placed.relocate f g)) =
      ExceptT.adapt (Located.relocate f g) (p.expand template) := by
  induction template with
  | nil => exact (adapt_pure _ _).symm
  | cons n template ih =>
      rw [List.map_cons, expand, expand, adapt_bind, expandNode_relocate]
      refine bind_congr fun text => ?_
      rw [adapt_bind, ih]
      exact bind_congr fun more => (adapt_pure _ _).symm

/-- A source whose nodes stand elsewhere makes the same of its host, and fails elsewhere. -/
theorem process_relocate {source source' : String} {template : Template}
    (h : Template.parse p.settings.markers source = .ok template)
    (h' : Template.parse p.settings.markers source' =
      .ok (template.map (Placed.relocate f g))) :
    p.process source' = Except.mapError (Located.relocate f g) <$> p.process source := by
  rw [process, process, h, h']
  simp only [expand_relocate, ExceptT.run_adapt, map_bind, bind_map_left]
  refine bind_congr fun result => ?_
  cases result <;> simp [Except.mapError]

end Processor

end BlockTemplate
