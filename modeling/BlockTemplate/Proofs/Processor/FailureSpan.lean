import BlockTemplate.Proofs.Position.Order
import BlockTemplate.Proofs.Processor.BuiltinCall
import BlockTemplate.Proofs.Syntax.FaultSpan

/-!
# Where an expansion fails

An expansion fails at a part of the source. A source that is no template fails where reading it
does; else the failure is that of the first block that cannot be evaluated, at the span of that
block.

Main statements: an expansion that fails has evaluated all nodes before the block it fails at
(`exists_block_of_expand_error`); every failure points into the source (`pointsInto_of_process`).
-/

namespace BlockTemplate

/-- An offset between two characters of a text, or at one of its ends. -/
def Text.IsBoundary (text : List Char) (offset : Nat) : Prop :=
  ∃ before after, text = before ++ after ∧ offset = byteLength before

theorem Span.Covers.boundaries {s : Span} {text part : List Char} (h : s.Covers text part) :
    Text.IsBoundary text s.start ∧ Text.IsBoundary text s.stop := by
  obtain ⟨before, after, rfl, rfl⟩ := h
  constructor
  · exact ⟨before, part ++ after, rfl, rfl⟩
  · exact ⟨before ++ part, after, by simp, by simp⟩

namespace Processor

variable {σ : Type} {p : Processor (StateM σ)}

/-! ### The block that fails -/

/-- What is done in two steps fails in the first, or in the second from where the first has led. -/
theorem run_bind_eq_error {ε α β : Type} {x : ExceptT ε (StateM σ) α}
    {g : α → ExceptT ε (StateM σ) β} {e : ε} {world world' : σ}
    (h : (x >>= g).run.run world = (.error e, world')) :
    x.run.run world = (.error e, world') ∨
      ∃ a between, x.run.run world = (.ok a, between) ∧
        (g a).run.run between = (.error e, world') := by
  rw [ExceptT.run_bind, StateT.run_bind] at h
  rcases hx : x.run.run world with ⟨e' | a, between⟩
  · rw [hx] at h
    obtain ⟨he, rfl⟩ := Prod.mk.inj h
    obtain rfl := Except.error.inj he
    exact Or.inl rfl
  · rw [hx] at h
    exact Or.inr ⟨a, between, rfl, h⟩

theorem run_bind_eq_ok {ε α β : Type} {x : ExceptT ε (StateM σ) α}
    {g : α → ExceptT ε (StateM σ) β} {a : α} {world between : σ}
    (h : x.run.run world = (.ok a, between)) :
    (x >>= g).run.run world = (g a).run.run between := by
  rw [ExceptT.run_bind, StateT.run_bind, h]
  rfl

/-- Only a block fails, and a failure of it is reported at its span. -/
theorem exists_block_of_expandNode_error {n : Placed} {world world' : σ}
    {e : Located TemplateError} (h : (p.expandNode n).run.run world = (.error e, world')) :
    ∃ b cause, n.node = .block b ∧ e = ⟨.resolution cause, n.span⟩ ∧
      (p.evalBlock b).runFrom world = (.error cause, world') := by
  obtain ⟨node, span⟩ := n
  cases node with
  | raw text => cases h
  | block b =>
    change (locate span (p.evalBlock b)).run.run world = _ at h
    rw [locate, ExceptT.run_mk, StateT.run_bind] at h
    rcases hb : (p.evalBlock b).run.run world with ⟨cause | text, between⟩
    · rw [hb] at h
      obtain ⟨he, rfl⟩ := Prod.mk.inj h
      exact ⟨b, cause, rfl, (Except.error.inj he).symm, hb⟩
    · rw [hb] at h
      cases h

/-- An expansion fails at the first block that fails: what stands before that block is expanded. -/
theorem exists_block_of_expand_error {template : Template} {world world' : σ}
    {e : Located TemplateError} (h : (p.expand template).run.run world = (.error e, world')) :
    ∃ earlier n later b cause text between, template = earlier ++ n :: later ∧
      n.node = .block b ∧ e = ⟨.resolution cause, n.span⟩ ∧
      (p.expand earlier).run.run world = (.ok text, between) ∧
      (p.evalBlock b).runFrom between = (.error cause, world') := by
  induction template generalizing world with
  | nil => cases h
  | cons first rest ih =>
    rw [expand] at h
    rcases run_bind_eq_error h with hfirst | ⟨text, between, hfirst, hrest⟩
    · obtain ⟨b, cause, hnode, he, hb⟩ := exists_block_of_expandNode_error hfirst
      exact ⟨[], first, rest, b, cause, [], world, rfl, hnode, he, rfl, hb⟩
    · rcases run_bind_eq_error hrest with hrest | ⟨more, between', -, hnever⟩
      · obtain ⟨earlier, n, later, b, cause, text', between', rfl, hnode, he, hearlier, hb⟩ :=
          ih hrest
        refine ⟨first :: earlier, n, later, b, cause, text ++ text', between', rfl, hnode, he,
          ?_, hb⟩
        rw [expand, run_bind_eq_ok hfirst, run_bind_eq_ok hearlier]
        rfl
      · cases hnever

/-! ### Failures of a source -/

/-- What the span of a failure says, when a processor fails on a source from a state of the host. -/
structure PointsInto (p : Processor (StateM σ)) (source : String) (world world' : σ)
    (e : Located TemplateError) : Prop where
  ordered : e.span.start ≤ e.span.stop
  inside : e.span.stop ≤ Text.byteLength source.toList
  start_boundary : Text.IsBoundary source.toList e.span.start
  stop_boundary : Text.IsBoundary source.toList e.span.stop
  /-- Only where a source ends too early there is nothing to point at. -/
  empty_iff : e.span.isEmpty = true ↔ ∃ expected, e.error = .syntactic (.unexpectedEnd expected)
  /-- A failure of scanning or reading is that of reading the source alone. -/
  refused : (∀ cause, e.error ≠ .resolution cause) →
    Template.parse p.settings.markers source = .error e
  /-- A failure of evaluation has the span of a block; all nodes before the block are expanded, and
  the block fails from the state that they lead to. -/
  failed : ∀ cause, e.error = .resolution cause → ∃ earlier n later b text between,
    Template.parse p.settings.markers source = .ok (earlier ++ n :: later) ∧
      n.node = .block b ∧ e.span = n.span ∧
      (p.expand earlier).run.run world = (.ok text, between) ∧
      (p.evalBlock b).run.run between = (.error cause, world')
  /-- The range shown for it starts no later than it ends, if the source has fewer bytes than 32
  bits can count. -/
  diagnosed : Text.byteLength source.toList < 2 ^ 32 →
    (Diagnosis.ofError source.toList e).start ≤ (Diagnosis.ofError source.toList e).stop

/-- What is to be seen of the failure itself follows from the part that its span covers. -/
theorem PointsInto.of_covers {source : String} {world world' : σ} {e : Located TemplateError}
    {part : List Char} (hcovers : e.span.Covers source.toList part)
    (hempty : part = [] ↔ ∃ expected, e.error = .syntactic (.unexpectedEnd expected))
    (hrefused : (∀ cause, e.error ≠ .resolution cause) →
      Template.parse p.settings.markers source = .error e)
    (hfailed : ∀ cause, e.error = .resolution cause → ∃ earlier n later b text between,
      Template.parse p.settings.markers source = .ok (earlier ++ n :: later) ∧
        n.node = .block b ∧ e.span = n.span ∧
        (p.expand earlier).run.run world = (.ok text, between) ∧
        (p.evalBlock b).run.run between = (.error cause, world')) :
    p.PointsInto source world world' e where
  ordered := hcovers.start_le_stop
  inside := hcovers.stop_le
  start_boundary := hcovers.boundaries.1
  stop_boundary := hcovers.boundaries.2
  empty_iff := hcovers.isEmpty_iff.trans hempty
  refused := hrefused
  failed := hfailed
  diagnosed := Diagnosis.start_le_stop hcovers.start_le_stop

/-- Every failure of an expansion points into its source. -/
theorem pointsInto_of_process {source : String} {world world' : σ} {e : Located TemplateError}
    (h : (p.process source).run world = (.error e, world')) :
    p.PointsInto source world world' e := by
  rw [process] at h
  cases hparse : Template.parse p.settings.markers source with
  | error refusal =>
    rw [hparse] at h
    obtain rfl := Except.error.inj (Prod.mk.inj h).1
    obtain ⟨part, hcovers, hempty⟩ := Template.covers_of_parse_error hparse
    apply PointsInto.of_covers hcovers hempty
    · exact fun _ => hparse
    · intro cause hcause
      exact absurd hcause (Template.ne_resolution_of_parse_error hparse cause)
  | ok template =>
    rw [hparse] at h
    dsimp only at h
    rw [StateT.run_bind] at h
    rcases hexpand : (p.expand template).run.run world with ⟨e' | text, between⟩
    · rw [hexpand] at h
      obtain ⟨he, rfl⟩ := Prod.mk.inj h
      obtain rfl := Except.error.inj he
      obtain ⟨earlier, n, later, b, cause, text, between', rfl, hnode, rfl, hearlier, hb⟩ :=
        exists_block_of_expand_error hexpand
      obtain ⟨part, hne, hcovers⟩ := Template.covers_of_mem (n := n) hparse (by simp)
      apply PointsInto.of_covers hcovers (iff_of_false hne (by simp))
      · intro hno
        exact absurd rfl (hno cause)
      · intro cause' hcause
        obtain rfl := TemplateError.resolution.inj hcause
        exact ⟨earlier, n, later, b, text, between', hparse, hnode, rfl, hearlier, hb⟩
    · rw [hexpand] at h
      cases h

/-- A character of two bytes, a block that is evaluated, and one on the second line that calls a
function nobody knows. -/
theorem pointsInto_of_process_unknown_function :
    let p : Processor (StateM Unit) := new .standard default
    let source := "é\x7b'a'\x7d\n\x7bf()\x7d"
    let e : Located TemplateError := ⟨.resolution (.unknownFunction "f"), ⟨8, 13⟩⟩
    (p.process source).run () = (.error e, ()) ∧ p.PointsInto source () () e := by
  intro p source e
  have h : (p.process source).run () = (.error e, ()) := by cbv
  exact ⟨h, pointsInto_of_process h⟩

end Processor

end BlockTemplate
