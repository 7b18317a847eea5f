import BlockTemplate.Proofs.Syntax.Reading
import Mathlib.Data.List.Basic

/-!
# Where a token sequence stops being a template

A sequence of kinds is viable when a sentence of the grammar begins with it. The machine never goes
on past a viable sequence: every state it comes to has a way back to the top, and a token that it
refuses has no sentence that goes on with it.

## Implementation notes

A way back to the top closes the open calls one after the other and then the block
(`State.exists_reads_top`). That a refused token ends no viable sequence needs no search through
the grammar, since a sentence through it would be read.

Main statement: `ofTokens_fault`.
-/

namespace BlockTemplate

namespace Grammar

/-- Kinds that a sentence of the grammar begins with. -/
def Viable (kinds : List TokenKind) : Prop := ∃ more, Derivable (kinds ++ more)

end Grammar

namespace TokenMachine

open Grammar

/-- A token of a kind, of no text and no place. -/
def bareToken (kind : TokenKind) : Token := ⟨kind, "", Span.point 0⟩

theorem map_kind_bareToken (kinds : List TokenKind) :
    (kinds.map bareToken).map (·.kind) = kinds := by
  rw [List.map_map]
  exact List.map_id kinds

theorem derivable_iff_reads (tokens : List Token) :
    Derivable (tokens.map (·.kind)) ↔ ∃ nodes, Reads .top tokens .top nodes := by
  rw [derivable_iff]
  constructor
  · rintro ⟨tree, rfl⟩
    exact ⟨_, reads_templateTree tree⟩
  · rintro ⟨nodes, h⟩
    obtain ⟨tree, htokens, -⟩ := templateTree_of_reads h
    exact ⟨tree, htokens⟩

/-! ### What has been read is viable -/

theorem exists_reads_top_of_finished (block : OpenBlock) (calls : List OpenCall) (e : Expr) :
    ∃ ts nodes, Reads (.finished ⟨block, calls⟩ e) ts .top nodes := by
  induction calls generalizing e with
  | nil => exact ⟨[bareToken .blockClose], _, .finish rfl⟩
  | cons call calls ih =>
      obtain ⟨ts, nodes, h⟩ := ih (.call call.name (call.done ++ [e]))
      exact ⟨bareToken .bracketClose :: ts, nodes, .next rfl h⟩

/-- From every state some tokens lead back to the top. -/
theorem State.exists_reads_top (s : State) : ∃ ts nodes, Reads s ts .top nodes := by
  have hfinished (context : Context) (e : Expr) :
      ∃ ts nodes, Reads (.finished context e) ts .top nodes :=
    exists_reads_top_of_finished context.block context.calls e
  cases s with
  | top => exact ⟨[], [], .nil .top⟩
  | opened start optional =>
      obtain ⟨ts, nodes, h⟩ := hfinished ⟨⟨start, optional, []⟩, []⟩ (.string "")
      exact ⟨bareToken .string :: ts, nodes, .next rfl h⟩
  | operand context =>
      obtain ⟨ts, nodes, h⟩ := hfinished context (.string "")
      exact ⟨bareToken .string :: ts, nodes, .next rfl h⟩
  | firstArgument context name =>
      obtain ⟨ts, nodes, h⟩ := hfinished context (.call name [])
      exact ⟨bareToken .bracketClose :: ts, nodes, .next rfl h⟩
  | named context name =>
      -- an empty argument list turns the name into a finished call
      obtain ⟨ts, nodes, h⟩ := hfinished context (.call name [])
      exact ⟨bareToken .bracketOpen :: bareToken .bracketClose :: ts, nodes,
        .next rfl (.next rfl h)⟩
  | finished context e => exact hfinished context e

theorem viable_of_reads {s : State} {ts : List Token} {nodes : Template}
    (h : Reads .top ts s nodes) : Viable (ts.map (·.kind)) := by
  obtain ⟨us, more, hus⟩ := s.exists_reads_top
  refine ⟨us.map (·.kind), ?_⟩
  rw [← List.map_append, derivable_iff_reads]
  exact ⟨_, h.append hus⟩

/-! ### What is refused is not viable -/

theorem not_viable_of_step_error {s : State} {before : List Token} {t : Token} {nodes : Template}
    {fault : Fault} (h : Reads .top before s nodes) (hstep : step s t = .error fault) :
    ¬Viable ((before ++ [t]).map (·.kind)) := by
  rintro ⟨more, hderivable⟩
  have hkinds : (before ++ [t]).map (·.kind) ++ more =
      (before ++ t :: more.map bareToken).map (·.kind) := by
    simp only [List.map_append, List.map_cons, List.map_nil, List.append_assoc,
      List.cons_append, List.nil_append, map_kind_bareToken]
  rw [hkinds, derivable_iff_reads] at hderivable
  obtain ⟨nodes', hreads⟩ := hderivable
  have hrun : run 0 .top (before ++ t :: more.map bareToken) = .ok nodes' :=
    run_eq_ok_iff.2 hreads
  rw [run_append h, run, hstep] at hrun
  cases hrun

/-! ### Faults -/

/-- A run that fails has read all tokens and waits for more, or is refused one of them. -/
theorem run_eq_error {stop : Nat} {s : State} {ts : List Token} {fault : Fault}
    (h : run stop s ts = .error fault) :
    (∃ s' nodes e, Reads s ts s' nodes ∧ s'.owed = some e ∧
        fault = ⟨.unexpectedEnd e.phraseAtEnd, Span.point (stopAfter stop ts)⟩) ∨
      ∃ before t after s' nodes, ts = before ++ t :: after ∧ Reads s before s' nodes ∧
        step s' t = .error fault := by
  induction ts generalizing stop s with
  | nil =>
      rw [run] at h
      split at h
      · cases h
      · next e howed => exact Or.inl ⟨s, [], e, .nil s, howed, (Except.error.inj h).symm⟩
  | cons t ts ih =>
      rw [run] at h
      split at h
      · next hstep =>
          obtain rfl := Except.error.inj h
          exact Or.inr ⟨[], t, ts, s, [], rfl, .nil s, hstep⟩
      · next s' finished hstep =>
          cases hrun : run t.span.stop s' ts with
          | ok nodes => simp [hrun, Except.map] at h
          | error fault' =>
              obtain rfl : fault' = fault := by simpa [hrun, Except.map] using h
              obtain ⟨s'', nodes, e, hreads, howed, hfault⟩ |
                ⟨before, u, after, s'', nodes, rfl, hreads, hrefused⟩ := ih hrun
              · exact Or.inl ⟨s'', _, e, .cons hstep hreads, howed, hfault⟩
              · exact Or.inr ⟨t :: before, u, after, s'', _, rfl, .cons hstep hreads, hrefused⟩

theorem beginExpr_eq_error {context : Context} {t : Token} {fault : Fault}
    (h : (beginExpr context t).map (·, (none : Option Placed)) = .error fault) :
    fault = unexpected t .operand := by
  unfold beginExpr at h
  split at h
  case h_4 => exact (Except.error.inj h).symm
  all_goals cases h

theorem afterExpr_eq_error {context : Context} {e : Expr} {t : Token} {fault : Fault}
    (h : afterExpr context e t = .error fault) : ∃ expected, fault = unexpected t expected := by
  unfold afterExpr at h
  split at h
  · split at h
    case h_3 => exact ⟨_, (Except.error.inj h).symm⟩
    all_goals cases h
  · split at h
    case h_3 => exact ⟨_, (Except.error.inj h).symm⟩
    all_goals cases h

/-- A refused token is unexpected, except for one that closes a block with nothing in it. -/
theorem step_eq_error {s : State} {t : Token} {fault : Fault} (h : step s t = .error fault) :
    (∃ expected, fault = unexpected t expected) ∨
      ∃ start optional, s = .opened start optional ∧ t.kind = .blockClose ∧
        fault = ⟨.emptyBlock, start, t.span.stop⟩ := by
  cases s with
  | top =>
      simp only [step] at h
      split at h
      case h_3 => exact Or.inl ⟨_, (Except.error.inj h).symm⟩
      all_goals cases h
  | opened start optional =>
      simp only [step] at h
      split at h
      · cases h
      · next hk => exact Or.inr ⟨start, _, rfl, hk, (Except.error.inj h).symm⟩
      · exact Or.inl ⟨_, beginExpr_eq_error h⟩
  | operand context => exact Or.inl ⟨_, beginExpr_eq_error h⟩
  | firstArgument context name =>
      simp only [step] at h
      split at h
      · cases h
      · exact Or.inl ⟨_, beginExpr_eq_error h⟩
  | named context name =>
      simp only [step] at h
      split at h
      · cases h
      · exact Or.inl (afterExpr_eq_error h)
  | finished context e => exact Or.inl (afterExpr_eq_error h)

theorem beginExpr_ne_opened {context : Context} {t : Token} {start : Nat} {optional : Bool} :
    beginExpr context t ≠ .ok (.opened start optional) := by
  intro h
  rcases beginExpr_eq_ok h with ⟨-, hs⟩ | ⟨-, hs⟩ | ⟨-, hs⟩ <;> cases hs

theorem afterExpr_ne_opened {context : Context} {e : Expr} {t : Token} {start : Nat}
    {optional : Bool} {finished : Option Placed} :
    afterExpr context e t ≠ .ok (.opened start optional, finished) := by
  intro h
  obtain ⟨block, calls⟩ := context
  cases calls with
  | nil => rcases afterExpr_block_eq_ok h with ⟨-, hs, -⟩ | ⟨-, hs, -⟩ <;> cases hs
  | cons call calls => rcases afterExpr_call_eq_ok h with ⟨-, hs, -⟩ | ⟨-, hs, -⟩ <;> cases hs

/-- A block is open and empty after its opening marker and after a question mark there. -/
theorem step_eq_opened {s : State} {t : Token} {start : Nat} {optional : Bool}
    {finished : Option Placed} (h : step s t = .ok (.opened start optional, finished)) :
    s = .top ∧ t.kind = .blockOpen ∧ start = t.span.start ∧ optional = false ∨
      s = .opened start false ∧ t.kind = .question ∧ optional = true := by
  cases s with
  | top =>
      obtain ⟨-, hs, -⟩ | ⟨hk, hs, -⟩ := top_eq_ok h
      · cases hs
      · obtain ⟨rfl, rfl⟩ := State.opened.inj hs
        exact Or.inl ⟨rfl, hk, rfl, rfl⟩
  | opened start' optional' =>
      obtain ⟨-, ⟨hk, rfl, hs⟩ | hbegin⟩ := opened_eq_ok h
      · obtain ⟨rfl, rfl⟩ := State.opened.inj hs
        exact Or.inr ⟨rfl, hk, rfl⟩
      · exact absurd hbegin beginExpr_ne_opened
  | operand context => exact absurd (exists_begin h).1 beginExpr_ne_opened
  | firstArgument context name =>
      obtain ⟨-, ⟨-, hs⟩ | hbegin⟩ := firstArgument_eq_ok h
      · cases hs
      · exact absurd hbegin beginExpr_ne_opened
  | named context name =>
      by_cases hk : t.kind = .bracketOpen
      · simp [step, hk] at h
      · rw [step_named hk] at h
        exact absurd h afterExpr_ne_opened
  | finished context e => exact absurd h afterExpr_ne_opened

theorem exists_opening_of_reads {before : List Token} {start : Nat} {optional : Bool}
    {nodes : Template} (h : Reads .top before (.opened start optional) nodes) :
    ∃ (earlier : List Token) (opening : Leaf .blockOpen) (question : Option (Leaf .question)),
      before = earlier ++ opening.1 :: question.toList.map Subtype.val ∧
        start = opening.1.span.start ∧ optional = question.isSome := by
  obtain rfl | ⟨earlier, t, rfl⟩ := List.eq_nil_or_concat' before
  · cases h
  · obtain ⟨s, first, last, hearlier, hlast, -⟩ := h.exists_place
    obtain ⟨s', finished, more, hstep, hnil, -⟩ := hlast.exists_step
    cases hnil
    obtain ⟨rfl, hk, rfl, rfl⟩ | ⟨rfl, hk, rfl⟩ := step_eq_opened hstep
    · exact ⟨earlier, ⟨t, hk⟩, none, rfl, rfl, rfl⟩
    · -- the question mark stands after the opening marker, since it is the first one
      obtain ⟨earlier', opening, question, rfl, hstart, hoptional⟩ :=
        exists_opening_of_reads hearlier
      have hnone : question = none := by simpa using hoptional.symm
      exact ⟨earlier', opening, some ⟨t, hk⟩, by simp [hnone], hstart, rfl⟩
  termination_by before.length

/-- The fault of a token that may not follow the tokens before it. -/
inductive FaultAt (before : List Token) (t : Token) : Fault → Prop
  | unexpected (expected : Expectation) :
      FaultAt before t ⟨.unexpectedToken t.value expected.phrase, t.span⟩
  /-- The token closes a block right after its opening marker or the question mark there. -/
  | emptyBlock {earlier : List Token} {opening : Leaf .blockOpen}
      {question : Option (Leaf .question)}
      (opened : before = earlier ++ opening.1 :: question.toList.map Subtype.val)
      (closes : t.kind = .blockClose) :
      FaultAt before t ⟨.emptyBlock, opening.1.span.start, t.span.stop⟩

theorem faultAt_of_step_error {s : State} {before : List Token} {t : Token} {nodes : Template}
    {fault : Fault} (h : Reads .top before s nodes) (hstep : step s t = .error fault) :
    FaultAt before t fault := by
  obtain ⟨expected, rfl⟩ | ⟨start, optional, rfl, hk, rfl⟩ := step_eq_error hstep
  · exact .unexpected expected
  · obtain ⟨earlier, opening, question, hbefore, rfl, -⟩ := exists_opening_of_reads h
    exact .emptyBlock hbefore hk

theorem stopAfter_append_singleton (stop : Nat) (ts : List Token) (t : Token) :
    stopAfter stop (ts ++ [t]) = t.span.stop := by
  simp [stopAfter]

end TokenMachine

open Grammar TokenMachine

/-- A token sequence that is no template is viable up to its end and ends too early, or it is viable
up to a token and not with it. The fault is at the end of the last token in the first case, and at
that token in the second. -/
theorem Template.ofTokens_fault {tokens : List Token} {fault : Fault}
    (h : Template.ofTokens tokens = .error fault) :
    (∃ earlier last expected, tokens = earlier ++ [last] ∧ Viable (tokens.map (·.kind)) ∧
        ¬Derivable (tokens.map (·.kind)) ∧
        fault = ⟨.unexpectedEnd (Expectation.phraseAtEnd expected),
          Span.point last.span.stop⟩) ∨
      ∃ before t after, tokens = before ++ t :: after ∧ Viable (before.map (·.kind)) ∧
        ¬Viable ((before ++ [t]).map (·.kind)) ∧ FaultAt before t fault := by
  have hrun : TokenMachine.run 0 .top tokens = .error fault := h
  obtain ⟨s, nodes, e, hreads, howed, rfl⟩ | ⟨before, t, after, s, nodes, rfl, hreads, hstep⟩ :=
    run_eq_error hrun
  · obtain rfl | ⟨earlier, last, rfl⟩ := List.eq_nil_or_concat' tokens
    · cases hrun
    · refine Or.inl ⟨earlier, last, e, rfl, viable_of_reads hreads, ?_, ?_⟩
      · rw [derivable_iff_reads]
        rintro ⟨nodes', htop⟩
        rw [run_eq_ok_iff.2 htop] at hrun
        cases hrun
      · rw [stopAfter_append_singleton]
  · exact Or.inr ⟨before, t, after, rfl, viable_of_reads hreads,
      not_viable_of_step_error hreads hstep, faultAt_of_step_error hreads hstep⟩

/-- Inside two open calls of an optional block, a name where a comma or a bracket has to stand. -/
theorem Template.ofTokens_fault_in_arguments :
    let tokens : List Token := [⟨.blockOpen, "\x7b", ⟨0, 1⟩⟩, ⟨.question, "?", ⟨1, 2⟩⟩,
      ⟨.ident, "f", ⟨2, 3⟩⟩, ⟨.bracketOpen, "(", ⟨3, 4⟩⟩, ⟨.ident, "g", ⟨4, 5⟩⟩,
      ⟨.bracketOpen, "(", ⟨5, 6⟩⟩, ⟨.number, "1", ⟨6, 7⟩⟩, ⟨.ident, "b", ⟨8, 9⟩⟩,
      ⟨.bracketClose, ")", ⟨9, 10⟩⟩]
    let fault : Fault := ⟨.unexpectedToken "b" "Argument or closing bracket", ⟨8, 9⟩⟩
    Template.ofTokens tokens = .error fault ∧
      ∃ before t after, tokens = before ++ t :: after ∧ Viable (before.map (·.kind)) ∧
        ¬Viable ((before ++ [t]).map (·.kind)) ∧ FaultAt before t fault := by
  intro tokens fault
  have h : Template.ofTokens tokens = .error fault := rfl
  refine ⟨h, ?_⟩
  obtain ⟨earlier, last, expected, -, -, -, hend⟩ | htoken := Template.ofTokens_fault h
  · simp [fault] at hend
  · exact htoken

end BlockTemplate
