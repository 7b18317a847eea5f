import BlockTemplate.Proofs.Syntax.Partition
import BlockTemplate.Proofs.Syntax.Viability
import BlockTemplate.Proofs.Token.LexicalError

/-!
# Where a source is at fault

A source that is no template is refused with a span that covers a part of it. The part is empty when
the source ends too early, and only then.

Main statement: every refusal covers a part of the source (`Template.covers_of_parse_error`).
-/

namespace BlockTemplate

open TokenMachine

/-- A span is where a part of a text stands. -/
def Span.Covers (s : Span) (text part : List Char) : Prop :=
  ∃ before after, text = before ++ (part ++ after) ∧
    s = ⟨Text.byteLength before, Text.byteLength before + Text.byteLength part⟩

namespace Span.Covers

variable {s t : Span} {text part part' : List Char}

theorem start_le_stop (h : s.Covers text part) : s.start ≤ s.stop := by
  obtain ⟨before, after, -, rfl⟩ := h
  exact Nat.le_add_right _ _

theorem stop_le (h : s.Covers text part) : s.stop ≤ Text.byteLength text := by
  obtain ⟨before, after, rfl, rfl⟩ := h
  simp only [Text.byteLength_append]
  omega

theorem isEmpty_iff (h : s.Covers text part) : s.isEmpty = true ↔ part = [] := by
  obtain ⟨before, after, -, rfl⟩ := h
  cases part with
  | nil => simp [Span.isEmpty]
  | cons c part =>
    have hpos := Text.byteLength_pos (List.cons_ne_nil c part)
    have hlt : Text.byteLength before < Text.byteLength before + Text.byteLength (c :: part) := by
      omega
    simp only [Span.isEmpty, hlt, decide_true, Bool.not_true, Bool.false_eq_true, reduceCtorEq]

/-- The empty part at the end of a part. -/
theorem point_stop (h : s.Covers text part) : (Span.point s.stop).Covers text [] := by
  obtain ⟨before, after, rfl, rfl⟩ := h
  refine ⟨before ++ part, after, by simp, ?_⟩
  simp [Span.point]

/-- From the start of a part to the end of a later one. -/
theorem through (hs : s.Covers text part) (ht : t.Covers text part') (hne : part ≠ [])
    (hst : s.stop ≤ t.start) : ∃ whole, whole ≠ [] ∧ Covers ⟨s.start, t.stop⟩ text whole := by
  obtain ⟨before, after, rfl, rfl⟩ := hs
  obtain ⟨before', after', htext, rfl⟩ := ht
  have hfirst : before ++ part <+: before ++ (part ++ after) := ⟨after, List.append_assoc _ _ _⟩
  have hsecond : before' <+: before ++ (part ++ after) := ⟨part' ++ after', htext.symm⟩
  obtain ⟨between, rfl⟩ := Text.prefix_of_byteLength_le hfirst hsecond (by simpa using hst)
  refine ⟨part ++ (between ++ part'), by simp [hne], before, after', ?_, ?_⟩
  · simpa using htext
  · simp only [Text.byteLength_append, Nat.add_assoc]

end Span.Covers

/-! ### Spans of tokens and of errors -/

section

variable {m : Markers} {source : String}

theorem Scanner.Finds.covers {template : List Char} {d : Delimiters} {ts : List Token}
    {s' : Scanner} (h : Scanner.Finds d (.start template) ts s') {t : Token} (ht : t ∈ ts) :
    ∃ part, part ≠ [] ∧ t.span.Covers template part := by
  obtain ⟨before, after, mode, sk, m', lx, htext, hne, -, rfl⟩ := h.exists_lexeme ht
  exact ⟨lx.text, hne, before, after, htext, rfl⟩

theorem covers_of_tokenize_error {e : Located LexicalError} (h : tokenize m source = .error e) :
    ∃ part, part ≠ [] ∧ e.span.Covers source.toList part := by
  obtain ⟨ts, s, hfinds, hend⟩ := Scanner.exists_finds m.delimiters (.start source.toList)
  rw [Scanner.tokenize_eq, hfinds.tokens_eq] at h
  rcases hend with hnone | ⟨e', herror⟩
  · rw [Scanner.tokens_of_none hnone] at h
    cases h
  · rw [Scanner.tokens_of_error herror] at h
    obtain rfl : e' = e := Except.error.inj h
    obtain ⟨-, sk, part, hscan, hspan⟩ := Scanner.next?_eq_error_iff.1 herror
    obtain ⟨-, -, rest, hrest, -, hmisread⟩ := scan_eq_wrong_iff.1 hscan
    obtain ⟨c, cs, hpart, -⟩ := hmisread.exists_first
    obtain ⟨used, hused, hoffset⟩ := hfinds.exists_used
    refine ⟨part, by simp [hpart], used ++ sk, rest, ?_, ?_⟩
    · change source.toList = used ++ s.rest at hused
      rw [hused, hrest, List.append_assoc]
    · rw [hspan, hoffset]
      simp [Scanner.start, Text.byteLength_append]

/-- A fault covers a part of the source, from a token to the same or a later one, or the empty part
behind the last token. -/
theorem covers_of_ofTokens_error {tokens : List Token} {fault : Fault}
    (htokens : tokenize m source = .ok tokens) (h : Template.ofTokens tokens = .error fault) :
    ∃ part, fault.span.Covers source.toList part ∧
      (part = [] ↔ ∃ expected, fault.error = .unexpectedEnd expected) := by
  rw [Scanner.tokenize_eq, Scanner.tokens_eq_ok_iff] at htokens
  obtain ⟨s', hfinds, -⟩ := htokens
  obtain ⟨s, nodes, e, -, -, rfl⟩ | ⟨before, t, after, s, nodes, rfl, hreads, hstep⟩ :=
    run_eq_error h
  · refine ⟨[], ?_, iff_of_true rfl ⟨_, rfl⟩⟩
    obtain rfl | ⟨earlier, last, rfl⟩ := List.eq_nil_or_concat' tokens
    · exact ⟨[], source.toList, rfl, rfl⟩
    · obtain ⟨part, -, hpart⟩ := hfinds.covers (t := last) (by simp)
      rw [stopAfter_append_singleton]
      exact hpart.point_stop
  · obtain ⟨part, hne, hpart⟩ := hfinds.covers (t := t) (by simp)
    have hordered := hfinds.ordered
    cases faultAt_of_step_error hreads hstep with
    | unexpected expected => exact ⟨part, hpart, iff_of_false hne (by simp)⟩
    | @emptyBlock earlier opening question opened closes =>
      subst opened
      obtain ⟨marker, hmarker, hopening⟩ := hfinds.covers (t := opening.1) (by simp)
      have hstop : opening.1.span.stop ≤ t.span.start := by
        rw [List.append_assoc, List.pairwise_append] at hordered
        exact (List.pairwise_cons.1 hordered.2.1).1 t (by simp)
      obtain ⟨whole, hwhole, hcovers⟩ := hopening.through hpart hmarker hstop
      exact ⟨whole, hcovers, iff_of_false hwhole (by simp)⟩

/-- A refusal covers a part of the source, which is empty exactly when the source ends too early. -/
theorem Template.covers_of_parse_error {e : Located TemplateError}
    (h : Template.parse m source = .error e) :
    ∃ part, e.span.Covers source.toList part ∧
      (part = [] ↔ ∃ expected, e.error = .syntactic (.unexpectedEnd expected)) := by
  unfold parse at h
  cases htokens : tokenize m source with
  | error cause =>
    rw [htokens] at h
    obtain rfl := Except.error.inj h
    obtain ⟨part, hne, hpart⟩ := covers_of_tokenize_error htokens
    exact ⟨part, hpart, iff_of_false hne (by simp)⟩
  | ok tokens =>
    rw [htokens] at h
    cases hread : ofTokens tokens with
    | ok template => simp [hread] at h
    | error fault =>
      obtain rfl : _ = e := by simpa [hread] using h
      obtain ⟨part, hpart, hempty⟩ := covers_of_ofTokens_error htokens hread
      exact ⟨part, hpart, by simpa using hempty⟩

/-- Reading a source evaluates nothing. -/
theorem Template.ne_resolution_of_parse_error {e : Located TemplateError}
    (h : Template.parse m source = .error e) (cause : ResolutionError) :
    e.error ≠ .resolution cause := by
  unfold parse at h
  split at h
  · obtain rfl := Except.error.inj h
    exact fun hcause => nomatch hcause
  · split at h
    · obtain rfl := Except.error.inj h
      exact fun hcause => nomatch hcause
    · cases h

/-- A node of a template covers a part of its source. -/
theorem Template.covers_of_mem {template : Template} {n : Placed}
    (h : Template.parse m source = .ok template) (hn : n ∈ template) :
    ∃ part, part ≠ [] ∧ n.span.Covers source.toList part := by
  obtain ⟨before, part, after, htext, hne, -, hspan⟩ :=
    (Template.tiles_of_parse h).exists_part_of_mem hn
  exact ⟨part, hne, before, after, htext, by rw [hspan, Nat.zero_add]⟩

end

end BlockTemplate
