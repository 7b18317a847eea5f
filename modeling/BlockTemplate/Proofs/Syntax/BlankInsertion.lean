import BlockTemplate.Proofs.Syntax.Partition
import BlockTemplate.Proofs.Token.LexicalError

/-!
# Blanks between the tokens of a block

Blanks that are put between two tokens of a block leave the tokens before them where they are and
move those behind them. The template is read as before: its block spans the blanks as well, and the
nodes behind it move.

## Implementation notes

Of the text behind a token, scanning looks at the start alone. So what leads to the blanks is found
again from its last token back to its first (`Reads.finds_again`), and what comes after them is the
old text further on.

Main statements: `SplitsBlock.tokenize_eq`, `SplitsBlock.parse_eq`.
-/

namespace BlockTemplate

/-! ### Spans around a place -/

/-- Where something starts once `n` bytes are put in at a place. -/
def startMoved (place n i : Nat) : Nat := if i < place then i else i + n

/-- Where something stops once `n` bytes are put in at a place. -/
def stopMoved (place n i : Nat) : Nat := if i ≤ place then i else i + n

namespace Span

variable {place : Nat} {s : Span}

theorem relocate_before (hs : s.start < s.stop) (h : s.stop ≤ place) (n : Nat) :
    s.relocate (startMoved place n) (stopMoved place n) = s := by
  have hstart : s.start < place := by omega
  simp [relocate, startMoved, stopMoved, hstart, h]

theorem relocate_around (hstart : s.start < place) (hstop : place < s.stop) (n : Nat) :
    s.relocate (startMoved place n) (stopMoved place n) = ⟨s.start, s.stop + n⟩ := by
  have hnot : ¬s.stop ≤ place := by omega
  simp [relocate, startMoved, stopMoved, hstart, hnot]

theorem relocate_behind (hs : s.start < s.stop) (h : place ≤ s.start) (n : Nat) :
    s.relocate (startMoved place n) (stopMoved place n) = s.shift n := by
  have hstart : ¬s.start < place := by omega
  have hstop : ¬s.stop ≤ place := by omega
  simp [relocate, shift, startMoved, stopMoved, hstart, hstop]

end Span

namespace Placed

variable {place : Nat} {nodes : Template}

theorem map_relocate_before (h : ∀ n ∈ nodes, n.span.start < n.span.stop ∧ n.span.stop ≤ place)
    (k : Nat) : nodes.map (relocate (startMoved place k) (stopMoved place k)) = nodes := by
  refine (List.map_congr_left fun n hn => ?_).trans (List.map_id nodes)
  rw [relocate, Span.relocate_before (h n hn).1 (h n hn).2]
  rfl

theorem map_relocate_behind (h : ∀ n ∈ nodes, n.span.start < n.span.stop ∧ place ≤ n.span.start)
    (k : Nat) : nodes.map (relocate (startMoved place k) (stopMoved place k)) =
      nodes.map (shift k) := by
  refine List.map_congr_left fun n hn => ?_
  rw [relocate, shift, Span.relocate_behind (h n hn).1 (h n hn).2]

end Placed

namespace Token

variable {place : Nat} {ts : List Token}

theorem map_relocate_before (h : ∀ t ∈ ts, t.span.start < t.span.stop ∧ t.span.stop ≤ place)
    (k : Nat) : ts.map (relocate (startMoved place k) (stopMoved place k)) = ts := by
  refine (List.map_congr_left fun t ht => ?_).trans (List.map_id ts)
  rw [relocate, Span.relocate_before (h t ht).1 (h t ht).2]
  rfl

theorem map_relocate_behind (h : ∀ t ∈ ts, t.span.start < t.span.stop ∧ place ≤ t.span.start)
    (k : Nat) : ts.map (relocate (startMoved place k) (stopMoved place k)) = ts.map (shift k) := by
  refine List.map_congr_left fun t ht => ?_
  rw [relocate, shift, Span.relocate_behind (h t ht).1 (h t ht).2]

end Token

/-! ### Texts around a place -/

/-- A place in a text that is not before one part of it, and not behind the next, is in the next. -/
theorem Text.exists_split {used sk rest left right : List Char}
    (h : left ++ right = used ++ (sk ++ rest)) (hle : byteLength used ≤ byteLength left)
    (hge : byteLength left ≤ byteLength (used ++ sk)) :
    ∃ sk₁ sk₂, sk = sk₁ ++ sk₂ ∧ left = used ++ sk₁ ∧ right = sk₂ ++ rest := by
  have hleft : left <+: left ++ right := List.prefix_append left right
  have hused : used <+: left ++ right := ⟨sk ++ rest, h.symm⟩
  have hskipped : used ++ sk <+: left ++ right := ⟨rest, by rw [h, List.append_assoc]⟩
  obtain ⟨sk₁, rfl⟩ := prefix_of_byteLength_le hused hleft hle
  obtain ⟨sk₂, hsk⟩ := prefix_of_byteLength_le hleft hskipped hge
  obtain rfl : sk₁ ++ sk₂ = sk := by
    rw [List.append_assoc] at hsk
    exact List.append_cancel_left hsk
  refine ⟨sk₁, sk₂, rfl, rfl, ?_⟩
  simpa using h

variable {d : Delimiters}

/-- A name that does not go on in a text does not go on in one that blanks are put into. -/
theorem endsRun_insert {sk blanks rest : List Char} (hblank : ∀ c ∈ blanks, isBlockBlank c = true)
    (h : EndsRun isNameChar (sk ++ rest)) : EndsRun isNameChar (sk ++ (blanks ++ rest)) := by
  cases sk with
  | cons c sk => exact h
  | nil =>
      cases blanks with
      | nil => exact h
      | cons c blanks =>
          intro x hx
          obtain rfl : c = x := by simpa using hx
          by_contra hname
          have hvisible := isBlockBlank_of_isNameChar (by simpa using hname)
          rw [hblank c List.mem_cons_self] at hvisible
          cases hvisible

/-- Where more is skipped before a lexeme, its token and all that follows are further on. -/
theorem Scanner.next?_of_scan {q : Scanner} {sk sk' cs rest : List Char} {lx : Lexeme} {m : Mode}
    {k : Nat} (hq : q.stopped = false) (hscan : scan d q.mode cs = .found sk' lx m rest)
    (hlength : Text.byteLength sk' = Text.byteLength sk + k) :
    { q with rest := cs }.next? d =
      (some (.ok ((q.tokenOf sk lx).shift k)), (q.pass sk lx m rest).shift k) := by
  have hstart : q.offset + Text.byteLength sk' = q.offset + Text.byteLength sk + k := by omega
  refine next?_eq_token_iff.2 ⟨hq, sk', lx, m, rest, hscan, ?_, ?_⟩
  · simp only [tokenOf, Token.shift, Span.shift, hstart, Nat.add_right_comm _ k]
  · simp only [pass, shift, hstart, Nat.add_right_comm _ k]

/-- On the way into a block raw text is followed by an opening marker, in whatever text the tokens
behind it are found. -/
theorem Scanner.Finds.opening_of_raw {rest rest' : List Char} {offset : Nat} {ts : List Token}
    {q q' : Scanner} (h : Finds d (.outside rest offset) ts q) (hq : q.mode = .inside)
    (h' : Finds d (.outside rest' offset) ts q') (ends : rest = [] ∨ d.opening <+: rest) :
    d.opening <+: rest ∧ d.opening <+: rest' := by
  cases h with
  | nil => cases hq
  | cons head _ =>
      obtain ⟨-, sk, lx, m, more, hscan, rfl, -⟩ := next?_eq_token_iff.1 head
      have hrest : d.opening <+: rest := by
        apply ends.resolve_left
        rintro rfl
        cases hscan
      rw [scan_outside_opening hrest] at hscan
      obtain ⟨rfl, rfl, -, -⟩ := Scan.found.inj hscan
      obtain ⟨p, hnext, -⟩ := h'.exists_step
      obtain ⟨more', hmore', -⟩ := Finds.opening_eq (.cons hnext (.nil p)) rfl
      exact ⟨hrest, more', hmore'.symm⟩

namespace TokenMachine

open Scanner (Finds)

/-! ### The tokens before the blanks -/

theorem Reads.mode_eq {s s' : State} {ts : List Token} {nodes : Template}
    (h : Reads s ts s' nodes) : s'.mode = s.mode.afterAll ts := by
  induction h with
  | nil s => rfl
  | cons head _ ih =>
      rw [ih, step_mode head]
      rfl

/-- What leads into a block is found again before any text in which a name goes on only if it did
before. -/
theorem Reads.finds_again (hd : d.Neutral) {s s' : State} {p q : Scanner} {ts : List Token}
    {nodes : Template} (h : Reads s ts s' nodes) (hp : Finds d p ts q) (hmode : p.mode = s.mode)
    (hq : q.mode = .inside) {rest' : List Char}
    (hends : EndsRun isNameChar q.rest → EndsRun isNameChar rest') :
    ∃ used, p.rest = used ++ q.rest ∧
      Finds d { p with rest := used ++ rest' } ts { q with rest := rest' } := by
  induction h generalizing p with
  | nil s =>
      cases hp
      exact ⟨[], rfl, .nil _⟩
  | @cons s s₁ s' t ts finished nodes head _ ih =>
      obtain ⟨p₁, hnext, hp₁⟩ := hp.exists_step
      have hmode₁ : p₁.mode = s₁.mode := by
        rw [step_mode head, ← hmode]
        exact (Finds.cons hnext (.nil p₁)).mode_eq
      obtain ⟨used, hrest, hagain⟩ := ih hp₁ hmode₁
      obtain ⟨hstopped, sk, lx, m, rest, hscan, rfl, rfl⟩ := Scanner.next?_eq_token_iff.1 hnext
      obtain ⟨htext, -⟩ := scan_eq_found hscan
      change rest = used ++ q.rest at hrest
      have hscan' : scan d p.mode (sk ++ (lx.text ++ (used ++ rest'))) =
          .found sk lx m (used ++ rest') := by
        cases hpm : p.mode with
        | outside =>
            rw [hpm] at hscan
            apply scan_outside_again hscan
            intro hraw
            obtain ⟨-, rfl, -, ends⟩ := (finding_scan hscan).raw_text hraw
            exact hp₁.opening_of_raw hq hagain ends
        | inside =>
            rw [hpm] at hscan
            apply scan_inside_again hd hscan (notMem_of_step_inside (hmode ▸ hpm) head)
            · exact fun c hc => ((finding_scan hscan).blank c hc).1
            · intro _ hrun
              cases used with
              | nil =>
                  rw [List.nil_append] at hrest
                  exact hends (hrest ▸ hrun)
              | cons c used =>
                  rw [hrest] at hrun
                  exact hrun
      have hnext' : Scanner.next? d { p with rest := sk ++ (lx.text ++ used) ++ rest' } =
          (some (.ok (p.tokenOf sk lx)), p.pass sk lx m (used ++ rest')) := by
        rw [List.append_assoc, List.append_assoc]
        exact Scanner.next?_eq_token_iff.2 ⟨hstopped, sk, lx, m, _, hscan', rfl, rfl⟩
      refine ⟨sk ++ (lx.text ++ used), ?_, .cons hnext' hagain⟩
      rw [htext, hrest, List.append_assoc, List.append_assoc]

/-! ### The node that holds the blanks -/

/-- The block that the machine is in has started at one of the tokens. -/
theorem Reads.start_mem {s s' : State} {ts : List Token} {nodes : Template}
    (h : Reads s ts s' nodes) {start : Nat} (hs' : s'.start? = some start) :
    s.start? = some start ∨ ∃ t ∈ ts, t.span.start = start := by
  induction h with
  | nil s => exact Or.inl hs'
  | @cons s s₁ _ t ts finished nodes head _ ih =>
      rcases ih hs' with hs₁ | ⟨u, hu, hstart⟩
      · cases hs : s.start? with
        | none =>
            rw [State.start?_eq_none_iff.1 hs] at head
            obtain ⟨-, rfl, -⟩ | ⟨-, rfl, -⟩ := top_eq_ok head
            · cases hs₁
            · exact Or.inr ⟨t, List.mem_cons_self, Option.some.inj hs₁⟩
        | some k =>
            obtain ⟨-, rfl, -⟩ | ⟨-, hk, -⟩ := step_start hs head
            · cases hs₁
            · exact Or.inl (hk.symm.trans hs₁)
      · exact Or.inr ⟨u, List.mem_cons_of_mem t hu, hstart⟩

/-- A block that has started is finished by one of the tokens that lead back to the top. -/
theorem Reads.exists_block {s : State} {ts : List Token} {nodes : Template}
    (h : Reads s ts .top nodes) {start : Nat} (hs : s.start? = some start) :
    ∃ b, ∃ t ∈ ts, ∃ later, nodes = ⟨.block b, ⟨start, t.span.stop⟩⟩ :: later := by
  induction ts generalizing s nodes with
  | nil =>
      cases h
      cases hs
  | cons t ts ih =>
      obtain ⟨s₁, finished, later, hstep, htail, rfl⟩ := h.exists_step
      obtain ⟨-, -, b, rfl⟩ | ⟨-, hs₁, rfl⟩ := step_start hs hstep
      · exact ⟨b, t, List.mem_cons_self, later, rfl⟩
      · obtain ⟨b, u, hu, later', rfl⟩ := ih htail hs₁
        exact ⟨b, u, List.mem_cons_of_mem t hu, later', rfl⟩

end TokenMachine

open TokenMachine (Reads)
open Scanner (Finds)

/-! ### The template with the blanks -/

/-- Two texts meet between two neighbouring tokens of a block. -/
structure SplitsBlock (m : Markers) (left right : String) (before : List Token) (a b : Token)
    (after : List Token) : Prop where
  tokens : tokenize m (left ++ right) = .ok (before ++ a :: b :: after)
  inside : EndsInside (before ++ [a])
  stop_le : a.span.stop ≤ Text.byteLength left.toList
  le_start : Text.byteLength left.toList ≤ b.span.start

namespace SplitsBlock

variable {m : Markers} {left right blanks : String} {before after : List Token} {a b : Token}
  {template : Template}

/-- What is left at the end of the first tokens, and where the two texts meet in it. -/
theorem exists_place (h : SplitsBlock m left right before a b after) :
    ∃ q p used sk₁ sk₂ lx mode rest,
      Finds m.delimiters (.start (left ++ right).toList) (before ++ [a]) q ∧ q.mode = .inside ∧
        scan m.delimiters .inside q.rest = .found (sk₁ ++ sk₂) lx mode rest ∧
        b = q.tokenOf (sk₁ ++ sk₂) lx ∧
        Finds m.delimiters (q.pass (sk₁ ++ sk₂) lx mode rest) after p ∧
        (p.next? m.delimiters).1 = none ∧ left.toList = used ++ sk₁ ∧
        right.toList = sk₂ ++ (lx.text ++ rest) := by
  obtain ⟨p, hfinds, hend⟩ := Scanner.tokens_eq_ok_iff.1 h.tokens
  rw [← List.singleton_append, ← List.append_assoc] at hfinds
  obtain ⟨q, hfirst, hrest⟩ := hfinds.exists_place
  obtain ⟨q', hnext, hafter⟩ := hrest.exists_step
  obtain ⟨-, sk, lx, mode, rest, hscan, rfl, rfl⟩ := Scanner.next?_eq_token_iff.1 hnext
  obtain ⟨htext, -⟩ := scan_eq_found hscan
  have hmode : q.mode = .inside := by
    rw [hfirst.mode_eq]
    exact (endsInside_iff _).1 h.inside
  obtain ⟨used, hused, hoffset⟩ := hfirst.exists_used
  have hplace : q.offset = Text.byteLength used := hoffset.trans (Nat.zero_add _)
  have hjoined : left.toList ++ right.toList = used ++ (sk ++ (lx.text ++ rest)) := by
    rw [← String.toList_append, ← htext]
    exact hused
  have hstop := hfirst.stop_eq_offset a (by simp)
  have hle : Text.byteLength used ≤ Text.byteLength left.toList := by
    rw [← hplace, ← hstop]
    exact h.stop_le
  have hge : Text.byteLength left.toList ≤ Text.byteLength (used ++ sk) := by
    rw [Text.byteLength_append, ← hplace]
    exact h.le_start
  obtain ⟨sk₁, sk₂, rfl, hleft, hright⟩ := Text.exists_split hjoined hle hge
  rw [hmode] at hscan
  exact ⟨q, p, used, sk₁, sk₂, lx, mode, rest, hfirst, hmode, hscan, rfl, hafter, hend, hleft,
    hright⟩

/-- The state that the first tokens lead to, and what is read on either side of it. -/
theorem exists_state (h : SplitsBlock m left right before a b after)
    (hparse : Template.parse m (left ++ right) = .ok template) :
    ∃ s earlier later, Reads .top (before ++ [a]) s earlier ∧ Reads s (b :: after) .top later ∧
      s.mode = .inside ∧ template = earlier ++ later := by
  obtain ⟨tokens, htokens, hread⟩ := Template.parse_eq_ok_iff.1 hparse
  obtain rfl := Except.ok.inj (h.tokens.symm.trans htokens)
  have hreads := TokenMachine.run_eq_ok_iff.1 hread
  rw [← List.singleton_append, ← List.append_assoc] at hreads
  obtain ⟨s, earlier, later, hbefore, hbehind, htemplate⟩ := Reads.exists_place hreads
  refine ⟨s, earlier, later, hbefore, hbehind, ?_, htemplate⟩
  rw [hbefore.mode_eq]
  exact (endsInside_iff _).1 h.inside

/-- The tokens before the blanks are found where they were, and those behind them further on. -/
theorem tokenize_eq (h : SplitsBlock m left right before a b after) (hm : m.delimiters.Neutral)
    (hparse : Template.parse m (left ++ right) = .ok template)
    (hblank : ∀ c ∈ blanks.toList, isBlockBlank c = true) :
    tokenize m (left ++ blanks ++ right) =
      .ok (before ++ [a] ++ (b :: after).map (Token.shift (Text.byteLength blanks.toList))) := by
  obtain ⟨q, p, used, sk₁, sk₂, lx, mode, rest, hfirst, hmode, hscan, rfl, hafter, hend, hleft,
    hright⟩ := h.exists_place
  obtain ⟨htext, -⟩ := scan_eq_found hscan
  obtain ⟨s, earlier, later, hbefore, hbehind, hsmode, -⟩ := h.exists_state hparse
  obtain ⟨s', finished, -, hstep, -, -⟩ := hbehind.exists_step
  have hskipped : ∀ c ∈ sk₁ ++ (blanks.toList ++ sk₂), isBlockBlank c = true := by
    have hold (c : Char) (hc : c ∈ sk₁ ++ sk₂) := ((finding_scan hscan).blank c hc).1
    simp only [List.mem_append] at hold ⊢
    rintro c (hc | hc | hc)
    · exact hold c (Or.inl hc)
    · exact hblank c hc
    · exact hold c (Or.inr hc)
  have hscan' : scan m.delimiters .inside (sk₁ ++ (blanks.toList ++ sk₂) ++ (lx.text ++ rest)) =
      .found (sk₁ ++ (blanks.toList ++ sk₂)) lx mode rest :=
    scan_inside_again hm hscan (TokenMachine.notMem_of_step_inside hsmode hstep) hskipped
      fun _ => id
  -- in the old text the blanks were followed by more of them or by the next token
  have hends : EndsRun isNameChar q.rest →
      EndsRun isNameChar (sk₁ ++ (blanks.toList ++ sk₂) ++ (lx.text ++ rest)) := by
    rw [htext, List.append_assoc, List.append_assoc, List.append_assoc]
    exact endsRun_insert hblank
  obtain ⟨used', hused', hfirst'⟩ := hbefore.finds_again hm hfirst rfl hmode hends
  have hsource : (left ++ right).toList = used ++ q.rest := by
    rw [htext, String.toList_append, hleft, hright, List.append_assoc, List.append_assoc]
  obtain rfl : used = used' := List.append_cancel_right (hsource.symm.trans hused')
  have htokens' : (left ++ blanks ++ right).toList =
      used ++ (sk₁ ++ (blanks.toList ++ sk₂) ++ (lx.text ++ rest)) := by
    simp [hleft, hright]
  have hlength : Text.byteLength (sk₁ ++ (blanks.toList ++ sk₂)) =
      Text.byteLength (sk₁ ++ sk₂) + Text.byteLength blanks.toList := by
    simp only [Text.byteLength_append]
    omega
  have hnext := Scanner.next?_of_scan (hfirst.stopped_eq rfl) (hmode ▸ hscan') hlength
  have hrest := Finds.cons hnext (hafter.shift (Text.byteLength blanks.toList))
  rw [Scanner.tokenize_eq, Scanner.tokens_eq_ok_iff, htokens']
  refine ⟨p.shift (Text.byteLength blanks.toList), hfirst'.append hrest, ?_⟩
  rw [Scanner.next?_shift, hend]
  rfl

theorem of_mem_before (h : SplitsBlock m left right before a b after) {t : Token}
    (ht : t ∈ before ++ [a]) : t.span.start < t.span.stop ∧ t.span.start ≤ a.span.start ∧
      t.span.stop ≤ Text.byteLength left.toList := by
  obtain ⟨p, hfinds, -⟩ := Scanner.tokens_eq_ok_iff.1 h.tokens
  have hle := h.stop_le
  have hpos := hfinds.start_lt_stop t (by simp at ht ⊢; tauto)
  rcases List.mem_append.1 ht with ht | ht
  · have hta : t.span.stop ≤ a.span.start :=
      (List.pairwise_append.1 hfinds.ordered).2.2 t ht a List.mem_cons_self
    have hapos := hfinds.start_lt_stop a (by simp)
    omega
  · obtain rfl := List.mem_singleton.1 ht
    exact ⟨hpos, Nat.le_refl _, hle⟩

theorem of_mem_after (h : SplitsBlock m left right before a b after) {t : Token}
    (ht : t ∈ b :: after) : t.span.start < t.span.stop ∧
      Text.byteLength left.toList ≤ t.span.start ∧ b.span.stop ≤ t.span.stop := by
  obtain ⟨p, hfinds, -⟩ := Scanner.tokens_eq_ok_iff.1 h.tokens
  have hle := h.le_start
  have hpos := hfinds.start_lt_stop t (by simp at ht ⊢; tauto)
  have hordered := (List.pairwise_cons.1 (List.pairwise_append.1 hfinds.ordered).2.1).2
  rcases List.mem_cons.1 ht with rfl | ht
  · exact ⟨hpos, hle, Nat.le_refl _⟩
  · have hbt : b.span.stop ≤ t.span.start := (List.pairwise_cons.1 hordered).1 t ht
    have hbpos := hfinds.start_lt_stop b (by simp)
    omega

/-- With the blanks the same nodes are read, and their spans go on from the place as it moves. -/
theorem parse_relocate (h : SplitsBlock m left right before a b after) (hm : m.delimiters.Neutral)
    (hparse : Template.parse m (left ++ right) = .ok template)
    (hblank : ∀ c ∈ blanks.toList, isBlockBlank c = true) :
    Template.parse m (left ++ blanks ++ right) = .ok (template.map (Placed.relocate
      (startMoved (Text.byteLength left.toList) (Text.byteLength blanks.toList))
      (stopMoved (Text.byteLength left.toList) (Text.byteLength blanks.toList)))) := by
  obtain ⟨tokens, htokens, hread⟩ := Template.parse_eq_ok_iff.1 hparse
  obtain rfl := Except.ok.inj (h.tokens.symm.trans htokens)
  have hreads := (TokenMachine.run_eq_ok_iff.1 hread).relocate
    (startMoved (Text.byteLength left.toList) (Text.byteLength blanks.toList))
    (stopMoved (Text.byteLength left.toList) (Text.byteLength blanks.toList))
  have hkept := Token.map_relocate_before
    (fun t ht => ⟨(h.of_mem_before ht).1, (h.of_mem_before ht).2.2⟩)
      (Text.byteLength blanks.toList)
  have hmoved := Token.map_relocate_behind
    (fun t ht => ⟨(h.of_mem_after ht).1, (h.of_mem_after ht).2.1⟩) (Text.byteLength blanks.toList)
  rw [← List.singleton_append, ← List.append_assoc, List.map_append, hkept, hmoved] at hreads
  exact Template.parse_eq_ok_iff.2 ⟨_, h.tokenize_eq hm hparse hblank,
    TokenMachine.run_eq_ok_iff.2 hreads⟩

/-- The block that the tokens at the place belong to. -/
theorem exists_block (h : SplitsBlock m left right before a b after)
    (hparse : Template.parse m (left ++ right) = .ok template) :
    ∃ earlier block start stop later, template = earlier ++ ⟨.block block, ⟨start, stop⟩⟩ :: later ∧
      start ≤ a.span.start ∧ b.span.stop ≤ stop := by
  obtain ⟨s, earlier, nodes, hbefore, hbehind, hsmode, rfl⟩ := h.exists_state hparse
  obtain ⟨start, hs⟩ := TokenMachine.State.mode_eq_inside_iff.1 hsmode
  obtain ⟨block, t, ht, later, rfl⟩ := hbehind.exists_block hs
  obtain hnone | ⟨u, hu, rfl⟩ := hbefore.start_mem hs
  · cases hnone
  · exact ⟨earlier, block, _, _, later, rfl, (h.of_mem_before hu).2.1, (h.of_mem_after ht).2.2⟩

/-- With the blanks the nodes before the block stay, the block spans the blanks as well, and the
nodes behind it are further on. -/
theorem parse_eq (h : SplitsBlock m left right before a b after) (hm : m.delimiters.Neutral)
    (hparse : Template.parse m (left ++ right) = .ok template)
    (hblank : ∀ c ∈ blanks.toList, isBlockBlank c = true) :
    ∃ earlier block start stop later, template = earlier ++ ⟨.block block, ⟨start, stop⟩⟩ :: later ∧
      start ≤ a.span.start ∧ b.span.stop ≤ stop ∧
        Template.parse m (left ++ blanks ++ right) =
          .ok (earlier ++ ⟨.block block, ⟨start, stop + Text.byteLength blanks.toList⟩⟩ ::
            later.map (Placed.shift (Text.byteLength blanks.toList))) := by
  have hmoved := h.parse_relocate hm hparse hblank
  obtain ⟨earlier, block, start, stop, later, rfl, hstart, hstop⟩ := h.exists_block hparse
  refine ⟨earlier, block, start, stop, later, rfl, hstart, hstop, ?_⟩
  obtain ⟨hapos, -, hale⟩ := h.of_mem_before (List.mem_append_right before List.mem_cons_self)
  obtain ⟨hbpos, hleb, -⟩ := h.of_mem_after List.mem_cons_self
  have htiles := Template.tiles_of_parse hparse
  obtain ⟨-, hfrom, hbetween⟩ := List.pairwise_append.1 htiles.ordered
  have hearlier : ∀ n ∈ earlier, n.span.start < n.span.stop ∧
      n.span.stop ≤ Text.byteLength left.toList := by
    intro n hn
    have hn_le : n.span.stop ≤ start := hbetween n hn _ List.mem_cons_self
    exact ⟨htiles.start_lt_stop (List.mem_append_left _ hn), by omega⟩
  have hlater : ∀ n ∈ later, n.span.start < n.span.stop ∧
      Text.byteLength left.toList ≤ n.span.start := by
    intro n hn
    have hle_n : stop ≤ n.span.start := (List.pairwise_cons.1 hfrom).1 n hn
    exact ⟨htiles.start_lt_stop (by simp [hn]), by omega⟩
  have hspan := Span.relocate_around (s := ⟨start, stop⟩) (hstart.trans_lt (hapos.trans_le hale))
    ((hleb.trans_lt hbpos).trans_le hstop) (Text.byteLength blanks.toList)
  rw [hmoved, List.map_append, List.map_cons, Placed.map_relocate_before hearlier,
    Placed.map_relocate_behind hlater, Placed.relocate, hspan]

end SplitsBlock

end BlockTemplate
