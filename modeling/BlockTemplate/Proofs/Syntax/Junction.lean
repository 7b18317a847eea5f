import BlockTemplate.Proofs.Syntax.Relocation
import BlockTemplate.Proofs.Token.Junction

/-!
# Reading where two texts meet

A template that is followed by a text is read as its nodes, then those of the text, further on by
the bytes of the template. Where both texts meet in raw text, one node stands for both parts.

## Implementation notes

The machine and the scanner are followed together: the machine is between nodes exactly where the
scanner is outside of blocks (`TokenMachine.step_mode`). This is what keeps opening markers and
greater-than signs, which other text may complete, out of the blocks of a template.

Main statement: `parse_append`.
-/

namespace BlockTemplate

open Text (Straddles breakOn)

/-- The same node `k` bytes further on. -/
def Placed.shift (k : Nat) (n : Placed) : Placed := { n with span := n.span.shift k }

/-- The node of raw text that starts at an offset. Empty text has none. -/
def rawNodes (offset : Nat) (text : List Char) : Template :=
  if text = [] then []
  else [⟨.raw (String.ofList text), ⟨offset, offset + Text.byteLength text⟩⟩]

namespace TokenMachine

/-! ### Offsets -/

/-- The same surroundings `k` bytes further on. -/
def Context.shift (k : Nat) (c : Context) : Context :=
  { c with block := { c.block with start := c.block.start + k } }

/-- The same state `k` bytes further on. -/
def State.shift (k : Nat) : State → State
  | .top => .top
  | .opened start optional => .opened (start + k) optional
  | .operand context => .operand (context.shift k)
  | .firstArgument context name => .firstArgument (context.shift k) name
  | .named context name => .named (context.shift k) name
  | .finished context e => .finished (context.shift k) e

theorem State.relocate_add (k : Nat) (s : State) : s.relocate (· + k) = s.shift k := by
  cases s <;> rfl

theorem step_shift (k : Nat) (s : State) (t : Token) :
    step (s.shift k) (t.shift k) =
      ((step s t).mapError (Located.shift k)).map
        fun next => (next.1.shift k, next.2.map (Placed.shift k)) := by
  have hstep := step_relocate (· + k) (· + k) s t
  simp only [State.relocate_add] at hstep
  exact hstep

theorem State.owed_shift (k : Nat) (s : State) : (s.shift k).owed = s.owed := by
  cases s <;> rfl

theorem run_shift (k stop : Nat) (s : State) (ts : List Token) :
    run (stop + k) (s.shift k) (ts.map (Token.shift k)) =
      ((run stop s ts).mapError (Located.shift k)).map (List.map (Placed.shift k)) := by
  induction ts generalizing stop s with
  | nil =>
      rw [List.map_nil, run, run, State.owed_shift]
      cases s.owed <;> rfl
  | cons t ts ih =>
      rw [List.map_cons, run, run, step_shift]
      cases step s t with
      | error fault => rfl
      | ok next =>
          obtain ⟨s', finished⟩ := next
          have hrest := ih t.span.stop s'
          simp only [Except.mapError, Except.map]
          change Except.map _ (run (t.span.stop + k) _ _) = _
          rw [hrest]
          cases run t.span.stop s' ts with
          | error fault => rfl
          | ok nodes => cases finished <;> simp [Except.map, Except.mapError]

/-- Between nodes nothing is owed, so it does not matter where the last token ended. -/
theorem run_top (stop : Nat) (ts : List Token) : run stop .top ts = Template.ofTokens ts := by
  cases ts <;> rfl

/-! ### Modes -/

/-- The mode of scanning that a state goes with. -/
def State.mode : State → Mode
  | .top => .outside
  | _ => .inside

theorem State.mode_eq_outside_iff {s : State} : s.mode = .outside ↔ s = .top := by
  cases s <;> simp [State.mode]

/-- The kinds of the tokens that stay between two markers of a block. -/
def StaysInside (k : TokenKind) : Prop :=
  k ∉ [TokenKind.rawText, .blockOpen, .blockClose, .greater]

theorem StaysInside.after_eq {k : TokenKind} (h : StaysInside k) (m : Mode) : m.after k = m := by
  cases k <;> first | rfl | simp [StaysInside] at h

/-- Where the block starts that a state is in. -/
def State.start? : State → Option Nat
  | .top => none
  | .opened start _ => some start
  | .operand context => some context.block.start
  | .firstArgument context _ => some context.block.start
  | .named context _ => some context.block.start
  | .finished context _ => some context.block.start

theorem State.start?_eq_none_iff {s : State} : s.start? = none ↔ s = .top := by
  cases s <;> simp [State.start?]

theorem State.mode_eq_inside_iff {s : State} :
    s.mode = .inside ↔ ∃ start, s.start? = some start := by
  cases s <;> simp [State.mode, State.start?]

theorem beginExpr_start {context : Context} {t : Token} {s : State}
    (h : beginExpr context t = .ok s) :
    StaysInside t.kind ∧ s.start? = some context.block.start := by
  rcases beginExpr_eq_ok h with ⟨hk, rfl⟩ | ⟨hk, rfl⟩ | ⟨hk, rfl⟩ <;>
    simp [hk, StaysInside, State.start?]

theorem afterExpr_start {context : Context} {e : Expr} {t : Token} {s : State}
    {finished : Option Placed} (h : afterExpr context e t = .ok (s, finished)) :
    t.kind = .blockClose ∧ s = .top ∧
        (∃ b, finished = some ⟨.block b, ⟨context.block.start, t.span.stop⟩⟩) ∨
      StaysInside t.kind ∧ s.start? = some context.block.start ∧ finished = none := by
  obtain ⟨block, calls⟩ := context
  cases calls with
  | nil =>
      obtain ⟨hk, rfl, rfl⟩ | ⟨hk, rfl, rfl⟩ := afterExpr_block_eq_ok h
      · exact Or.inr (by simp [hk, StaysInside, State.start?])
      · exact Or.inl ⟨hk, rfl, _, rfl⟩
  | cons call calls =>
      obtain ⟨hk, rfl, rfl⟩ | ⟨hk, rfl, rfl⟩ := afterExpr_call_eq_ok h <;>
        exact Or.inr (by simp [hk, StaysInside, State.start?])

/-- Inside a block a token stays in that block or ends it. -/
theorem step_start {s s' : State} {t : Token} {finished : Option Placed} {start : Nat}
    (hs : s.start? = some start) (h : step s t = .ok (s', finished)) :
    t.kind = .blockClose ∧ s' = .top ∧
        (∃ b, finished = some ⟨.block b, ⟨start, t.span.stop⟩⟩) ∨
      StaysInside t.kind ∧ s'.start? = some start ∧ finished = none := by
  cases s with
  | top => cases hs
  | opened start' optional =>
      obtain rfl := Option.some.inj hs
      obtain ⟨rfl, ⟨hk, -, rfl⟩ | hbegin⟩ := opened_eq_ok h
      · exact Or.inr (by simp [hk, StaysInside, State.start?])
      · exact Or.inr ⟨(beginExpr_start hbegin).1, (beginExpr_start hbegin).2, rfl⟩
  | operand context =>
      obtain rfl := Option.some.inj hs
      obtain ⟨hbegin, rfl⟩ := exists_begin h
      exact Or.inr ⟨(beginExpr_start hbegin).1, (beginExpr_start hbegin).2, rfl⟩
  | firstArgument context name =>
      obtain rfl := Option.some.inj hs
      obtain ⟨rfl, ⟨hk, rfl⟩ | hbegin⟩ := firstArgument_eq_ok h
      · exact Or.inr (by simp [hk, StaysInside, State.start?])
      · exact Or.inr ⟨(beginExpr_start hbegin).1, (beginExpr_start hbegin).2, rfl⟩
  | named context name =>
      obtain rfl := Option.some.inj hs
      by_cases hk : t.kind = .bracketOpen
      · simp only [step, hk] at h
        obtain ⟨rfl, rfl⟩ := Prod.mk.inj (Except.ok.inj h)
        exact Or.inr (by simp [hk, StaysInside, State.start?])
      · rw [step_named hk] at h
        exact afterExpr_start h
  | finished context e =>
      obtain rfl := Option.some.inj hs
      exact afterExpr_start h

theorem step_inside {s s' : State} {t : Token} {finished : Option Placed}
    (hs : s.mode = .inside) (h : step s t = .ok (s', finished)) :
    t.kind = .blockClose ∧ s' = .top ∨ StaysInside t.kind ∧ s'.mode = .inside := by
  obtain ⟨start, hstart⟩ := State.mode_eq_inside_iff.1 hs
  obtain ⟨hk, htop, -⟩ | ⟨hk, hstart', -⟩ := step_start hstart h
  · exact Or.inl ⟨hk, htop⟩
  · exact Or.inr ⟨hk, State.mode_eq_inside_iff.2 ⟨start, hstart'⟩⟩

theorem notMem_of_step_inside {s s' : State} {t : Token} {finished : Option Placed}
    (hs : s.mode = .inside) (h : step s t = .ok (s', finished)) :
    t.kind ∉ [TokenKind.blockOpen, .greater] := by
  rcases step_inside hs h with ⟨hk, -⟩ | ⟨hk, -⟩
  · simp [hk]
  · simp_all [StaysInside]

/-- The machine is between nodes exactly where scanning is outside of blocks. -/
theorem step_mode {s s' : State} {t : Token} {finished : Option Placed}
    (h : step s t = .ok (s', finished)) : s'.mode = s.mode.after t.kind := by
  cases hs : s.mode with
  | outside =>
      rw [State.mode_eq_outside_iff.1 hs] at h
      obtain ⟨hk, rfl, -⟩ | ⟨hk, rfl, -⟩ := top_eq_ok h <;> rw [hk] <;> rfl
  | inside =>
      obtain ⟨hk, rfl⟩ | ⟨hk, hmode⟩ := step_inside hs h
      · rw [hk]
        rfl
      · rw [hk.after_eq, hmode]

theorem reads_rawTokens (offset : Nat) (text : List Char) :
    Reads .top (rawTokens offset text) .top (rawNodes offset text) := by
  by_cases htext : text = []
  · rw [rawTokens, rawNodes, if_pos htext, if_pos htext]
    exact .nil .top
  · rw [rawTokens, rawNodes, if_neg htext, if_neg htext]
    exact .finish rfl

/-! ### The junction -/

theorem finds_eq_nil {d : Delimiters} {p p' : Scanner} {ts : List Token}
    (h : Scanner.Finds d p ts p') (hrest : p.rest = []) : ts = [] := by
  cases h with
  | nil => rfl
  | cons head =>
      have hlt := Scanner.next?_rest_lt head
      rw [hrest] at hlt
      cases hlt

theorem rest_eq_nil {d : Delimiters} {p : Scanner} (hstopped : p.stopped = false)
    (hmode : p.mode = .outside) (h : (p.next? d).1 = none) : p.rest = [] := by
  obtain ⟨sk, hscan⟩ := Scanner.next?_eq_none hstopped h
  apply List.eq_nil_iff_forall_not_mem.2
  intro c hc
  have hinside := ((blank_of_finished hscan).2 c hc).2
  rw [hmode] at hinside
  cases hinside

/-- From a state and a place on, a template goes on into the text that is added to it: what comes
before the raw text at its end is scanned and read as if nothing were added. `nodes` are those of
the template alone. -/
def GoesOn (d : Delimiters) (more : List Char) (s : State) (p : Scanner) (nodes : Template) :
    Prop :=
  ∃ first before tail offset, Reads s first .top before ∧
    Scanner.Finds d (p.extend more) first (.outside (tail ++ more) offset) ∧
    nodes = before ++ rawNodes offset tail ∧ (breakOn d.opening tail).2 = [] ∧
    tail <:+ p.rest ∧ offset + Text.byteLength tail = p.offset + Text.byteLength p.rest

section GoesOn

variable {d : Delimiters} {more : List Char} {s s' : State} {p p' : Scanner} {t : Token}
  {finished : Option Placed} {nodes : Template}

/-- Where everything left is raw text, it is the tail. -/
theorem goesOn_raw (hstopped : p.stopped = false) (hmode : p.mode = .outside)
    (hbreak : (breakOn d.opening p.rest).2 = []) :
    GoesOn d more .top p (rawNodes p.offset p.rest) := by
  refine ⟨[], [], p.rest, p.offset, .nil .top, ?_, rfl, hbreak, List.suffix_rfl, rfl⟩
  rw [Scanner.extend, hstopped, hmode]
  exact .nil _

/-- A step that leaves something of the template, or ends a block, comes before the tail. -/
theorem GoesOn.step (hd : d.Neutral) (hstep : step s t = .ok (s', finished))
    (hnext : p.next? d = (some (.ok t), p')) (hmode : p.mode = s.mode)
    (hleft : p'.rest ≠ [] ∨ t.kind = .blockClose)
    (h : GoesOn d more s' p' nodes) : GoesOn d more s p (finished.toList ++ nodes) := by
  obtain ⟨first, before, tail, offset, hreads, hfinds, rfl, hbreak, htail, hsum⟩ := h
  have hkind : p.mode = .inside → t.kind ∉ [TokenKind.blockOpen, .greater] :=
    fun hp => notMem_of_step_inside (hmode ▸ hp) hstep
  obtain ⟨used, hrest, hoffset⟩ := (Scanner.Finds.cons hnext (.nil p')).exists_used
  refine ⟨t :: first, finished.toList ++ before, tail, offset, .cons hstep hreads, ?_, ?_, hbreak,
    ?_, ?_⟩
  · exact .cons (Scanner.next?_extend hd hnext hkind hleft) hfinds
  · rw [List.append_assoc]
  · exact htail.trans ⟨used, hrest.symm⟩
  · calc
      offset + Text.byteLength tail = p'.offset + Text.byteLength p'.rest := hsum
      _ = p.offset + (Text.byteLength used + Text.byteLength p'.rest) := by
        rw [hoffset, Nat.add_assoc]
      _ = p.offset + Text.byteLength p.rest := by rw [hrest, Text.byteLength_append]

/-- A step to the top that leaves nothing and ends no block has read raw text. -/
theorem raw_of_step_top (hstep : TokenMachine.step s t = .ok (.top, finished))
    (hnext : p.next? d = (some (.ok t), p')) (hmode : p.mode = s.mode) (hrest : p'.rest = [])
    (hclose : t.kind ≠ .blockClose) :
    s = .top ∧ finished.toList = rawNodes p.offset p.rest ∧
      (breakOn d.opening p.rest).2 = [] := by
  have hs : s.mode = .outside := by
    cases hs : s.mode with
    | outside => rfl
    | inside =>
        rcases step_inside hs hstep with ⟨hk, -⟩ | ⟨-, htop⟩
        · exact absurd hk hclose
        · cases htop
  have htop := State.mode_eq_outside_iff.1 hs
  rw [htop] at hstep
  obtain ⟨hk, -, rfl⟩ | ⟨-, hopened, -⟩ := top_eq_ok hstep
  · obtain ⟨-, sk, lx, m, rest, hscan, rfl, rfl⟩ := Scanner.next?_eq_token_iff.1 hnext
    obtain rfl : rest = [] := hrest
    obtain ⟨htext, hne⟩ := scan_eq_found hscan
    rw [hmode, hs] at hscan
    cases finding_scan hscan with
    | opening => cases hk
    | @raw text _ without _ =>
        have hall : p.rest = text := by simpa [Lexeme.plain] using htext
        have hraw : text ≠ [] := hne
        rw [hall, rawNodes, if_neg hraw]
        exact ⟨htop, by simp [Scanner.tokenOf, Lexeme.plain], Text.breakOn_rest_eq_nil without⟩
  · cases hopened

/-- Every template goes on into every text. -/
theorem Reads.goesOn {ts : List Token} (h : Reads s ts .top nodes) (hd : d.Neutral)
    (hp : Scanner.Finds d p ts p') (hstopped : p.stopped = false) (hend : (p'.next? d).1 = none)
    (hmode : p.mode = s.mode) : GoesOn d more s p nodes := by
  induction ts generalizing s nodes p with
  | nil =>
      cases h
      have hplace : p' = p := by
        cases hp
        rfl
      have hrest : p.rest = [] := rest_eq_nil hstopped hmode (hplace ▸ hend)
      have hraw : GoesOn d more .top p (rawNodes p.offset p.rest) := by
        apply goesOn_raw hstopped hmode
        rw [hrest]
        rfl
      rwa [hrest] at hraw
  | cons t ts ih =>
      obtain ⟨s₁, finished, later, hstep, htail, rfl⟩ := h.exists_step
      obtain ⟨p₁, hnext, hp₁⟩ := hp.exists_step
      by_cases hleft : p₁.rest ≠ [] ∨ t.kind = .blockClose
      · have hone : Scanner.Finds d p [t] p₁ := .cons hnext (.nil p₁)
        have hmode₁ : p₁.mode = s₁.mode := by
          rw [step_mode hstep, ← hmode]
          exact hone.mode_eq
        have hlater := ih htail hp₁ (hone.stopped_eq hstopped) hmode₁
        exact hlater.step hd hstep hnext hmode hleft
      · -- nothing is left, and the machine is back between nodes
        obtain ⟨hrest, hclose⟩ := not_or.1 hleft
        obtain rfl := finds_eq_nil hp₁ (not_not.1 hrest)
        cases htail
        obtain ⟨rfl, hnodes, hbreak⟩ :=
          raw_of_step_top hstep hnext hmode (not_not.1 hrest) hclose
        rw [hnodes, List.append_nil]
        exact goesOn_raw hstopped hmode hbreak

end GoesOn

end TokenMachine

namespace Template

open TokenMachine (Reads)

/-- The template of what scanning gave. -/
def ofScan (scanned : Except (Located LexicalError) (List Token)) :
    Except (Located TemplateError) Template :=
  match scanned with
  | .error e => .error ⟨.lexical e.error, e.span⟩
  | .ok tokens =>
    match ofTokens tokens with
    | .error e => .error ⟨.syntactic e.error, e.span⟩
    | .ok template => .ok template

theorem parse_eq_ofScan (m : Markers) (source : String) :
    parse m source = ofScan ((Scanner.outside source.toList 0).tokens m.delimiters) := rfl

theorem ofScan_map {first : List Token} {before : Template} (h : Reads .top first .top before)
    (scanned : Except (Located LexicalError) (List Token)) :
    ofScan (scanned.map (first ++ ·)) = (ofScan scanned).map (before ++ ·) := by
  cases scanned with
  | error e => rfl
  | ok tokens =>
      have hread : ofTokens (first ++ tokens) = (ofTokens tokens).map (before ++ ·) := by
        rw [ofTokens, TokenMachine.run_append h, TokenMachine.run_top]
      change ofScan (.ok (first ++ tokens)) = _
      simp only [ofScan, hread]
      cases ofTokens tokens <;> rfl

theorem ofScan_shift (k : Nat) (scanned : Except (Located LexicalError) (List Token)) :
    ofScan ((scanned.mapError (Located.shift k)).map (List.map (Token.shift k))) =
      ((ofScan scanned).mapError (Located.shift k)).map (List.map (Placed.shift k)) := by
  cases scanned with
  | error e => rfl
  | ok tokens =>
      have hread : ofTokens (tokens.map (Token.shift k)) =
          ((ofTokens tokens).mapError (Located.shift k)).map (List.map (Placed.shift k)) := by
        have hrun := TokenMachine.run_shift k 0 .top tokens
        rw [TokenMachine.State.shift, TokenMachine.run_top] at hrun
        exact hrun
      change ofScan (.ok (tokens.map (Token.shift k))) = _
      simp only [ofScan, hread]
      cases ofTokens tokens <;> rfl

/-- Outside of blocks the text before the next opening marker is a node of its own. -/
theorem ofScan_outside {d : Delimiters} {cs head rest : List Char}
    (h : breakOn d.opening cs = (head, rest)) (offset : Nat) :
    ofScan ((Scanner.outside cs offset).tokens d) =
      (ofScan ((Scanner.outside rest (offset + Text.byteLength head)).tokens d)).map
        (rawNodes offset head ++ ·) := by
  rw [Scanner.tokens_outside, h]
  exact ofScan_map (TokenMachine.reads_rawTokens offset head) _

/-- A template followed by a text is read as its nodes and those of the text further on. Raw text
at the end of the template and at the start of the text is one node. -/
theorem parse_append {m : Markers} (hm : m.delimiters.Neutral) {source more : String}
    {template : Template} (h : parse m source = .ok template)
    (hs : ¬Straddles m.delimiters.opening source.toList more.toList) :
    ∃ (before : Template) (offset : Nat) (tail head : List Char)
      (later : Except (Located TemplateError) Template),
      template = before ++ rawNodes offset tail ∧
        parse m more = later.map (rawNodes 0 head ++ ·) ∧
        parse m (source ++ more) =
          ((later.mapError (Located.shift (Text.byteLength source.toList))).map
            (List.map (Placed.shift (Text.byteLength source.toList)))).map
              fun nodes => before ++ (rawNodes offset (tail ++ head) ++ nodes) := by
  obtain ⟨tokens, htokens, htemplate⟩ := parse_eq_ok_iff.1 h
  obtain ⟨p, hp, hend⟩ := Scanner.tokens_eq_ok_iff.1 htokens
  have hreads : Reads .top tokens .top template := TokenMachine.run_eq_ok_iff.1 htemplate
  obtain ⟨first, before, tail, offset, hfirst, hfinds, hnodes, hbreak, hsuffix, hsum⟩ :=
    hreads.goesOn hm hp rfl hend rfl
  obtain ⟨head, rest, hmore⟩ : ∃ head rest, breakOn m.delimiters.opening more.toList =
      (head, rest) := ⟨_, _, rfl⟩
  have hjoin : breakOn m.delimiters.opening (tail ++ more.toList) = (tail ++ head, rest) := by
    have htail : ¬Straddles m.delimiters.opening tail more.toList := by
      intro hacross
      exact hs (hacross.of_suffix hsuffix)
    rw [Text.breakOn_append_of_not_straddles htail, if_pos hbreak, hmore]
  have hplace : Scanner.outside rest (offset + Text.byteLength (tail ++ head)) =
      (Scanner.outside rest (0 + Text.byteLength head)).shift (Text.byteLength source.toList) := by
    have hsource : offset + Text.byteLength tail = Text.byteLength source.toList := by
      simpa [Scanner.start] using hsum
    simp only [Scanner.shift, Text.byteLength_append, ← hsource]
    congr 1
    omega
  have hscanned : (Scanner.outside (source ++ more).toList 0).tokens m.delimiters =
      ((Scanner.outside (tail ++ more.toList) offset).tokens m.delimiters).map (first ++ ·) := by
    rw [String.toList_append]
    exact hfinds.tokens_eq
  refine ⟨before, offset, tail, head, _, hnodes, ofScan_outside hmore 0, ?_⟩
  calc
    parse m (source ++ more) =
        (ofScan ((Scanner.outside (tail ++ more.toList) offset).tokens m.delimiters)).map
          (before ++ ·) := by rw [parse_eq_ofScan, hscanned, ofScan_map hfirst]
    _ = ((ofScan ((Scanner.outside rest (offset + Text.byteLength (tail ++ head))).tokens
          m.delimiters)).map (rawNodes offset (tail ++ head) ++ ·)).map (before ++ ·) := by
        rw [ofScan_outside hjoin]
    _ = _ := by
        rw [hplace, Scanner.tokens_shift, ofScan_shift]
        cases ofScan ((Scanner.outside rest (0 + Text.byteLength head)).tokens m.delimiters) <;>
          rfl

end Template

end BlockTemplate
