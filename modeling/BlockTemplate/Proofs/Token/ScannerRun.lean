import BlockTemplate.Token.Scanner
import Mathlib

/-!
# Runs of the scanner

A run is a sequence of scans, each of which finds a token and passes on to the place after it.
What one scan can find is listed in `Finding`; what holds along a run follows from it by induction
on the run.

## Implementation notes

`Finds` keeps the text that is left at each place, so a run can be cut and continued anywhere.
Its first token never looks back: the mode of a place depends on the markers before it alone
(`Finds.mode_eq`).
-/

namespace BlockTemplate

/-! ### One scan -/

theorem not_infix_breakOn (part : List Char) (cs : List Char) (h : part ≠ []) :
    ¬part <:+: (Text.breakOn part cs).1 := by
  induction cs with
  | nil =>
      intro hp
      exact h (List.infix_nil.1 hp)
  | cons c cs ih =>
      rw [Text.breakOn]
      split
      · intro hp
        exact h (List.infix_nil.1 hp)
      · next hnot =>
          intro hp
          rcases List.infix_cons_iff.1 hp with hp | hp
          · refine hnot (List.isPrefixOf_iff_prefix.2 (hp.trans ?_))
            exact ⟨(Text.breakOn part cs).2, by simp [Text.breakOn_append]⟩
          · exact ih hp

theorem breakOn_rest (part : List Char) (cs : List Char) :
    (Text.breakOn part cs).2 = [] ∨ part <+: (Text.breakOn part cs).2 := by
  induction cs with
  | nil => exact Or.inl rfl
  | cons c cs ih =>
      rw [Text.breakOn]
      split
      · next hp => exact Or.inr (List.isPrefixOf_iff_prefix.1 hp)
      · exact ih

/-- Everything that a scan can find: from a mode, after some blanks, a lexeme that leaves the text
that is left in another mode. -/
inductive Finding (d : Delimiters) : Mode → List Char → Lexeme → Mode → List Char → Prop
  | opening (rest : List Char) :
      Finding d .outside [] (.plain .blockOpen d.opening) .inside rest
  | raw {text rest : List Char} (without : ¬d.opening <:+: text)
      (ends : rest = [] ∨ d.opening <+: rest) :
      Finding d .outside [] (.plain .rawText text) .outside rest
  | closing {skipped : List Char} (blank : ∀ c ∈ skipped, isBlockBlank c = true)
      (rest : List Char) :
      Finding d .inside skipped (.plain .blockClose d.closing) .outside rest
  | plain {skipped : List Char} (blank : ∀ c ∈ skipped, isBlockBlank c = true) {kind : TokenKind}
      (inner : kind ∉ [TokenKind.rawText, .blockClose, .string]) (text rest : List Char) :
      Finding d .inside skipped (.plain kind text) .inside rest
  | quoted {skipped : List Char} (blank : ∀ c ∈ skipped, isBlockBlank c = true) {mark : Char}
      (quote : mark = '\'' ∨ mark = '"') {inner value : List Char}
      (translated : Escape.translate inner = .ok value) (rest : List Char) :
      Finding d .inside skipped ⟨.string, value, mark :: (inner ++ [mark])⟩ .inside rest

variable {d : Delimiters}

theorem finding_scanOutside {cs sk rest : List Char} {lx : Lexeme} {m : Mode}
    (h : scanOutside d cs = .found sk lx m rest) : Finding d .outside sk lx m rest := by
  unfold scanOutside at h
  split at h
  · cases h
  · dsimp only at h
    split at h
    · obtain ⟨rfl, rfl, rfl, rfl⟩ := by simpa using h
      exact .opening _
    · obtain ⟨rfl, rfl, rfl, rfl⟩ := by simpa using h
      exact .raw (not_infix_breakOn d.opening cs d.opening_ne_nil) (breakOn_rest d.opening cs)

theorem punctuation?_eq_some {c : Char} {kind : TokenKind} (h : punctuation? c = some kind) :
    kind ∈ [TokenKind.filter, .comma, .bracketOpen, .bracketClose, .question, .greater] := by
  unfold punctuation? at h
  repeat' split at h
  all_goals simp_all

theorem finding_scanQuoted {skipped : List Char} (blank : ∀ c ∈ skipped, isBlockBlank c = true)
    {mark : Char} (hmark : mark = '\'' ∨ mark = '"') {body sk rest : List Char} {lx : Lexeme}
    {m : Mode} (h : scanQuoted skipped mark body = .found sk lx m rest) :
    Finding d .inside sk lx m rest := by
  unfold scanQuoted at h
  split at h
  · cases h
  · dsimp only at h
    split at h
    · cases h
    · next htranslate =>
        obtain ⟨rfl, rfl, rfl, rfl⟩ := by simpa using h
        exact .quoted blank hmark htranslate _

theorem finding_scanNumber {skipped : List Char} (blank : ∀ c ∈ skipped, isBlockBlank c = true)
    {sign cs sk rest : List Char} {lx : Lexeme} {m : Mode}
    (h : scanNumber skipped sign cs = .found sk lx m rest) : Finding d .inside sk lx m rest := by
  unfold scanNumber at h
  dsimp only at h
  split at h
  · cases h
  · split at h
    · obtain ⟨rfl, rfl, rfl, rfl⟩ := by simpa using h
      exact .plain blank (by decide) _ _
    · cases h

theorem finding_scanItem {skipped : List Char} (blank : ∀ c ∈ skipped, isBlockBlank c = true)
    {c : Char} {cs sk rest : List Char} {lx : Lexeme} {m : Mode}
    (h : scanItem d skipped c cs = .found sk lx m rest) : Finding d .inside sk lx m rest := by
  unfold scanItem at h
  split at h
  · obtain ⟨rfl, rfl, rfl, rfl⟩ := by simpa using h
    exact .closing blank _
  split at h
  · obtain ⟨rfl, rfl, rfl, rfl⟩ := by simpa using h
    exact .plain blank (by decide) _ _
  split at h
  · next kind hp =>
      obtain ⟨rfl, rfl, rfl, rfl⟩ := by simpa using h
      have hkind := punctuation?_eq_some hp
      refine .plain blank ?_ _ _
      intro hk
      simp at hk hkind
      rcases hk with rfl | rfl | rfl <;> simp at hkind
  split at h
  · obtain ⟨rfl, rfl, rfl, rfl⟩ := by simpa using h
    exact .plain blank (by decide) _ _
  split at h
  · next hmark => exact finding_scanQuoted blank (by simpa using hmark) h
  split at h
  · exact finding_scanNumber blank h
  split at h
  · exact finding_scanNumber blank h
  · cases h

theorem finding_scan {mode : Mode} {cs sk rest : List Char} {lx : Lexeme} {m : Mode}
    (h : scan d mode cs = .found sk lx m rest) : Finding d mode sk lx m rest := by
  cases mode with
  | outside => exact finding_scanOutside h
  | inside =>
      change scanInside d cs = _ at h
      unfold scanInside at h
      split at h
      · cases h
      · refine finding_scanItem (fun c hc => ?_) h
        exact List.mem_takeWhile_imp hc

/-- Only blanks inside a block are skipped. -/
theorem Finding.blank {mode m : Mode} {sk rest : List Char} {lx : Lexeme}
    (h : Finding d mode sk lx m rest) : ∀ c ∈ sk, isBlockBlank c = true ∧ mode = .inside := by
  cases h with
  | opening | raw => simp
  | closing blank | plain blank | quoted blank => exact fun c hc => ⟨blank c hc, rfl⟩

/-- Outside of blocks an opening marker is found where it stands. -/
theorem scan_outside_opening {cs : List Char} (h : d.opening <+: cs) :
    scan d .outside cs = .found [] (.plain .blockOpen d.opening) .inside
      (cs.drop d.opening.length) := by
  cases cs with
  | nil => exact absurd (List.prefix_nil.1 h) d.opening_ne_nil
  | cons c cs =>
      change scanOutside d (c :: cs) = _
      simp [scanOutside, Text.breakOn, List.isPrefixOf_iff_prefix.2 h]

theorem scanQuoted_ne_finished (skipped : List Char) (mark : Char) (body sk : List Char) :
    scanQuoted skipped mark body ≠ .finished sk := by
  unfold scanQuoted
  split
  · simp
  · dsimp only
    split <;> simp

theorem scanNumber_ne_finished (skipped sign cs sk : List Char) :
    scanNumber skipped sign cs ≠ .finished sk := by
  unfold scanNumber
  dsimp only
  split
  · intro h
    cases h
  · split
    · intro h
      cases h
    · intro h
      cases h

theorem scanItem_ne_finished (skipped : List Char) (c : Char) (cs sk : List Char) :
    scanItem d skipped c cs ≠ .finished sk := by
  unfold scanItem
  repeat' split
  all_goals
    first
      | exact scanQuoted_ne_finished _ _ _ _
      | exact scanNumber_ne_finished _ _ _ _
      | simp

/-- Where scanning ends, all that is left is skipped, and only blanks inside a block are left. -/
theorem blank_of_finished {mode : Mode} {cs sk : List Char} (h : scan d mode cs = .finished sk) :
    sk = cs ∧ ∀ c ∈ cs, isBlockBlank c = true ∧ mode = .inside := by
  cases mode with
  | outside =>
      change scanOutside d cs = _ at h
      unfold scanOutside at h
      split at h
      · next hnil =>
          obtain rfl := Scan.finished.inj h
          simp [hnil]
      · dsimp only at h
        split at h <;> cases h
  | inside =>
      change scanInside d cs = _ at h
      unfold scanInside at h
      split at h
      · next hnil =>
          obtain rfl := Scan.finished.inj h
          exact ⟨rfl, fun c hc => ⟨List.dropWhile_eq_nil_iff.1 hnil c hc, rfl⟩⟩
      · exact absurd h (scanItem_ne_finished _ _ _ _)

/-! ### Runs -/

/-- The mode after a token of some kind. -/
def Mode.after (m : Mode) : TokenKind → Mode
  | .blockOpen => .inside
  | .blockClose => .outside
  | _ => m

/-- The mode after some tokens. -/
def Mode.afterAll (m : Mode) (ts : List Token) : Mode := ts.foldl (fun m t => m.after t.kind) m

/-- Only markers change the mode. -/
theorem Finding.mode_eq {mode m : Mode} {sk rest : List Char} {lx : Lexeme}
    (h : Finding d mode sk lx m rest) : m = mode.after lx.kind := by
  cases h with
  | opening | raw | closing | quoted => rfl
  | @plain _ _ kind inner => cases kind <;> simp_all [Mode.after, Lexeme.plain]

theorem Finding.closing_text {mode m : Mode} {sk rest : List Char} {lx : Lexeme}
    (h : Finding d mode sk lx m rest) (hk : lx.kind = .blockClose) :
    m = .outside ∧ lx.text = d.closing := by
  cases h with
  | opening | raw | quoted => cases hk
  | plain _ inner => exact absurd hk (by rintro rfl; simp at inner)
  | closing => exact ⟨rfl, rfl⟩

namespace Scanner

/-- A place inside a block. -/
abbrev inside (cs : List Char) (offset : Nat) : Scanner := ⟨cs, offset, .inside, false⟩

/-- A place outside of blocks. -/
abbrev outside (cs : List Char) (offset : Nat) : Scanner := ⟨cs, offset, .outside, false⟩

/-- The token that a lexeme is after some skipped text. -/
def tokenOf (s : Scanner) (skipped : List Char) (lx : Lexeme) : Token :=
  ⟨lx.kind, String.ofList lx.value, ⟨s.offset + Text.byteLength skipped,
    s.offset + Text.byteLength skipped + Text.byteLength lx.text⟩⟩

/-- The place after a lexeme. -/
def pass (s : Scanner) (skipped : List Char) (lx : Lexeme) (m : Mode) (rest : List Char) :
    Scanner :=
  ⟨rest, s.offset + Text.byteLength skipped + Text.byteLength lx.text, m, false⟩

/-- The next item is a token exactly when a lexeme is found. -/
theorem next?_eq_token_iff {s s' : Scanner} {t : Token} :
    s.next? d = (some (.ok t), s') ↔
      s.stopped = false ∧ ∃ sk lx m rest, scan d s.mode s.rest = .found sk lx m rest ∧
        t = s.tokenOf sk lx ∧ s' = s.pass sk lx m rest := by
  unfold next?
  cases hs : s.stopped with
  | true => simp
  | false =>
      cases hscan : scan d s.mode s.rest with
      | finished skipped => simp
      | found skipped lx m rest =>
          constructor
          · intro h
            obtain ⟨rfl, rfl⟩ := by simpa using h
            exact ⟨rfl, skipped, lx, m, rest, rfl, rfl, rfl⟩
          · rintro ⟨-, sk, lx, m, rest, hfound, rfl, rfl⟩
            obtain ⟨rfl, rfl, rfl, rfl⟩ := by simpa using hfound
            rfl
      | wrong skipped error text => simp

theorem next?_eq_none {s : Scanner} (hs : s.stopped = false) (h : (s.next? d).1 = none) :
    ∃ sk, scan d s.mode s.rest = .finished sk := by
  unfold next? at h
  rw [hs] at h
  cases hscan : scan d s.mode s.rest with
  | finished sk => exact ⟨sk, rfl⟩
  | found | wrong => simp [hscan] at h

/-- Scanning goes from one place to another and finds the given tokens on the way. -/
inductive Finds (d : Delimiters) : Scanner → List Token → Scanner → Prop
  | nil (s : Scanner) : Finds d s [] s
  | cons {s s' s'' : Scanner} {t : Token} {ts : List Token}
      (head : s.next? d = (some (.ok t), s')) (tail : Finds d s' ts s'') :
      Finds d s (t :: ts) s''

/-- The tokens from a place on, or the first error. -/
def tokens (d : Delimiters) (s : Scanner) : Except (Located LexicalError) (List Token) :=
  (s.run d).1.mapM id

theorem tokenize_eq (m : Markers) (template : String) :
    tokenize m template = (start template.toList).tokens m.delimiters := rfl

theorem run_of_next? {s s' : Scanner} {t : Token} (h : s.next? d = (some (.ok t), s')) :
    (s.run d).1 = .ok t :: (s'.run d).1 := by
  rw [run]
  split
  · next hnext => simp [hnext] at h
  · next hnext => simp [hnext] at h
  · next hnext =>
      obtain ⟨rfl, rfl⟩ := by simpa [hnext] using h
      rfl

theorem run_of_none {s : Scanner} (h : (s.next? d).1 = none) : (s.run d).1 = [] := by
  rw [run]
  split
  · rfl
  · next hnext => simp [hnext] at h
  · next hnext => simp [hnext] at h

theorem run_of_error {s : Scanner} {e : Located LexicalError}
    (h : (s.next? d).1 = some (.error e)) : (s.run d).1 = [.error e] := by
  rw [run]
  split
  · next hnext => simp [hnext] at h
  · next hnext =>
      obtain rfl := by simpa [hnext] using h
      rfl
  · next hnext => simp [hnext] at h

theorem tokens_of_next? {s s' : Scanner} {t : Token} (h : s.next? d = (some (.ok t), s')) :
    s.tokens d = (s'.tokens d).map (t :: ·) := by
  rw [tokens, run_of_next? h, List.mapM_cons]
  change (do let ts ← s'.tokens d; pure (t :: ts)) = _
  cases s'.tokens d <;> rfl

theorem tokens_of_none {s : Scanner} (h : (s.next? d).1 = none) : s.tokens d = .ok [] := by
  rw [tokens, run_of_none h]
  rfl

theorem tokens_of_error {s : Scanner} {e : Located LexicalError}
    (h : (s.next? d).1 = some (.error e)) : s.tokens d = .error e := by
  rw [tokens, run_of_error h]
  rfl

namespace Finds

variable {s s' s'' : Scanner} {t : Token} {ts us : List Token}

theorem append (h : Finds d s ts s') (h' : Finds d s' us s'') : Finds d s (ts ++ us) s'' := by
  induction h with
  | nil s => exact h'
  | cons head _ ih => exact cons head (ih h')

/-- A run passes every place between two of its tokens. -/
theorem exists_place {before after : List Token} (h : Finds d s (before ++ after) s'') :
    ∃ s', Finds d s before s' ∧ Finds d s' after s'' := by
  induction before generalizing s with
  | nil => exact ⟨s, .nil s, h⟩
  | cons t before ih =>
      cases h with
      | cons head tail =>
          obtain ⟨s', hbefore, hafter⟩ := ih tail
          exact ⟨s', .cons head hbefore, hafter⟩

theorem exists_step (h : Finds d s (t :: ts) s'') :
    ∃ s', s.next? d = (some (.ok t), s') ∧ Finds d s' ts s'' := by
  cases h with
  | cons head tail => exact ⟨_, head, tail⟩

/-- The tokens of a run come before those from its last place on. -/
theorem tokens_eq (h : Finds d s ts s') : s.tokens d = (s'.tokens d).map (ts ++ ·) := by
  induction h with
  | nil s =>
      change s.tokens d = (s.tokens d).map id
      rw [Except.map_id]
      rfl
  | cons head _ ih =>
      rw [tokens_of_next? head, ih]
      cases tokens d _ <;> rfl

/-- A run leaves a tail of the text and counts the bytes it has passed. -/
theorem exists_used (h : Finds d s ts s') :
    ∃ used, s.rest = used ++ s'.rest ∧ s'.offset = s.offset + Text.byteLength used := by
  induction h with
  | nil s => exact ⟨[], rfl, rfl⟩
  | cons head _ ih =>
      obtain ⟨-, sk, lx, m, rest, hscan, -, rfl⟩ := next?_eq_token_iff.1 head
      obtain ⟨htext, -⟩ := scan_eq_found hscan
      obtain ⟨used, hrest, hoffset⟩ := ih
      refine ⟨sk ++ (lx.text ++ used), ?_, ?_⟩
      · rw [htext]
        simpa [pass] using hrest
      · rw [hoffset]
        simp [pass, Nat.add_assoc]

/-- No error is behind a place that a run comes to. -/
theorem stopped_eq (h : Finds d s ts s') (hs : s.stopped = false) : s'.stopped = false := by
  induction h with
  | nil s => exact hs
  | cons head _ ih =>
      obtain ⟨-, sk, lx, m, rest, -, -, rfl⟩ := next?_eq_token_iff.1 head
      exact ih rfl

/-- The mode of a place depends on the tokens before it. -/
theorem mode_eq (h : Finds d s ts s') : s'.mode = s.mode.afterAll ts := by
  induction h with
  | nil s => rfl
  | cons head _ ih =>
      obtain ⟨-, sk, lx, m, rest, hscan, rfl, rfl⟩ := next?_eq_token_iff.1 head
      rw [ih]
      change m.afterAll _ = (Mode.after _ lx.kind).afterAll _
      rw [(finding_scan hscan).mode_eq]

end Finds

/-- Every run ends: nothing is left, or an error is met. -/
theorem exists_finds (d : Delimiters) (s : Scanner) :
    ∃ ts s', Finds d s ts s' ∧ ((s'.next? d).1 = none ∨ ∃ e, (s'.next? d).1 = some (.error e)) := by
  cases hnext : s.next? d with
  | mk item s₁ =>
      rcases item with _ | e | t
      · exact ⟨[], s, .nil s, Or.inl (by rw [hnext])⟩
      · exact ⟨[], s, .nil s, Or.inr ⟨e, by rw [hnext]⟩⟩
      · have hlt := next?_rest_lt hnext
        obtain ⟨ts, s', hfinds, hend⟩ := exists_finds d s₁
        exact ⟨t :: ts, s', .cons hnext hfinds, hend⟩
  termination_by s.rest.length

/-- There are tokens exactly when a run finds them and nothing is left after it. -/
theorem tokens_eq_ok_iff {s : Scanner} {ts : List Token} :
    s.tokens d = .ok ts ↔ ∃ s', Finds d s ts s' ∧ (s'.next? d).1 = none := by
  constructor
  · intro h
    obtain ⟨us, s', hfinds, hend⟩ := exists_finds d s
    rw [hfinds.tokens_eq] at h
    rcases hend with hnone | ⟨e, herror⟩
    · rw [tokens_of_none hnone] at h
      obtain rfl : us = ts := by simpa [Except.map] using h
      exact ⟨s', hfinds, hnone⟩
    · rw [tokens_of_error herror] at h
      cases h
  · rintro ⟨s', hfinds, hnone⟩
    rw [hfinds.tokens_eq, tokens_of_none hnone]
    simp [Except.map]

end Scanner

end BlockTemplate
