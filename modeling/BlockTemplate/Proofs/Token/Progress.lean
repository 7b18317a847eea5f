import BlockTemplate.Proofs.Token.LexicalError

/-!
# The scanner makes progress and stays finished

Every token takes the scanner on by at least a byte, and every item starts at a byte of its own. So
a template of some bytes has at most as many items. Where nothing is found, or an error is, the
scanner stays as it is.

## Implementation notes

`Outcome` lists all that a call can do to a place, whatever the markers are; an empty marker is
never among them, since `Delimiters` has none. The items that calls give one by one are those of
`Scanner.run` (`itemFrom_eq_getElem?`), so what is said of that list is said of the calls.

Main statement: `Scanner.progress`.
-/

namespace BlockTemplate

variable {d : Delimiters}

namespace Scanner

/-- The offset at which an item starts. -/
def startOf : Item → Nat
  | .ok t => t.span.start
  | .error e => e.span.start

/-! ### One call -/

/-- Nothing more is found from a place: an error was met, or no text is left. -/
def Finished (s : Scanner) : Prop := s.stopped = true ∨ s.rest = []

/-- All that a call can give at a place, with the place after it. -/
inductive Outcome (s : Scanner) : Option Item → Scanner → Prop
  | idle (finished : s.Finished) : Outcome s none s
  /-- Blanks are skipped up to the end of the text. -/
  | skipping : Outcome s none ⟨[], s.offset + Text.byteLength s.rest, s.mode, false⟩
  | token {skipped rest : List Char} {lx : Lexeme} (m : Mode)
      (text : s.rest = skipped ++ (lx.text ++ rest)) (nonempty : lx.text ≠ []) :
      Outcome s (some (.ok (s.tokenOf skipped lx))) (s.pass skipped lx m rest)
  | error {e : Located LexicalError} {skipped behind : List Char}
      (text : s.rest = skipped ++ behind) (nonempty : behind ≠ [])
      (starts : e.span.start = s.offset + Text.byteLength skipped) :
      Outcome s (some (.error e)) { s with stopped := true }

theorem outcome_next? (d : Delimiters) (s : Scanner) :
    Outcome s (s.next? d).1 (s.next? d).2 := by
  obtain ⟨text, offset, mode, stopped⟩ := s
  cases stopped with
  | true => exact .idle (Or.inl rfl)
  | false =>
      cases hscan : scan d mode text with
      | finished skipped =>
          obtain ⟨rfl, -⟩ := blank_of_finished hscan
          simp only [next?, hscan]
          exact .skipping
      | found skipped lx m rest =>
          obtain ⟨htext, hne⟩ := scan_eq_found hscan
          simp only [next?, hscan]
          exact .token m htext hne
      | wrong skipped cause part =>
          obtain ⟨-, -, rest, htext, -, hmisread⟩ := scan_eq_wrong_iff.1 hscan
          obtain ⟨c, cs, rfl, -⟩ := hmisread.exists_first
          simp only [next?, hscan]
          exact .error htext (List.cons_ne_nil _ _) rfl

/-- A finished scanner stays as it is. -/
theorem Finished.next?_eq {s : Scanner} (h : s.Finished) : s.next? d = (none, s) := by
  obtain ⟨text, offset, mode, stopped⟩ := s
  cases stopped with
  | true => rfl
  | false =>
      obtain rfl : text = [] := by simpa [Finished] using h
      cases mode <;> rfl

namespace Outcome

variable {s s' : Scanner} {item : Option Item}

/-- A call that gives no token finishes the scanner. -/
theorem finished (h : Outcome s item s') (hitem : ∀ t, item ≠ some (.ok t)) : s'.Finished := by
  cases h with
  | idle hfinished => exact hfinished
  | skipping => exact Or.inr rfl
  | token => exact absurd rfl (hitem _)
  | error => exact Or.inl rfl

theorem offset_lt {t : Token} (h : Outcome s (some (.ok t)) s') : s.offset < s'.offset := by
  cases h with
  | token m text nonempty =>
      have hpos := Text.byteLength_pos nonempty
      simp only [pass]
      omega

/-- A call skips or reads a part of the text that is left, and counts its bytes. -/
theorem exists_passed (h : Outcome s item s') :
    ∃ passed, s.rest = passed ++ s'.rest ∧ s'.offset = s.offset + Text.byteLength passed := by
  cases h with
  | idle | error => exact ⟨[], rfl, rfl⟩
  | skipping => exact ⟨s.rest, (List.append_nil _).symm, rfl⟩
  | @token skipped rest lx m text =>
      refine ⟨skipped ++ lx.text, ?_, ?_⟩
      · rw [text, List.append_assoc]
        rfl
      · rw [Text.byteLength_append, ← Nat.add_assoc]
        rfl

/-- An item starts in the text that is left, and a token before the place behind it. -/
theorem startOf_bounds {i : Item} (h : Outcome s (some i) s') :
    s.offset ≤ startOf i ∧ startOf i < s.offset + Text.byteLength s.rest ∧
      ∀ t, i = .ok t → startOf i < s'.offset := by
  cases h with
  | token m text nonempty =>
      have hpos := Text.byteLength_pos nonempty
      have hlength := congrArg Text.byteLength text
      simp only [Text.byteLength_append] at hlength
      simp only [startOf, tokenOf, pass]
      exact ⟨Nat.le_add_right _ _, by omega, fun _ _ => by omega⟩
  | error text nonempty starts =>
      have hpos := Text.byteLength_pos nonempty
      have hlength := congrArg Text.byteLength text
      rw [Text.byteLength_append] at hlength
      simp only [startOf, starts]
      exact ⟨Nat.le_add_right _ _, by omega, by simp⟩

end Outcome

/-! ### All items -/

/-- Items start one behind the other in the text that is left at a place. -/
structure Spread (s : Scanner) (items : List Item) : Prop where
  within : ∀ i ∈ items, s.offset ≤ startOf i ∧ startOf i < s.offset + Text.byteLength s.rest
  increasing : items.Pairwise fun i j => startOf i < startOf j

theorem spread_nil (s : Scanner) : s.Spread [] := ⟨nofun, .nil⟩

/-- A token in front of items behind it. -/
theorem Spread.cons {s s' : Scanner} {t : Token} {items : List Item}
    (h : Outcome s (some (.ok t)) s') (hitems : s'.Spread items) : s.Spread (.ok t :: items) := by
  obtain ⟨passed, hrest, hoffset⟩ := h.exists_passed
  obtain ⟨hle, hlt, hbehind⟩ := h.startOf_bounds
  have hlength := congrArg Text.byteLength hrest
  rw [Text.byteLength_append] at hlength
  have hlater : ∀ i ∈ items, startOf (.ok t) < startOf i := fun i hi =>
    (hbehind t rfl).trans_le (hitems.within i hi).1
  constructor
  · intro i hi
    rcases List.mem_cons.1 hi with rfl | hi
    · exact ⟨hle, hlt⟩
    · obtain ⟨hstart, hstop⟩ := hitems.within i hi
      omega
  · exact List.pairwise_cons.2 ⟨hlater, hitems.increasing⟩

theorem spread_run (d : Delimiters) (s : Scanner) : s.Spread (s.run d).1 := by
  have houtcome := outcome_next? d s
  cases hnext : s.next? d with
  | mk item s' =>
      rw [hnext] at houtcome
      rcases item with _ | e | t
      · rw [run_of_none (congrArg Prod.fst hnext)]
        exact s.spread_nil
      · rw [run_of_error (congrArg Prod.fst hnext)]
        obtain ⟨hle, hlt, -⟩ := houtcome.startOf_bounds
        exact ⟨by simpa using ⟨hle, hlt⟩, List.pairwise_singleton _ _⟩
      · have hlt := next?_rest_lt hnext
        rw [run_of_next? hnext]
        exact .cons houtcome (spread_run d s')
  termination_by s.rest.length

/-- No more items are spread over a text than it has bytes. -/
theorem Spread.length_le {s : Scanner} {items : List Item} (h : s.Spread items) :
    items.length ≤ Text.byteLength s.rest := by
  have hnodup : (items.map startOf).Nodup := by
    rw [List.nodup_iff_pairwise_ne, List.pairwise_map]
    exact h.increasing.imp fun hlt => hlt.ne
  have hsubset : items.map startOf ⊆ List.range' s.offset (Text.byteLength s.rest) := by
    intro n hn
    obtain ⟨i, hi, rfl⟩ := List.mem_map.1 hn
    exact List.mem_range'_1.2 (h.within i hi)
  calc
    items.length = (items.map startOf).length := (List.length_map _).symm
    _ ≤ (List.range' s.offset (Text.byteLength s.rest)).length :=
      (hnodup.subperm hsubset).length_le
    _ = Text.byteLength s.rest := List.length_range'

/-! ### Call after call -/

/-- The place after a number of calls. -/
def placeFrom (d : Delimiters) (s : Scanner) (n : Nat) : Scanner := (fun s => (s.next? d).2)^[n] s

/-- What the call after a number of calls gives. -/
def itemFrom (d : Delimiters) (s : Scanner) (n : Nat) : Option Item := ((s.placeFrom d n).next? d).1

theorem placeFrom_succ (d : Delimiters) (s : Scanner) (n : Nat) :
    s.placeFrom d (n + 1) = ((s.placeFrom d n).next? d).2 :=
  Function.iterate_succ_apply' _ n s

theorem outcome_itemFrom (d : Delimiters) (s : Scanner) (n : Nat) :
    Outcome (s.placeFrom d n) (s.itemFrom d n) (s.placeFrom d (n + 1)) := by
  rw [itemFrom, placeFrom_succ]
  exact outcome_next? d _

theorem Finished.placeFrom_eq {s : Scanner} (h : s.Finished) (n : Nat) : s.placeFrom d n = s :=
  Function.iterate_fixed (congrArg Prod.snd h.next?_eq) n

theorem Finished.itemFrom_eq {s : Scanner} (h : s.Finished) (n : Nat) : s.itemFrom d n = none := by
  rw [itemFrom, h.placeFrom_eq, h.next?_eq]

/-- Calls give the items of the run one by one, and nothing behind them. -/
theorem itemFrom_eq_getElem? (d : Delimiters) (s : Scanner) (n : Nat) :
    s.itemFrom d n = (s.run d).1[n]? := by
  induction n generalizing s with
  | zero =>
      change (s.next? d).1 = _
      cases hnext : s.next? d with
      | mk item s' =>
          rcases item with _ | e | t
          · rw [run_of_none (congrArg Prod.fst hnext)]
            rfl
          · rw [run_of_error (congrArg Prod.fst hnext)]
            rfl
          · rw [run_of_next? hnext]
            rfl
  | succ n ih =>
      change (s.next? d).2.itemFrom d n = _
      have houtcome := outcome_next? d s
      cases hnext : s.next? d with
      | mk item s' =>
          rw [hnext] at houtcome
          rcases item with _ | e | t
          · rw [run_of_none (congrArg Prod.fst hnext), (houtcome.finished nofun).itemFrom_eq]
            rfl
          · rw [run_of_error (congrArg Prod.fst hnext), (houtcome.finished nofun).itemFrom_eq]
            rfl
          · rw [run_of_next? hnext, List.getElem?_cons_succ]
            exact ih s'

/-- Every place after some calls cuts the text where its offset says. -/
theorem exists_before (d : Delimiters) (text : List Char) (n : Nat) :
    ∃ before, text = before ++ ((start text).placeFrom d n).rest ∧
      ((start text).placeFrom d n).offset = Text.byteLength before := by
  induction n with
  | zero => exact ⟨[], rfl, rfl⟩
  | succ n ih =>
      obtain ⟨before, htext, hoffset⟩ := ih
      obtain ⟨passed, hrest, hpassed⟩ := (outcome_itemFrom d (start text) n).exists_passed
      refine ⟨before ++ passed, ?_, ?_⟩
      · rw [List.append_assoc, ← hrest]
        exact htext
      · rw [hpassed, hoffset, Text.byteLength_append]

/-- Calls from the start of a template go on with every token, give at most one item a byte, and
come to an end that they stay at. -/
structure Progress (m : Markers) (template : String) : Prop where
  /-- A token takes the scanner on by at least a byte. -/
  advances {n : Nat} {t : Token}
    (found : (start template.toList).itemFrom m.delimiters n = some (.ok t)) :
    ((start template.toList).placeFrom m.delimiters n).offset <
      ((start template.toList).placeFrom m.delimiters (n + 1)).offset
  /-- Every place stands between two characters of the template, or at one of its ends. -/
  boundary (n : Nat) : let place := (start template.toList).placeFrom m.delimiters n
    ∃ before, template.toList = before ++ place.rest ∧ place.offset = Text.byteLength before ∧
      place.offset ≤ Text.byteLength template.toList
  /-- After nothing or an error, nothing is given any more, and nothing changes. -/
  stays {n : Nat} (ended : ∀ t, (start template.toList).itemFrom m.delimiters n ≠ some (.ok t))
    (k : Nat) :
    (start template.toList).itemFrom m.delimiters (n + 1 + k) = none ∧
      (start template.toList).placeFrom m.delimiters (n + 1 + k) =
        (start template.toList).placeFrom m.delimiters (n + 1)
  /-- The calls give the items of the template, and then nothing. -/
  collects (n : Nat) :
    (start template.toList).itemFrom m.delimiters n = (scanItems m template)[n]?
  /-- Every item starts at a byte of its own. -/
  starts : (∀ i ∈ scanItems m template, startOf i < Text.byteLength template.toList) ∧
    (scanItems m template).Pairwise fun i j => startOf i < startOf j
  few : (scanItems m template).length ≤ Text.byteLength template.toList
  ends {n : Nat} (calls : Text.byteLength template.toList ≤ n) :
    (start template.toList).itemFrom m.delimiters n = none

/-- The scanner makes progress with every token and stays where it has ended, whatever its markers
are. So all items are collected after finitely many calls. -/
theorem progress (m : Markers) (template : String) : Progress m template := by
  have hspread := spread_run m.delimiters (start template.toList)
  have hfew : (scanItems m template).length ≤ Text.byteLength template.toList := hspread.length_le
  have hcollects (n : Nat) :
      (start template.toList).itemFrom m.delimiters n = (scanItems m template)[n]? :=
    itemFrom_eq_getElem? _ _ n
  constructor
  case advances =>
    intro n t found
    have houtcome := outcome_itemFrom m.delimiters (start template.toList) n
    rw [found] at houtcome
    exact houtcome.offset_lt
  case boundary =>
    intro n
    obtain ⟨before, htext, hoffset⟩ := exists_before m.delimiters template.toList n
    refine ⟨before, htext, hoffset, ?_⟩
    have hlength := congrArg Text.byteLength htext
    rw [Text.byteLength_append] at hlength
    omega
  case stays =>
    intro n ended k
    have hfinished := (outcome_itemFrom m.delimiters (start template.toList) n).finished ended
    have hplace : (start template.toList).placeFrom m.delimiters (n + 1 + k) =
        ((start template.toList).placeFrom m.delimiters (n + 1)).placeFrom m.delimiters k := by
      rw [Nat.add_comm (n + 1) k]
      exact Function.iterate_add_apply _ k (n + 1) _
    rw [itemFrom, hplace, hfinished.placeFrom_eq, hfinished.next?_eq]
    exact ⟨rfl, rfl⟩
  case collects => exact hcollects
  case starts =>
    refine ⟨fun i hi => ?_, hspread.increasing⟩
    simpa [start] using (hspread.within i hi).2
  case few => exact hfew
  case ends =>
    intro n calls
    rw [hcollects, List.getElem?_eq_none (hfew.trans calls)]

end Scanner

end BlockTemplate
