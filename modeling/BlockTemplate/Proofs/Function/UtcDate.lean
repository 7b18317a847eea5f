import BlockTemplate.Proofs.Calendar.UniversalTime
import BlockTemplate.Proofs.Processor.BuiltinCall
import BlockTemplate.Proofs.Syntax.PrintedBlock

/-!
# Dates in universal time

The function `utc` gives the date at offset zero that denotes the same instant. So dates that differ
in the offset alone are one date after it, and a template that puts a date through `utc` before
`format_date` prints the same text for all of them.

Main statement: `utc_forgets_offset`.
-/

namespace BlockTemplate

open Calendar (Moment)

/-! ### Calls -/

namespace Builtin

variable {input : Value} {args rest : List Value} {m : Moment}

/-- The first value that fills a slot is the date that counts. -/
theorem callUtc_date (h : Function.slotValues input args = .date m :: rest) :
    callUtc input args = .ok (.date m.utc) := by
  have hbind : Function.bind 1 input args = .ok #v[.date m] := by
    simp [Function.bind, h, Value.isNull]
  rw [callUtc, hbind]
  rfl

theorem callFormatDate_date {pattern : String}
    (h : Function.bind 2 input args = .ok #v[.date m, .string pattern]) :
    callFormatDate input args = .ok (.ofChars (m.format pattern.toList)) := by
  rw [callFormatDate, h]
  rfl

end Builtin

/-! ### Sources -/

/-- The block that writes a date in universal time, by a pattern. -/
def utcBlock (date pattern : Expr) : Block :=
  ⟨false, date, [.ident "utc", .call "format_date" [pattern]]⟩

/-- The template of that block. -/
def utcSource (date pattern : Expr) : String :=
  "\x7b" ++ date.text ++ "|utc|format_date(" ++ pattern.text ++ ")\x7d"

theorem parse_utcSource {markers : Markers}
    (hmarkers : markers.delimiters = Markers.standard.delimiters) {date pattern : Expr}
    (hdate : date.Spellable) (hpattern : pattern.Spellable) : ∃ span,
    Template.parse markers (utcSource date pattern) =
      .ok [⟨.block (utcBlock date pattern), span⟩] := by
  have hutc : (Expr.ident "utc").Spellable := .ident Builtin.utc.isName_name
  have hformat : (Expr.call "format_date" [pattern]).Spellable := by
    apply Expr.Spellable.call
    · exact Builtin.formatDate.isName_name
    · simpa using hpattern
  refine ⟨_, parse_spelled hmarkers Markers.neutral_standard ?_ ?_⟩
  · simpa [Block.Spellable, Block.chain, utcBlock] using ⟨hdate, hutc, hformat⟩
  · simp [utcSource, utcBlock, Block.spell, Expr.spellFilters, Expr.spell, Expr.spellArgs,
      Expr.spellMoreArgs, Expr.text, Markers.opening_standard, Markers.closing_standard]

/-! ### Evaluation -/

namespace Processor

variable {σ : Type} {p : Processor (StateM σ)} {m : Moment} {world world' : σ}

theorem runFrom_evalFilter_utc (hutc : p.registered? "utc" = none) (world : σ) :
    (p.evalFilter (.date m) (.ident "utc")).runFrom world = (.ok (.date m.utc), world) := by
  have hname : nameKey "utc" = Builtin.utc.name := Builtin.utc.nameKey_name
  have hanswer : Builtin.utc.call p.present (.date m) [] p.settings.formatting =
      .ok (.date m.utc) :=
    Builtin.callUtc_date rfl
  rw [evalFilter, runFrom_call_builtin hname hutc, hanswer]
  rfl

theorem runFrom_evalFilter_formatDate (hformat : p.registered? "format_date" = none)
    {pattern : Expr} {text : String}
    (hpattern : (p.evalHead pattern).runFrom world = (.ok (.string text), world')) :
    (p.evalFilter (.date m) (.call "format_date" [pattern])).runFrom world =
      (.ok (.ofChars (m.format text.toList)), world') := by
  have hname : nameKey "format_date" = Builtin.formatDate.name := Builtin.formatDate.nameKey_name
  have hanswer : Builtin.formatDate.call p.present (.date m) [.string text] p.settings.formatting =
      .ok (.ofChars (m.format text.toList)) :=
    Builtin.callFormatDate_date (Function.bind_two rfl rfl)
  simp only [evalFilter, evalArgs, Eval.runFrom_bind, Eval.runFrom_pure, hpattern,
    runFrom_call_builtin hname hformat, hanswer, Except.mapError]

/-- A date that goes through `utc` is written as it is in universal time. -/
theorem runFrom_evalBlock_utcBlock (hutc : p.registered? "utc" = none)
    (hformat : p.registered? "format_date" = none) {date pattern : Expr} {text : String}
    {world'' : σ} (hdate : (p.evalHead date).runFrom world = (.ok (.date m), world'))
    (hpattern : (p.evalHead pattern).runFrom world' = (.ok (.string text), world'')) :
    (p.evalBlock (utcBlock date pattern)).runFrom world =
      (.ok (m.utc.format text.toList), world'') := by
  simp only [evalBlock, utcBlock, evalFilters, Bool.false_and, Bool.false_eq_true, if_false,
    Eval.runFrom_bind, Eval.runFrom_pure, hdate, runFrom_evalFilter_utc hutc,
    runFrom_evalFilter_formatDate hformat hpattern, Value.text_ofChars]

end Processor

/-! ### One date for an instant -/

/-- The date `u` is what `utc` makes of the date `m`. -/
structure UtcGives (m u : Moment) : Prop where
  /-- It is the answer wherever `m` fills the slot, flowing in or passed as an argument. -/
  answer : ∀ (present : Moment) (input : Value) (args rest : List Value) (f : Formatting),
    Function.slotValues input args = .date m :: rest →
      Builtin.utc.call present input args f = .ok (.date u)
  sameInstant : u.SameInstant m
  offset : u.offset = 0
  fields : m.OnClock → u.LessOffset m
  /-- It is what a template writes that formats `m` after `utc`, where neither function is
  replaced. Any expressions may stand for the date and for the pattern. -/
  written : ∀ {σ : Type} (p : Processor (StateM σ)),
    p.settings.markers.delimiters = Markers.standard.delimiters →
    p.registered? "utc" = none → p.registered? "format_date" = none →
    ∀ (date pattern : Expr) (text : String) (world world' world'' : σ),
      date.Spellable → pattern.Spellable →
      (p.evalHead date).runFrom world = (.ok (.date m), world') →
      (p.evalHead pattern).runFrom world' = (.ok (.string text), world'') →
      ((p.process (utcSource date pattern)).run world).run =
        (.ok (String.ofList (u.format text.toList)), world'')

theorem utcGives_utc (m : Moment) : UtcGives m m.utc where
  answer _ _ _ _ _ h := Builtin.callUtc_date h
  sameInstant := m.sameInstant_utc
  offset := rfl
  fields := Moment.lessOffset_utc
  written p hmarkers hutc hformat date pattern text world world' world'' hdate hpattern hevalDate
      hevalPattern := by
    obtain ⟨span, hparse⟩ := parse_utcSource hmarkers hdate hpattern
    exact Processor.run_process_block hparse
      (Processor.runFrom_evalBlock_utcBlock hutc hformat hevalDate hevalPattern)

/-- The function `utc` makes one date of all dates of an instant, whatever their offsets, and leaves
that date as it is. So templates that format two of them after `utc` write the same. -/
theorem utc_forgets_offset {m k : Moment} (h : m.SameInstant k) :
    UtcGives m m.utc ∧ UtcGives k m.utc ∧ UtcGives m.utc m.utc := by
  have hother := utcGives_utc k
  have hagain := utcGives_utc m.utc
  rw [← h.utc_eq] at hother
  rw [Moment.utc_utc] at hagain
  exact ⟨utcGives_utc m, hother, hagain⟩

/-- A leap second before midnight of a leap day, in an offset where March has begun and in one where
it is still afternoon. -/
theorem utc_forgets_offset_leap_second :
    let m : Moment := ⟨⟨2024, 3, 1⟩, 0, 29, 59, 1500000000, 3600⟩
    let k : Moment := ⟨⟨2024, 2, 29⟩, 17, 59, 59, 1500000000, -19800⟩
    let u : Moment := ⟨⟨2024, 2, 29⟩, 23, 29, 59, 1500000000, 0⟩
    let answers : Resolver (StateM Nat) := fun name _ => modifyGet fun n =>
      (.ok (some (.date (if name = "d" then m else k))), n + 1)
    let p : Processor (StateM Nat) := Processor.addResolver (.new .standard default) answers
    let pattern : Expr := .string "YYYY-MM-DD HH:mm:ss"
    m.SameInstant k ∧ m.OnClock ∧ UtcGives m u ∧ UtcGives k u ∧ UtcGives u u ∧ u.LessOffset m ∧
      utcSource (.ident "d") pattern = "\x7bd|utc|format_date(\"YYYY-MM-DD HH:mm:ss\")\x7d" ∧
      ((p.process (utcSource (.ident "d") pattern)).run 7).run =
        (.ok "2024-02-29 23:29:60", 8) ∧
      ((p.process (utcSource (.ident "e") pattern)).run 7).run =
        (.ok "2024-02-29 23:29:60", 8) := by
  intro m k u answers p pattern
  have hsame : m.SameInstant k := ⟨by decide, rfl⟩
  have hutc : m.utc = u := by decide
  obtain ⟨hm, hk, hu⟩ := utc_forgets_offset hsame
  rw [hutc] at hm hk hu
  have hclock : m.OnClock := Moment.onClock_of_isValid (by decide)
  have htext : String.ofList (u.format "YYYY-MM-DD HH:mm:ss".toList) = "2024-02-29 23:29:60" := by
    decide +kernel
  have hd := hm.written p rfl rfl rfl (.ident "d") pattern _ 7 8 8 (.ident (by decide))
    (.string _) (by cbv) rfl
  have he := hk.written p rfl rfl rfl (.ident "e") pattern _ 7 8 8 (.ident (by decide))
    (.string _) (by cbv) rfl
  rw [htext] at hd he
  exact ⟨hsame, hclock, hm, hk, hu, hm.fields hclock, by decide +kernel, hd, he⟩

end BlockTemplate
