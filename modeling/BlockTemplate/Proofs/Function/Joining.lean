import BlockTemplate.Proofs.Processor.BuiltinCall
import BlockTemplate.Proofs.Syntax.PrintedBlock

/-!
# Joining the items of a list

The function `list` makes a list of its arguments and `join` puts a separator between the items of
a list. Both undo a splitting: strings that are written as the arguments of `list` come out joined,
by the separator that `join` is called with, or by that of the processor where the list itself is
printed.

## Implementation notes

The separator is also used for the lists among the items. Which separator that is gets decided once,
where the text of the outermost list is asked for, so one equation about the text of a list serves
`join` and printing alike (`Value.ofList_itemChars`).

Main statement: `join_inverts_splitting`.
-/

namespace BlockTemplate

/-! ### The text of a list -/

namespace Value

theorem itemChars_eq_intercalate (separator pattern : List Char) (items : List Value) :
    itemChars separator pattern items =
      separator.intercalate (items.map (chars separator pattern)) := by
  induction items with
  | nil => rfl
  | cons value items ih =>
      cases items with
      | nil => simp [itemChars]
      | cons next items =>
          rw [itemChars, ih]
          · simp [List.intercalate_cons_cons]
          · simp

/-- The text of a list is the texts of its items with the separator between them. -/
theorem ofList_itemChars (separator pattern : String) (items : List Value) :
    String.ofList (itemChars separator.toList pattern.toList items) =
      separator.intercalate (items.map (format ⟨separator, pattern⟩)) := by
  rw [itemChars_eq_intercalate, ← String.toList_inj, String.toList_ofList,
    String.toList_intercalate, List.map_map]
  congr 2
  funext v
  exact String.toList_ofList.symm

end Value

namespace Builtin

/-- A list is joined item by item, in the date pattern of the processor. -/
theorem callJoin_list {input : Value} {args items : List Value} {separator : String}
    (h : Function.bind 2 input args = .ok #v[.list items, .string separator]) (f : Formatting) :
    callJoin input args f =
      .ok (.string (separator.intercalate
        (items.map (Value.format ⟨separator, f.dateFormat⟩)))) := by
  rw [callJoin, h, ← Value.ofList_itemChars]
  rfl

end Builtin

/-! ### Sources -/

namespace Expr

/-- Arguments are spelled with a comma and a space between them. -/
theorem spellArgs_eq_intercalate (es : List Expr) :
    spellArgs es = [',', ' '].intercalate (es.map spell) := by
  induction es with
  | nil => rfl
  | cons e es ih =>
      cases es with
      | nil => simp [spellArgs, spellMoreArgs]
      | cons next es =>
          rw [spellArgs, spellMoreArgs]
          simp only [spellArgs] at ih
          rw [ih]
          simp [List.intercalate_cons_cons]

end Expr

/-- A call of `list` with strings as they are printed. -/
def listCall (strings : List String) : String :=
  "list(" ++ ", ".intercalate (strings.map fun s => (Expr.string s).text) ++ ")"

/-- The template that prints a list of strings. -/
def listSource (strings : List String) : String := "\x7b" ++ listCall strings ++ "\x7d"

/-- The template that joins a list of strings. -/
def joinSource (strings : List String) (separator : String) : String :=
  "\x7b" ++ listCall strings ++ "|join(" ++ (Expr.string separator).text ++ ")\x7d"

/-- The expression that a call of `list` with strings spells. -/
def listExpr (strings : List String) : Expr := .call "list" (strings.map .string)

theorem toList_listCall (strings : List String) :
    (listCall strings).toList = (listExpr strings).spell := by
  have hargs : (strings.map fun s => (Expr.string s).text).map String.toList =
      (strings.map Expr.string).map Expr.spell := by
    simp [Expr.text]
  rw [listCall, listExpr, Expr.spell, Expr.spellArgs_eq_intercalate, ← hargs]
  simp [String.toList_intercalate]

theorem spellable_listExpr (strings : List String) : (listExpr strings).Spellable := by
  apply Expr.Spellable.call
  · exact Builtin.list.isName_name
  · intro e he
    obtain ⟨s, -, rfl⟩ := List.mem_map.1 he
    exact .string s

section

variable {markers : Markers} (hmarkers : markers.delimiters = Markers.standard.delimiters)
include hmarkers

theorem parse_listSource (strings : List String) : ∃ span,
    Template.parse markers (listSource strings) =
      .ok [⟨.block ⟨false, listExpr strings, []⟩, span⟩] := by
  refine ⟨_, parse_spelled hmarkers Markers.neutral_standard ?_ ?_⟩
  · simpa [Block.Spellable, Block.chain] using spellable_listExpr strings
  · simp [listSource, toList_listCall, Block.spell, Expr.spellFilters, Markers.opening_standard,
      Markers.closing_standard]

theorem parse_joinSource (strings : List String) (separator : String) : ∃ span,
    Template.parse markers (joinSource strings separator) =
      .ok [⟨.block ⟨false, listExpr strings, [.call "join" [.string separator]]⟩, span⟩] := by
  have hjoin : (Expr.call "join" [.string separator]).Spellable := by
    apply Expr.Spellable.call
    · exact Builtin.join.isName_name
    · simpa using Expr.Spellable.string separator
  refine ⟨_, parse_spelled hmarkers Markers.neutral_standard ?_ ?_⟩
  · simpa [Block.Spellable, Block.chain] using ⟨spellable_listExpr strings, hjoin⟩
  · simp [joinSource, toList_listCall, Block.spell, Expr.spellFilters, Expr.spell, Expr.spellArgs,
      Expr.spellMoreArgs, Expr.text, Markers.opening_standard, Markers.closing_standard]

end

/-! ### Evaluation -/

namespace Processor

variable {m : Type → Type} [Monad m] [LawfulMonad m] {p : Processor m}

theorem evalArgs_strings (p : Processor m) (strings : List String) :
    p.evalArgs (strings.map .string) = pure (strings.map Value.string) := by
  induction strings with
  | nil => simp [evalArgs]
  | cons s strings ih => simp [evalArgs, evalHead, ih]

theorem evalHead_listExpr (hlist : p.registered? "list" = none) (strings : List String) :
    p.evalHead (listExpr strings) = pure (.list (strings.map .string)) := by
  have hname : nameKey "list" = Builtin.list.name := Builtin.list.nameKey_name
  rw [listExpr, evalHead, evalArgs_strings, pure_bind, call_builtin hname hlist]
  rfl

theorem call_join (hjoin : p.registered? "join" = none) {input : Value} {args items : List Value}
    {separator : String}
    (h : Function.bind 2 input args = .ok #v[.list items, .string separator]) :
    p.call "join" input args =
      pure (.string (separator.intercalate
        (items.map (Value.format ⟨separator, p.settings.dateFormat⟩)))) := by
  have hname : nameKey "join" = Builtin.join.name := Builtin.join.nameKey_name
  rw [call_builtin hname hjoin, Builtin.call, Builtin.callJoin_list h]
  rfl

theorem evalFilter_join (hjoin : p.registered? "join" = none) (items : List Value)
    (separator : String) :
    p.evalFilter (.list items) (.call "join" [.string separator]) =
      pure (.string (separator.intercalate
        (items.map (Value.format ⟨separator, p.settings.dateFormat⟩)))) := by
  have hargs : p.evalArgs [.string separator] = pure [.string separator] :=
    evalArgs_strings p [separator]
  rw [evalFilter, hargs, pure_bind, call_join hjoin (Function.bind_two rfl rfl)]

end Processor

theorem Value.map_format_string (f : Formatting) (strings : List String) :
    (strings.map string).map (format f) = strings := by
  induction strings with
  | nil => rfl
  | cons s strings ih => simp [ih, format, text, chars]

/-- Where neither function is replaced, strings that are written as the arguments of `list` come out
joined: by the separator of `join`, or of the processor. Any list is joined like that, each item in
the text that it has under the same separator and in the date pattern of the processor. -/
theorem join_inverts_splitting {m : Type → Type} [Monad m] [LawfulMonad m] {p : Processor m}
    (hmarkers : p.settings.markers.delimiters = Markers.standard.delimiters)
    (hlist : p.registered? "list" = none) (hjoin : p.registered? "join" = none) :
    (∀ strings separator,
      p.process (joinSource strings separator) = pure (.ok (separator.intercalate strings))) ∧
    (∀ strings, p.process (listSource strings) =
      pure (.ok (p.settings.listSeparator.intercalate strings))) ∧
    ∀ items separator,
      let joined := Value.string (separator.intercalate
        (items.map (Value.format ⟨separator, p.settings.dateFormat⟩)))
      p.evalFilter (.list items) (.call "join" [.string separator]) = pure joined ∧
        p.call "join" .null [.list items, .string separator] = pure joined := by
  refine ⟨fun strings separator => ?_, fun strings => ?_, fun items separator => ⟨?_, ?_⟩⟩
  · obtain ⟨span, hparse⟩ := parse_joinSource hmarkers strings separator
    have hblock : p.evalBlock ⟨false, listExpr strings, [.call "join" [.string separator]]⟩ =
        pure (separator.intercalate strings).toList := by
      simp only [Processor.evalBlock, Processor.evalFilters, Processor.evalHead_listExpr hlist,
        Processor.evalFilter_join hjoin, Value.map_format_string, pure_bind]
      rfl
    rw [Processor.process_block_of_pure hparse hblock, String.ofList_toList]
  · obtain ⟨span, hparse⟩ := parse_listSource hmarkers strings
    have hblock : p.evalBlock ⟨false, listExpr strings, []⟩ =
        pure (p.settings.listSeparator.intercalate strings).toList := by
      have htext := Value.ofList_itemChars p.settings.listSeparator p.settings.dateFormat
        (strings.map .string)
      rw [Value.map_format_string] at htext
      simp only [Processor.evalBlock, Processor.evalFilters, Processor.evalHead_listExpr hlist,
        pure_bind]
      rw [← htext, String.toList_ofList]
      rfl
    rw [Processor.process_block_of_pure hparse hblock, String.ofList_toList]
  · exact Processor.evalFilter_join hjoin items separator
  · exact Processor.call_join hjoin rfl

/-- Strings with quotes, markers and backslashes, no strings at all, and a list that holds a list
with a date, for a processor with another separator and another date pattern. -/
theorem join_inverts_splitting_nested :
    let p : Processor Id :=
      .new { Settings.standard with listSeparator := " / ", dateFormat := "YYYY-MM" } default
    let moment : Calendar.Moment := ⟨⟨2024, 5, 1⟩, 12, 30, 0, 0, 0⟩
    let items : List Value := [.string "a", .list [.date moment, .null],
      .object [("k", .list [.bool true])]]
    p.settings.markers.delimiters = Markers.standard.delimiters ∧
      p.registered? "list" = none ∧ p.registered? "join" = none ∧
      joinSource ["a\"|", "\x7d\\é", ""] "\n" =
        "\x7blist(\"a\\\"|\", \"\x7d\\\\é\", \"\")|join(\"\\n\")\x7d" ∧
      p.process (joinSource ["a\"|", "\x7d\\é", ""] "\n") = pure (.ok "a\"|\n\x7d\\é\n") ∧
      p.process (listSource ["a\"|", ""]) = pure (.ok "a\"| / ") ∧
      p.process (listSource []) = pure (.ok "") ∧
      p.evalFilter (.list items) (.call "join" [.string "+"]) =
        pure (.string "a+2024-05++\x7b\"k\":[true]\x7d") := by
  intro p moment items
  obtain ⟨hjoined, hprinted, hitems⟩ := join_inverts_splitting (p := p) rfl rfl rfl
  have htext : "+".intercalate (items.map (Value.format ⟨"+", p.settings.dateFormat⟩)) =
      "a+2024-05++\x7b\"k\":[true]\x7d" := by
    decide +kernel
  have hjoin := (hitems items "+").1
  rw [htext] at hjoin
  exact ⟨rfl, rfl, rfl, by decide +kernel, hjoined _ _, hprinted _, hprinted _, hjoin⟩

end BlockTemplate
