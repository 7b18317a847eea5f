import BlockTemplate.Proofs.Processor.BuiltinCall

/-!
# Wrapping a value in a text

The function `wrap` puts the plain text of a value into a format. A block prints its value in the
formatting of its processor, so wrapping a value and printing it agree only where the two texts of
the value do. They always agree in the standard formatting, and for values that are neither lists
nor dates.

Main statement: `wrap_inserts_plainText`.
-/

namespace BlockTemplate

/-- Different replacements give different texts. -/
theorem Text.replaceFirst_inj {c : Char} {cs : List Char} (h : c ∈ cs) {xs ys : List Char} :
    Text.replaceFirst c xs cs = Text.replaceFirst c ys cs ↔ xs = ys := by
  induction cs with
  | nil => simp at h
  | cons d cs ih =>
      simp only [Text.replaceFirst]
      split
      · exact List.append_left_inj cs
      · next hd =>
          have hmem : c ∈ cs := (List.mem_cons.1 h).resolve_left fun heq => hd heq.symm
          rw [List.cons_inj_right, ih hmem]

/-- Formatting matters to lists and dates alone. -/
theorem Value.text_eq_plainText {v : Value} (hlist : v.items? = none) (hdate : v.moment? = none)
    (f : Formatting) : v.text f = v.plainText := by
  cases v with
  | list items => simp [Value.items?] at hlist
  | date moment => simp [Value.moment?] at hdate
  | bool value => cases value <;> simp [plainText, text, chars]
  | null | integer | float | string | object => simp [plainText, text, chars]

namespace Builtin

/-- A value is put into a format that has a place for it. -/
theorem callWrap_string {v : Value} (hv : v.isNull = false) {format : String}
    (hplace : '@' ∈ format.toList) :
    callWrap v [.string format] =
      .ok (.ofChars (Text.replaceFirst '@' v.plainText format.toList)) := by
  have hformat : (Value.string format).plainText = format.toList := by
    simp [Value.plainText, Value.text, Value.chars]
  have hcontains : format.toList.contains '@' = true := List.contains_iff_mem.2 hplace
  rw [callWrap, Function.bind_two hv rfl]
  change (if (Value.string format).plainText.contains '@' = true then _ else _) = _
  rw [hformat, if_pos hcontains]
  rfl

end Builtin

namespace Processor

variable {σ : Type} {p : Processor (StateM σ)} {name : String} {e : Expr} {v : Value}
  {world world' : σ}

/-- A block that wraps its value prints the format around the plain text of the value. -/
theorem runFrom_evalBlock_wrap (hname : nameKey name = Builtin.wrap.name)
    (hfree : p.registered? Builtin.wrap.name = none)
    (hhead : (p.evalHead e).runFrom world = (.ok v, world')) (hv : v.isNull = false)
    {format : String} (hplace : '@' ∈ format.toList) :
    (p.evalBlock ⟨false, e, [.call name [.string format]]⟩).runFrom world =
      (.ok (Text.replaceFirst '@' v.plainText format.toList), world') := by
  have hanswer : Builtin.wrap.call p.present v [.string format] p.settings.formatting =
      .ok (.ofChars (Text.replaceFirst '@' v.plainText format.toList)) :=
    Builtin.callWrap_string hv hplace
  simp only [evalBlock_piped, evalArgs, evalHead, Eval.runFrom_bind, Eval.runFrom_pure, hhead,
    runFrom_call_builtin hname hfree, hanswer, Except.mapError, Value.text_ofChars]

end Processor

/-- Wrapping inserts the plain text of a value. That is what the block of the value alone prints in
the standard formatting, and always if the value is neither a list nor a date. -/
theorem wrap_inserts_plainText {σ : Type} {p : Processor (StateM σ)} {name : String}
    (hname : Processor.nameKey name = Builtin.wrap.name)
    (hfree : p.registered? Builtin.wrap.name = none) {e : Expr} {v : Value} {world world' : σ}
    (hhead : (p.evalHead e).runFrom world = (.ok v, world')) (hv : v.isNull = false)
    {format : String} (hplace : '@' ∈ format.toList) :
    let wrapped := (p.evalBlock ⟨false, e, [.call name [.string format]]⟩).runFrom world
    let printed := (p.evalBlock ⟨false, e, []⟩).runFrom world
    wrapped = (.ok (Text.replaceFirst '@' v.plainText format.toList), world') ∧
      printed = (.ok (v.text p.settings.formatting), world') ∧
      (wrapped =
          (.ok (Text.replaceFirst '@' (v.text p.settings.formatting) format.toList), world') ↔
        v.plainText = v.text p.settings.formatting) ∧
      (p.settings.formatting = .standard ∨ v.items? = none ∧ v.moment? = none →
        v.plainText = v.text p.settings.formatting) := by
  intro wrapped printed
  have hwrapped : wrapped = (.ok (Text.replaceFirst '@' v.plainText format.toList), world') :=
    Processor.runFrom_evalBlock_wrap hname hfree hhead hv hplace
  refine ⟨hwrapped, Processor.runFrom_evalBlock_head hhead, ?_, ?_⟩
  · rw [hwrapped, ← Text.replaceFirst_inj hplace]
    simp
  · rintro (hstandard | ⟨hlist, hdate⟩)
    · rw [hstandard]
      rfl
    · exact (Value.text_eq_plainText hlist hdate p.settings.formatting).symm

/-- A list that is wrapped under a separator of one's own. -/
theorem wrap_inserts_plainText_of_list :
    let p : Processor (StateM Unit) :=
      .new { Settings.standard with listSeparator := " / " } default
    let e : Expr := .call "list" [.string "a", .string "b"]
    let v : Value := .list [.string "a", .string "b"]
    Processor.nameKey "wrap" = Builtin.wrap.name ∧ p.registered? Builtin.wrap.name = none ∧
      (p.evalHead e).runFrom () = (.ok v, ()) ∧ v.isNull = false ∧ '@' ∈ "(@)".toList ∧
      (p.evalBlock ⟨false, e, [.call "wrap" [.string "(@)"]]⟩).runFrom () =
        (.ok "(a, b)".toList, ()) ∧
      (p.evalBlock ⟨false, e, []⟩).runFrom () = (.ok "a / b".toList, ()) := by
  intro p e v
  have hname : Processor.nameKey "wrap" = Builtin.wrap.name := by decide +kernel
  have hfree : p.registered? Builtin.wrap.name = none := rfl
  have hhead : (p.evalHead e).runFrom () = (.ok v, ()) := by cbv
  have hplace : '@' ∈ "(@)".toList := by decide
  obtain ⟨hwrapped, hprinted, -⟩ := wrap_inserts_plainText hname hfree hhead rfl hplace
  have hplain : Text.replaceFirst '@' v.plainText "(@)".toList = "(a, b)".toList := by
    decide +kernel
  have htext : v.text p.settings.formatting = "a / b".toList := by decide +kernel
  rw [hplain] at hwrapped
  rw [htext] at hprinted
  exact ⟨hname, hfree, hhead, rfl, hplace, hwrapped, hprinted⟩

/-- What is wrapped need not be what the same processor prints. -/
theorem wrapped_ne_printed :
    let p : Processor Id := .new { Settings.standard with listSeparator := " / " } default
    (p.process "\x7blist('a','b')\x7d").run = .ok "a / b" ∧
      (p.process "\x7blist('a','b')|wrap('(@)')\x7d").run = .ok "(a, b)" ∧
      String.ofList (Text.replaceFirst '@' "a / b".toList "(@)".toList) ≠ "(a, b)" := by
  exact ⟨by cbv, by cbv, by decide +kernel⟩

end BlockTemplate
