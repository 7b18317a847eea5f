import BlockTemplate.Proofs.Number.StrictInteger
import BlockTemplate.Proofs.Processor.BuiltinCall

/-!
# Sums and differences

The functions `add` and `sub` read both of their values as integers of 64 bits and calculate with
the exact numbers. A result that fits in 64 bits is given as it is, and any other one is an error,
so that nothing ever wraps around and a difference undoes a sum.

Main statement: `integerFilters_exact`.
-/

namespace BlockTemplate

open Number (FitsWord Spells strictInt? intText)

/-! ### Values as integers -/

/-- A value denotes the integer that its plain text spells, if 64 bits hold it. -/
structure Value.Denotes (v : Value) (n : Int) : Prop where
  spells : Spells v.plainText n
  fits : FitsWord n

theorem Value.denotes_iff {v : Value} {n : Int} :
    v.Denotes n ↔ (Builtin.integerOf? v).map Int64.toInt = some n := by
  rw [Builtin.integerOf?, Number.strictInt?_eq_some_iff]
  exact ⟨fun h => ⟨h.spells, h.fits⟩, fun h => ⟨h.1, h.2⟩⟩

theorem Value.denotes_of_integerOf? {v : Value} {w : Int64} (h : Builtin.integerOf? v = some w) :
    v.Denotes w.toInt := by
  rw [denotes_iff, h, Option.map_some]

theorem Value.Denotes.exists_integerOf? {v : Value} {n : Int} (h : v.Denotes n) :
    ∃ w, Builtin.integerOf? v = some w ∧ w.toInt = n :=
  Option.map_eq_some_iff.1 (denotes_iff.1 h)

theorem Value.not_denotes_iff {v : Value} :
    (∀ n, ¬v.Denotes n) ↔ Builtin.integerOf? v = none := by
  simp only [denotes_iff]
  cases Builtin.integerOf? v <;> simp

theorem Value.denotes_integer (w : Int64) : (integer w).Denotes w.toInt := by
  have htext : (integer w).plainText = intText w.toInt := by
    simp [plainText, text, chars]
  exact ⟨htext ▸ Number.spells_intText w.toInt, Number.fitsWord_toInt w⟩

theorem Value.Denotes.unique {v : Value} {m n : Int} (hm : v.Denotes m) (hn : v.Denotes n) :
    m = n := by
  rw [denotes_iff] at hm hn
  exact Option.some.inj (hm.symm.trans hn)

/-- The two values that fill the slots of a function: its input and its first argument, or its
first two arguments. -/
structure Function.Fills (input : Value) (args : List Value) (x y : Value) : Prop where
  slots : ∃ rest, slotValues input args = x :: y :: rest
  first : x.isNull = false
  second : y.isNull = false

theorem Function.Fills.bind_eq {input x y : Value} {args : List Value}
    (h : Fills input args x y) : bind 2 input args = .ok #v[x, y] := by
  obtain ⟨rest, hslots⟩ := h.slots
  simp [bind, hslots, h.first, h.second]

theorem Function.fills_piped {x y : Value} (hx : x.isNull = false) (hy : y.isNull = false)
    (rest : List Value) : Fills x (y :: rest) x y :=
  ⟨⟨rest, by simp [slotValues, hx]⟩, hx, hy⟩

/-! ### Calculations -/

namespace Builtin

/-- What a calculation with two values gives: the exact result if it fits in 64 bits, and otherwise
an error. The first value is looked at before the second one. -/
inductive Calculates (op : Int → Int → Int) (x y : Value) : Except FunctionError Value → Prop
  | exact {a b : Int} {c : Int64} (ha : x.Denotes a) (hb : y.Denotes b) (hc : c.toInt = op a b) :
      Calculates op x y (.ok (.integer c))
  | overflow {a b : Int} (ha : x.Denotes a) (hb : y.Denotes b) (hc : ¬FitsWord (op a b)) :
      Calculates op x y (.error (.failed "Integer overflow"))
  | first (ha : ∀ a, ¬x.Denotes a) : Calculates op x y (.error (.invalidArgument 0 "a number"))
  | second {a : Int} (ha : x.Denotes a) (hb : ∀ b, ¬y.Denotes b) :
      Calculates op x y (.error (.invalidArgument 1 "a number"))

theorem checked_toInt (c : Int64) : checked c.toInt = .ok (.integer c) := by
  rw [checked, Number.word?_toInt]

theorem checked_of_not_fitsWord {n : Int} (h : ¬FitsWord n) :
    checked n = .error (.failed "Integer overflow") := by
  rw [checked, Number.word?_of_not_fitsWord h]

section

variable {input x y : Value} {args : List Value}

theorem integers_eq (h : Function.Fills input args x y) :
    integers input args =
      match integerOf? x, integerOf? y with
      | some a, some b => .ok (a, b)
      | none, _ => .error (.invalidArgument 0 "a number")
      | some _, none => .error (.invalidArgument 1 "a number") := by
  rw [integers, h.bind_eq]
  rfl

/-- A calculation with the integers of two values. -/
def calculation (op : Int → Int → Int) (input : Value) (args : List Value) :
    Except FunctionError Value := do
  let (a, b) ← integers input args
  checked (op a.toInt b.toInt)

theorem calculates_calculation (op : Int → Int → Int) (h : Function.Fills input args x y) :
    Calculates op x y (calculation op input args) := by
  rw [calculation, integers_eq h]
  cases hx : integerOf? x with
  | none => exact .first (Value.not_denotes_iff.2 hx)
  | some a =>
      have ha : x.Denotes a.toInt := Value.denotes_of_integerOf? hx
      cases hy : integerOf? y with
      | none => exact .second ha (Value.not_denotes_iff.2 hy)
      | some b =>
          have hb : y.Denotes b.toInt := Value.denotes_of_integerOf? hy
          change Calculates op x y (checked (op a.toInt b.toInt))
          by_cases hfits : FitsWord (op a.toInt b.toInt)
          · obtain ⟨c, hc⟩ := hfits.exists_toInt
            rw [← hc, checked_toInt]
            exact .exact ha hb hc
          · rw [checked_of_not_fitsWord hfits]
            exact .overflow ha hb hfits

theorem Calculates.calculation_eq {op : Int → Int → Int} {r : Except FunctionError Value}
    (hr : Calculates op x y r) (h : Function.Fills input args x y) :
    calculation op input args = r := by
  rw [calculation, integers_eq h]
  cases hr with
  | exact ha hb hc =>
      obtain ⟨a, hx, rfl⟩ := ha.exists_integerOf?
      obtain ⟨b, hy, rfl⟩ := hb.exists_integerOf?
      rw [hx, hy]
      change checked (op a.toInt b.toInt) = _
      rw [← hc, checked_toInt]
  | overflow ha hb hc =>
      obtain ⟨a, hx, rfl⟩ := ha.exists_integerOf?
      obtain ⟨b, hy, rfl⟩ := hb.exists_integerOf?
      rw [hx, hy]
      exact checked_of_not_fitsWord hc
  | first ha =>
      rw [Value.not_denotes_iff.1 ha]
      rfl
  | second ha hb =>
      obtain ⟨a, hx, rfl⟩ := ha.exists_integerOf?
      rw [hx, Value.not_denotes_iff.1 hb]
      rfl

theorem calculation_eq_iff {op : Int → Int → Int} (h : Function.Fills input args x y)
    (r : Except FunctionError Value) :
    calculation op input args = r ↔ Calculates op x y r := by
  constructor
  · rintro rfl
    exact calculates_calculation op h
  · intro hr
    exact hr.calculation_eq h

end

/-- A sum that is given denotes a number from which the second value can be taken off. -/
theorem Calculates.undo {x y s : Value} {a : Int64} (hs : Calculates (· + ·) x y (.ok s))
    (ha : x.Denotes a.toInt) : Calculates (· - ·) s y (.ok (.integer a)) := by
  cases hs with
  | exact ha' hb hc =>
      refine .exact (Value.denotes_integer _) hb ?_
      rw [hc, ha'.unique ha]
      exact (Int.add_sub_cancel _ _).symm

end Builtin

/-- The integers are just the texts of a sign or none and of decimal digits, with any zeros in
front, whose exact value fits in 64 bits; the decimal text of every such integer is read as it. On
two values that fill its slots, a sum or difference is the exact one if it fits in 64 bits and an
overflow otherwise, and a value that is no integer is named, the first one before the second. So a
difference takes back what a sum has added. -/
theorem integerFilters_exact :
    (∀ (cs : List Char) (n : Int),
      (strictInt? cs).map Int64.toInt = some n ↔ Spells cs n ∧ FitsWord n) ∧
    (∀ w : Int64, strictInt? (intText w.toInt) = some w) ∧
    ∀ (present : Calendar.Moment) (f : Formatting) (input : Value) (args : List Value)
      (x y : Value), Function.Fills input args x y →
        (∀ r, Builtin.add.call present input args f = r ↔ Builtin.Calculates (· + ·) x y r) ∧
        (∀ r, Builtin.subtract.call present input args f = r ↔
          Builtin.Calculates (· - ·) x y r) ∧
        ∀ (s : Value) (a : Int64), Builtin.add.call present input args f = .ok s →
          x.Denotes a.toInt → ∀ input' args', Function.Fills input' args' s y →
            Builtin.subtract.call present input' args' f = .ok (.integer a) := by
  refine ⟨fun _ _ => Number.strictInt?_eq_some_iff, Number.strictInt?_intText, ?_⟩
  intro present f input args x y h
  have hadd : ∀ r, Builtin.add.call present input args f = r ↔
      Builtin.Calculates (· + ·) x y r := Builtin.calculation_eq_iff h
  refine ⟨hadd, Builtin.calculation_eq_iff h, fun s a hs ha input' args' h' => ?_⟩
  have hsum : Builtin.Calculates (· + ·) x y (.ok s) := (hadd _).1 hs
  exact (hsum.undo ha).calculation_eq h'

/-- The least integer of 64 bits, which has no counterpart among the positive ones: it can be added
to a text with a sign and zeros in front, but not taken off. -/
theorem integerFilters_exact_at_least_word :
    let x : Value := .string "+0009"
    let y : Value := .integer Int64.minValue
    let s : Value := .integer (-9223372036854775799)
    Function.Fills .null [x, y] x y ∧ Function.Fills s [y] s y ∧
      Builtin.add.call default .null [x, y] .standard = .ok s ∧
      Builtin.subtract.call default .null [x, y] .standard = .error (.failed "Integer overflow") ∧
      x.Denotes (Int64.toInt 9) ∧
      Builtin.subtract.call default s [y] .standard = .ok (.integer 9) := by
  intro x y s
  have h : Function.Fills .null [x, y] x y := ⟨⟨[], rfl⟩, rfl, rfl⟩
  have h' : Function.Fills s [y] s y := Function.fills_piped rfl rfl []
  obtain ⟨hread, -, hcalls⟩ := integerFilters_exact
  have hx : x.Denotes 9 := by
    obtain ⟨hspells, hfits⟩ := (hread "+0009".toList 9).1 (by decide +kernel)
    refine ⟨?_, hfits⟩
    simpa [x, Value.plainText, Value.text, Value.chars] using hspells
  have hy : y.Denotes (-2 ^ 63) := Value.denotes_integer Int64.minValue
  obtain ⟨hadd, hsubtract, hundo⟩ := hcalls default .standard .null [x, y] x y h
  have hsum : Builtin.add.call default .null [x, y] .standard = .ok s :=
    (hadd _).2 (.exact hx hy (by decide))
  have hdifference : ¬FitsWord (9 - -2 ^ 63) := by
    rintro ⟨-, hle⟩
    omega
  exact ⟨h, h', hsum, (hsubtract _).2 (.overflow hx hy hdifference), hx,
    hundo s 9 hsum hx s [y] h'⟩

end BlockTemplate
