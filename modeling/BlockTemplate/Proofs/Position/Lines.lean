import BlockTemplate.Proofs.Position.Order
import BlockTemplate.Proofs.Text.ByteOrder

/-!
# Positions and the lines of a source

The position of an offset is what its bytes say: the line is the number of line feeds before the
offset, and the column the number of bytes after the last of them. So positions grow with the offset
up to the end of the source, stay there behind it, and give the offset back.

## Implementation notes

A source is a text, and its positions are counted character by character. No byte of a character is
a line feed unless the character is one (`lineFeed_notMem_utf8EncodeChar`), so they might as well be
counted byte by byte (`Position.ofOffset_eq_afterBytes`), and all that follows is about bytes.

Main statement: `Position.faithful_ofOffset`.
-/

namespace BlockTemplate

/-! ### Line feeds in characters -/

namespace Text

/-- The byte of a line feed. -/
def lineFeed : UInt8 := 10

theorem utf8EncodeChar_newline : String.utf8EncodeChar '\n' = [lineFeed] := by decide

theorem lineFeed_notMem_utf8EncodeChar {c : Char} (hc : c ≠ '\n') :
    lineFeed ∉ String.utf8EncodeChar c := by
  have hval : c.val.toNat ≠ 10 := by
    intro h
    exact hc (Char.ext (UInt32.toNat_inj.1 h))
  have hbyte {n : Nat} (hn : n < 256) (h : n ≠ 10) : lineFeed ≠ UInt8.ofNat n := by
    intro heq
    have hvalue := congrArg UInt8.toNat heq
    rw [UInt8.toNat_ofNat', Nat.mod_eq_of_lt hn] at hvalue
    exact h hvalue.symm
  simp only [String.utf8EncodeChar]
  generalize c.val.toNat = m at hval
  split_ifs <;> simp only [List.mem_cons, List.not_mem_nil, or_false, not_or]
  · exact hbyte (by omega) hval
  · refine ⟨hbyte ?_ ?_, hbyte ?_ ?_⟩ <;> omega
  · refine ⟨hbyte ?_ ?_, hbyte ?_ ?_, hbyte ?_ ?_⟩ <;> omega
  · refine ⟨hbyte ?_ ?_, hbyte ?_ ?_, hbyte ?_ ?_, hbyte ?_ ?_⟩ <;> omega

theorem length_utf8 (s : String) : (utf8 s).length = byteLength s.toList := by
  rw [utf8_eq_flatMap]
  induction s.toList with
  | nil => rfl
  | cons c cs ih =>
      rw [List.flatMap_cons, List.length_append, ih, String.length_utf8EncodeChar, byteLength_cons]

/-! ### Lines of bytes -/

/-- Bytes cut at the start of their last line. -/
structure LastLine (bytes earlier last : List UInt8) : Prop where
  split : bytes = earlier ++ last
  /-- The line is the first one, or a line feed stands before it. -/
  opens : earlier = [] ∨ earlier.getLast? = some lineFeed
  unbroken : lineFeed ∉ last

/-- The offset of the first byte of a line; lines are counted from zero. -/
def startOfLine : Nat → List UInt8 → Nat
  | 0, _ => 0
  | _ + 1, [] => 0
  | n + 1, b :: bytes => 1 + startOfLine (if b = lineFeed then n else n + 1) bytes

/-- The line that starts behind a line feed has as many line feeds before it as its number says. -/
theorem startOfLine_count (before after : List UInt8) :
    startOfLine (before.count lineFeed + 1) (before ++ lineFeed :: after) = before.length + 1 := by
  induction before with
  | nil => simp [startOfLine]
  | cons b before ih =>
      by_cases hb : b = lineFeed
      · simp [startOfLine, hb, ih, Nat.add_comm]
      · simp [startOfLine, hb, ih, Nat.add_comm]

theorem LastLine.startOfLine_eq {bytes earlier last : List UInt8} (h : LastLine bytes earlier last)
    (after : List UInt8) :
    startOfLine (bytes.count lineFeed) (bytes ++ after) = earlier.length := by
  have hcount : bytes.count lineFeed = earlier.count lineFeed := by
    rw [h.split, List.count_append, List.count_eq_zero_of_not_mem h.unbroken, Nat.add_zero]
  rw [hcount, h.split, List.append_assoc]
  rcases h.opens with rfl | hlast
  · rw [List.count_nil, startOfLine, List.length_nil]
  · obtain ⟨before, rfl⟩ := List.getLast?_eq_some_iff.1 hlast
    have hstart := startOfLine_count before (last ++ after)
    simpa using hstart

end Text

open Text (lineFeed LastLine startOfLine utf8)

namespace Position

theorem lt_def {p q : Position} :
    p < q ↔ p.line < q.line ∨ p.line = q.line ∧ p.column < q.column := by
  rw [lt_iff_le_not_ge, le_def, le_def]
  omega

/-! ### Counting byte by byte -/

/-- Goes on by one byte. -/
def passByte (p : Position) (b : UInt8) : Position :=
  if b = lineFeed then ⟨p.line + 1, 0⟩ else ⟨p.line, p.column + 1⟩

/-- The position behind some bytes from the start of a source. -/
def afterBytes (bytes : List UInt8) : Position := bytes.foldl passByte ⟨0, 0⟩

theorem lt_passByte (p : Position) (b : UInt8) : p < p.passByte b := by
  rw [lt_def, passByte]
  split
  · exact Or.inl (Nat.lt_succ_self _)
  · exact Or.inr ⟨rfl, Nat.lt_succ_self _⟩

theorem lt_foldl_passByte (p : Position) {bytes : List UInt8} (h : bytes ≠ []) :
    p < bytes.foldl passByte p := by
  induction bytes generalizing p with
  | nil => exact absurd rfl h
  | cons b bytes ih =>
      rw [List.foldl_cons]
      by_cases hrest : bytes = []
      · subst hrest
        exact lt_passByte p b
      · calc
          p < p.passByte b := lt_passByte p b
          _ < bytes.foldl passByte (p.passByte b) := ih _ hrest

theorem foldl_passByte_of_notMem (p : Position) {bytes : List UInt8} (h : lineFeed ∉ bytes) :
    bytes.foldl passByte p = ⟨p.line, p.column + bytes.length⟩ := by
  induction bytes generalizing p with
  | nil => rfl
  | cons b bytes ih =>
      obtain ⟨hb, hrest⟩ := not_or.1 (mt List.mem_cons.2 h)
      have hpass : p.passByte b = ⟨p.line, p.column + 1⟩ := if_neg (Ne.symm hb)
      rw [List.foldl_cons, hpass, ih _ hrest, List.length_cons]
      simp only [Position.mk.injEq, true_and]
      omega

/-- Going on character by character comes to the same place as going on byte by byte. -/
theorem advance_eq_foldl (p : Position) (n : Nat) (cs : List Char) :
    p.advance n cs = ((cs.flatMap String.utf8EncodeChar).take n).foldl passByte p := by
  induction cs generalizing p n with
  | nil => rw [advance, List.flatMap_nil, List.take_nil, List.foldl_nil]
  | cons c cs ih =>
      have hlength : (String.utf8EncodeChar c).length = c.utf8Size := String.length_utf8EncodeChar c
      rw [advance, List.flatMap_cons, List.take_append, hlength, List.foldl_append, ← ih]
      split
      · next hn =>
          subst hn
          rw [List.take_zero, List.foldl_nil, Nat.zero_sub]
          cases cs <;> simp [advance]
      split
      · next hn hinside =>
          -- a character of more than one byte is no line feed
          have hc : c ≠ '\n' := by
            rintro rfl
            have hone : '\n'.utf8Size = 1 := rfl
            omega
          have hpart : lineFeed ∉ (String.utf8EncodeChar c).take n := fun hmem =>
            Text.lineFeed_notMem_utf8EncodeChar hc (List.mem_of_mem_take hmem)
          rw [foldl_passByte_of_notMem p hpart, List.length_take, hlength,
            Nat.min_eq_left hinside.le, Nat.sub_eq_zero_of_le hinside.le]
          cases cs <;> simp [advance]
      · next hn hbehind =>
          rw [List.take_of_length_le (by omega)]
          split
          · next hc =>
              subst hc
              rw [Text.utf8EncodeChar_newline, List.foldl_cons, List.foldl_nil, passByte,
                if_pos rfl]
          · next hc =>
              rw [foldl_passByte_of_notMem p (Text.lineFeed_notMem_utf8EncodeChar hc), hlength]

theorem ofOffset_eq_afterBytes (source : String) (offset : Nat) :
    ofOffset source.toList offset = afterBytes ((utf8 source).take offset) := by
  rw [ofOffset, advance_eq_foldl, Text.utf8_eq_flatMap, afterBytes]

/-! ### What a position says -/

theorem afterBytes_concat (bytes : List UInt8) (b : UInt8) :
    afterBytes (bytes ++ [b]) = (afterBytes bytes).passByte b := by
  rw [afterBytes, List.foldl_append, List.foldl_cons, List.foldl_nil]
  rfl

theorem line_afterBytes (bytes : List UInt8) :
    (afterBytes bytes).line = bytes.count lineFeed := by
  induction bytes using List.reverseRecOn with
  | nil => rfl
  | append_singleton bytes b ih =>
      rw [afterBytes_concat, passByte, List.count_append, List.count_singleton, ← ih]
      by_cases hb : b = lineFeed <;> simp [hb]

theorem exists_lastLine (bytes : List UInt8) :
    ∃ earlier last, LastLine bytes earlier last ∧ (afterBytes bytes).column = last.length := by
  induction bytes using List.reverseRecOn with
  | nil => exact ⟨[], [], ⟨rfl, Or.inl rfl, List.not_mem_nil⟩, rfl⟩
  | append_singleton bytes b ih =>
      obtain ⟨earlier, last, hlast, hcolumn⟩ := ih
      by_cases hb : b = lineFeed
      · refine ⟨bytes ++ [b], [], ⟨by simp, Or.inr (by simp [hb]), List.not_mem_nil⟩, ?_⟩
        rw [afterBytes_concat, passByte, if_pos hb, List.length_nil]
      · refine ⟨earlier, last ++ [b], ⟨?_, hlast.opens, ?_⟩, ?_⟩
        · rw [hlast.split, List.append_assoc]
        · simpa using ⟨hlast.unbroken, Ne.symm hb⟩
        · rw [afterBytes_concat, passByte, if_neg hb, List.length_append, ← hcolumn]
          rfl

/-- Every byte leads on to a later position. -/
theorem afterBytes_take_lt (bytes : List UInt8) {i j : Nat} (hij : i < j)
    (hj : j ≤ bytes.length) : afterBytes (bytes.take i) < afterBytes (bytes.take j) := by
  have hsplit : bytes.take j = bytes.take i ++ (bytes.take j).drop i := by
    have happend := (List.take_append_drop i (bytes.take j)).symm
    rwa [List.take_take, min_eq_left hij.le] at happend
  have hbetween : (bytes.take j).drop i ≠ [] := by
    rw [← List.length_pos_iff, List.length_drop, List.length_take]
    omega
  rw [hsplit]
  simp only [afterBytes, List.foldl_append]
  exact lt_foldl_passByte _ hbetween

/-- The start of the line of a position and its column give the offset back. -/
theorem startOfLine_add_column (bytes : List UInt8) (offset : Nat) :
    startOfLine (afterBytes (bytes.take offset)).line bytes +
      (afterBytes (bytes.take offset)).column = min offset bytes.length := by
  obtain ⟨earlier, last, hlast, hcolumn⟩ := exists_lastLine (bytes.take offset)
  have hstart := hlast.startOfLine_eq (bytes.drop offset)
  rw [List.take_append_drop] at hstart
  calc
    startOfLine (afterBytes (bytes.take offset)).line bytes +
        (afterBytes (bytes.take offset)).column = earlier.length + last.length := by
      rw [line_afterBytes, hstart, hcolumn]
    _ = (bytes.take offset).length := by rw [hlast.split, List.length_append]
    _ = min offset bytes.length := List.length_take

end Position

/-- Positions that fit in 32 bits lose nothing there. -/
theorem EditorPosition.toNat_ofPosition {p : Position} (hline : p.line < 2 ^ 32)
    (hcolumn : p.column < 2 ^ 32) :
    (ofPosition p).line.toNat = p.line ∧ (ofPosition p).character.toNat = p.column :=
  ⟨Nat.mod_eq_of_lt hline, Nat.mod_eq_of_lt hcolumn⟩

/-- The positions in a source are what its bytes say. -/
structure Position.Faithful (source : String) : Prop where
  line (offset : Nat) :
    (ofOffset source.toList offset).line = ((utf8 source).take offset).count lineFeed
  column (offset : Nat) : ∃ earlier last, LastLine ((utf8 source).take offset) earlier last ∧
    (ofOffset source.toList offset).column = last.length
  increasing : StrictMonoOn (ofOffset source.toList) (Set.Iic (utf8 source).length)
  injective : Set.InjOn (ofOffset source.toList) (Set.Iic (utf8 source).length)
  constant {offset : Nat} (behind : (utf8 source).length ≤ offset) :
    ofOffset source.toList offset = ofOffset source.toList (utf8 source).length
  recovered (offset : Nat) : let p := ofOffset source.toList offset
    startOfLine p.line (utf8 source) + p.column = min offset (utf8 source).length
  /-- The range of a diagnosis has the positions of the two ends of its span, in order. -/
  diagnosed (fits : (utf8 source).length < 2 ^ 32) (e : Located TemplateError) :
    let d := Diagnosis.ofError source.toList e
    let start := ofOffset source.toList e.span.start
    let stop := ofOffset source.toList e.span.stop
    (d.start.line.toNat = start.line ∧ d.start.character.toNat = start.column) ∧
      (d.stop.line.toNat = stop.line ∧ d.stop.character.toNat = stop.column) ∧
      (e.span.start ≤ e.span.stop → d.start ≤ d.stop)

/-- The position of an offset has the line feeds before it as its line and the bytes after the last
of them as its column. Positions grow with the offset up to the end of the source and give it back.
The range of a diagnosis has its ends in order. -/
theorem Position.faithful_ofOffset (source : String) : Faithful source := by
  have hincreasing : StrictMonoOn (ofOffset source.toList) (Set.Iic (utf8 source).length) := by
    intro i _ j hj hij
    rw [ofOffset_eq_afterBytes, ofOffset_eq_afterBytes]
    exact afterBytes_take_lt _ hij hj
  constructor
  case line =>
    intro offset
    rw [ofOffset_eq_afterBytes, line_afterBytes]
  case column =>
    intro offset
    rw [ofOffset_eq_afterBytes]
    exact exists_lastLine _
  case increasing => exact hincreasing
  case injective => exact hincreasing.injOn
  case constant =>
    intro offset behind
    rw [ofOffset_eq_afterBytes, ofOffset_eq_afterBytes, List.take_of_length_le behind,
      List.take_length]
  case recovered =>
    intro offset
    rw [ofOffset_eq_afterBytes]
    exact startOfLine_add_column _ _
  case diagnosed =>
    intro fits e
    rw [Text.length_utf8] at fits
    have hbounds (offset : Nat) : (ofOffset source.toList offset).line < 2 ^ 32 ∧
        (ofOffset source.toList offset).column < 2 ^ 32 := by
      obtain ⟨hline, hcolumn⟩ := ofOffset_bounds source.toList offset
      exact ⟨hline.trans_lt fits, hcolumn.trans_lt fits⟩
    obtain ⟨hstartLine, hstartColumn⟩ := hbounds e.span.start
    obtain ⟨hstopLine, hstopColumn⟩ := hbounds e.span.stop
    exact ⟨EditorPosition.toNat_ofPosition hstartLine hstartColumn,
      EditorPosition.toNat_ofPosition hstopLine hstopColumn,
      fun hspan => Diagnosis.start_le_stop hspan fits⟩

end BlockTemplate
