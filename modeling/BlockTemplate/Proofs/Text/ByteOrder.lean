import Mathlib

/-!
# The order of strings and of their bytes

Strings are compared character by character. That is the order of their UTF-8 bytes: the encodings
of two characters first differ at a byte that both of them have, and there the smaller character has
the smaller byte.

Main statements: `utf8_lt_iff`, `utf8_le_iff`.
-/

namespace BlockTemplate.Text

/-- The bytes of a string. -/
def utf8 (s : String) : List UInt8 := s.toByteArray.data.toList

theorem utf8_eq_flatMap (s : String) : utf8 s = s.toList.flatMap String.utf8EncodeChar := by
  rw [utf8, ← String.utf8Encode_toList, List.utf8Encode, List.toList_data_toByteArray]

/-! ### Characters -/

/-- Two lists of bytes first differ at a byte of both, which is smaller in the first one. -/
inductive Below : List UInt8 → List UInt8 → Prop
  | head {a b : UInt8} (as bs : List UInt8) (h : a < b) : Below (a :: as) (b :: bs)
  | tail (a : UInt8) {as bs : List UInt8} (h : Below as bs) : Below (a :: as) (a :: bs)

theorem Below.append_lt_append {as bs : List UInt8} (h : Below as bs) (us vs : List UInt8) :
    as ++ us < bs ++ vs := by
  induction h with
  | head as bs h => exact List.cons_lt_cons_iff.2 (.inl h)
  | tail a _ ih => exact List.cons_lt_cons_iff.2 (.inr ⟨rfl, ih⟩)

theorem Below.of_lt {m n : Nat} {as bs : List UInt8} (hn : n < 256) (hlt : m < n) :
    Below (UInt8.ofNat m :: as) (UInt8.ofNat n :: bs) := by
  refine .head as bs ?_
  rw [UInt8.lt_iff_toNat_lt, UInt8.toNat_ofNat', UInt8.toNat_ofNat']
  omega

theorem Below.of_le {m n : Nat} {as bs : List UInt8} (hn : n < 256) (hle : m ≤ n)
    (htail : m = n → Below as bs) : Below (UInt8.ofNat m :: as) (UInt8.ofNat n :: bs) := by
  rcases Nat.lt_or_eq_of_le hle with hlt | rfl
  · exact .of_lt hn hlt
  · exact .tail _ (htail rfl)

/-- A smaller character has a smaller encoding. A longer encoding starts with a greater byte, and
in encodings of one length the bytes are the digits of the number of the character. -/
theorem below_utf8EncodeChar {c d : Char} (h : c < d) :
    Below (String.utf8EncodeChar c) (String.utf8EncodeChar d) := by
  have hlt : c.val.toNat < d.val.toNat := UInt32.lt_iff_toNat_lt.1 h
  have hmax : d.val.toNat < 0x110000 := by
    have hvalid : d.val.toNat.isValidChar := d.valid
    simp only [Nat.isValidChar] at hvalid
    omega
  simp only [String.utf8EncodeChar]
  generalize c.val.toNat = m at hlt
  generalize d.val.toNat = n at hlt hmax
  by_cases hone : m ≤ 127
  · rw [if_pos hone]
    split_ifs <;> exact .of_lt (by omega) (by omega)
  rw [if_neg hone, if_neg (show ¬n ≤ 127 by omega)]
  by_cases htwo : m ≤ 2047
  · rw [if_pos htwo]
    split_ifs
    · refine .of_le (by omega) (by omega) fun hfirst => ?_
      exact .of_lt (by omega) (by omega)
    · exact .of_lt (by omega) (by omega)
    · exact .of_lt (by omega) (by omega)
  rw [if_neg htwo, if_neg (show ¬n ≤ 2047 by omega)]
  by_cases hthree : m ≤ 65535
  · rw [if_pos hthree]
    split_ifs
    · refine .of_le (by omega) (by omega) fun hfirst => ?_
      refine .of_le (by omega) (by omega) fun hsecond => ?_
      exact .of_lt (by omega) (by omega)
    · exact .of_lt (by omega) (by omega)
  · rw [if_neg hthree, if_neg (show ¬n ≤ 65535 by omega)]
    refine .of_le (by omega) (by omega) fun hfirst => ?_
    refine .of_le (by omega) (by omega) fun hsecond => ?_
    refine .of_le (by omega) (by omega) fun hthird => ?_
    exact .of_lt (by omega) (by omega)

/-! ### Strings -/

theorem flatMap_utf8EncodeChar_lt {cs ds : List Char} (h : cs < ds) :
    cs.flatMap String.utf8EncodeChar < ds.flatMap String.utf8EncodeChar := by
  induction cs generalizing ds with
  | nil =>
      cases ds with
      | nil => exact absurd h (List.lt_irrefl [])
      | cons d ds =>
          obtain ⟨b, bs, hd⟩ := List.exists_cons_of_ne_nil (String.utf8EncodeChar_ne_nil (c := d))
          rw [List.flatMap_cons, hd]
          exact List.nil_lt_cons ..
  | cons c cs ih =>
      cases ds with
      | nil => exact absurd h (List.not_lt_nil _)
      | cons d ds =>
          rw [List.flatMap_cons, List.flatMap_cons]
          rcases List.cons_lt_cons_iff.1 h with hlt | ⟨rfl, hlt⟩
          · exact (below_utf8EncodeChar hlt).append_lt_append _ _
          · exact List.append_left_lt (ih hlt)

theorem utf8_lt_utf8 {s t : String} (h : s < t) : utf8 s < utf8 t := by
  rw [utf8_eq_flatMap, utf8_eq_flatMap]
  exact flatMap_utf8EncodeChar_lt (String.lt_iff_toList_lt.1 h)

/-- One string comes before another just if its bytes do. -/
theorem utf8_lt_iff {s t : String} : utf8 s < utf8 t ↔ s < t := by
  refine ⟨fun h => ?_, utf8_lt_utf8⟩
  rcases lt_trichotomy s t with hlt | rfl | hgt
  · exact hlt
  · exact absurd h (List.lt_irrefl _)
  · exact absurd h (List.lt_asymm (utf8_lt_utf8 hgt))

theorem utf8_le_iff {s t : String} : utf8 s ≤ utf8 t ↔ s ≤ t := by
  rw [← not_lt, ← List.not_lt, utf8_lt_iff]

end BlockTemplate.Text
