import BlockTemplate.Processor.Evaluation
import BlockTemplate.Properties
import BlockTemplate.Proofs.Syntax.PrintedBlock
import BlockTemplate.Proofs.Text.LowerCase

/-!
# Names as keys

The characters of a name are ASCII and none is blank. So the key of a name is the name with its
letters in lower case, it is the key of itself, and the number signs and digits of the name are
those of the key.

Main statements: `nameKey_eq`, `Reference.ofName_text`.
-/

namespace BlockTemplate

/-! ### Characters of names -/

theorem toNat_lt_of_isNameChar {c : Char} (h : isNameChar c = true) : c.toNat < 128 := by
  simp only [isNameChar, Bool.or_eq_true, decide_eq_true_eq] at h
  rcases h with ((h | rfl) | rfl) | rfl
  · simp only [Char.isAlphanum, Char.isAlpha, Char.isUpper, Char.isLower, Char.isDigit,
      Bool.or_eq_true, Bool.and_eq_true, decide_eq_true_eq, UInt32.le_iff_toNat_le,
      ge_iff_le] at h
    have hval : c.toNat = c.val.toNat := rfl
    have hZ : 'Z'.val.toNat = 90 := rfl
    have hz : 'z'.val.toNat = 122 := rfl
    have h9 : '9'.val.toNat = 57 := rfl
    omega
  all_goals decide

/-- What can be seen of the 128 ASCII characters holds of every character of a name. -/
theorem forall_isNameChar {P : Char → Prop}
    (h : ∀ n : Fin 128, isNameChar (Char.ofNat n) = true → P (Char.ofNat n)) {c : Char}
    (hc : isNameChar c = true) : P c := by
  have hn := h ⟨c.toNat, toNat_lt_of_isNameChar hc⟩
  simp only [Char.ofNat_toNat] at hn
  exact hn hc

theorem isBlank_of_isNameChar {c : Char} (h : isNameChar c = true) : Text.isBlank c = false :=
  forall_isNameChar (P := fun c => Text.isBlank c = false) (by decide +kernel) h

theorem isNameChar_toLower {c : Char} (h : isNameChar c = true) : isNameChar c.toLower = true :=
  forall_isNameChar (P := fun c => isNameChar c.toLower = true) (by decide +kernel) h

theorem toLower_eq_hash_iff {c : Char} (h : isNameChar c = true) : c.toLower = '#' ↔ c = '#' :=
  forall_isNameChar (P := fun c => c.toLower = '#' ↔ c = '#') (by decide +kernel) h

theorem isDigit_toLower {c : Char} (h : isNameChar c = true) : c.toLower.isDigit = c.isDigit :=
  forall_isNameChar (P := fun c => c.toLower.isDigit = c.isDigit) (by decide +kernel) h

theorem toLower_of_isDigit {c : Char} (h : c.isDigit = true) : c.toLower = c :=
  forall_isNameChar (P := fun c => c.isDigit = true → c.toLower = c) (by decide +kernel)
    (isNameChar_of_isDigit h) h

/-! ### Texts of such characters -/

section

variable {cs : List Char} (hcs : ∀ c ∈ cs, isNameChar c = true)
include hcs

theorem trim_of_isNameChar : Text.trim cs = cs := by
  have hdrop {xs : List Char} (hxs : ∀ c ∈ xs, isNameChar c = true) :
      xs.dropWhile Text.isBlank = xs := by
    cases xs with
    | nil => rfl
    | cons c xs =>
        exact List.dropWhile_cons_of_neg (by simp [isBlank_of_isNameChar (hxs c (by simp))])
  rw [Text.trim, Text.dropEndWhile, hdrop hcs, hdrop (by simpa using hcs), List.reverse_reverse]

theorem lower_of_isNameChar : Text.lower cs = cs.map Char.toLower :=
  Text.lower_ascii fun c hc => toNat_lt_of_isNameChar (hcs c hc)

theorem isNameChar_of_mem_lower : ∀ c ∈ Text.lower cs, isNameChar c = true := by
  rw [lower_of_isNameChar hcs]
  intro c hc
  obtain ⟨c, hmem, rfl⟩ := List.mem_map.1 hc
  exact isNameChar_toLower (hcs c hmem)

theorem ne_hash_of_mem_lower (plain : '#' ∉ cs) :
    ∀ c ∈ Text.lower cs, decide (c ≠ '#') = true := by
  rw [lower_of_isNameChar hcs]
  intro _ hmem
  obtain ⟨c, hc, rfl⟩ := List.mem_map.1 hmem
  exact decide_eq_true fun heq => plain ((toLower_eq_hash_iff (hcs c hc)).1 heq ▸ hc)

/-- A list position does not change with the case. -/
theorem position?_lower : Properties.position? (Text.lower cs) = Properties.position? cs := by
  have hdigits {xs : List Char} (hxs : ∀ c ∈ xs, isNameChar c = true) :
      Properties.position? xs =
        if xs ≠ [] ∧ xs.all Char.isDigit then some (Number.ofDigits xs) else none := by
    cases xs with
    | nil => rfl
    | cons c xs =>
        have hc : c ≠ '+' := by
          rintro rfl
          exact absurd (hxs _ List.mem_cons_self) (by decide)
        simp [Properties.position?, hc]
  have hall : (Text.lower cs).all Char.isDigit = cs.all Char.isDigit := by
    rw [lower_of_isNameChar hcs, List.all_map, Bool.eq_iff_iff, List.all_eq_true, List.all_eq_true]
    exact forall₂_congr fun c hc => by simp [isDigit_toLower (hcs c hc)]
  rw [hdigits (isNameChar_of_mem_lower hcs), hdigits hcs, hall]
  by_cases h : cs.all Char.isDigit = true
  · have hsame : Text.lower cs = cs := by
      rw [lower_of_isNameChar hcs]
      calc
        cs.map Char.toLower = cs.map id :=
          List.map_congr_left fun c hc => toLower_of_isDigit (List.all_eq_true.1 h c hc)
        _ = cs := List.map_id cs
    rw [hsame]
  · simp [h]

end

/-! ### Names -/

theorem IsName.isNameChar {name : String} (h : IsName name) :
    ∀ c ∈ name.toList, BlockTemplate.isNameChar c = true := by
  obtain ⟨c, cs, hname, hstart, hmore⟩ := h
  rw [hname]
  exact List.forall_mem_cons.2 ⟨isNameChar_of_isNameStart hstart, hmore⟩

namespace Processor

/-- The key of a name is the name in lower case. -/
theorem nameKey_eq {name : String} (h : IsName name) : nameKey name = Text.lowerString name := by
  rw [nameKey, trim_of_isNameChar h.isNameChar, Text.lowerString]

theorem lowerString_nameKey {name : String} (h : IsName name) :
    Text.lowerString (nameKey name) = nameKey name := by
  rw [nameKey_eq h, Text.lowerString_lowerString]

namespace Reference

/-- The text of a reference: its specifier stands after a number sign. -/
def text (r : Reference) : String :=
  match r.specifier with
  | none => r.name
  | some specifier => r.name ++ "#" ++ specifier

/-- A reference without regard to case. -/
def lower (r : Reference) : Reference :=
  ⟨Text.lowerString r.name, r.specifier.map Text.lowerString⟩

/-- Name and specifier are made of characters of names when the text is a name. -/
theorem isNameChar_parts {r : Reference} (h : IsName r.text) :
    (∀ c ∈ r.name.toList, isNameChar c = true) ∧
      ∀ specifier ∈ r.specifier, ∀ c ∈ specifier.toList, isNameChar c = true := by
  have hchars := h.isNameChar
  obtain ⟨name, _ | specifier⟩ := r
  · exact ⟨hchars, nofun⟩
  · simp only [text, String.toList_append, List.forall_mem_append] at hchars
    obtain ⟨⟨hname, -⟩, hspecifier⟩ := hchars
    exact ⟨hname, by rintro _ ⟨⟩; exact hspecifier⟩

/-- A reference is read back from its text, in lower case. -/
theorem ofName_text {r : Reference} (plain : '#' ∉ r.name.toList) (h : IsName r.text) :
    ofName r.text = r.lower := by
  obtain ⟨hname, hspecifier⟩ := isNameChar_parts h
  have hplain := ne_hash_of_mem_lower hname plain
  have htrim := trim_of_isNameChar h.isNameChar
  obtain ⟨name, _ | specifier⟩ := r
  · have hlower : Text.lower (Text.trim (text ⟨name, none⟩).toList) = Text.lower name.toList :=
      congrArg Text.lower htrim
    simp only [ofName, hlower]
    rw [List.dropWhile_eq_nil_iff.2 hplain]
    rfl
  · have hlower : Text.lower (Text.trim (text ⟨name, some specifier⟩).toList) =
        Text.lower name.toList ++ '#' :: Text.lower specifier.toList := by
      rw [htrim, lower_of_isNameChar h.isNameChar, lower_of_isNameChar hname,
        lower_of_isNameChar (hspecifier specifier rfl)]
      simp [text]
    simp only [ofName, hlower, List.dropWhile_append_of_pos hplain,
      List.takeWhile_append_of_pos hplain]
    simp [lower, Text.lowerString]

end Reference

end Processor

end BlockTemplate
