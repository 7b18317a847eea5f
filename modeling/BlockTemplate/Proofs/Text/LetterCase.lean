import BlockTemplate.Text.Blank
import BlockTemplate.Text.Search
import BlockTemplate.Proofs.Text.Ascii
import BlockTemplate.Proofs.Text.CaseDifference

/-!
# What does not look at the case of letters

A class of characters that holds no letter is the same for a text and for the text in lower case. So
the runs of such characters and the ends made of them are found at the same places in both.

Main statements: `NoLetters.takeWhile_map_toLower`, `endsWith_map_toLower`,
`contains_map_toLower`.
-/

namespace BlockTemplate.Text

variable {p : Char → Bool} {c d : Char} {cs : List Char}

/-! ### Letters -/

theorem toNat_lt_of_isAlpha (h : c.isAlpha = true) : c.toNat < 128 := by
  have hle := Char.utf8Size_eq_one_iff.1 (utf8Size_of_isAlpha h)
  exact Nat.lt_succ_of_le (UInt32.le_iff_toNat_le.1 hle)

theorem toLower_eq_self_or_isAlpha (c : Char) : c.toLower = c ∨ c.isAlpha = true :=
  (eq_or_isAlpha_of_toLower_eq (Char.toLower_toLower_eq_toLower c)).imp_right And.right

/-- Only a character that is no letter becomes one in lower case. -/
theorem toLower_eq_iff (hd : d.isAlpha = false) : c.toLower = d ↔ c = d := by
  constructor
  · intro h
    refine (toLower_eq_self_or_isAlpha c).elim (fun hc => hc ▸ h) fun hc => ?_
    rw [← Char.isAlpha_toLower_eq_isAlpha, h, hd] at hc
    cases hc
  · rintro rfl
    refine (toLower_eq_self_or_isAlpha c).resolve_right fun hc => ?_
    rw [hd] at hc
    cases hc

/-- A text with the letters of an ASCII text is an ASCII text. -/
theorem IsAscii.of_map_toLower_eq {ds : List Char} (h : IsAscii ds)
    (hsame : cs.map Char.toLower = ds.map Char.toLower) : IsAscii cs := by
  intro c hc
  refine (toLower_eq_self_or_isAlpha c).elim (fun heq => ?_) toNat_lt_of_isAlpha
  have hmem : c ∈ lower ds := by
    rw [h.lower_eq, ← hsame]
    exact heq ▸ List.mem_map_of_mem hc
  exact h.isAscii_lower c hmem

/-! ### Classes without letters -/

/-- A class of characters that holds no letter. -/
def NoLetters (p : Char → Bool) : Prop := ∀ c : Char, c.isAlpha = true → p c = false

/-- Letters are among the ASCII characters, so it is enough to look at those. -/
theorem noLetters_of_ascii
    (h : ∀ n : Fin 128, (Char.ofNat n).isAlpha = true → p (Char.ofNat n) = false) : NoLetters p :=
  fun _ hc => forall_ascii (P := fun c => c.isAlpha = true → p c = false) h
    (toNat_lt_of_isAlpha hc) hc

namespace NoLetters

theorem apply_toLower (hp : NoLetters p) (c : Char) : p c.toLower = p c := by
  rcases toLower_eq_self_or_isAlpha c with heq | hc
  · rw [heq]
  · rw [hp c hc, hp _ ((Char.isAlpha_toLower_eq_isAlpha c).trans hc)]

theorem comp_toLower (hp : NoLetters p) : p ∘ Char.toLower = p := funext hp.apply_toLower

theorem takeWhile_map_toLower (hp : NoLetters p) (cs : List Char) :
    (cs.map Char.toLower).takeWhile p = (cs.takeWhile p).map Char.toLower := by
  rw [List.takeWhile_map, hp.comp_toLower]

theorem dropWhile_map_toLower (hp : NoLetters p) (cs : List Char) :
    (cs.map Char.toLower).dropWhile p = (cs.dropWhile p).map Char.toLower := by
  rw [List.dropWhile_map, hp.comp_toLower]

theorem dropEndWhile_map_toLower (hp : NoLetters p) (cs : List Char) :
    dropEndWhile p (cs.map Char.toLower) = (dropEndWhile p cs).map Char.toLower := by
  rw [dropEndWhile, ← List.map_reverse, hp.dropWhile_map_toLower, ← List.map_reverse, dropEndWhile]

end NoLetters

/-! ### Parts without letters -/

theorem mem_map_toLower_iff (hc : c.isAlpha = false) : c ∈ cs.map Char.toLower ↔ c ∈ cs := by
  simp [toLower_eq_iff hc]

theorem endsWith_map_toLower (hc : c.isAlpha = false) (cs : List Char) :
    endsWith [c] (cs.map Char.toLower) = endsWith [c] cs := by
  rw [Bool.eq_iff_iff, endsWith_iff_suffix, endsWith_iff_suffix,
    List.singleton_suffix_iff_getLast?_eq_some, List.singleton_suffix_iff_getLast?_eq_some,
    List.getLast?_map]
  simp [toLower_eq_iff hc]

theorem isPrefixOf_map_toLower {part : List Char} (hpart : ∀ c ∈ part, c.isAlpha = false)
    (cs : List Char) : part.isPrefixOf (cs.map Char.toLower) = part.isPrefixOf cs := by
  induction part generalizing cs with
  | nil => simp
  | cons d part ih =>
      obtain ⟨hd, hpart⟩ := List.forall_mem_cons.1 hpart
      cases cs with
      | nil => rfl
      | cons c cs =>
          rw [List.map_cons, List.isPrefixOf_cons_cons, List.isPrefixOf_cons_cons, ih hpart]
          congr 1
          rw [Bool.eq_iff_iff, beq_iff_eq, beq_iff_eq, eq_comm, toLower_eq_iff hd, eq_comm]

theorem contains_map_toLower {part : List Char} (hpart : ∀ c ∈ part, c.isAlpha = false)
    (cs : List Char) : contains part (cs.map Char.toLower) = contains part cs := by
  induction cs with
  | nil => rfl
  | cons c cs ih =>
      rw [List.map_cons, contains, contains, ih, ← List.map_cons, isPrefixOf_map_toLower hpart]

end BlockTemplate.Text
