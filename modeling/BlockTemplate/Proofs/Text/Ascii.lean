import BlockTemplate.Text.CaseMapping
import Mathlib

/-!
# Text in ASCII

On ASCII the case mappings change one character at a time, and neither of them changes what the
text is in lower case.

Main statements: `IsAscii.map_toLower_lower`, `IsAscii.map_toLower_upper`.
-/

namespace BlockTemplate.Text

/-- What can be seen of the 128 ASCII characters holds of each of them. -/
theorem forall_ascii {P : Char → Prop} (h : ∀ n : Fin 128, P (Char.ofNat n)) {c : Char}
    (hc : c.toNat < 128) : P c := by
  simpa using h ⟨c.toNat, hc⟩

/-- A text of ASCII characters. -/
def IsAscii (cs : List Char) : Prop := ∀ c ∈ cs, c.toNat < 128

instance (cs : List Char) : Decidable (IsAscii cs) :=
  inferInstanceAs (Decidable (∀ c ∈ cs, c.toNat < 128))

namespace IsAscii

variable {cs ds : List Char}

theorem of_subset (h : IsAscii cs) (hsub : ds ⊆ cs) : IsAscii ds := fun c hc => h c (hsub hc)

theorem lower_eq (h : IsAscii cs) : lower cs = cs.map Char.toLower := lower_ascii h

theorem upper_eq (h : IsAscii cs) : upper cs = cs.map Char.toUpper := upper_ascii h

theorem isAscii_lower (h : IsAscii cs) : IsAscii (lower cs) := by
  rw [h.lower_eq]
  intro d hd
  obtain ⟨c, hc, rfl⟩ := List.mem_map.1 hd
  exact forall_ascii (P := fun c => c.toLower.toNat < 128) (by decide +kernel) (h c hc)

theorem map_toLower_lower (h : IsAscii cs) : (lower cs).map Char.toLower = cs.map Char.toLower := by
  rw [h.lower_eq, List.map_map]
  exact List.map_congr_left fun c _ => Char.toLower_toLower_eq_toLower c

theorem map_toLower_upper (h : IsAscii cs) : (upper cs).map Char.toLower = cs.map Char.toLower := by
  rw [h.upper_eq, List.map_map]
  exact List.map_congr_left fun c _ => Char.toLower_toUpper_eq_toLower c

end IsAscii

end BlockTemplate.Text
