import BlockTemplate.Text.Blank
import Mathlib.Data.List.Basic

/-!
# The words of a text

The words of a text are what is left between its separators, without the empty parts.

Main statements: `splitWords_eq_filter`, `join_eq_intercalate`, `splitWords_join`.
-/

namespace BlockTemplate.Text

variable {p : Char → Bool}

theorem splitWords_eq_filter (p : Char → Bool) (cs : List Char) :
    splitWords p cs = (cs.splitOnP p).filter (· ≠ []) := by
  induction cs with
  | nil => simp [splitWords]
  | cons c cs ih =>
      rw [splitWords.eq_def, List.splitOnP_cons_eq_if_modifyHead]
      dsimp only
      split
      · rw [ih]
        simp
      · cases cs with
        | nil => simp
        | cons d ds =>
            dsimp only
            rw [List.splitOnP_cons_eq_if_modifyHead] at ih ⊢
            split
            · next hd =>
              rw [ih, if_pos hd]
              simp
            · next hd =>
              obtain ⟨word, words, hwords⟩ := List.exists_cons_of_ne_nil (List.splitOnP_ne_nil p ds)
              rw [if_neg hd, hwords, List.modifyHead_cons] at ih
              rw [ih, hwords]
              simp

/-- Words hold characters of the text only, and no separators. -/
theorem mem_of_mem_splitOnP {cs word : List Char} (hword : word ∈ cs.splitOnP p) {c : Char}
    (hc : c ∈ word) : c ∈ cs ∧ p c = false := by
  induction cs generalizing word with
  | nil => simp_all
  | cons d ds ih =>
      rw [List.splitOnP_cons_eq_if_modifyHead] at hword
      split at hword
      · rcases List.mem_cons.1 hword with rfl | hword
        · cases hc
        · exact (ih hword hc).imp_left (List.mem_cons_of_mem d)
      · next hd =>
        obtain ⟨first, words, hwords⟩ := List.exists_cons_of_ne_nil (List.splitOnP_ne_nil p ds)
        rw [hwords, List.modifyHead_cons] at hword
        rw [hwords] at ih
        rcases List.mem_cons.1 hword with rfl | hword
        · rcases List.mem_cons.1 hc with rfl | hc
          · exact ⟨List.mem_cons_self, Bool.not_eq_true _ ▸ hd⟩
          · exact (ih List.mem_cons_self hc).imp_left (List.mem_cons_of_mem d)
        · exact (ih (List.mem_cons_of_mem _ hword) hc).imp_left (List.mem_cons_of_mem d)

theorem mem_of_mem_splitWords {cs word : List Char} (hword : word ∈ splitWords p cs) :
    word ≠ [] ∧ ∀ c ∈ word, c ∈ cs ∧ p c = false := by
  rw [splitWords_eq_filter, List.mem_filter, decide_eq_true_iff] at hword
  exact ⟨hword.2, fun c hc => mem_of_mem_splitOnP hword.1 hc⟩

theorem join_eq_intercalate (separator : List Char) (parts : List (List Char)) :
    join separator parts = separator.intercalate parts := by
  induction parts with
  | nil => rfl
  | cons part parts ih =>
      cases parts with
      | nil => simp [join]
      | cons next parts =>
          rw [join, ih, List.intercalate_cons_cons, List.append_assoc]
          simp

theorem map_join (f : Char → Char) (separator : List Char) (parts : List (List Char)) :
    (join separator parts).map f = join (separator.map f) (parts.map (List.map f)) := by
  induction parts with
  | nil => rfl
  | cons part parts ih =>
      cases parts with
      | nil => rfl
      | cons next parts =>
          simp only [join, List.map_append, List.map_cons] at ih ⊢
          rw [ih]

/-- Words that are joined by a separator are the words of what comes out. -/
theorem splitWords_join {c : Char} (hc : p c = true) {words : List (List Char)}
    (hwords : ∀ word ∈ words, word ≠ [] ∧ ∀ d ∈ word, p d = false) :
    splitWords p (join [c] words) = words := by
  rw [splitWords_eq_filter, join_eq_intercalate]
  induction words with
  | nil => simp
  | cons word rest ih =>
      obtain ⟨⟨hne, hword⟩, hrest⟩ := List.forall_mem_cons.1 hwords
      cases rest with
      | nil =>
          rw [List.intercalate_singleton, List.splitOnP_eq_singleton hword]
          simp [hne]
      | cons next rest =>
          rw [List.intercalate_cons_cons, List.append_assoc, List.singleton_append,
            List.splitOnP_append_cons_of_forall_mem hword c hc, List.filter_cons_of_pos (by simpa),
            ih hrest]

end BlockTemplate.Text
