import BlockTemplate.Proofs.Number.FixedText
import BlockTemplate.Proofs.Number.PatternText

/-!
# Numbers in patterns

A pattern changes nothing of a number but its dress: zeros at the end of the decimals may go, commas
come between the digits before the point, and a sign and texts of the pattern stand around them.
That needs a number with digits. A hundred times a finite double need not be finite, and what is
not finite is written as a word.

Main statements: what is written for a finite number is made of its digits
(`formatNumber_regroups`); it is a numeral exactly if the number that is written is finite
(`formatNumber_isNumeral_iff`).
-/

namespace BlockTemplate.NumberPattern

open Number (Places fixedText fractionText)

/-! ### Decimals -/

/-- What is left of decimals when zeros at their end have gone, but not those of `fixed` places. -/
structure Trimmed (fixed : Nat) (decimals kept : List Char) : Prop where
  exists_zeros : ∃ n, decimals = kept ++ List.replicate n '0'
  fixed_le : fixed ≤ kept.length
  getLast_ne_zero : fixed < kept.length → kept.getLast? ≠ some '0'

theorem dropZeros_append {n : Nat} {xs : List Char} (h : n ≤ xs.length) (ys : List Char) :
    dropZeros n (xs ++ ys) = dropZeros n xs ++ ys := by
  induction n generalizing xs with
  | zero => rfl
  | succ n ih =>
    cases xs with
    | nil => simp at h
    | cons c xs =>
      by_cases hc : c = '0'
      · subst hc
        exact ih (by simpa using h)
      · simp [dropZeros, hc]

/-- As many zeros are dropped as there are, up to the given number. -/
theorem exists_dropZeros (n : Nat) (cs : List Char) :
    ∃ k ≤ n, cs = List.replicate k '0' ++ dropZeros n cs ∧
      (k < n → (dropZeros n cs).head? ≠ some '0') := by
  induction n generalizing cs with
  | zero => exact ⟨0, Nat.le_refl 0, rfl, by simp⟩
  | succ n ih =>
    by_cases hzero : ∃ rest, cs = '0' :: rest
    · obtain ⟨rest, rfl⟩ := hzero
      obtain ⟨k, hk, hrest, hhead⟩ := ih rest
      refine ⟨k + 1, Nat.succ_le_succ hk, ?_, ?_⟩
      · rw [dropZeros, List.replicate_succ, List.cons_append, ← hrest]
      · intro hlt
        exact hhead (Nat.lt_of_succ_lt_succ hlt)
    · have hkept : dropZeros (n + 1) cs = cs := by
        unfold dropZeros
        split
        · next rest => exact absurd ⟨rest, rfl⟩ hzero
        · rfl
      refine ⟨0, Nat.zero_le _, by simp [hkept], ?_⟩
      intro _ hhead
      rw [hkept] at hhead
      obtain ⟨rest, hrest⟩ := List.head?_eq_some_iff.1 hhead
      exact hzero ⟨rest, hrest⟩

theorem dropPoint_append {xs : List Char} (h : '.' ∉ xs) (ys : List Char) :
    dropPoint (xs ++ '.' :: ys) = if xs = [] then ys else xs ++ '.' :: ys := by
  cases xs with
  | nil => rfl
  | cons c xs =>
    have hc : c ≠ '.' := by
      rintro rfl
      exact h (List.mem_cons_self)
    simp [dropPoint, hc]

/-- Digits lose zeros at the end of their decimals alone, and the point with the last decimal. -/
theorem exists_trimmed {fixed optional : Nat} {text whole decimals : List Char}
    (h : Places (fixed + optional) text whole decimals) :
    ∃ kept, Trimmed fixed decimals kept ∧
      trimDecimals optional text = whole ++ fractionText kept := by
  by_cases hoptional : optional = 0
  · subst hoptional
    have hlength : decimals.length = fixed := h.length_decimals
    refine ⟨decimals, ⟨⟨0, by simp⟩, hlength.ge, ?_⟩, ?_⟩
    · intro hlt
      exact absurd hlength (Nat.ne_of_gt hlt)
    · rw [trimDecimals, if_pos rfl, h.text_eq_append]
  · obtain ⟨k, hk, hzeros, hhead⟩ := exists_dropZeros optional decimals.reverse
    let kept := (dropZeros optional decimals.reverse).reverse
    have hdecimals : decimals = kept ++ List.replicate k '0' := by
      rw [← List.reverse_reverse decimals, hzeros]
      simp [kept]
    have hlength : kept.length + k = fixed + optional := by
      rw [← h.length_decimals, hdecimals]
      simp
    have hpoint : '.' ∉ dropZeros optional decimals.reverse := by
      intro hmem
      have hmem : '.' ∈ decimals := by
        rw [hdecimals]
        exact List.mem_append_left _ (List.mem_reverse.2 hmem)
      have hdigit := h.isDigit_decimals '.' hmem
      revert hdigit
      decide
    refine ⟨kept, ⟨⟨k, hdecimals⟩, by omega, ?_⟩, ?_⟩
    · intro hlt
      rw [List.getLast?_reverse]
      exact hhead (by omega)
    · have htext : text.reverse = decimals.reverse ++ '.' :: whole.reverse := by
        rw [h.text_eq, if_neg (by omega)]
        simp
      have hle : optional ≤ decimals.reverse.length := by
        rw [List.length_reverse, h.length_decimals]
        omega
      rw [trimDecimals, if_neg hoptional, htext, dropZeros_append hle, dropPoint_append hpoint]
      by_cases hkept : dropZeros optional decimals.reverse = []
      · simp [fractionText, kept, hkept]
      · simp [fractionText, kept, hkept]

/-! ### Groups -/

/-- A text is some digits in groups with commas between them: three digits in each, but one to three
in the first. -/
inductive Grouped : List Char → List Char → Prop
  | first {digits : List Char} (nonempty : 1 ≤ digits.length) (short : digits.length ≤ 3) :
      Grouped digits digits
  | more {text digits group : List Char} (before : Grouped text digits)
      (three : group.length = 3) : Grouped (text ++ ',' :: group) (digits ++ group)

/-- Without the commas, the digits are left. -/
theorem Grouped.filter_eq {text digits : List Char} (h : Grouped text digits)
    (hdigits : ∀ c ∈ digits, c ≠ ',') : text.filter (· ≠ ',') = digits := by
  induction h with
  | first => exact List.filter_eq_self.2 fun c hc => decide_eq_true (hdigits c hc)
  | @more text digits group _ _ ih =>
    have hgroup : group.filter (· ≠ ',') = group :=
      List.filter_eq_self.2 fun c hc => decide_eq_true (hdigits c (List.mem_append_right _ hc))
    rw [List.filter_append, ih fun c hc => hdigits c (List.mem_append_left _ hc)]
    simpa using hgroup

theorem grouped_groupReversed {digits : List Char} (h : digits ≠ []) :
    Grouped (groupReversed digits).reverse digits.reverse := by
  fun_induction groupReversed digits with
  | case1 a b c d rest ih =>
    have hgroup : Grouped ((groupReversed (d :: rest)).reverse ++ ',' :: [c, b, a])
        ((d :: rest).reverse ++ [c, b, a]) := .more (ih (List.cons_ne_nil d rest)) rfl
    simpa using hgroup
  | case2 digits hfew =>
    have hshort : digits.length ≤ 3 := by
      by_contra hlong
      match digits with
      | a :: b :: c :: d :: rest => exact hfew a b c d rest rfl
      | [] | [_] | [_, _] | [_, _, _] => simp at hlong
    refine .first ?_ ?_
    · rw [List.length_reverse]
      exact List.length_pos_iff.2 h
    · rw [List.length_reverse]
      exact hshort

theorem grouped_groupThousands {digits : List Char} (h : digits ≠ []) :
    Grouped (groupThousands digits) digits := by
  simpa [groupThousands] using grouped_groupReversed (List.reverse_ne_nil_iff.2 h)

/-! ### Layout -/

/-- Every digit is a zero. -/
def AllZero (digits : List Char) : Prop := ∀ c ∈ digits, c = '0'

theorem sign_eq_minus_iff {p : NumberPattern} {negative isZero : Bool} :
    p.sign negative isZero = ['-'] ↔ negative = true ∧ ¬isZero = true := by
  unfold sign
  cases isZero <;> cases negative <;> cases p.alwaysSign <;> simp

theorem sign_eq_plus_iff {p : NumberPattern} {negative isZero : Bool} :
    p.sign negative isZero = ['+'] ↔
      p.alwaysSign = true ∧ ¬negative = true ∧ ¬isZero = true := by
  unfold sign
  cases isZero <;> cases negative <;> cases p.alwaysSign <;> simp

theorem sign_mem (p : NumberPattern) (negative isZero : Bool) :
    p.sign negative isZero ∈ [[], ['-'], ['+']] := by
  unfold sign
  cases isZero <;> cases negative <;> cases p.alwaysSign <;> simp

/-- How the parts that stand between the texts of a pattern come from the digits of a magnitude;
`negative` says whether the number is below zero. -/
structure Dressed (p : NumberPattern) (negative : Prop) (whole decimals : List Char)
    (sign grouped kept : List Char) : Prop where
  grouped_whole : if p.grouped then Grouped grouped whole else grouped = whole
  filter_grouped : grouped.filter (· ≠ ',') = whole
  trimmed : Trimmed p.fixedDecimals decimals kept
  minus_iff : sign = ['-'] ↔ negative ∧ ¬AllZero (whole ++ decimals)
  plus_iff : sign = ['+'] ↔ p.alwaysSign = true ∧ ¬negative ∧ ¬AllZero (whole ++ decimals)
  sign_mem : sign ∈ [[], ['-'], ['+']]

theorem ne_of_isDigit {c other : Char} (h : c.isDigit = true) (hother : other.isDigit = false) :
    c ≠ other := by
  rintro rfl
  rw [h] at hother
  cases hother

theorem ne_point_of_isDigit {c : Char} (h : c.isDigit = true) : c ≠ '.' :=
  ne_of_isDigit h (by decide)

theorem endsRun_fractionText (kept : List Char) : EndsRun (· ≠ '.') (fractionText kept) := by
  unfold fractionText
  split <;> simp [EndsRun]

section

variable {whole decimals kept : List Char} (hwhole : ∀ c ∈ whole, c.isDigit = true)
include hwhole

/-- The digits before the point are found again. -/
theorem takeWhile_point : (whole ++ fractionText kept).takeWhile (· ≠ '.') = whole :=
  takeWhile_append_of_endsRun (fun c hc => decide_eq_true (ne_point_of_isDigit (hwhole c hc)))
    (endsRun_fractionText kept)

theorem dropWhile_point : (whole ++ fractionText kept).dropWhile (· ≠ '.') = fractionText kept :=
  dropWhile_append_of_endsRun (fun c hc => decide_eq_true (ne_point_of_isDigit (hwhole c hc)))
    (endsRun_fractionText kept)

/-- Trimming makes no number zero. -/
theorem all_zero_iff {fixed : Nat} (hdecimals : ∀ c ∈ decimals, c.isDigit = true)
    (h : Trimmed fixed decimals kept) :
    ((whole ++ fractionText kept).all fun c => c = '0' || c = '.') = true ↔
      AllZero (whole ++ decimals) := by
  obtain ⟨n, rfl⟩ := h.exists_zeros
  have hzero {cs : List Char} (hcs : ∀ c ∈ cs, c.isDigit = true) :
      (cs.all fun c => c = '0' || c = '.') = true ↔ AllZero cs := by
    rw [List.all_eq_true]
    refine forall₂_congr fun c hc => ?_
    simp [ne_point_of_isDigit (hcs c hc)]
  have hkept : ((fractionText kept).all fun c => c = '0' || c = '.') = true ↔ AllZero kept := by
    rw [← hzero fun c hc => hdecimals c (List.mem_append_left _ hc)]
    unfold fractionText
    split <;> simp_all
  have hall (xs ys : List Char) : AllZero (xs ++ ys) ↔ AllZero xs ∧ AllZero ys := by
    simp only [AllZero, List.mem_append, or_imp, forall_and]
  have hreplicate : AllZero (List.replicate n '0') := fun c hc => List.eq_of_mem_replicate hc
  rw [List.all_append, Bool.and_eq_true, hzero hwhole, hkept, hall, hall]
  simp [hreplicate]

end

/-- The digits of a magnitude are dressed, and the texts of the pattern stand around them. -/
theorem exists_dressed (p : NumberPattern) (negative : Bool) {text whole decimals : List Char}
    (h : Places p.decimals text whole decimals) :
    ∃ sign grouped kept, p.Dressed (negative = true) whole decimals sign grouped kept ∧
      p.layout negative text = sign ++ p.currencyBefore ++ grouped ++ fractionText kept ++
        p.currencyAfter ++ p.percent := by
  obtain ⟨kept, htrimmed, htext⟩ := exists_trimmed h
  have hzero := all_zero_iff h.isDigit_whole h.isDigit_decimals htrimmed
  have hcommas : ∀ c ∈ whole, c ≠ ',' := by
    intro c hc
    exact ne_of_isDigit (h.isDigit_whole c hc) (by decide)
  let isZero := (whole ++ fractionText kept).all fun c => c = '0' || c = '.'
  let grouped := if p.grouped then groupThousands whole else whole
  refine ⟨p.sign negative isZero, grouped, kept, ?_, ?_⟩
  · constructor
    case grouped_whole =>
      simp only [grouped]
      split
      · exact grouped_groupThousands h.whole_ne_nil
      · rfl
    case filter_grouped =>
      simp only [grouped]
      split
      · exact (grouped_groupThousands h.whole_ne_nil).filter_eq hcommas
      · exact List.filter_eq_self.2 fun c hc => decide_eq_true (hcommas c hc)
    case trimmed => exact htrimmed
    case minus_iff => rw [sign_eq_minus_iff, hzero]
    case plus_iff => rw [sign_eq_plus_iff, hzero]
    case sign_mem => exact sign_mem p negative isZero
  · rw [layout, htext, takeWhile_point h.isDigit_whole, dropWhile_point h.isDigit_whole]

/-! ### Numerals -/

/-- The texts of a pattern are the signs of a currency and of a percentage, with one space or none
between them and the number. -/
structure PlainTexts (p : NumberPattern) : Prop where
  before_mem : p.currencyBefore ∈ [[], ['$'], ['$', ' ']]
  after_mem : p.currencyAfter ∈ [[], ['$'], [' ', '$']]
  percent_mem : p.percent ∈ [[], ['%'], [' ', '%']]

theorem AskedBy.plainTexts {p : NumberPattern} {pattern : List Char} (h : p.AskedBy pattern) :
    p.PlainTexts := by
  obtain ⟨-, -, ⟨rest, -, hbefore, hafter⟩, hpercent⟩ := h
  exact ⟨hbefore.mem, hafter.mem, hpercent.mem⟩

/-- A number as a pattern writes it: a sign or none, the texts of the pattern, and between them at
least one digit, commas, and at most one point. -/
def IsNumeral (p : NumberPattern) (text : List Char) : Prop :=
  ∃ sign body, text = sign ++ p.currencyBefore ++ body ++ p.currencyAfter ++ p.percent ∧
    sign ∈ [[], ['-'], ['+']] ∧ (∃ c ∈ body, c.isDigit = true) ∧
    (∀ c ∈ body, c.isDigit = true ∨ c = ',' ∨ c = '.') ∧ body.count '.' ≤ 1

/-- No numeral has a letter in it. -/
theorem IsNumeral.isAlpha_eq_false {p : NumberPattern} {text : List Char} (h : p.IsNumeral text)
    (hp : p.PlainTexts) : ∀ c ∈ text, c.isAlpha = false := by
  obtain ⟨sign, body, rfl, hsign, -, hbody, -⟩ := h
  obtain ⟨hbefore, hafter, hpercent⟩ := hp
  have hplain {texts : List (List Char)} (htexts : texts.all (·.all fun c => !c.isAlpha) = true)
      {cs : List Char} (hcs : cs ∈ texts) : ∀ c ∈ cs, c.isAlpha = false := by
    intro c hc
    have hall := List.all_eq_true.1 (List.all_eq_true.1 htexts cs hcs) c hc
    simpa using hall
  intro c hc
  simp only [List.mem_append] at hc
  rcases hc with (((hc | hc) | hc) | hc) | hc
  · exact hplain (by decide) hsign c hc
  · exact hplain (by decide) hbefore c hc
  · rcases hbody c hc with hdigit | rfl | rfl
    · exact Number.isAlpha_eq_false_of_isDigit hdigit
    · decide
    · decide
  · exact hplain (by decide) hafter c hc
  · exact hplain (by decide) hpercent c hc

theorem Dressed.isNumeral {p : NumberPattern} {negative : Prop}
    {whole decimals sign grouped kept : List Char}
    (h : p.Dressed negative whole decimals sign grouped kept)
    (hwhole : ∀ c ∈ whole, c.isDigit = true) (hne : whole ≠ [])
    (hdecimals : ∀ c ∈ decimals, c.isDigit = true) :
    p.IsNumeral (sign ++ p.currencyBefore ++ grouped ++ fractionText kept ++ p.currencyAfter ++
      p.percent) := by
  have hgrouped : ∀ c ∈ grouped, c.isDigit = true ∨ c = ',' := by
    intro c hc
    by_cases hcomma : c = ','
    · exact Or.inr hcomma
    · refine Or.inl (hwhole c ?_)
      rw [← h.filter_grouped]
      exact List.mem_filter.2 ⟨hc, decide_eq_true hcomma⟩
  have hkept : ∀ c ∈ kept, c.isDigit = true := by
    obtain ⟨n, rfl⟩ := h.trimmed.exists_zeros
    exact fun c hc => hdecimals c (List.mem_append_left _ hc)
  refine ⟨sign, grouped ++ fractionText kept, by simp, h.sign_mem, ?_, ?_, ?_⟩
  · obtain ⟨c, rest, rfl⟩ := List.exists_cons_of_ne_nil hne
    have hc : c ∈ grouped.filter (· ≠ ',') := by
      rw [h.filter_grouped]
      exact List.mem_cons_self
    exact ⟨c, List.mem_append_left _ (List.mem_of_mem_filter hc), hwhole c (List.mem_cons_self)⟩
  · intro c hc
    rcases List.mem_append.1 hc with hc | hc
    · exact (hgrouped c hc).imp_right Or.inl
    · unfold fractionText at hc
      split at hc
      · cases hc
      · rcases List.mem_cons.1 hc with rfl | hc
        · exact Or.inr (Or.inr rfl)
        · exact Or.inl (hkept c hc)
  · have hnone : grouped.count '.' = 0 := by
      rw [List.count_eq_zero]
      intro hmem
      rcases hgrouped '.' hmem with hdigit | hcomma
      · exact ne_point_of_isDigit hdigit rfl
      · revert hcomma
        decide
    have hone : (fractionText kept).count '.' ≤ 1 := by
      have hzero : kept.count '.' = 0 := by
        rw [List.count_eq_zero]
        exact fun hmem => ne_point_of_isDigit (hkept '.' hmem) rfl
      unfold fractionText
      split <;> simp [hzero]
    rw [List.count_append]
    omega

/-- A word is laid out as it is. -/
theorem layout_word (p : NumberPattern) (negative : Bool) {word : List Char}
    (hword : word = ['N', 'a', 'N'] ∨ word = ['i', 'n', 'f']) :
    p.layout negative word =
      p.sign negative false ++ p.currencyBefore ++ word ++ p.currencyAfter ++ p.percent := by
  have htrimmed : trimDecimals p.optionalDecimals word = word := by
    unfold trimDecimals
    split
    · rfl
    · next hoptional =>
      obtain ⟨n, hn⟩ := Nat.exists_eq_succ_of_ne_zero hoptional
      rw [hn]
      rcases hword with rfl | rfl <;> simp [dropZeros, dropPoint]
  rw [layout, htrimmed]
  rcases hword with rfl | rfl <;> cases p.grouped <;> simp [groupThousands, groupReversed]

/-! ### What a pattern writes -/

variable {p : NumberPattern} {x : Float}

theorem exists_dressed_write (hfinite : (p.scaled x).isFinite = true) :
    ∃ whole decimals sign grouped kept,
      Places p.decimals (fixedText p.decimals (p.scaled x)) whole decimals ∧
      p.Dressed (p.scaled x < 0.0) whole decimals sign grouped kept ∧
      p.write x = sign ++ p.currencyBefore ++ grouped ++ fractionText kept ++ p.currencyAfter ++
        p.percent := by
  obtain ⟨whole, decimals, hplaces⟩ := Number.exists_places_of_isFinite hfinite p.decimals
  obtain ⟨sign, grouped, kept, hdressed, hlayout⟩ :=
    p.exists_dressed (decide (p.scaled x < 0.0)) hplaces
  rw [decide_eq_true_eq] at hdressed
  exact ⟨whole, decimals, sign, grouped, kept, hplaces, hdressed, hlayout⟩

theorem isNumeral_write (hfinite : (p.scaled x).isFinite = true) : p.IsNumeral (p.write x) := by
  obtain ⟨whole, decimals, sign, grouped, kept, hplaces, hdressed, hwritten⟩ :=
    exists_dressed_write hfinite
  rw [hwritten]
  exact hdressed.isNumeral hplaces.isDigit_whole hplaces.whole_ne_nil hplaces.isDigit_decimals

theorem not_isNumeral_write (hp : p.PlainTexts) (hfinite : (p.scaled x).isFinite = false) :
    ¬p.IsNumeral (p.write x) := by
  intro hnumeral
  have hword := Number.fixedText_of_not_isFinite hfinite p.decimals
  have hwritten := p.layout_word (decide (p.scaled x < 0.0)) hword
  change p.write x = _ at hwritten
  have hletter : ∃ c ∈ fixedText p.decimals (p.scaled x), c.isAlpha = true := by
    rcases hword with hword | hword
    · exact ⟨'N', by simp [hword], by decide⟩
    · exact ⟨'i', by simp [hword], by decide⟩
  obtain ⟨c, hc, halpha⟩ := hletter
  have hmem : c ∈ p.write x := by
    rw [hwritten]
    simp [hc]
  rw [hnumeral.isAlpha_eq_false hp c hmem] at halpha
  cases halpha

/-- A finite number has at least as many characters as decimals that may go. -/
theorem optionalDecimals_le_length (hfinite : (p.scaled x).isFinite = true) :
    p.optionalDecimals ≤ (fixedText p.decimals (p.scaled x)).length := by
  obtain ⟨whole, decimals, hplaces⟩ := Number.exists_places_of_isFinite hfinite p.decimals
  have hlength : decimals.length = p.fixedDecimals + p.optionalDecimals := hplaces.length_decimals
  have hfraction : decimals.length ≤ (fractionText decimals).length := by
    unfold fractionText
    split <;> simp_all
  rw [hplaces.text_eq_append, List.length_append]
  omega

end BlockTemplate.NumberPattern

namespace BlockTemplate

open Number (Places fixedText fractionText)
open NumberPattern (ofText)

/-- A number that is finite when it is written (a hundred times the value if the pattern has a
percent sign) is written with the digits of its magnitude, rounded to all decimals that the text of
the pattern asks for; a blank pattern asks for what `0,0` asks for. The digits before the point
stay, in groups if the pattern asks for them. Of those after it, zeros at the end go as far as the
pattern allows, and the point with the last of them. The number has a sign unless all digits are
zeros, and the texts of the pattern stand around it. -/
theorem formatNumber_regroups {x : Float} {pattern : List Char}
    (hfinite : (if '%' ∈ pattern then x * 100.0 else x).isFinite = true) :
    (ofText pattern).AskedBy (if pattern.all Text.isBlank then ['0', ',', '0'] else pattern) ∧
      let p := ofText pattern
      let value := if '%' ∈ pattern then x * 100.0 else x
      ∃ whole decimals sign grouped kept,
        Places (p.fixedDecimals + p.optionalDecimals)
          (fixedText (p.fixedDecimals + p.optionalDecimals) value) whole decimals ∧
        p.Dressed (value < 0.0) whole decimals sign grouped kept ∧
        formatNumber x pattern = sign ++ p.currencyBefore ++ grouped ++ fractionText kept ++
          p.currencyAfter ++ p.percent := by
  refine ⟨NumberPattern.askedBy_ofText pattern, ?_⟩
  intro p value
  have hvalue : p.scaled x = value := NumberPattern.scaled_ofText pattern x
  have hscaled : (p.scaled x).isFinite = true := by
    rw [hvalue]
    exact hfinite
  obtain ⟨whole, decimals, sign, grouped, kept, hplaces, hdressed, hwritten⟩ :=
    NumberPattern.exists_dressed_write hscaled
  rw [hvalue] at hplaces hdressed
  exact ⟨whole, decimals, sign, grouped, kept, hplaces, hdressed, hwritten⟩

/-- A percentage with all that a pattern can ask for: rounding carries into a new digit and a new
group, and two of three zeros after the point go. Then an amount below zero with the currency at
its end, where a comma after the point asks for no groups, and a blank pattern. -/
theorem formatNumber_regroups_of_carry :
    let x : Float := 9999.999996
    let pattern := "+$0,0.0[00] %".toList
    let p := ofText pattern
    let value := if '%' ∈ pattern then x * 100.0 else x
    value.isFinite = true ∧ p = ⟨true, true, 1, 2, ['$'], [], [' ', '%']⟩ ∧
      formatNumber x pattern = "+$1,000,000.0 %".toList ∧ p.AskedBy pattern ∧
      (∃ whole decimals sign grouped kept,
        Places (p.fixedDecimals + p.optionalDecimals)
          (fixedText (p.fixedDecimals + p.optionalDecimals) value) whole decimals ∧
        p.Dressed (value < 0.0) whole decimals sign grouped kept ∧
        formatNumber x pattern = sign ++ p.currencyBefore ++ grouped ++ fractionText kept ++
          p.currencyAfter ++ p.percent) ∧
      ofText "-0.[0,0]0 $".toList = ⟨false, false, 0, 3, [], [' ', '$'], []⟩ ∧
      formatNumber (-1234.5) "-0.[0,0]0 $".toList = "-1234.5 $".toList ∧
      ofText " \t".toList = ⟨false, true, 0, 0, [], [], []⟩ ∧
      formatNumber 1234567.5 " \t".toList = "1,234,568".toList := by
  intro x pattern p value
  have hfinite : value.isFinite = true := by decide +kernel
  have hnotBlank : ¬pattern.all Text.isBlank = true := by decide +kernel
  obtain ⟨hasked, hdressed⟩ := formatNumber_regroups hfinite
  rw [if_neg hnotBlank] at hasked
  exact ⟨hfinite, by decide +kernel, by decide +kernel, hasked, hdressed, by decide +kernel,
    by decide +kernel, by decide +kernel, by decide +kernel⟩

/-- What is written is a numeral exactly if the number that is written is finite; only a percentage
can be infinite where the value is not. A finite number has at least as many characters as decimals
that may go. -/
theorem formatNumber_isNumeral_iff (x : Float) (pattern : List Char) :
    (ofText pattern).PlainTexts ∧
      (((ofText pattern).scaled x).isFinite = true ↔
        (ofText pattern).IsNumeral (formatNumber x pattern)) ∧
      (((ofText pattern).scaled x).isFinite = true →
        (ofText pattern).optionalDecimals ≤
          (fixedText (ofText pattern).decimals ((ofText pattern).scaled x)).length) ∧
      ((ofText pattern).percent = [] → (ofText pattern).scaled x = x) := by
  have htexts : (ofText pattern).PlainTexts := (NumberPattern.askedBy_ofText pattern).plainTexts
  refine ⟨htexts, ⟨NumberPattern.isNumeral_write, ?_⟩,
    NumberPattern.optionalDecimals_le_length, fun hnone => if_pos hnone⟩
  intro hnumeral
  by_contra hfinite
  exact NumberPattern.not_isNumeral_write htexts (Bool.not_eq_true _ ▸ hfinite) hnumeral

/-- The greatest double, with more optional decimals than it needs. -/
theorem formatNumber_isNumeral_of_greatest :
    let x := Float.ofBits 0x7fefffffffffffff
    let pattern := "0,0.[0000]".toList
    let p := ofText pattern
    (p.scaled x).isFinite = true ∧ p.IsNumeral (formatNumber x pattern) ∧
      p.optionalDecimals ≤ (fixedText p.decimals (p.scaled x)).length := by
  intro x pattern p
  have hfinite : (p.scaled x).isFinite = true := by decide +kernel
  obtain ⟨-, hnumeral, hlength, -⟩ := formatNumber_isNumeral_iff x pattern
  exact ⟨hfinite, hnumeral.1 hfinite, hlength hfinite⟩

/-- A finite double whose percentage is infinite: a word is written, which has fewer characters than
a pattern can have optional decimals. -/
theorem formatNumber_infinite_percentage :
    let x : Float := 1e308
    x.isFinite = true ∧ formatNumber x "0%".toList = "inf%".toList ∧
      ¬(ofText "0%".toList).IsNumeral (formatNumber x "0%".toList) ∧
      let p := ofText "0.[0000]%".toList
      ¬p.optionalDecimals ≤ (fixedText p.decimals (p.scaled x)).length := by
  intro x
  have hwritten : formatNumber x "0%".toList = "inf%".toList := by decide +kernel
  refine ⟨by decide +kernel, hwritten, ?_, by decide +kernel⟩
  intro hnumeral
  rw [hwritten] at hnumeral
  have htexts := (NumberPattern.askedBy_ofText "0%".toList).plainTexts
  have hletter := hnumeral.isAlpha_eq_false htexts 'i' (by decide)
  revert hletter
  decide

end BlockTemplate
