import BlockTemplate.NumberPattern
import BlockTemplate.Proofs.Text.Runs
import Mathlib

/-!
# What the text of a number pattern asks for

What a pattern asks for is said here of its text alone: which characters stand in it, before and
after its first point and its first bracket, and which marks stand at its ends.

Main statements: a text is read as what it asks for and as nothing else (`ofChars_eq_iff`); a blank
one asks for groups of whole numbers (`askedBy_ofText`).
-/

namespace BlockTemplate.NumberPattern

/-! ### Parts of a pattern -/

/-- A pattern is cut before its first point, and what follows the point before its first bracket.
Without a point, nothing follows. -/
structure Division (pattern whole fixed optional : List Char) : Prop where
  pattern_eq : pattern = whole ++ '.' :: (fixed ++ optional) ∨
    pattern = whole ∧ fixed = [] ∧ optional = []
  point_notMem : '.' ∉ whole
  bracket_notMem : '[' ∉ fixed
  bracket_first : ∀ c ∈ optional.head?, c = '['

/-- What is left of a pattern after the signs at its start. -/
structure Unsigned (pattern rest : List Char) : Prop where
  exists_signs : ∃ signs, pattern = signs ++ rest ∧ ∀ c ∈ signs, c = '+' ∨ c = '-'
  not_sign_first : ∀ c ∈ rest.head?, c ≠ '+' ∧ c ≠ '-'

/-- A mark is taken with its space if it stands with one, else without, and else not at all. -/
inductive Taken (stands : List Char → Prop) (spaced bare : List Char) : List Char → Prop
  | spaced (is : stands spaced) : Taken stands spaced bare spaced
  | bare (unspaced : ¬stands spaced) (is : stands bare) : Taken stands spaced bare bare
  | none (unspaced : ¬stands spaced) (unmarked : ¬stands bare) : Taken stands spaced bare []

/-- What the text of a pattern asks for. A currency is looked for at the start, signs left out, and
only if it does not stand there at the end; a percent sign is looked for anywhere. -/
structure AskedBy (p : NumberPattern) (pattern : List Char) : Prop where
  alwaysSign_iff : p.alwaysSign = true ↔ '+' ∈ pattern
  digits : ∃ whole fixed optional, Division pattern whole fixed optional ∧
    (p.grouped = true ↔ ',' ∈ whole) ∧
    p.fixedDecimals = fixed.count '0' ∧ p.optionalDecimals = optional.count '0'
  currency : ∃ rest, Unsigned pattern rest ∧
    Taken (· <+: rest) ['$', ' '] ['$'] p.currencyBefore ∧
    Taken (fun mark => ¬['$'] <+: rest ∧ mark <:+ pattern) [' ', '$'] ['$'] p.currencyAfter
  percent : Taken (· <:+: pattern) [' ', '%'] ['%'] p.percent

/-! ### Parts are found -/

section

variable {pattern whole fixed optional rest : List Char}

theorem endsRun_bracket_iff :
    EndsRun (· ≠ '[') optional ↔ ∀ c ∈ optional.head?, c = '[' := by
  simp [EndsRun]

theorem endsRun_sign_iff :
    EndsRun (fun c => c = '+' || c = '-') rest ↔ ∀ c ∈ rest.head?, c ≠ '+' ∧ c ≠ '-' := by
  simp [EndsRun]

namespace Division

theorem takeWhile_point (h : Division pattern whole fixed optional) :
    pattern.takeWhile (· ≠ '.') = whole := by
  have hwhole := forall_ne_of_notMem h.point_notMem
  obtain hpoint | ⟨rfl, -, -⟩ := h.pattern_eq
  · rw [hpoint]
    exact takeWhile_append_of_endsRun hwhole (by simp [EndsRun])
  · exact List.takeWhile_eq_self_iff.2 hwhole

theorem drop_point (h : Division pattern whole fixed optional) :
    (pattern.dropWhile (· ≠ '.')).drop 1 = fixed ++ optional := by
  have hwhole := forall_ne_of_notMem h.point_notMem
  obtain hpoint | ⟨rfl, hfixed, hoptional⟩ := h.pattern_eq
  · rw [hpoint, dropWhile_append_of_endsRun hwhole (by simp [EndsRun]), List.drop_one,
      List.tail_cons]
  · rw [List.dropWhile_eq_nil_iff.2 hwhole, hfixed, hoptional]
    rfl

theorem takeWhile_bracket (h : Division pattern whole fixed optional) :
    ((pattern.dropWhile (· ≠ '.')).drop 1).takeWhile (· ≠ '[') = fixed := by
  rw [h.drop_point]
  exact takeWhile_append_of_endsRun (forall_ne_of_notMem h.bracket_notMem)
    (endsRun_bracket_iff.2 h.bracket_first)

theorem dropWhile_bracket (h : Division pattern whole fixed optional) :
    ((pattern.dropWhile (· ≠ '.')).drop 1).dropWhile (· ≠ '[') = optional := by
  rw [h.drop_point]
  exact dropWhile_append_of_endsRun (forall_ne_of_notMem h.bracket_notMem)
    (endsRun_bracket_iff.2 h.bracket_first)

end Division

theorem division_parts (pattern : List Char) :
    let decimals := (pattern.dropWhile (· ≠ '.')).drop 1
    Division pattern (pattern.takeWhile (· ≠ '.')) (decimals.takeWhile (· ≠ '['))
      (decimals.dropWhile (· ≠ '[')) := by
  intro decimals
  constructor
  case pattern_eq =>
    have hparts : pattern.takeWhile (· ≠ '.') ++ pattern.dropWhile (· ≠ '.') = pattern :=
      List.takeWhile_append_dropWhile
    have hdecimals : decimals.takeWhile (· ≠ '[') ++ decimals.dropWhile (· ≠ '[') = decimals :=
      List.takeWhile_append_dropWhile
    cases htail : pattern.dropWhile (· ≠ '.') with
    | nil =>
      rw [htail, List.append_nil] at hparts
      have hnone : decimals = [] := by simp only [decimals, htail, List.drop_nil]
      exact .inr ⟨hparts.symm, by rw [hnone]; rfl, by rw [hnone]; rfl⟩
    | cons c tail =>
      obtain rfl : c = '.' := by
        have hc := endsRun_dropWhile (· ≠ '.') pattern c (by rw [htail]; rfl)
        simpa using hc
      have hrest : decimals = tail := by simp only [decimals, htail, List.drop_one, List.tail_cons]
      left
      rw [hdecimals, hrest, ← htail]
      exact hparts.symm
  case point_notMem => exact notMem_takeWhile_ne '.' pattern
  case bracket_notMem => exact notMem_takeWhile_ne '[' decimals
  case bracket_first => exact endsRun_bracket_iff.1 (endsRun_dropWhile _ decimals)

theorem Unsigned.dropWhile_sign (h : Unsigned pattern rest) :
    (pattern.dropWhile fun c => c = '+' || c = '-') = rest := by
  obtain ⟨⟨signs, rfl, hsigns⟩, hrest⟩ := h
  exact dropWhile_append_of_endsRun (by simpa using hsigns) (endsRun_sign_iff.2 hrest)

theorem unsigned_dropWhile (pattern : List Char) :
    Unsigned pattern (pattern.dropWhile fun c => c = '+' || c = '-') := by
  constructor
  case exists_signs =>
    refine ⟨pattern.takeWhile fun c => c = '+' || c = '-',
      List.takeWhile_append_dropWhile.symm, ?_⟩
    intro c hc
    simpa using List.mem_takeWhile_imp hc
  case not_sign_first => exact endsRun_sign_iff.1 (endsRun_dropWhile _ pattern)

end

/-! ### Marks are taken -/

namespace Taken

variable {stands : List Char → Prop} {spaced bare taken taken' : List Char}

/-- What is taken is determined by what stands. -/
theorem unique (h : Taken stands spaced bare taken) (h' : Taken stands spaced bare taken') :
    taken = taken' := by
  cases h with
  | spaced is =>
    cases h' with
    | spaced _ => rfl
    | bare unspaced _ => exact absurd is unspaced
    | none unspaced _ => exact absurd is unspaced
  | bare unspaced is =>
    cases h' with
    | spaced is' => exact absurd is' unspaced
    | bare _ _ => rfl
    | none _ unmarked => exact absurd is unmarked
  | none unspaced unmarked =>
    cases h' with
    | spaced is' => exact absurd is' unspaced
    | bare _ is' => exact absurd is' unmarked
    | none _ _ => rfl

theorem mem (h : Taken stands spaced bare taken) : taken ∈ [[], bare, spaced] := by
  cases h <;> simp

theorem of_tests {isSpaced isBare : Bool} (hspaced : isSpaced = true ↔ stands spaced)
    (hbare : isBare = true ↔ stands bare) :
    Taken stands spaced bare (if isSpaced then spaced else if isBare then bare else []) := by
  split
  · next h => exact .spaced (hspaced.1 h)
  · next h =>
    have hunspaced : ¬stands spaced := fun is => h (hspaced.2 is)
    split
    · next h' => exact .bare hunspaced (hbare.1 h')
    · next h' => exact .none hunspaced fun is => h' (hbare.2 is)

end Taken

/-! ### Reading -/

section

variable {p : NumberPattern} {pattern rest : List Char}

theorem taken_currencyBefore (h : Unsigned pattern rest) :
    Taken (· <+: rest) ['$', ' '] ['$'] (currencyBeforeOf pattern) := by
  rw [currencyBeforeOf, h.dropWhile_sign]
  exact .of_tests List.isPrefixOf_iff_prefix List.isPrefixOf_iff_prefix

theorem taken_currencyAfter (h : Unsigned pattern rest) :
    Taken (fun mark => ¬['$'] <+: rest ∧ mark <:+ pattern) [' ', '$'] ['$']
      (currencyAfterOf pattern) := by
  have hfirst : startsWithCurrency pattern = true ↔ ['$'] <+: rest := by
    rw [startsWithCurrency, h.dropWhile_sign, List.isPrefixOf_iff_prefix]
  unfold currencyAfterOf
  split
  · next hstarts =>
    have hbefore := hfirst.1 hstarts
    exact .none (fun is => is.1 hbefore) fun is => is.1 hbefore
  · next hstarts =>
    have hlast {mark : List Char} :
        Text.endsWith mark pattern = true ↔ ¬['$'] <+: rest ∧ mark <:+ pattern := by
      rw [Text.endsWith_iff_suffix, ← hfirst, and_iff_right hstarts]
    exact .of_tests hlast hlast

theorem taken_percent (pattern : List Char) :
    Taken (· <:+: pattern) [' ', '%'] ['%'] (percentOf pattern) := by
  have hbare : pattern.contains '%' = true ↔ ['%'] <:+: pattern := by
    rw [List.contains_iff_mem, List.singleton_infix_iff]
  exact .of_tests Text.contains_iff_infix hbare

theorem askedBy_ofChars (pattern : List Char) : (ofChars pattern).AskedBy pattern := by
  constructor
  case alwaysSign_iff => exact List.contains_iff_mem
  case digits => exact ⟨_, _, _, division_parts pattern, List.contains_iff_mem, rfl, rfl⟩
  case currency =>
    have hrest := unsigned_dropWhile pattern
    exact ⟨_, hrest, taken_currencyBefore hrest, taken_currencyAfter hrest⟩
  case percent => exact taken_percent pattern

theorem AskedBy.ofChars_eq (h : p.AskedBy pattern) : ofChars pattern = p := by
  obtain ⟨hsign, ⟨whole, fixed, optional, hdivision, hgrouped, hfixed, hoptional⟩,
    ⟨rest, hrest, hbefore, hafter⟩, hpercent⟩ := h
  cases p
  simp only [ofChars, hdivision.takeWhile_point, hdivision.takeWhile_bracket,
    hdivision.dropWhile_bracket, mk.injEq]
  refine ⟨?_, ?_, hfixed.symm, hoptional.symm, ?_, ?_, ?_⟩
  · rw [Bool.eq_iff_iff, List.contains_iff_mem, hsign]
  · rw [Bool.eq_iff_iff, List.contains_iff_mem, hgrouped]
  · exact (taken_currencyBefore hrest).unique hbefore
  · exact (taken_currencyAfter hrest).unique hafter
  · exact (taken_percent pattern).unique hpercent

theorem AskedBy.percent_eq_nil_iff (h : p.AskedBy pattern) : p.percent = [] ↔ '%' ∉ pattern := by
  have hpercent := h.percent
  generalize p.percent = mark at hpercent
  cases hpercent with
  | spaced is => simpa using is.subset (show '%' ∈ [' ', '%'] by simp)
  | bare _ is => simpa using is.subset (show '%' ∈ ['%'] by simp)
  | none _ unmarked => simpa [List.singleton_infix_iff] using unmarked

/-- A text is read as what it asks for, and as nothing else. -/
theorem ofChars_eq_iff : ofChars pattern = p ↔ p.AskedBy pattern := by
  constructor
  · rintro rfl
    exact askedBy_ofChars pattern
  · exact AskedBy.ofChars_eq

end

/-! ### Blank patterns -/

theorem trim_eq_nil_iff {cs : List Char} :
    Text.trim cs = [] ↔ cs.all Text.isBlank = true := by
  rw [Text.trim, Text.dropEndWhile, List.reverse_eq_nil_iff, List.dropWhile_eq_nil_iff,
    List.all_eq_true]
  constructor
  · intro hrest
    by_contra hblank
    obtain ⟨c, rest, hcons⟩ :=
      List.exists_cons_of_ne_nil (mt List.dropWhile_eq_nil_iff.1 hblank)
    have hfirst := endsRun_dropWhile Text.isBlank cs c (by simp [hcons])
    rw [hrest c (by simp [hcons])] at hfirst
    cases hfirst
  · intro hblank
    rw [List.dropWhile_eq_nil_iff.2 hblank]
    exact List.forall_mem_nil _

/-- A blank pattern asks for what `0,0` asks for, any other one for what its text says. -/
theorem askedBy_ofText (pattern : List Char) :
    (ofText pattern).AskedBy
      (if pattern.all Text.isBlank then ['0', ',', '0'] else pattern) := by
  rw [ofText]
  simp only [trim_eq_nil_iff]
  exact askedBy_ofChars _

/-- A percent sign anywhere in a pattern makes it write a hundred times the value. -/
theorem scaled_ofText (pattern : List Char) (x : Float) :
    (ofText pattern).scaled x = if '%' ∈ pattern then x * 100.0 else x := by
  have hpercent : (ofText pattern).percent = [] ↔ '%' ∉ pattern := by
    rw [(askedBy_ofText pattern).percent_eq_nil_iff]
    split
    · next hblank =>
      refine iff_of_true (by decide) fun hmem => ?_
      have hpercent := List.all_eq_true.1 hblank '%' hmem
      revert hpercent
      decide
    · exact Iff.rfl
  simp only [scaled, hpercent, ite_not]

end BlockTemplate.NumberPattern
