import BlockTemplate.Roman
import Mathlib

/-!
# What counts as a Roman numeral

A text is a numeral by conditions on any of its parts: which characters stand in it, how often one
stands in a row, and that values rise once at a time. Its value is a sum over neighbours. Reading a
text symbol by symbol decides just that, whatever its length; the total is kept in a word of 32 bits
and so is right up to multiples of 2 ^ 32.

## Implementation notes

The reader keeps what it needs of the symbols behind it. `Reading.Tracks` says what that is in terms
of the endings of the list of their values, so that a step is compared with one more value at the
end of the list.

Main statements: `Reading.Tracks.exists_foldlM_iff`, `value?_eq_some_iff_isNumeral`.
-/

namespace BlockTemplate.Roman

/-! ### Numerals -/

/-- The sum of values, where one before a greater one is taken off. -/
def subtractiveSum : List UInt32 → Int
  | [] => 0
  | [v] => v.toNat
  | v :: w :: rest => (if v < w then -(v.toNat : Int) else v.toNat) + subtractiveSum (w :: rest)

/-- Values in an order that a numeral can have. -/
structure WellFormed (vs : List UInt32) : Prop where
  /-- No symbol but that for one stands more than three times in a row. -/
  no_run_of_four : ∀ v, v ≠ 1 → ¬List.replicate 4 v <:+: vs
  /-- The symbol for one stands at most four times in a row. -/
  no_run_of_five : ¬List.replicate 5 1 <:+: vs
  /-- No symbol before a greater one stands after a smaller one. -/
  no_double_rise : ∀ a b c, [a, b, c] <:+: vs → ¬(a < b ∧ b < c)

/-- A text that is a numeral, with the values of its symbols. -/
structure IsNumeral (cs : List Char) (vs : List UInt32) : Prop where
  ne_nil : cs ≠ []
  values : cs.map symbolValue? = vs.map some
  wellFormed : WellFormed vs

theorem wellFormed_iff {vs : List UInt32} :
    WellFormed vs ↔ (∀ v, ¬List.replicate (longestRun v + 1) v <:+: vs) ∧
      ∀ a b c, [a, b, c] <:+: vs → ¬(a < b ∧ b < c) := by
  constructor
  · refine fun h => ⟨fun v => ?_, h.no_double_rise⟩
    by_cases hv : v = 1
    · rw [hv]
      exact h.no_run_of_five
    · rw [longestRun, if_neg hv]
      exact h.no_run_of_four v hv
  · refine fun h => ⟨fun v hv => ?_, h.1 1, h.2⟩
    have hrun := h.1 v
    rwa [longestRun, if_neg hv] at hrun

theorem wellFormed_nil : WellFormed [] := by
  simp [wellFormed_iff, List.infix_nil]

/-! ### One more value -/

section

variable {vs us : List UInt32} {u v : UInt32}

theorem concat_suffix_concat_iff : us ++ [u] <:+ vs ++ [v] ↔ us <:+ vs ∧ u = v := by
  have hlength : [u].length = [v].length := rfl
  rw [List.suffix_append_inj_of_length_eq hlength, List.singleton_inj]

theorem concat_infix_concat_iff :
    us ++ [u] <:+: vs ++ [v] ↔ (us <:+ vs ∧ u = v) ∨ us ++ [u] <:+: vs := by
  rw [List.infix_concat_iff, concat_suffix_concat_iff]

/-- With one more value a list is in order if it was before, the new value does not stand too often
in a row, and does not rise after a rise. -/
theorem wellFormed_concat_iff :
    WellFormed (vs ++ [v]) ↔
      WellFormed vs ∧ ¬List.replicate (longestRun v) v <:+ vs ∧
        ∀ a b, [a, b] <:+ vs → ¬(a < b ∧ b < v) := by
  have hrise (a b c : UInt32) : [a, b, c] = [a, b] ++ [c] := rfl
  simp only [wellFormed_iff, List.replicate_succ', hrise, concat_infix_concat_iff, not_or]
  constructor
  · rintro ⟨hruns, hrises⟩
    exact ⟨⟨fun u => (hruns u).2, fun a b c habc => hrises a b c (.inr habc)⟩,
      fun hrun => (hruns v).1 ⟨hrun, rfl⟩, fun a b hab => hrises a b v (.inl ⟨hab, rfl⟩)⟩
  · rintro ⟨⟨hruns, hrises⟩, hrun, hrise⟩
    refine ⟨fun u => ⟨?_, hruns u⟩, ?_⟩
    · rintro ⟨hu, rfl⟩
      exact hrun hu
    · rintro a b c (⟨hab, rfl⟩ | habc)
      · exact hrise a b hab
      · exact hrises a b c habc

theorem wellFormed_of_append (h : WellFormed (vs ++ us)) : WellFormed vs := by
  induction us using List.reverseRecOn with
  | nil => rwa [List.append_nil] at h
  | append_singleton us u ih =>
      rw [← List.append_assoc] at h
      exact ih (wellFormed_concat_iff.1 h).1

/-- A value that is greater than the one before it takes that one off twice. -/
theorem subtractiveSum_concat (p : UInt32) :
    subtractiveSum (vs ++ [p, v]) =
      subtractiveSum (vs ++ [p]) + v.toNat - if p < v then 2 * (p.toNat : Int) else 0 := by
  induction vs with
  | nil =>
      simp only [List.nil_append, subtractiveSum]
      split <;> omega
  | cons w vs ih =>
      cases vs with
      | nil =>
          simp only [List.cons_append, List.nil_append, subtractiveSum] at ih ⊢
          split at ih <;> split <;> omega
      | cons x vs =>
          simp only [List.cons_append, subtractiveSum] at ih ⊢
          rw [ih]
          omega

end

/-! ### Reading -/

namespace Reading

variable {r r' : Reading} {vs us : List UInt32} {v : UInt32}

/-- How often a value stands at the end of what has been read. -/
def runOf (r : Reading) (value : UInt32) : Nat := if r.previous = some value then r.run else 0

/-- What the reader keeps of the values behind it. -/
structure Tracks (r : Reading) (vs : List UInt32) : Prop where
  total_eq : (r.total.toNat : Int) = subtractiveSum vs % 2 ^ 32
  previous_iff : ∀ p, r.previous = some p ↔ [p] <:+ vs
  subtracted_iff : r.subtracted = true ↔ ∃ a b, [a, b] <:+ vs ∧ a < b
  run_iff : ∀ v k, List.replicate k v <:+ vs ↔ k ≤ r.runOf v

theorem tracks_start : Tracks .start [] where
  total_eq := rfl
  previous_iff p := by simp [start]
  subtracted_iff := by simp [start]
  run_iff v k := by simp [start, runOf]

theorem Tracks.rises_iff (h : r.Tracks vs) : r.rises v = true ↔ ∃ p, [p] <:+ vs ∧ p < v := by
  simp only [← h.previous_iff, rises]
  cases r.previous with
  | none => simp
  | some p => simp

theorem Tracks.eq_nil (h : r.Tracks vs) (hprevious : r.previous = none) : vs = [] := by
  rcases List.eq_nil_or_concat vs with hnil | ⟨ws, p, rfl⟩
  · exact hnil
  · have hp := (h.previous_iff p).2 (by simp)
    rw [hprevious] at hp
    cases hp

theorem Tracks.sum_concat (h : r.Tracks vs) {p : UInt32} (hprevious : r.previous = some p) :
    subtractiveSum (vs ++ [v]) =
      subtractiveSum vs + v.toNat - if p < v then 2 * (p.toNat : Int) else 0 := by
  obtain ⟨ws, rfl⟩ := (h.previous_iff p).1 hprevious
  rw [List.append_assoc]
  exact subtractiveSum_concat p

/-- The total stays right up to multiples of the size of a word. -/
theorem Tracks.totalAfter_eq (h : r.Tracks vs) :
    ((r.totalAfter v).toNat : Int) = subtractiveSum (vs ++ [v]) % 2 ^ 32 := by
  have htotal := h.total_eq
  cases hprevious : r.previous with
  | none =>
      have hnil : vs = [] := h.eq_nil hprevious
      subst hnil
      simp only [totalAfter, hprevious, List.nil_append, subtractiveSum] at htotal ⊢
      rw [UInt32.toNat_add]
      omega
  | some p =>
      have hp : p.toNat < 2 ^ 32 := p.toNat_lt
      rw [h.sum_concat hprevious]
      simp only [totalAfter, hprevious]
      split
      · rw [UInt32.toNat_add, UInt32.toNat_sub, UInt32.toNat_sub]
        omega
      · rw [UInt32.toNat_add]
        omega

/-- What stands in the way of a symbol: a rise before it while it rises itself, or too many of
it. -/
def Refuses (r : Reading) (value : UInt32) : Prop :=
  r.rises value = true ∧ r.subtracted = true ∨ longestRun value ≤ r.runOf value

/-- What is kept after a symbol that is not refused. -/
def next (r : Reading) (value : UInt32) : Reading :=
  ⟨r.totalAfter value, some value, r.rises value, r.runOf value + 1⟩

theorem step_eq_some_iff : r.step v = some r' ↔ ¬r.Refuses v ∧ r.next v = r' := by
  have hrun : (if r.previous = some v then r.run + 1 else 1) = r.runOf v + 1 := by
    unfold runOf
    split <;> rfl
  simp only [step, hrun, Bool.and_eq_true, Nat.lt_succ_iff, Refuses, not_or]
  split
  · next hrise => simp [hrise]
  · next hrise =>
    split
    · next hlong => simp [hlong]
    · next hlong => simp [hrise, hlong, next]

theorem Tracks.double_rise_iff (h : r.Tracks vs) :
    (r.rises v = true ∧ r.subtracted = true) ↔ ∃ a b, [a, b] <:+ vs ∧ a < b ∧ b < v := by
  rw [h.rises_iff, h.subtracted_iff]
  constructor
  · rintro ⟨⟨p, hp, hpv⟩, a, b, hab, hlt⟩
    have hb : [b] <:+ vs := (List.suffix_append [a] [b]).trans hab
    have heq : p = b := by
      rw [← h.previous_iff] at hp hb
      exact Option.some.inj (hp.symm.trans hb)
    exact ⟨a, b, hab, hlt, heq ▸ hpv⟩
  · rintro ⟨a, b, hab, hlt, hbv⟩
    exact ⟨⟨b, (List.suffix_append [a] [b]).trans hab, hbv⟩, a, b, hab, hlt⟩

theorem Tracks.not_double_rise_iff (h : r.Tracks vs) :
    ¬(r.rises v = true ∧ r.subtracted = true) ↔ ∀ a b, [a, b] <:+ vs → ¬(a < b ∧ b < v) := by
  rw [h.double_rise_iff]
  simp only [not_exists, not_and]

/-- A symbol is refused just if its value breaks the order of those before it. -/
theorem Tracks.not_refuses_iff (h : r.Tracks vs) (hvs : WellFormed vs) :
    ¬r.Refuses v ↔ WellFormed (vs ++ [v]) := by
  rw [wellFormed_concat_iff, h.run_iff, Refuses, not_or, h.not_double_rise_iff]
  constructor
  · rintro ⟨hrise, hrun⟩
    exact ⟨hvs, hrun, hrise⟩
  · rintro ⟨-, hrun, hrise⟩
    exact ⟨hrise, hrun⟩

theorem Tracks.next (h : r.Tracks vs) : (r.next v).Tracks (vs ++ [v]) where
  total_eq := h.totalAfter_eq
  previous_iff p := by
    have hp : [p] <:+ vs ++ [v] ↔ [] <:+ vs ∧ p = v := @concat_suffix_concat_iff vs [] p v
    rw [hp]
    simp [Reading.next, eq_comm]
  subtracted_iff := by
    have hab (a b : UInt32) : [a, b] <:+ vs ++ [v] ↔ [a] <:+ vs ∧ b = v :=
      @concat_suffix_concat_iff vs [a] b v
    simp only [Reading.next, h.rises_iff, hab]
    constructor
    · rintro ⟨a, ha, hlt⟩
      exact ⟨a, v, ⟨ha, rfl⟩, hlt⟩
    · rintro ⟨a, b, ⟨ha, rfl⟩, hlt⟩
      exact ⟨a, ha, hlt⟩
  run_iff u k := by
    cases k with
    | zero => simp
    | succ k =>
        rw [List.replicate_succ', concat_suffix_concat_iff, h.run_iff]
        by_cases hu : u = v
        · simp [Reading.next, runOf, hu]
        · have hv : ¬v = u := fun heq => hu heq.symm
          simp [Reading.next, runOf, hu, hv]

/-- Reading goes over just the values that are in order. -/
theorem Tracks.exists_foldlM_iff (h : r.Tracks vs) (hvs : WellFormed vs) :
    (∃ r', us.foldlM step r = some r') ↔ WellFormed (vs ++ us) := by
  induction us generalizing r vs with
  | nil => simpa using hvs
  | cons u us ih =>
      have happend : vs ++ u :: us = (vs ++ [u]) ++ us := by simp
      rw [List.foldlM_cons, happend]
      constructor
      · rintro ⟨r', hread⟩
        obtain ⟨s, hstep, hrest⟩ := Option.bind_eq_some_iff.1 hread
        obtain ⟨hread, rfl⟩ := step_eq_some_iff.1 hstep
        exact (ih h.next ((h.not_refuses_iff hvs).1 hread)).1 ⟨r', hrest⟩
      · intro hwell
        have hone : WellFormed (vs ++ [u]) := wellFormed_of_append hwell
        obtain ⟨r', hrest⟩ := (ih h.next hone).2 hwell
        have hstep : r.step u = some (r.next u) :=
          step_eq_some_iff.2 ⟨(h.not_refuses_iff hvs).2 hone, rfl⟩
        exact ⟨r', Option.bind_eq_some_iff.2 ⟨_, hstep, hrest⟩⟩

theorem Tracks.foldlM (h : r.Tracks vs) (hread : us.foldlM step r = some r') :
    r'.Tracks (vs ++ us) := by
  induction us generalizing r vs with
  | nil =>
      cases hread
      rwa [List.append_nil]
  | cons u us ih =>
      obtain ⟨s, hstep, hrest⟩ := Option.bind_eq_some_iff.1 hread
      obtain ⟨-, rfl⟩ := step_eq_some_iff.1 hstep
      have hall := ih h.next hrest
      rwa [List.append_assoc] at hall

/-! ### Texts -/

theorem foldlM_stepChar {cs : List Char} (hvalues : cs.map symbolValue? = vs.map some) :
    cs.foldlM stepChar r = vs.foldlM step r := by
  induction cs generalizing r vs with
  | nil =>
      cases vs with
      | nil => rfl
      | cons v vs => cases hvalues
  | cons c cs ih =>
      cases vs with
      | nil => cases hvalues
      | cons v vs =>
          obtain ⟨hc, hcs⟩ := List.cons.inj hvalues
          simp only [List.foldlM_cons, stepChar, hc, Option.bind_some]
          exact bind_congr fun s => ih hcs

/-- Only symbols are read. -/
theorem exists_values {cs : List Char} (hread : cs.foldlM stepChar r = some r') :
    ∃ vs : List UInt32, cs.map symbolValue? = vs.map some := by
  induction cs generalizing r with
  | nil => exact ⟨[], rfl⟩
  | cons c cs ih =>
      obtain ⟨s, hstep, hrest⟩ := Option.bind_eq_some_iff.1 hread
      obtain ⟨v, hv, -⟩ := Option.bind_eq_some_iff.1 hstep
      obtain ⟨vs, hvs⟩ := ih hrest
      exact ⟨v :: vs, by rw [List.map_cons, List.map_cons, hv, hvs]⟩

end Reading

/-- The value of a text is the last total of reading it. -/
theorem value?_eq_some_iff {cs : List Char} {n : UInt32} :
    value? cs = some n ↔
      cs ≠ [] ∧ ∃ r, cs.foldlM Reading.stepChar .start = some r ∧ r.total = n := by
  unfold value?
  split
  · next hnil => simp [hnil]
  · next hne => simp [hne]

/-- Every numeral has a value. -/
theorem IsNumeral.exists_value? {cs : List Char} {vs : List UInt32} (h : IsNumeral cs vs) :
    ∃ n, value? cs = some n ∧ (n.toNat : Int) = subtractiveSum vs % 2 ^ 32 := by
  obtain ⟨r, hread⟩ := (Reading.tracks_start.exists_foldlM_iff wellFormed_nil).2 h.wellFormed
  have hvalue : value? cs = some r.total :=
    value?_eq_some_iff.2 ⟨h.ne_nil, r, (Reading.foldlM_stepChar h.values).trans hread, rfl⟩
  exact ⟨r.total, hvalue, (Reading.tracks_start.foldlM hread).total_eq⟩

/-- Of any length, a text has a value just if it is a numeral, and that value is the sum of the
numeral up to multiples of the size of a word. -/
theorem value?_eq_some_iff_isNumeral {cs : List Char} {n : UInt32} :
    value? cs = some n ↔
      ∃ vs, IsNumeral cs vs ∧ (n.toNat : Int) = subtractiveSum vs % 2 ^ 32 := by
  constructor
  · intro hvalue
    obtain ⟨hne, r, hread, rfl⟩ := value?_eq_some_iff.1 hvalue
    obtain ⟨vs, hvalues⟩ := Reading.exists_values hread
    rw [Reading.foldlM_stepChar hvalues] at hread
    have hwell : WellFormed vs :=
      (Reading.tracks_start.exists_foldlM_iff wellFormed_nil).1 ⟨r, hread⟩
    exact ⟨vs, ⟨hne, hvalues, hwell⟩, (Reading.tracks_start.foldlM hread).total_eq⟩
  · rintro ⟨vs, hnumeral, hn⟩
    obtain ⟨m, hm, hsum⟩ := hnumeral.exists_value?
    have heq : m = n := UInt32.toNat_inj.1 (Int.ofNat_inj.1 (hsum.trans hn.symm))
    rwa [heq] at hm

theorem isSome_value?_iff {cs : List Char} :
    (value? cs).isSome = true ↔ ∃ vs, IsNumeral cs vs := by
  rw [Option.isSome_iff_exists]
  constructor
  · rintro ⟨n, hn⟩
    obtain ⟨vs, hnumeral, -⟩ := value?_eq_some_iff_isNumeral.1 hn
    exact ⟨vs, hnumeral⟩
  · rintro ⟨vs, hnumeral⟩
    obtain ⟨n, hn, -⟩ := hnumeral.exists_value?
    exact ⟨n, hn⟩

/-! ### Upper and lower case -/

theorem symbolValue?_toLower (c : Char) : symbolValue? c.toLower = symbolValue? c := by
  rw [symbolValue?, symbolValue?, Char.toUpper_toLower_eq_toUpper]

/-- The case of its letters does not change the value of a numeral. -/
theorem value?_map_toLower (cs : List Char) : value? (cs.map Char.toLower) = value? cs := by
  have hstep : (fun (r : Reading) (c : Char) => r.stepChar c.toLower) = Reading.stepChar := by
    funext r c
    rw [Reading.stepChar, Reading.stepChar, symbolValue?_toLower]
  simp only [value?, List.map_eq_nil_iff, List.foldlM_map, hstep]

end BlockTemplate.Roman
