import BlockTemplate.Proofs.Roman.Numeral

/-!
# The total of a Roman numeral

The total of a numeral is kept in a word of 32 bits without a check. No symbol stands four times in
a row except that for one, so that at least every fourth symbol adds little or is taken off: four
symbols make a total grow by 2999 at most. So a text of fewer than 5728532 characters never takes
the total out of the word, and its value is the sum itself.

## Implementation notes

`Reading.results` lists the exact results of the additions and subtractions of a step. What they can
come to is bounded by the number of symbols and a potential, which says how far the end of the
numeral is ahead of that rate. As long as all sums fit in the word the total is exact, so that the
first result out of the word is the first sum that does not fit.

Main statements: `staysInWord_iff_of_reaches`, `value?_eq_subtractiveSum`.
-/

namespace BlockTemplate.Roman

/-! ### Results -/

/-- The exact results of the additions and subtractions that a symbol brings about. -/
def Reading.results (r : Reading) (value : UInt32) : List Int :=
  match r.previous with
  | none => [(r.total.toNat : Int) + value.toNat]
  | some previous =>
    if previous < value then
      if r.subtracted then []
      else
        [(r.total.toNat : Int) - previous.toNat, (value.toNat : Int) - previous.toNat,
          ((r.total - previous).toNat : Int) + (value - previous).toNat]
    else [(r.total.toNat : Int) + value.toNat]

/-- The exact results of all additions and subtractions while a text is read. Those of a symbol that
stands too often in a row are made before it is refused. -/
def resultsFrom (r : Reading) : List Char → List Int
  | [] => []
  | c :: cs =>
    match symbolValue? c with
    | none => []
    | some value =>
      r.results value ++
        match r.step value with
        | none => []
        | some next => resultsFrom next cs

theorem resultsFrom_cons {r : Reading} {c : Char} {v : UInt32} (hc : symbolValue? c = some v)
    (cs : List Char) :
    resultsFrom r (c :: cs) =
      r.results v ++
        match r.step v with
        | none => []
        | some next => resultsFrom next cs := by
  simp only [resultsFrom, hc]

/-- A result is one of a symbol after a part that is read. -/
theorem exists_of_mem_resultsFrom {r : Reading} {cs : List Char} {z : Int}
    (hz : z ∈ resultsFrom r cs) :
    ∃ us c ds s v, cs = us ++ c :: ds ∧ us.foldlM Reading.stepChar r = some s ∧
      symbolValue? c = some v ∧ z ∈ s.results v := by
  induction cs generalizing r with
  | nil => cases hz
  | cons c cs ih =>
      cases hc : symbolValue? c with
      | none =>
          rw [resultsFrom, hc] at hz
          cases hz
      | some v =>
          rw [resultsFrom_cons hc] at hz
          rcases List.mem_append.1 hz with hz | hz
          · exact ⟨[], c, cs, r, v, rfl, rfl, hc, hz⟩
          · split at hz
            · cases hz
            · next hstep =>
              obtain ⟨us, d, ds, s, w, rfl, hread, hd, hz⟩ := ih hz
              refine ⟨c :: us, d, ds, s, w, rfl, ?_, hd, hz⟩
              rw [List.foldlM_cons, Reading.stepChar, hc, Option.bind_some, hstep]
              exact hread

theorem mem_resultsFrom {r r' : Reading} {cs : List Char} {c : Char} {v : UInt32} {z : Int}
    (hread : cs.foldlM Reading.stepChar r = some r') (hc : symbolValue? c = some v)
    (hz : z ∈ r'.results v) (ds : List Char) : z ∈ resultsFrom r (cs ++ c :: ds) := by
  induction cs generalizing r with
  | nil =>
      cases hread
      rw [List.nil_append, resultsFrom_cons hc]
      exact List.mem_append_left _ hz
  | cons d cs ih =>
      obtain ⟨s, hstep, hrest⟩ := Option.bind_eq_some_iff.1 hread
      obtain ⟨w, hd, hstep⟩ := Option.bind_eq_some_iff.1 hstep
      rw [List.cons_append, resultsFrom_cons hd, hstep]
      exact List.mem_append_right _ (ih hrest)

/-- Every addition and subtraction while a text is read comes to a number that a word of 32 bits
holds. -/
def StaysInWord (cs : List Char) : Prop := ∀ z ∈ resultsFrom .start cs, 0 ≤ z ∧ z < 2 ^ 32

/-! ### Bounds -/

/-- The values that symbols have. -/
def symbolValues : List UInt32 := [1000, 500, 100, 50, 10, 5, 1]

theorem mem_symbolValues {c : Char} {v : UInt32} (h : symbolValue? c = some v) :
    v ∈ symbolValues := by
  unfold symbolValue? at h
  split at h
  all_goals cases h
  all_goals decide

theorem toNat_of_mem_symbolValues {v : UInt32} (h : v ∈ symbolValues) :
    v.toNat = 1000 ∨ 1 ≤ v.toNat ∧ v.toNat ≤ 500 := by
  simp only [symbolValues, List.mem_cons, List.not_mem_nil, or_false] at h
  rcases h with rfl | rfl | rfl | rfl | rfl | rfl | rfl <;> decide

namespace Reading

variable {r r' : Reading} {vs us : List UInt32} {v : UInt32}

/-- How far four times the total may be ahead of 2999 for each symbol. -/
def potential (r : Reading) : Int :=
  match r.previous with
  | none => 0
  | some p => if p.toNat = 1000 then 1001 * r.run else 4 * p.toNat + 4

/-- Bounds on the sum of the values that have been read. -/
structure Bounded (r : Reading) (vs : List UInt32) : Prop where
  sum_nonneg : 0 ≤ subtractiveSum vs
  sum_le : 4 * subtractiveSum vs ≤ 2999 * vs.length + r.potential
  /-- The last symbol was added if it did not rise, so that it can be taken off. -/
  previous_le : ∀ p, r.previous = some p → r.subtracted = false → p.toNat ≤ subtractiveSum vs
  previous_mem : ∀ p, r.previous = some p → p ∈ symbolValues
  run_le : ∀ p, r.previous = some p → r.run ≤ longestRun p

theorem bounded_start : Bounded .start [] where
  sum_nonneg := le_rfl
  sum_le := le_rfl
  previous_le p h := by cases h
  previous_mem p h := by cases h
  run_le p h := by cases h

theorem potential_next (r : Reading) (v : UInt32) :
    (r.next v).potential =
      if v.toNat = 1000 then 1001 * (r.runOf v + 1 : Int) else 4 * v.toNat + 4 := by
  simp [potential, next]

theorem potential_eq {p : UInt32} (hprevious : r.previous = some p) :
    r.potential = if p.toNat = 1000 then 1001 * (r.run : Int) else 4 * p.toNat + 4 := by
  simp [potential, hprevious]

theorem Bounded.run_le_three (hb : r.Bounded vs) {p : UInt32} (hprevious : r.previous = some p)
    (hp : p.toNat = 1000) : r.run ≤ 3 := by
  have hrun := hb.run_le p hprevious
  have hne : p ≠ 1 := fun heq => by
    rw [heq] at hp
    exact absurd hp (by decide)
  rwa [longestRun, if_neg hne] at hrun

/-- A symbol that rises makes up for what it takes off. -/
theorem Bounded.potential_of_rises (hb : r.Bounded vs) {p : UInt32}
    (hprevious : r.previous = some p) (hlt : p.toNat < v.toNat) (hv : v ∈ symbolValues) :
    4 * ((v.toNat : Int) - 2 * p.toNat) + r.potential ≤ 2999 + (r.next v).potential := by
  have hvalue := toNat_of_mem_symbolValues hv
  have hpvalue := toNat_of_mem_symbolValues (hb.previous_mem p hprevious)
  have hne : p.toNat ≠ 1000 := by omega
  rw [potential_eq hprevious, if_neg hne, potential_next]
  split <;> omega

/-- A symbol that does not rise adds at most 2999 / 4, unless it is a thousand, after which the
total is ahead of that rate. -/
theorem Bounded.potential_of_not_rises (hb : r.Bounded vs) (hrise : r.rises v = false)
    (hv : v ∈ symbolValues) :
    4 * (v.toNat : Int) + r.potential ≤ 2999 + (r.next v).potential := by
  have hvalue := toNat_of_mem_symbolValues hv
  rw [potential_next]
  cases hprevious : r.previous with
  | none =>
      have hp : r.potential = 0 := by simp [potential, hprevious]
      rw [hp]
      split <;> omega
  | some p =>
      have hpvalue := toNat_of_mem_symbolValues (hb.previous_mem p hprevious)
      have hle : v.toNat ≤ p.toNat := by
        have hnlt : ¬p < v := by simpa [rises, hprevious] using hrise
        rw [UInt32.lt_iff_toNat_lt] at hnlt
        omega
      rw [potential_eq hprevious]
      by_cases hp : p.toNat = 1000
      · have hthree : r.run ≤ 3 := hb.run_le_three hprevious hp
        rw [if_pos hp]
        by_cases hv : v.toNat = 1000
        · have heq : p = v := UInt32.toNat_inj.1 (hp.trans hv.symm)
          have hrun : r.runOf v = r.run := by simp [runOf, hprevious, heq]
          rw [if_pos hv, hrun]
          omega
        · rw [if_neg hv]
          omega
      · rw [if_neg hp, if_neg (by omega)]
        omega

/-- A symbol that does not rise is added. -/
theorem Tracks.sum_of_not_rises (h : r.Tracks vs) (hrise : r.rises v = false) :
    subtractiveSum (vs ++ [v]) = subtractiveSum vs + v.toNat := by
  cases hprevious : r.previous with
  | none => simp [h.eq_nil hprevious, subtractiveSum]
  | some p =>
      have hle : ¬p < v := by simpa [rises, hprevious] using hrise
      rw [h.sum_concat hprevious, if_neg hle, Int.sub_zero]

/-- A symbol that rises stands after a smaller one, which is taken off twice. -/
theorem Tracks.sum_of_rises (h : r.Tracks vs) (hrise : r.rises v = true) :
    ∃ p, r.previous = some p ∧ p.toNat < v.toNat ∧
      subtractiveSum (vs ++ [v]) = subtractiveSum vs + v.toNat - 2 * (p.toNat : Int) := by
  cases hprevious : r.previous with
  | none => simp [rises, hprevious] at hrise
  | some p =>
      have hlt : p < v := by simpa [rises, hprevious] using hrise
      exact ⟨p, rfl, UInt32.lt_iff_toNat_lt.1 hlt, by rw [h.sum_concat hprevious, if_pos hlt]⟩

theorem Bounded.next (hb : r.Bounded vs) (h : r.Tracks vs) (hv : v ∈ symbolValues)
    (hread : ¬r.Refuses v) : (r.next v).Bounded (vs ++ [v]) := by
  have hprevious (p : UInt32) (hp : (r.next v).previous = some p) : p = v :=
    (Option.some.inj hp).symm
  obtain ⟨hdouble, hrun⟩ := not_or.1 hread
  have hle := hb.sum_le
  have hnonneg := hb.sum_nonneg
  have hlength : ((vs ++ [v]).length : Int) = vs.length + 1 := by simp
  cases hrise : r.rises v with
  | false =>
      have hsum := h.sum_of_not_rises hrise
      have hpotential := hb.potential_of_not_rises hrise hv
      refine ⟨by omega, by omega, ?_, ?_, ?_⟩
      · rintro p hp -
        rw [hprevious p hp]
        omega
      · exact fun p hp => hprevious p hp ▸ hv
      · exact fun p hp => hprevious p hp ▸ not_le.1 hrun
  | true =>
      obtain ⟨p, hp, hlt, hsum⟩ := h.sum_of_rises hrise
      have hpotential := hb.potential_of_rises hp hlt hv
      have hadded : r.subtracted = false := by simpa [hrise] using hdouble
      have hbefore := hb.previous_le p hp hadded
      refine ⟨by omega, by omega, ?_, ?_, ?_⟩
      · intro q _ hq
        exact absurd (hrise.symm.trans hq) (by decide)
      · exact fun p hp => hprevious p hp ▸ hv
      · exact fun p hp => hprevious p hp ▸ not_le.1 hrun

theorem Bounded.potential_le (hb : r.Bounded vs) : r.potential ≤ 3003 := by
  cases hprevious : r.previous with
  | none => simp [potential, hprevious]
  | some p =>
      have hpvalue := toNat_of_mem_symbolValues (hb.previous_mem p hprevious)
      rw [potential_eq hprevious]
      split
      · next hp =>
        have hthree : r.run ≤ 3 := hb.run_le_three hprevious hp
        omega
      · omega

/-- As long as the sum fits in the word, the total is the sum itself. -/
theorem Bounded.total_eq (hb : r.Bounded vs) (h : r.Tracks vs)
    (hfits : subtractiveSum vs < 2 ^ 32) : (r.total.toNat : Int) = subtractiveSum vs :=
  h.total_eq.trans (Int.emod_eq_of_lt hb.sum_nonneg hfits)

theorem results_of_not_rises (hrise : r.rises v = false) :
    r.results v = [(r.total.toNat : Int) + v.toNat] := by
  unfold rises at hrise
  unfold results
  cases hprevious : r.previous with
  | none => rfl
  | some p =>
      rw [hprevious] at hrise
      exact if_neg (by simpa using hrise)

theorem results_of_rises {p : UInt32} (hprevious : r.previous = some p) (hlt : p < v)
    (hadded : r.subtracted = false) :
    r.results v = [(r.total.toNat : Int) - p.toNat, (v.toNat : Int) - p.toNat,
      ((r.total - p).toNat : Int) + (v - p).toNat] := by
  simp [results, hprevious, hlt, hadded]

theorem results_of_double_rise (hrise : r.rises v = true) (hsubtracted : r.subtracted = true) :
    r.results v = [] := by
  unfold rises at hrise
  unfold results
  cases hprevious : r.previous with
  | none => simp [hprevious] at hrise
  | some p =>
      rw [hprevious] at hrise
      simp only [if_pos (of_decide_eq_true hrise), if_pos hsubtracted]

/-- From an exact total, a symbol stays in the word just if it is refused for a second rise or the
sum with it fits. -/
theorem Bounded.results_inWord_iff (hb : r.Bounded vs) (h : r.Tracks vs) (hv : v ∈ symbolValues)
    (hfits : subtractiveSum vs < 2 ^ 32) :
    (∀ z ∈ r.results v, 0 ≤ z ∧ z < 2 ^ 32) ↔
      (¬(r.rises v = true ∧ r.subtracted = true) → subtractiveSum (vs ++ [v]) < 2 ^ 32) := by
  have hvalue := toNat_of_mem_symbolValues hv
  have htotal := hb.total_eq h hfits
  have hnonneg := hb.sum_nonneg
  cases hrise : r.rises v with
  | false =>
      rw [results_of_not_rises hrise, h.sum_of_not_rises hrise, List.forall_mem_singleton, htotal]
      constructor
      · rintro ⟨-, hlt⟩ -
        exact hlt
      · intro hlt
        exact ⟨by omega, hlt (by simp)⟩
  | true =>
      obtain ⟨p, hprevious, hlt, hsum⟩ := h.sum_of_rises hrise
      cases hsubtracted : r.subtracted with
      | true => simp [results_of_double_rise hrise hsubtracted]
      | false =>
          have hbefore := hb.previous_le p hprevious hsubtracted
          have hless : (r.total - p).toNat = r.total.toNat - p.toNat :=
            UInt32.toNat_sub_of_le _ _ (UInt32.le_iff_toNat_le.2 (by omega))
          have hgap : (v - p).toNat = v.toNat - p.toNat :=
            UInt32.toNat_sub_of_le _ _ (UInt32.le_iff_toNat_le.2 hlt.le)
          rw [results_of_rises hprevious (UInt32.lt_iff_toNat_lt.2 hlt) hsubtracted, hsum]
          simp only [List.mem_cons, List.not_mem_nil, or_false, forall_eq_or_imp, forall_eq]
          constructor
          · rintro ⟨-, -, -, hlt⟩ -
            omega
          · intro hlt
            have hlt := hlt (by simp)
            refine ⟨?_, ?_, ?_⟩ <;> omega

theorem Bounded.foldlM (hb : r.Bounded vs) (h : r.Tracks vs) (hus : ∀ u ∈ us, u ∈ symbolValues)
    (hread : us.foldlM step r = some r') : r'.Bounded (vs ++ us) := by
  induction us generalizing r vs with
  | nil =>
      cases hread
      rwa [List.append_nil]
  | cons u us ih =>
      obtain ⟨s, hstep, hrest⟩ := Option.bind_eq_some_iff.1 hread
      obtain ⟨hread, rfl⟩ := step_eq_some_iff.1 hstep
      have hone := hb.next h (hus u List.mem_cons_self) hread
      have hall := ih hone h.next (fun w hw => hus w (List.mem_cons_of_mem _ hw)) hrest
      rwa [List.append_assoc] at hall

end Reading

/-! ### Sums that a text comes to -/

section

variable {r r' : Reading} {vs : List UInt32} {v : UInt32} {cs : List Char}

theorem mem_symbolValues_of_map (hvalues : cs.map symbolValue? = vs.map some) :
    ∀ v ∈ vs, v ∈ symbolValues := by
  intro v hv
  have hmem : some v ∈ cs.map symbolValue? := hvalues ▸ List.mem_map_of_mem hv
  obtain ⟨c, -, hc⟩ := List.mem_map.1 hmem
  exact mem_symbolValues hc

/-- Reading a text comes to a value if it begins with values in order before it, and it does not
rise after a rise. It may stand too often in a row, which is only seen when it has been added. -/
structure Reaches (cs : List Char) (vs : List UInt32) (v : UInt32) : Prop where
  begins : (vs ++ [v]).map some <+: cs.map symbolValue?
  wellFormed : WellFormed vs
  no_double_rise : ∀ a b, [a, b] <:+ vs → ¬(a < b ∧ b < v)

theorem reaches_of_begins (hbegins : (vs ++ [v]).map some <+: cs.map symbolValue?)
    (hwell : WellFormed (vs ++ [v])) : Reaches cs vs v := by
  obtain ⟨hbefore, -, hrise⟩ := wellFormed_concat_iff.1 hwell
  exact ⟨hbegins, hbefore, hrise⟩

theorem Reaches.init {u : UInt32} (h : Reaches cs (vs ++ [u]) v) : Reaches cs vs u := by
  have hshorter : (vs ++ [u]).map some <+: (vs ++ [u] ++ [v]).map some :=
    (List.prefix_append _ _).map some
  exact reaches_of_begins (hshorter.trans h.begins) h.wellFormed

theorem Reaches.exists_split (h : Reaches cs vs v) :
    ∃ us c ds, cs = us ++ c :: ds ∧ us.map symbolValue? = vs.map some ∧
      symbolValue? c = some v := by
  obtain ⟨rest, hrest⟩ := h.begins
  rw [List.map_append, List.append_assoc] at hrest
  obtain ⟨us, tail, rfl, hus, htail⟩ := List.map_eq_append_iff.1 hrest.symm
  obtain ⟨c, ds, rfl, hc, -⟩ := List.map_eq_cons_iff.1 htail
  exact ⟨us, c, ds, rfl, hus, hc⟩

/-- What is kept of values that can be read. -/
theorem WellFormed.exists_reading (hwell : WellFormed vs) (hvs : ∀ v ∈ vs, v ∈ symbolValues) :
    ∃ r, vs.foldlM Reading.step .start = some r ∧ r.Tracks vs ∧ r.Bounded vs := by
  obtain ⟨r, hread⟩ := (Reading.tracks_start.exists_foldlM_iff wellFormed_nil).2 hwell
  exact ⟨r, hread, Reading.tracks_start.foldlM hread,
    Reading.bounded_start.foldlM Reading.tracks_start hvs hread⟩

theorem Reaches.sum_lt (h : Reaches cs vs v) (hstays : StaysInWord cs)
    (hfits : subtractiveSum vs < 2 ^ 32) : subtractiveSum (vs ++ [v]) < 2 ^ 32 := by
  obtain ⟨us, c, ds, rfl, hus, hc⟩ := h.exists_split
  obtain ⟨r, hread, htracks, hb⟩ := h.wellFormed.exists_reading (mem_symbolValues_of_map hus)
  have hchars : us.foldlM Reading.stepChar .start = some r :=
    (Reading.foldlM_stepChar hus).trans hread
  have hresults : ∀ z ∈ r.results v, 0 ≤ z ∧ z < 2 ^ 32 := fun z hz =>
    hstays z (mem_resultsFrom hchars hc hz ds)
  have hrise := htracks.not_double_rise_iff.2 h.no_double_rise
  exact (hb.results_inWord_iff htracks (mem_symbolValues hc) hfits).1 hresults hrise

/-- A text stays in the word just if every sum that reading it comes to fits. -/
theorem staysInWord_iff_of_reaches :
    StaysInWord cs ↔ ∀ vs v, Reaches cs vs v → subtractiveSum (vs ++ [v]) < 2 ^ 32 := by
  constructor
  · intro hstays vs
    induction vs using List.reverseRecOn with
    | nil => exact fun v h => h.sum_lt hstays (by decide)
    | append_singleton vs u ih => exact fun v h => h.sum_lt hstays (ih u h.init)
  · intro hall z hz
    obtain ⟨us, c, ds, s, v, rfl, hchars, hc, hz⟩ := exists_of_mem_resultsFrom hz
    obtain ⟨vs, hus⟩ := Reading.exists_values hchars
    rw [Reading.foldlM_stepChar hus] at hchars
    have hwell : WellFormed vs :=
      (Reading.tracks_start.exists_foldlM_iff wellFormed_nil).1 ⟨s, hchars⟩
    have htracks : s.Tracks vs := Reading.tracks_start.foldlM hchars
    have hb : s.Bounded vs := Reading.bounded_start.foldlM Reading.tracks_start
      (mem_symbolValues_of_map hus) hchars
    have hmap : (us ++ c :: ds).map symbolValue? =
        vs.map some ++ some v :: ds.map symbolValue? := by
      rw [List.map_append, List.map_cons, hus, hc]
    have hfits : subtractiveSum vs < 2 ^ 32 := by
      rcases List.eq_nil_or_concat' vs with rfl | ⟨ws, w, rfl⟩
      · decide
      · exact hall ws w (reaches_of_begins (hmap ▸ List.prefix_append _ _) hwell)
    refine (hb.results_inWord_iff htracks (mem_symbolValues hc) hfits).2 (fun hrise => ?_) z hz
    refine hall vs v ⟨⟨ds.map symbolValue?, ?_⟩, hwell, htracks.not_double_rise_iff.1 hrise⟩
    rw [hmap, List.map_append, List.append_assoc]
    rfl

/-! ### Texts that are short enough -/

theorem WellFormed.sum_le (hwell : WellFormed vs) (hvs : ∀ v ∈ vs, v ∈ symbolValues) :
    0 ≤ subtractiveSum vs ∧ 4 * subtractiveSum vs ≤ 2999 * vs.length + 3003 := by
  obtain ⟨r, -, -, hb⟩ := hwell.exists_reading hvs
  have hle := hb.sum_le
  have hpotential := hb.potential_le
  exact ⟨hb.sum_nonneg, by omega⟩

theorem subtractiveSum_concat_le : subtractiveSum (vs ++ [v]) ≤ subtractiveSum vs + v.toNat := by
  rcases List.eq_nil_or_concat' vs with rfl | ⟨ws, w, rfl⟩
  · simp [subtractiveSum]
  · rw [List.append_assoc, List.singleton_append, subtractiveSum_concat]
    split <;> omega

/-- With fewer than 5728532 symbols in all, no addition or subtraction leaves the word. -/
theorem staysInWord_of_length_lt (hlength : cs.length < 5728532) : StaysInWord cs := by
  refine staysInWord_iff_of_reaches.2 fun vs v h => ?_
  obtain ⟨us, c, ds, rfl, hus, hc⟩ := h.exists_split
  have hvalue := toNat_of_mem_symbolValues (mem_symbolValues hc)
  have hsame : vs.length = us.length := by
    rw [← List.length_map some, ← hus, List.length_map]
  have hle := h.wellFormed.sum_le (mem_symbolValues_of_map hus)
  have hlast : subtractiveSum (vs ++ [v]) ≤ subtractiveSum vs + v.toNat := subtractiveSum_concat_le
  rw [List.length_append, List.length_cons] at hlength
  omega

/-- The sum of a numeral that is short enough fits in a word. -/
theorem IsNumeral.sum_emod (h : IsNumeral cs vs) (hlength : cs.length < 5728532) :
    subtractiveSum vs % 2 ^ 32 = subtractiveSum vs := by
  have hsame : vs.length = cs.length := by
    rw [← List.length_map some, ← h.values, List.length_map]
  obtain ⟨hnonneg, hle⟩ := h.wellFormed.sum_le (mem_symbolValues_of_map h.values)
  exact Int.emod_eq_of_lt hnonneg (by omega)

end

/-- A text of fewer than 5728532 characters has a value just if it is a numeral, and that value is
the sum where every symbol before a greater one is taken off. On the way no addition or subtraction
leaves the word, and none goes below zero. -/
theorem value?_eq_subtractiveSum {cs : List Char} (hlength : cs.length < 5728532) :
    (∀ z : Int, (value? cs).map (fun n => (n.toNat : Int)) = some z ↔
      ∃ vs, IsNumeral cs vs ∧ z = subtractiveSum vs) ∧ StaysInWord cs := by
  refine ⟨fun z => ?_, staysInWord_of_length_lt hlength⟩
  rw [Option.map_eq_some_iff]
  constructor
  · rintro ⟨n, hn, rfl⟩
    obtain ⟨vs, hnumeral, hsum⟩ := value?_eq_some_iff_isNumeral.1 hn
    exact ⟨vs, hnumeral, hsum.trans (hnumeral.sum_emod hlength)⟩
  · rintro ⟨vs, hnumeral, rfl⟩
    obtain ⟨n, hn, hsum⟩ := hnumeral.exists_value?
    exact ⟨n, hn, hsum.trans (hnumeral.sum_emod hlength)⟩

/-- Every symbol, in both cases, with every kind that is taken off, and a run of four. -/
theorem value?_eq_subtractiveSum_of_mixed_case :
    let cs := "dCMcDxClXLvIxIIII".toList
    cs.length < 5728532 ∧ value? cs = some 1998 ∧
      (∃ vs, IsNumeral cs vs ∧ 1998 = subtractiveSum vs) ∧ StaysInWord cs := by
  intro cs
  have hlength : cs.length < 5728532 := by decide
  have hvalue : value? cs = some 1998 := by decide
  obtain ⟨hsum, hstays⟩ := value?_eq_subtractiveSum hlength
  exact ⟨hlength, hvalue, (hsum 1998).1 (by rw [hvalue]; rfl), hstays⟩

end BlockTemplate.Roman
