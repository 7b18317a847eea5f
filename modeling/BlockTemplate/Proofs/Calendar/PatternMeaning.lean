import BlockTemplate.Calendar.Pattern
import Mathlib.Data.List.Nodup

/-!
# The names of a pattern and what they stand for

A pattern can name twenty-one parts of a moment. Each name has its text by the calendar and the
clock, with numbers in decimal digits of a width.

Main statement: the table of fields has these names and writes these texts (`mem_meanings_iff`).
-/

namespace BlockTemplate.Calendar

/-! ### Numbers and words -/

/-- A number in decimal digits, with zeros before them up to a width. -/
def digits (width n : Nat) : List Char := (Nat.toDigits 10 n).leftpad width '0'

/-- A year has four digits or more, and a sign outside the years of four digits. -/
def yearDigits (year : Int) : List Char :=
  if year < 0 then '-' :: digits 4 year.natAbs
  else if year ≤ 9999 then digits 4 year.natAbs
  else '+' :: digits 4 year.natAbs

/-- The months by their numbers. -/
def monthWord : Nat → List Char
  | 1 => "January".toList
  | 2 => "February".toList
  | 3 => "March".toList
  | 4 => "April".toList
  | 5 => "May".toList
  | 6 => "June".toList
  | 7 => "July".toList
  | 8 => "August".toList
  | 9 => "September".toList
  | 10 => "October".toList
  | 11 => "November".toList
  | 12 => "December".toList
  | _ => []

/-- The days of the week by their numbers. -/
def weekdayWord : Nat → List Char
  | 0 => "Sunday".toList
  | 1 => "Monday".toList
  | 2 => "Tuesday".toList
  | 3 => "Wednesday".toList
  | 4 => "Thursday".toList
  | 5 => "Friday".toList
  | 6 => "Saturday".toList
  | _ => []

/-- The ending of an ordinal goes by its last digit, but for eleven, twelve and thirteen. -/
def ordinalEnding (n : Nat) : List Char :=
  if n % 10 = 1 ∧ n % 100 ≠ 11 then "st".toList
  else if n % 10 = 2 ∧ n % 100 ≠ 12 then "nd".toList
  else if n % 10 = 3 ∧ n % 100 ≠ 13 then "rd".toList
  else "th".toList

/-- The hour on a dial from one to twelve. -/
def onDial (hour : Nat) : Nat := (hour + 11) % 12 + 1

/-- The names that a pattern can have, with what each says about a moment. A leap second is the
second sixty. -/
def meanings (m : Moment) : List (String × List Char) :=
  [ ("YYYY", yearDigits m.date.year),
    ("YY", digits 2 (m.date.year % 100).toNat),
    ("MMMM", monthWord m.date.month),
    ("MMM", (monthWord m.date.month).take 3),
    ("MM", digits 2 m.date.month),
    ("M", digits 1 m.date.month),
    ("Do", digits 1 m.date.day ++ ordinalEnding m.date.day),
    ("DD", digits 2 m.date.day),
    ("D", digits 1 m.date.day),
    ("dddd", weekdayWord m.date.weekday),
    ("ddd", (weekdayWord m.date.weekday).take 3),
    ("HH", digits 2 m.hour),
    ("H", digits 1 m.hour),
    ("hh", digits 2 (onDial m.hour)),
    ("h", digits 1 (onDial m.hour)),
    ("mm", digits 2 m.minute),
    ("m", digits 1 m.minute),
    ("ss", digits 2 (m.second + m.nanosecond / 1000000000)),
    ("s", digits 1 (m.second + m.nanosecond / 1000000000)),
    ("A", if m.hour < 12 then "AM".toList else "PM".toList),
    ("a", if m.hour < 12 then "am".toList else "pm".toList) ]

/-! ### What the table of fields writes -/

theorem digitChar_eq {d : Nat} (h : d < 10) : Number.digitChar d = Nat.digitChar d := by
  match d with
  | 0 | 1 | 2 | 3 | 4 | 5 | 6 | 7 | 8 | 9 => rfl
  | d + 10 => omega

theorem natText_eq_toDigits (n : Nat) : Number.natText n = Nat.toDigits 10 n := by
  fun_induction Number.natText n with
  | case1 n h => rw [Nat.toDigits_of_lt_base h, digitChar_eq h]
  | case2 n h ih =>
      rw [Nat.toDigits_of_base_le (by decide) (Nat.not_lt.1 h), ih,
        digitChar_eq (Nat.mod_lt n (by decide))]

theorem padded_eq_digits (width n : Nat) : padded width n = digits width n := by
  rw [padded, natText_eq_toDigits]
  rfl

theorem natText_eq_digits (n : Nat) : Number.natText n = digits 1 n := by
  have hlength : 1 - (Nat.toDigits 10 n).length = 0 :=
    Nat.sub_eq_zero_of_le Nat.length_toDigits_pos
  rw [natText_eq_toDigits, digits, List.leftpad, hlength]
  rfl

theorem yearText_eq (year : Int) : yearText year = yearDigits year := by
  simp only [yearText, yearDigits, padded_eq_digits]
  by_cases hnegative : year < 0
  · have hout : ¬(0 ≤ year ∧ year ≤ 9999) := by omega
    simp [hnegative, hout]
  · have hnat : year.toNat = year.natAbs := by omega
    by_cases hlarge : year ≤ 9999 <;> simp [hnegative, hlarge, hnat]

theorem monthName_eq (c : Civil) : c.monthName = monthWord c.month := by
  obtain ⟨year, month, day⟩ := c
  match month with
  | 0 | 1 | 2 | 3 | 4 | 5 | 6 | 7 | 8 | 9 | 10 | 11 | 12 => rfl
  | month + 13 => rfl

theorem weekdayName_eq (c : Civil) : c.weekdayName = weekdayWord c.weekday := by
  unfold Civil.weekdayName
  match c.weekday with
  | 0 | 1 | 2 | 3 | 4 | 5 | 6 => rfl
  | weekday + 7 => rfl

theorem dialHour_eq (m : Moment) : m.dialHour = onDial m.hour := by
  unfold Moment.dialHour onDial
  split <;> omega

theorem ordinalText_eq (n : Nat) : ordinalText n = digits 1 n ++ ordinalEnding n := by
  rw [ordinalText, natText_eq_digits, ordinalEnding]
  congr 1
  by_cases hteens : 11 ≤ n % 100 ∧ n % 100 ≤ 13
  · rw [if_pos hteens, if_neg (by omega), if_neg (by omega), if_neg (by omega)]
    rfl
  · rw [if_neg hteens]
    split
    · next hone =>
      rw [if_pos (by omega)]
      rfl
    · next htwo =>
      rw [if_neg (by omega), if_pos (by omega)]
      rfl
    · next hthree =>
      rw [if_neg (by omega), if_neg (by omega), if_pos (by omega)]
      rfl
    · next hone htwo hthree =>
      rw [if_neg (by tauto), if_neg (by tauto), if_neg (by tauto)]
      rfl

/-- What a field says about a moment. -/
def Field.text (m : Moment) : Field → List Char
  | directive d => d.text m
  | ordinalDay => ordinalText m.date.day

/-- Every field has a name and a text of the list. -/
theorem mem_meanings_of_mem (m : Moment) : ∀ entry ∈ fieldNames,
    (String.ofList entry.1, entry.2.text m) ∈ meanings m := by
  simp only [fieldNames, List.forall_mem_cons, Field.text, Directive.text, padded_eq_digits,
    natText_eq_digits, yearText_eq, monthName_eq, weekdayName_eq, dialHour_eq, ordinalText_eq,
    Moment.shownSecond, meanings]
  simp

theorem exists_field_of_mem {m : Moment} {name : String} {text : List Char}
    (h : (name, text) ∈ meanings m) : ∃ field, (name.toList, field) ∈ fieldNames := by
  have hnames : ∀ entry ∈ meanings m, ∃ field, (entry.1.toList, field) ∈ fieldNames := by
    simp [meanings, fieldNames]
  exact hnames _ h

theorem nodup_map_fst_meanings (m : Moment) : ((meanings m).map Prod.fst).Nodup := by
  simp [meanings]

/-- The table of fields has the names of the list, and what it writes for them is what they say. -/
theorem mem_meanings_iff {m : Moment} {name : String} {text : List Char} :
    (name, text) ∈ meanings m ↔
      ∃ field, (name.toList, field) ∈ fieldNames ∧ field.text m = text := by
  constructor
  · intro h
    obtain ⟨field, hfield⟩ := exists_field_of_mem h
    have hsaid := mem_meanings_of_mem m _ hfield
    rw [String.ofList_toList] at hsaid
    have hone := List.inj_on_of_nodup_map (nodup_map_fst_meanings m) hsaid h rfl
    exact ⟨field, hfield, congrArg Prod.snd hone⟩
  · rintro ⟨field, hfield, rfl⟩
    have hsaid := mem_meanings_of_mem m _ hfield
    rwa [String.ofList_toList] at hsaid

end BlockTemplate.Calendar
