import BlockTemplate.Calendar.Moment
import BlockTemplate.Proofs.Calendar.DayNumber

/-!
# Moments in universal time

Moments at one instant are the same moment in universal time. Its fields are those of any of them
with the offset taken away, where seconds that are too few or too many are borrowed from the day
before or carried to the day after.

Main statements: `Moment.instant_ofInstant`, `Moment.utc_utc`, `Moment.lessOffset_utc`.
-/

namespace BlockTemplate.Calendar.Moment

/-- Two moments at one instant, in any offsets. Nanoseconds count whole leap seconds as well. -/
structure SameInstant (m k : Moment) : Prop where
  instant_eq : m.instant = k.instant
  nanosecond_eq : m.nanosecond = k.nanosecond

/-- The second of the day, a leap second not counted. -/
def secondOfDay (m : Moment) : Nat := m.hour * 3600 + m.minute * 60 + m.second

/-- A time of a day of the calendar, in an offset of less than a day. -/
structure OnClock (m : Moment) : Prop where
  date : m.date.isValid = true
  hour : m.hour < 24
  minute : m.minute < 60
  second : m.second < 60
  offset : -86400 < m.offset ∧ m.offset < 86400

/-- The fields of a moment are those of another one less its offset: hours, minutes and seconds have
the offset taken away, with a day borrowed or carried where that leaves the day. -/
structure LessOffset (u m : Moment) : Prop where
  onClock : u.OnClock
  time : u.date = m.date.previous ∧ (u.secondOfDay : Int) = m.secondOfDay - m.offset + 86400 ∨
    u.date = m.date ∧ (u.secondOfDay : Int) = m.secondOfDay - m.offset ∨
    u.date = m.date.next ∧ (u.secondOfDay : Int) = m.secondOfDay - m.offset - 86400
  nanosecond : u.nanosecond = m.nanosecond
  offset : u.offset = 0

variable {m k : Moment}

theorem onClock_of_isValid (h : m.isValid = true) : m.OnClock := by
  simp only [isValid, Bool.and_eq_true, decide_eq_true_eq] at h
  obtain ⟨⟨⟨⟨⟨⟨⟨⟨hdate, hhour⟩, hminute⟩, hsecond⟩, -⟩, hafter⟩, hbefore⟩, -⟩, -⟩ := h
  exact ⟨hdate, by omega, by omega, by omega, hafter, hbefore⟩

theorem instant_eq (m : Moment) :
    m.instant = m.date.toDays * 86400 + m.secondOfDay - m.offset := rfl

theorem secondOfDay_ofInstant (instant : Int) (nanosecond : Nat) :
    ((ofInstant instant nanosecond).secondOfDay : Int) = instant % 86400 := by
  simp only [secondOfDay, ofInstant]
  omega

/-- The moment at an instant is at that instant. -/
theorem instant_ofInstant (instant : Int) (nanosecond : Nat) :
    (ofInstant instant nanosecond).instant = instant := by
  have hdays : (ofInstant instant nanosecond).date.toDays = instant / 86400 :=
    (Civil.toDays_ofDays _).1
  calc
    (ofInstant instant nanosecond).instant = instant / 86400 * 86400 + instant % 86400 - 0 := by
      rw [instant_eq, hdays, secondOfDay_ofInstant]
      rfl
    _ = instant := by omega

theorem sameInstant_utc (m : Moment) : m.utc.SameInstant m := ⟨instant_ofInstant _ _, rfl⟩

theorem SameInstant.utc_eq (h : m.SameInstant k) : m.utc = k.utc := by
  rw [utc, utc, h.instant_eq, h.nanosecond_eq]

theorem utc_utc (m : Moment) : m.utc.utc = m.utc := (sameInstant_utc m).utc_eq

theorem onClock_utc (m : Moment) : m.utc.OnClock := by
  constructor
  case date => exact (Civil.toDays_ofDays _).2
  all_goals simp only [utc, ofInstant]; omega

/-- Universal time is local time less the offset, by the calendar and by the clock. -/
theorem lessOffset_utc (h : m.OnClock) : m.utc.LessOffset m := by
  have htime : m.secondOfDay < 86400 := by
    have hhour := h.hour
    have hminute := h.minute
    have hsecond := h.second
    unfold secondOfDay
    omega
  have hinstant := instant_eq m
  have hsecond : (m.utc.secondOfDay : Int) = m.instant % 86400 := secondOfDay_ofInstant _ _
  have hdate : m.utc.date = Civil.ofDays (m.instant / 86400) := rfl
  obtain ⟨hafter, hbefore⟩ := h.offset
  refine ⟨onClock_utc m, ?_, rfl, rfl⟩
  rcases lt_or_ge ((m.secondOfDay : Int) - m.offset) 0 with hborrow | hstay
  · left
    have hday : m.instant / 86400 = m.date.toDays - 1 := by omega
    rw [hdate, hday, Civil.ofDays_sub_one h.date]
    exact ⟨rfl, by omega⟩
  rcases lt_or_ge ((m.secondOfDay : Int) - m.offset) 86400 with hstay' | hcarry
  · right; left
    have hday : m.instant / 86400 = m.date.toDays := by omega
    rw [hdate, hday, Civil.ofDays_toDays h.date]
    exact ⟨rfl, by omega⟩
  · right; right
    have hday : m.instant / 86400 = m.date.toDays + 1 := by omega
    rw [hdate, hday, Civil.ofDays_add_one h.date]
    exact ⟨rfl, by omega⟩

end BlockTemplate.Calendar.Moment
