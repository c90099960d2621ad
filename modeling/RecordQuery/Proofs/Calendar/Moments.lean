import RecordQuery.Calendar.Layout
import RecordQuery.Instant
import RecordQuery.Proofs.Calendar.Days
import RecordQuery.Proofs.Instant

/-!
# Times of a day

Each date has an instant for each time of day, in universal time (`Date.instantAt`). The numbers of
a date and a time name that instant (`Date.instant?_parts`), numbers without a date name none
(`Date.instant?_eq_none`), and the instant is written with these numbers again
(`Date.inspect_instantAt`).
-/

namespace RecordQuery

/-- A second of a day. The sixtieth second of a minute is a leap second. -/
structure TimeOfDay where
  hour : Nat
  minute : Nat
  second : Nat
  hour_lt : hour < 24
  minute_lt : minute < 60
  second_le : second ≤ 60

namespace TimeOfDay

def midnight : TimeOfDay := ⟨0, 0, 0, by decide, by decide, by decide⟩

def leap (t : TimeOfDay) : Nat := if t.second = 60 then 1 else 0

/-- The seconds since midnight. A leap second is counted as the second before it. -/
def seconds (t : TimeOfDay) : Nat := 3600 * t.hour + 60 * t.minute + (t.second - t.leap)

variable (t : TimeOfDay)

theorem leap_cases : t.second = 60 ∧ t.leap = 1 ∨ t.second < 60 ∧ t.leap = 0 := by
  have hsecond := t.second_le
  unfold leap
  split <;> omega

theorem seconds_lt : t.seconds < 86400 := by
  have hhour := t.hour_lt
  have hminute := t.minute_lt
  have hleap := t.leap_cases
  unfold seconds
  omega

theorem seconds_hour : t.seconds / 3600 = t.hour := by
  have hminute := t.minute_lt
  have hleap := t.leap_cases
  unfold seconds
  omega

theorem seconds_minute : t.seconds / 60 % 60 = t.minute := by
  have hminute := t.minute_lt
  have hleap := t.leap_cases
  unfold seconds
  omega

theorem seconds_second : t.seconds % 60 + t.leap = t.second := by
  have hleap := t.leap_cases
  unfold seconds
  omega

end TimeOfDay

namespace Date

open Calendar

/-! ## The instant of a date and a time -/

def instantAt (d : Date) (t : TimeOfDay) : Instant where
  seconds := 86400 * d.dayNumber + t.seconds
  nanos := 1000000000 * t.leap
  begun := by
    have hday := firstDay_le_dayNumber d
    unfold firstSecond
    omega
  ended := by
    have hday := dayNumber_le_lastDay d
    have hseconds := t.seconds_lt
    unfold lastSecond
    omega
  nanos_lt := by
    have hleap := t.leap_cases
    omega
  leap_last := by
    have hleap := t.leap_cases
    unfold TimeOfDay.seconds
    omega

def midnight (d : Date) : Instant := d.instantAt .midnight

variable {d : Date} {t : TimeOfDay}

theorem ofParts?_eq (d : Date) : ofParts? d.year d.month d.day = some d :=
  dif_pos ⟨d.year_ge, d.year_le, d.month_pos, d.month_le, d.day_pos, d.day_le⟩

def parts (d : Date) (t : TimeOfDay) : Parts :=
  { year := d.year, month := d.month, day := d.day,
    hour := t.hour, minute := t.minute, second := t.second }

theorem instant?_parts (d : Date) (t : TimeOfDay) :
    (d.parts t).instant? = some (d.instantAt t) := by
  have hdate : ofParts? (d.parts t).year (d.parts t).month (d.parts t).day = some d := ofParts?_eq d
  have htime : t.hour < 24 ∧ t.minute < 60 ∧ t.second ≤ 60 := ⟨t.hour_lt, t.minute_lt, t.second_le⟩
  have hcount : Instant.ofSeconds? (86400 * d.dayNumber + t.seconds - 0) (0 + 1000000000 * t.leap) =
      some (d.instantAt t) :=
    Instant.ofSeconds?_eq_some_iff.2 ⟨(Int.sub_zero _).symm, (Nat.zero_add _).symm⟩
  rw [Parts.instant?, hdate]
  exact (if_pos htime).trans hcount

theorem instant?_eq_none {p : Parts} (h : ofParts? p.year p.month p.day = none) :
    p.instant? = none := by
  rw [Parts.instant?, h]
  rfl

/-! ## The instant written out -/

theorem seconds_div (d : Date) (t : TimeOfDay) : (d.instantAt t).seconds / 86400 = d.dayNumber := by
  have hseconds := t.seconds_lt
  change (86400 * d.dayNumber + t.seconds) / 86400 = d.dayNumber
  omega

theorem seconds_mod (d : Date) (t : TimeOfDay) :
    ((d.instantAt t).seconds % 86400).toNat = t.seconds := by
  have hseconds := t.seconds_lt
  change ((86400 * d.dayNumber + t.seconds) % 86400).toNat = t.seconds
  omega

theorem nanos_instantAt (d : Date) (t : TimeOfDay) :
    (if (d.instantAt t).isLeap then (1, (d.instantAt t).nanos - 1000000000)
      else (0, (d.instantAt t).nanos)) = (t.leap, 0) := by
  obtain ⟨-, hleap⟩ | ⟨-, hleap⟩ := t.leap_cases
  · simp [Instant.isLeap, instantAt, hleap]
  · simp [Instant.isLeap, instantAt, hleap]

theorem inspect_instantAt (hfirst : 0 ≤ d.year) (hlast : d.year ≤ 9999) (t : TimeOfDay) :
    (d.instantAt t).inspect = padded 4 d.year.toNat ++ "-" ++ padded 2 d.month ++ "-" ++
      padded 2 d.day ++ "T" ++ padded 2 t.hour ++ ":" ++ padded 2 t.minute ++ ":" ++
      padded 2 t.second ++ "Z" := by
  have hyear : Instant.yearText d.year = padded 4 d.year.toNat := if_pos ⟨hfirst, hlast⟩
  rw [Instant.inspect, seconds_div, ofDay_dayNumber, seconds_mod, nanos_instantAt]
  dsimp only
  rw [hyear, t.seconds_hour, t.seconds_minute, t.seconds_second]
  simp only [Instant.fractionText, if_true, toString, String.append_empty, String.append_assoc]

end Date

end RecordQuery
