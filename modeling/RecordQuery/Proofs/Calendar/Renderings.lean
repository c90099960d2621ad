import RecordQuery.Proofs.Calendar.Marks
import RecordQuery.Proofs.Calendar.Moments
import RecordQuery.Proofs.Calendar.Padded

/-!
# Written dates

The forms in which a date can be written, with zeros in front of short numbers. Each form is
refused by the layouts that are tried before its own, for want of a mark or of an offset, and its
own layout reads the numbers back. Only a date with the day first can be taken for another one: it
is read month first when that names a date (`readDate_written`).
-/

namespace RecordQuery.Calendar

open Layout

variable {y m d hour minute second : Nat}

/-! ## Numbers read back -/

theorem toList_separated {separator : String} {c : Char} (h : separator.toList = [c])
    (s t u : String) : (s ++ separator ++ t ++ separator ++ u).toList =
      s.toList ++ c :: (t.toList ++ c :: (u.toList ++ [])) := by
  simp [h]

theorem toList_dateTime (s t u v w x : String) :
    (s ++ "-" ++ t ++ "-" ++ u ++ "T" ++ v ++ ":" ++ w ++ ":" ++ x).toList =
      s.toList ++ '-' :: (t.toList ++ '-' :: (u.toList ++ 'T' ::
        (v.toList ++ ':' :: (w.toList ++ ':' :: (x.toList ++ []))))) := by
  simp

theorem read_yearFirst (hy : y < 10 ^ 4) (hm : m < 10 ^ 2) (hd : d < 10 ^ 2) :
    yearFirst.read (padded 4 y ++ "-" ++ padded 2 m ++ "-" ++ padded 2 d) =
      some { year := y, month := m, day := d } := by
  rw [Layout.read, toList_separated (c := '-') rfl, yearFirst, readFrom_loose .year hy rfl,
    readFrom_mark (by decide), readFrom_loose .month hm rfl, readFrom_mark (by decide),
    readFrom_loose .day hd rfl]
  rfl

theorem read_monthFirst (hm : m < 10 ^ 2) (hd : d < 10 ^ 2) (hy : y < 10 ^ 4) :
    monthFirst.read (padded 2 m ++ "/" ++ padded 2 d ++ "/" ++ padded 4 y) =
      some { year := y, month := m, day := d } := by
  rw [Layout.read, toList_separated (c := '/') rfl, monthFirst, readFrom_loose .month hm rfl,
    readFrom_mark (by decide), readFrom_loose .day hd rfl, readFrom_mark (by decide),
    readFrom_loose .year hy rfl]
  rfl

theorem read_dayFirst (hd : d < 10 ^ 2) (hm : m < 10 ^ 2) (hy : y < 10 ^ 4) :
    dayFirst.read (padded 2 d ++ "/" ++ padded 2 m ++ "/" ++ padded 4 y) =
      some { year := y, month := m, day := d } := by
  rw [Layout.read, toList_separated (c := '/') rfl, dayFirst, readFrom_loose .day hd rfl,
    readFrom_mark (by decide), readFrom_loose .month hm rfl, readFrom_mark (by decide),
    readFrom_loose .year hy rfl]
  rfl

section DateTime

variable (hy : y < 10 ^ 4) (hm : m < 10 ^ 2) (hd : d < 10 ^ 2) (hhour : hour < 10 ^ 2)
  (hminute : minute < 10 ^ 2) (hsecond : second < 10 ^ 2)
include hy hm hd hhour hminute hsecond

theorem read_dateTime :
    dateTime.read (padded 4 y ++ "-" ++ padded 2 m ++ "-" ++ padded 2 d ++ "T" ++
        padded 2 hour ++ ":" ++ padded 2 minute ++ ":" ++ padded 2 second) =
      some { year := y, month := m, day := d, hour, minute, second } := by
  rw [Layout.read, toList_dateTime, dateTime, readFrom_loose .year hy rfl,
    readFrom_mark (by decide), readFrom_loose .month hm rfl, readFrom_mark (by decide),
    readFrom_loose .day hd rfl, readFrom_mark (by decide), readFrom_loose .hour hhour rfl,
    readFrom_mark (by decide), readFrom_loose .minute hminute rfl, readFrom_mark (by decide),
    readFrom_loose .second hsecond rfl]
  rfl

/-- A date and time in full does not end without an offset. -/
theorem read_internet :
    internet.read (padded 4 y ++ "-" ++ padded 2 m ++ "-" ++ padded 2 d ++ "T" ++
        padded 2 hour ++ ":" ++ padded 2 minute ++ ":" ++ padded 2 second) = none := by
  rw [Layout.read, toList_dateTime, internet, readFrom_exact .year hy rfl,
    readFrom_mark (by decide), readFrom_exact .month hm rfl, readFrom_mark (by decide),
    readFrom_exact .day hd rfl, readFrom_mark (by decide), readFrom_exact .hour hhour rfl,
    readFrom_mark (by decide), readFrom_exact .minute hminute rfl, readFrom_mark (by decide),
    readFrom_exact .second hsecond rfl]
  rfl

end DateTime

/-! ## Layouts that refuse a form -/

theorem not_mem_separated {separator : String} {c : Char} {i j k x y z : Nat}
    (hdigit : c.isDigit = false) (hseparator : c ∉ separator.toList) :
    c ∉ (padded i x ++ separator ++ padded j y ++ separator ++ padded k z).toList := by
  have hpadded : ∀ i n, c ∉ (padded i n).toList := fun _ _ => not_mem_padded hdigit
  simp only [String.toList_append, List.mem_append, not_or]
  exact ⟨⟨⟨⟨hpadded i x, hseparator⟩, hpadded j y⟩, hseparator⟩, hpadded k z⟩

theorem instant?_eq_none_of_colon {s : String} (hcolon : ':' ∉ s.toList) :
    ∀ earlier ∈ [internet, dateTime], earlier.instant? s = none := by
  have hinternet : .mark [':'] ∈ internet := by simp [internet]
  have hdateTime : .mark [':'] ∈ dateTime := by simp [dateTime]
  exact List.forall_mem_cons.2 ⟨instant?_eq_none_of_mark hinternet hcolon,
    List.forall_mem_singleton.2 (instant?_eq_none_of_mark hdateTime hcolon)⟩

theorem slashes_refused {i j k x y z : Nat} : ∀ earlier ∈ [internet, dateTime, yearFirst],
    earlier.instant? (padded i x ++ "/" ++ padded j y ++ "/" ++ padded k z) = none := by
  have hmark : .mark ['-'] ∈ yearFirst := by simp [yearFirst]
  exact List.forall_mem_append.2
    ⟨instant?_eq_none_of_colon (not_mem_separated rfl (by decide)),
      List.forall_mem_singleton.2
        (instant?_eq_none_of_mark hmark (not_mem_separated rfl (by decide)))⟩

end RecordQuery.Calendar

namespace RecordQuery.Date

open Calendar Calendar.Layout

/-! ## Dates -/

variable {d : Date}

theorem month_lt (d : Date) : d.month < 10 ^ 2 := Nat.lt_of_le_of_lt d.month_le (by decide)

theorem day_lt (d : Date) : d.day < 10 ^ 2 :=
  Nat.lt_of_le_of_lt (d.day_le.trans (daysInMonth_bounds d.year d.month).2) (by decide)

theorem instant?_of_read {layout : Layout} {s : String} (hfirst : 0 ≤ d.year) (t : TimeOfDay)
    (h : layout.read s = some
      { year := d.year.toNat, month := d.month, day := d.day,
        hour := t.hour, minute := t.minute, second := t.second }) :
    layout.instant? s = some (d.instantAt t) := by
  rw [Int.toNat_of_nonneg hfirst] at h
  rw [Layout.instant?, h]
  exact instant?_parts d t

section Years

variable (hfirst : 0 ≤ d.year) (hlast : d.year ≤ 9999)
include hfirst hlast

theorem year_lt : d.year.toNat < 10 ^ 4 := by
  have hlt : d.year.toNat < 10000 := by omega
  exact hlt

theorem readDate_yearFirst :
    readDate (padded 4 d.year.toNat ++ "-" ++ padded 2 d.month ++ "-" ++ padded 2 d.day) =
      some d.midnight := by
  have hread := read_yearFirst (year_lt hfirst hlast) d.month_lt d.day_lt
  exact readDate_eq_some [internet, dateTime] _ rfl
    (instant?_eq_none_of_colon (not_mem_separated rfl (by decide)))
    (instant?_of_read hfirst .midnight hread)

theorem readDate_monthFirst :
    readDate (padded 2 d.month ++ "/" ++ padded 2 d.day ++ "/" ++ padded 4 d.year.toNat) =
      some d.midnight := by
  have hread := read_monthFirst d.month_lt d.day_lt (year_lt hfirst hlast)
  exact readDate_eq_some [internet, dateTime, yearFirst] _ rfl slashes_refused
    (instant?_of_read hfirst .midnight hread)

theorem readDate_dateTime (t : TimeOfDay) :
    readDate (padded 4 d.year.toNat ++ "-" ++ padded 2 d.month ++ "-" ++ padded 2 d.day ++ "T" ++
        padded 2 t.hour ++ ":" ++ padded 2 t.minute ++ ":" ++ padded 2 t.second) =
      some (d.instantAt t) := by
  have hhour : t.hour < 10 ^ 2 := t.hour_lt.trans (by decide)
  have hminute : t.minute < 10 ^ 2 := t.minute_lt.trans (by decide)
  have hsecond : t.second < 10 ^ 2 := Nat.lt_of_le_of_lt t.second_le (by decide)
  have hy := year_lt hfirst hlast
  have hrefused := read_internet hy d.month_lt d.day_lt hhour hminute hsecond
  have hread := read_dateTime hy d.month_lt d.day_lt hhour hminute hsecond
  refine readDate_eq_some [internet] _ rfl ?_ (instant?_of_read hfirst t hread)
  exact List.forall_mem_singleton.2 (by rw [Layout.instant?, hrefused]; rfl)

/-- A day after the twelfth is no month, so the date is not read month first. -/
theorem readDate_dayFirst (hday : 12 < d.day) :
    readDate (padded 2 d.day ++ "/" ++ padded 2 d.month ++ "/" ++ padded 4 d.year.toNat) =
      some d.midnight := by
  have hy := year_lt hfirst hlast
  have hread := read_dayFirst d.day_lt d.month_lt hy
  have hnone : ofParts? (d.year.toNat : Int) d.day d.month = none :=
    dif_neg fun h => absurd h.2.2.2.1 (by omega)
  have hrefused : monthFirst.instant?
      (padded 2 d.day ++ "/" ++ padded 2 d.month ++ "/" ++ padded 4 d.year.toNat) = none := by
    rw [Layout.instant?, read_monthFirst d.day_lt d.month_lt hy]
    exact instant?_eq_none hnone
  exact readDate_eq_some [internet, dateTime, yearFirst, monthFirst] _ rfl
    (List.forall_mem_append.2 ⟨slashes_refused, List.forall_mem_singleton.2 hrefused⟩)
    (instant?_of_read hfirst .midnight hread)

end Years

def exchanged (d : Date) (h : d.day ≤ 12) : Date where
  year := d.year
  month := d.day
  day := d.month
  year_ge := d.year_ge
  year_le := d.year_le
  month_pos := d.day_pos
  month_le := h
  day_pos := d.month_pos
  day_le := d.month_le.trans ((by decide : 12 ≤ 28).trans (daysInMonth_bounds d.year d.day).1)

theorem exchanged_eq_self (h : d.day ≤ 12) (hsame : d.day = d.month) : d.exchanged h = d := by
  cases d
  cases hsame
  rfl

/-- A date in the years 0 to 9999 is read back from each of its forms, as midnight or at the time
that is written with it. Only when it is written day first, and its day is the number of another
month, it is read as the date with day and month exchanged. The instant that is read with a time is
the one that is written with the same numbers in universal time. -/
theorem readDate_written (d : Date) (t : TimeOfDay) (hfirst : 0 ≤ d.year) (hlast : d.year ≤ 9999) :
    let Y := padded 4 d.year.toNat
    let M := padded 2 d.month
    let D := padded 2 d.day
    let h := padded 2 t.hour
    let m := padded 2 t.minute
    let s := padded 2 t.second
    readDate (Y ++ "-" ++ M ++ "-" ++ D) = some d.midnight ∧
      readDate (M ++ "/" ++ D ++ "/" ++ Y) = some d.midnight ∧
      readDate (Y ++ "-" ++ M ++ "-" ++ D ++ "T" ++ h ++ ":" ++ m ++ ":" ++ s) =
        some (d.instantAt t) ∧
      (12 < d.day ∨ d.day = d.month → readDate (D ++ "/" ++ M ++ "/" ++ Y) = some d.midnight) ∧
      (∀ hday : d.day ≤ 12, d.day ≠ d.month →
        readDate (D ++ "/" ++ M ++ "/" ++ Y) = some (d.exchanged hday).midnight) ∧
      (d.instantAt t).inspect =
        Y ++ "-" ++ M ++ "-" ++ D ++ "T" ++ h ++ ":" ++ m ++ ":" ++ s ++ "Z" := by
  intro Y M D h m s
  have hexchanged : ∀ hday : d.day ≤ 12,
      readDate (D ++ "/" ++ M ++ "/" ++ Y) = some (d.exchanged hday).midnight :=
    fun hday => readDate_monthFirst (d := d.exchanged hday) hfirst hlast
  refine ⟨readDate_yearFirst hfirst hlast, readDate_monthFirst hfirst hlast,
    readDate_dateTime hfirst hlast t, ?_, fun hday _ => hexchanged hday,
    inspect_instantAt hfirst hlast t⟩
  rintro (hday | hsame)
  · exact readDate_dayFirst hfirst hlast hday
  · have hday : d.day ≤ 12 := hsame ▸ d.month_le
    rw [hexchanged hday, exchanged_eq_self hday hsame]

/-- The last day of February in a leap year, and its last second with a leap second. The fourth of
March, when it is written day first, is read as the third of April. -/
theorem readDate_written_leap_day :
    let leapDay : Date := ⟨2024, 2, 29, by decide, by decide, by decide, by decide, by decide,
      by decide⟩
    let march : Date := ⟨2024, 3, 4, by decide, by decide, by decide, by decide, by decide,
      by decide⟩
    let last : TimeOfDay := ⟨23, 59, 60, by decide, by decide, by decide⟩
    (0 ≤ leapDay.year ∧ leapDay.year ≤ 9999) ∧ (0 ≤ march.year ∧ march.year ≤ 9999) ∧
      leapDay.midnight.seconds = 1709164800 ∧
      readDate "2024-02-29" = some leapDay.midnight ∧
      readDate "02/29/2024" = some leapDay.midnight ∧
      readDate "29/02/2024" = some leapDay.midnight ∧
      readDate "2024-02-29T23:59:60" = some (leapDay.instantAt last) ∧
      ∃ h, (march.exchanged h).month = 4 ∧ (march.exchanged h).day = 3 ∧
        readDate "04/03/2024" = some (march.exchanged h).midnight := by
  intro leapDay march last
  have hleapDay : 0 ≤ leapDay.year ∧ leapDay.year ≤ 9999 := by decide
  have hmarch : 0 ≤ march.year ∧ march.year ≤ 9999 := by decide
  obtain ⟨hyearFirst, hmonthFirst, hdateTime, hdayFirst, -, -⟩ :=
    readDate_written leapDay last hleapDay.1 hleapDay.2
  obtain ⟨-, -, -, -, hexchanged, -⟩ := readDate_written march .midnight hmarch.1 hmarch.2
  have htexts : padded 4 leapDay.year.toNat = "2024" ∧ padded 2 leapDay.month = "02" ∧
      padded 2 leapDay.day = "29" ∧ padded 2 last.hour = "23" ∧ padded 2 last.minute = "59" ∧
      padded 2 last.second = "60" ∧ padded 4 march.year.toNat = "2024" ∧
      padded 2 march.month = "03" ∧ padded 2 march.day = "04" := by decide
  simp only [htexts, String.reduceAppend] at hyearFirst hmonthFirst hdateTime hdayFirst hexchanged
  exact ⟨hleapDay, hmarch, by decide, hyearFirst, hmonthFirst, hdayFirst (.inl (by decide)),
    hdateTime, by decide, rfl, rfl, hexchanged (by decide) (by decide)⟩

end RecordQuery.Date
