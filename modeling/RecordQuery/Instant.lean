import RecordQuery.Calendar.Date

/-!
# Instants

A point in time is a count of seconds since 1970 and nanoseconds within the second, in the days
that the calendar covers. A leap second is held as the second before it with more than a thousand
million nanoseconds. Whole seconds can be added as long as the calendar goes on. An instant is
written as date and time of day in universal time, with as many of nine places of a second as a
multiple of three needs; years outside 0 to 9999 have a sign.
-/

namespace RecordQuery

def firstSecond : Int := 86400 * Date.firstDay

def lastSecond : Int := 86400 * Date.lastDay + 86399

structure Instant where
  seconds : Int
  nanos : Nat
  begun : firstSecond ≤ seconds
  ended : seconds ≤ lastSecond
  nanos_lt : nanos < 2000000000
  leap_last : 1000000000 ≤ nanos → seconds % 60 = 59
deriving DecidableEq

namespace Instant

def ofSeconds? (seconds : Int) (nanos : Nat) : Option Instant :=
  if h : firstSecond ≤ seconds ∧ seconds ≤ lastSecond ∧ nanos < 2000000000 ∧
      (1000000000 ≤ nanos → seconds % 60 = 59) then
    some ⟨seconds, nanos, h.1, h.2.1, h.2.2.1, h.2.2.2⟩
  else none

def epoch : Instant := ⟨0, 0, by decide, by decide, by decide, by decide⟩

def compare (s t : Instant) : Ordering :=
  (Ord.compare s.seconds t.seconds).then (Ord.compare s.nanos t.nanos)

def isLeap (t : Instant) : Bool := 1000000000 ≤ t.nanos

/-- The instant a count of whole seconds later, which is never a leap second unless the count is
zero. Going back from a leap second starts from the second after it. -/
def addSeconds? (t : Instant) (n : Int) : Option Instant :=
  if n = 0 then some t
  else if t.isLeap then
    ofSeconds? (t.seconds + n + if n < 0 then 1 else 0) (t.nanos - 1000000000)
  else ofSeconds? (t.seconds + n) t.nanos

theorem compare_self (t : Instant) : t.compare t = .eq := by
  simp [compare, Std.ReflOrd.compare_self]

theorem compare_swap (s t : Instant) : (s.compare t).swap = t.compare s := by
  simp [compare, Ordering.swap_then, Std.OrientedOrd.eq_swap (a := s.seconds),
    Std.OrientedOrd.eq_swap (a := s.nanos)]

end Instant

/-! ## Text -/

def padded (width n : Nat) : String :=
  String.ofList (List.replicate (width - (Nat.toDigits 10 n).length) '0' ++ Nat.toDigits 10 n)

namespace Instant

def yearText (y : Int) : String :=
  if 0 ≤ y ∧ y ≤ 9999 then padded 4 y.toNat
  else (if y < 0 then "-" else "+") ++ padded 4 y.natAbs

def fractionText (nanos : Nat) : String :=
  if nanos = 0 then ""
  else if nanos % 1000000 = 0 then "." ++ padded 3 (nanos / 1000000)
  else if nanos % 1000 = 0 then "." ++ padded 6 (nanos / 1000)
  else "." ++ padded 9 nanos

def inspect (t : Instant) : String :=
  let (y, m, d) := Date.ofDay (t.seconds / 86400)
  let time := (t.seconds % 86400).toNat
  let (leap, nanos) := if t.isLeap then (1, t.nanos - 1000000000) else (0, t.nanos)
  s!"{yearText y}-{padded 2 m}-{padded 2 d}T{padded 2 (time / 3600)}:" ++
    s!"{padded 2 (time / 60 % 60)}:{padded 2 (time % 60 + leap)}{fractionText nanos}Z"

end Instant

end RecordQuery
