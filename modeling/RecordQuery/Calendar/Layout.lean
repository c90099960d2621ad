import RecordQuery.Binary.Literal
import RecordQuery.Instant
import RecordQuery.Text.Basic

/-!
# Layouts of written dates

A layout lists what stands in a written date or time: numbers, marks between them, a fraction of a
second and an offset from universal time. A loose number may follow blanks and have fewer digits
than usual, a loose year may have a sign and then any number of digits; an exact number has all its
digits and nothing before them. A date in a record may be written in any of five layouts, and the
first that fits decides, so a day and month that could be either are read month first.
-/

namespace RecordQuery.Calendar

open Text Literal

inductive Field where
  | year
  | month
  | day
  | hour
  | minute
  | second
deriving DecidableEq

inductive Item where
  | loose (f : Field)
  | exact (f : Field)
  | mark (choices : List Char)
  /-- A point and digits, or nothing. -/
  | fraction
  /-- The letter Z, or a sign, hours, a colon and minutes. -/
  | offset

abbrev Layout := List Item

/-- The numbers that have been read, with the offset in seconds. -/
structure Parts where
  year : Int := 0
  month : Nat := 0
  day : Nat := 0
  hour : Nat := 0
  minute : Nat := 0
  second : Nat := 0
  nanos : Nat := 0
  offset : Int := 0

def Field.digits : Field → Nat
  | .year => 4
  | _ => 2

def Parts.set (p : Parts) (n : Int) : Field → Parts
  | .year => { p with year := n }
  | .month => { p with month := n.toNat }
  | .day => { p with day := n.toNat }
  | .hour => { p with hour := n.toNat }
  | .minute => { p with minute := n.toNat }
  | .second => { p with second := n.toNat }

/-! ## Reading -/

/-- Reads at least one and at most `most` digits. -/
def takeNumber (most : Nat) (cs : List Char) : Option (Nat × List Char) :=
  let ds := (cs.take most).takeWhile Char.isDigit
  if ds.isEmpty then none else some (digitsValue ds, cs.drop ds.length)

def takeExactly (count : Nat) (cs : List Char) : Option (Nat × List Char) :=
  let ds := cs.take count
  if ds.length = count ∧ ds.all Char.isDigit then some (digitsValue ds, cs.drop count) else none

/-- Reads a year after its blanks: with a sign any digits, without one at most four. -/
def takeYear (cs : List Char) : Option (Int × List Char) :=
  match cs with
  | '-' :: cs => (takeNumber cs.length cs).map fun (n, rest) => (-(n : Int), rest)
  | '+' :: cs => (takeNumber cs.length cs).map fun (n, rest) => ((n : Int), rest)
  | cs => (takeNumber Field.year.digits cs).map fun (n, rest) => ((n : Int), rest)

def takeLoose (f : Field) (cs : List Char) : Option (Int × List Char) :=
  if f = .year then takeYear (dropBlanks cs)
  else (takeNumber f.digits (dropBlanks cs)).map fun (n, rest) => ((n : Int), rest)

/-- Reads a fraction of a second in nanoseconds. Digits after the ninth do not count. -/
def takeFraction : List Char → Option (Nat × List Char)
  | '.' :: cs =>
    let ds := cs.takeWhile Char.isDigit
    if ds.isEmpty then none
    else some (digitsValue (ds.take 9) * Nat.pow 10 (9 - ds.length), cs.dropWhile Char.isDigit)
  | cs => some (0, cs)

/-- Reads hours, a colon and minutes in seconds, at most one minute short of a day. -/
def takeHoursMinutes (cs : List Char) : Option (Nat × List Char) :=
  match takeExactly 2 cs with
  | some (h, ':' :: cs) =>
    match takeExactly 2 cs with
    | some (m, rest) => if h < 24 ∧ m < 60 then some (3600 * h + 60 * m, rest) else none
    | none => none
  | _ => none

/-- Reads an offset in seconds. The minus sign may be the typographic one. -/
def takeOffset : List Char → Option (Int × List Char)
  | [] => none
  | c :: cs =>
    if c = 'Z' ∨ c = 'z' then some (0, cs)
    else if c = '+' then (takeHoursMinutes cs).map fun (n, rest) => ((n : Int), rest)
    else if c = '-' ∨ c = '−' then (takeHoursMinutes cs).map fun (n, rest) => (-(n : Int), rest)
    else none

def Item.take (p : Parts) (cs : List Char) : Item → Option (Parts × List Char)
  | loose f => (takeLoose f cs).map fun (n, rest) => (p.set n f, rest)
  | exact f => (takeExactly f.digits cs).map fun (n, rest) => (p.set n f, rest)
  | mark choices =>
    match cs with
    | [] => none
    | c :: rest => if c ∈ choices then some (p, rest) else none
  | fraction => (takeFraction cs).map fun (n, rest) => ({ p with nanos := n }, rest)
  | offset => (takeOffset cs).map fun (n, rest) => ({ p with offset := n }, rest)

/-- Reads a whole text from the parts that stand before it. -/
def Layout.readFrom (p : Parts) (cs : List Char) : Layout → Option Parts
  | [] => if cs.isEmpty then some p else none
  | item :: items => (item.take p cs).bind fun (p, rest) => Layout.readFrom p rest items

def Layout.read (layout : Layout) (s : String) : Option Parts := layout.readFrom {} s.toList

/-! ## Instants -/

/-- The instant that the parts name. The sixtieth second of a minute is a leap second. -/
def Parts.instant? (p : Parts) : Option Instant := do
  let date ← Date.ofParts? p.year p.month p.day
  if p.hour < 24 ∧ p.minute < 60 ∧ p.second ≤ 60 then
    let leap := if p.second = 60 then 1 else 0
    let time := 3600 * p.hour + 60 * p.minute + (p.second - leap)
    Instant.ofSeconds? (86400 * date.dayNumber + time - p.offset) (p.nanos + 1000000000 * leap)
  else none

def Layout.instant? (layout : Layout) (s : String) : Option Instant :=
  (layout.read s).bind Parts.instant?

/-! ## Dates and timestamps -/

open Calendar.Item Calendar.Field

/-- Date, time and offset, all digits present: `2024-01-15T10:00:00.5+02:00`. -/
def Layout.internet : Layout := [
  exact year, mark ['-'], exact month, mark ['-'], exact day, mark ['T', 't', ' '],
  exact hour, mark [':'], exact minute, mark [':'], exact second, fraction, offset]

def Layout.dateTime : Layout := [
  loose year, mark ['-'], loose month, mark ['-'], loose day, mark ['T'],
  loose hour, mark [':'], loose minute, mark [':'], loose second]

def Layout.yearFirst : Layout := [loose year, mark ['-'], loose month, mark ['-'], loose day]

def Layout.monthFirst : Layout := [loose month, mark ['/'], loose day, mark ['/'], loose year]

def Layout.dayFirst : Layout := [loose day, mark ['/'], loose month, mark ['/'], loose year]

/-- The layouts of a date in a record, in the order in which they are tried. -/
def dateLayouts : List Layout := [.internet, .dateTime, .yearFirst, .monthFirst, .dayFirst]

def timestampLayouts : List Layout := [.internet, .yearFirst]

/-- The instant that a date in a record names. A date without a time is midnight, and a time
without an offset is universal time. -/
def readDate (s : String) : Option Instant := dateLayouts.findSome? (·.instant? s)

def readTimestamp (s : String) : Option Instant := timestampLayouts.findSome? (·.instant? s)

end RecordQuery.Calendar
