import RecordQuery.Binary.Basic

/-!
# Floating-point numbers as text

The shortest digits of a number are the fewest that round back to it, and among those the nearest.
The numbers that round back form an interval around the number, and grids of one, two, three and
more digits are tried in turn. `display` never writes an exponent; `inspect` writes one for very
small and very large numbers and always shows a fraction.
-/

namespace RecordQuery.Binary

variable {p : Precision}

/-! ## Shortest digits -/

/-- The ratio `d * 10 ^ g`, as numerator and denominator. -/
def decimalRatio (d : Nat) (g : Int) : Nat × Nat :=
  if 0 ≤ g then (d * Nat.pow 10 g.toNat, 1) else (d, Nat.pow 10 (-g).toNat)

def ratioLe (x y : Nat × Nat) : Bool := x.1 * y.2 ≤ y.1 * x.2

/-- The ends of the interval of reals that round to the number. Below a power of two the numbers
lie twice as close. -/
def interval (x : Binary p) : (Nat × Nat) × (Nat × Nat) :=
  let below := if x.significand = Nat.pow 2 p.fractionBits then 1 else 2
  let quarter := 2 - x.exponent
  (scale (4 * x.significand - below) 1 quarter, scale (4 * x.significand + 2) 1 quarter)

/-- A ratio rounds to the number. A half goes to the even neighbour, so the ends belong to the even
numbers. -/
def roundsTo (x : Binary p) (r : Nat × Nat) : Bool :=
  let (low, high) := x.interval
  if x.significand % 2 = 0 then ratioLe low r && ratioLe r high
  else !ratioLe r low && !ratioLe high r

/-- The exponent of the greatest power of ten up to a positive ratio. -/
def floorLog10 (r : Nat × Nat) : Int :=
  let e := floorLog2 r.1 r.2 * 30103 / 100000
  if ratioLe (decimalRatio 1 (e + 1)) r then e + 1
  else if ratioLe (decimalRatio 1 e) r then e
  else e - 1

/-- The better neighbour of the number on the grid of step `10 ^ g`, if one rounds back. When both
are as near the greater one is taken. -/
def onGrid? (x : Binary p) (g : Int) : Option Nat :=
  let r := x.ratio
  let step := decimalRatio 1 g
  let low := r.1 * step.2 / (r.2 * step.1)
  let lowHits := x.roundsTo (decimalRatio low g)
  let highHits := x.roundsTo (decimalRatio (low + 1) g)
  let nearLow := !ratioLe (decimalRatio (10 * low + 5) (g - 1)) r
  if lowHits && (nearLow || !highHits) then some low
  else if highHits then some (low + 1)
  else none

def stripZeros : Nat → Nat → Int → Nat × Int
  | 0, d, g => (d, g)
  | n + 1, d, g => if d % 10 = 0 then stripZeros n (d / 10) (g + 1) else (d, g)

/-- The shortest decimal of a finite positive magnitude: `(d, g)` stands for `d * 10 ^ g`. -/
def shortest (x : Binary p) : Nat × Int :=
  let top := floorLog10 x.ratio
  match (List.range 17).findSome? fun (n : Nat) => (x.onGrid? (top - n)).map (·, top - n) with
  | some (d, g) => stripZeros 2 d g
  | none => (x.significand, 0)

/-! ## Text -/

def digits (n : Nat) : List Char := Nat.toDigits 10 n

def positional (d : Nat) (g : Int) : List Char :=
  if 0 ≤ g then digits d ++ List.replicate g.toNat '0'
  else
    let places := (-g).toNat
    let padded := List.replicate (places + 1 - (digits d).length) '0' ++ digits d
    padded.take (padded.length - places) ++ '.' :: padded.drop (padded.length - places)

def scientific (d : Nat) (g : Int) : List Char :=
  let mantissa := match digits d with
    | [] => []
    | [c] => [c]
    | c :: cs => c :: '.' :: cs
  mantissa ++ 'e' :: (toString (g + ((digits d).length - 1 : Nat))).toList

/-- Writes a number from the text of its magnitude, which is asked for only when it is finite. -/
def withSign (x : Binary p) (finite : Unit → List Char) : String :=
  if x.isNaN then "NaN"
  else String.ofList ((if x.negative then ['-'] else []) ++
    if x.isInfinite then "inf".toList else finite ())

def display (x : Binary p) : String :=
  x.withSign fun _ => if x.isZero then ['0'] else positional x.shortest.1 x.shortest.2

/-- The shortest digits; an exponent stands from `1e16` on and below `1e-4`, and a whole number
keeps one zero after the point. -/
def inspect (x : Binary p) : String :=
  x.withSign fun _ =>
    if x.isZero then "0.0".toList
    else
      let (d, g) := x.shortest
      let leading := g + (digits d).length - 1
      if leading < -4 ∨ 16 ≤ leading then scientific d g
      else if 0 ≤ g then positional d g ++ ['.', '0']
      else positional d g

/-- The number rounded to a count of places, a half going to the even neighbour. -/
def fixed (places : Nat) (x : Binary p) : String :=
  x.withSign fun _ =>
    positional (roundDiv (x.ratio.1 * Nat.pow 10 places) x.ratio.2) (-places)

end RecordQuery.Binary
