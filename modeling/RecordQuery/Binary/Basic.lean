/-!
# Binary floating-point numbers

The single and double precision numbers of IEEE 754, as a sign and the rest of their bits. Read as a
natural number, these other bits (the `magnitude`) grow with the number, which makes comparison a
comparison of integers (`key`), and rounding to the nearest number a division (`roundRatio`). All
arithmetic is exact, on ratios of natural numbers.

Powers are written with `Nat.pow`: `^` is a different term once the algebra library is imported, and
these definitions are used without it.
-/

namespace RecordQuery

/-! ## Ratios -/

namespace Binary

/-- The integer nearest to `num / den`, a half going to the even neighbour. -/
def roundDiv (num den : Nat) : Nat :=
  if 2 * (num % den) < den ∨ (2 * (num % den) = den ∧ num / den % 2 = 0) then num / den
  else num / den + 1

/-- The ratio `num / den` divided by `2 ^ q`, as numerator and denominator. -/
def scale (num den : Nat) (q : Int) : Nat × Nat :=
  if 0 ≤ q then (num, den * Nat.pow 2 q.toNat) else (num * Nat.pow 2 (-q).toNat, den)

/-- The exponent of the greatest power of two up to `num / den`, for positive `num` and `den`. -/
def floorLog2 (num den : Nat) : Int :=
  let e : Int := num.log2 - den.log2
  let (a, b) := scale num den e
  if b ≤ a then e else e - 1

theorem roundDiv_le (num den : Nat) : num / den ≤ roundDiv num den := by
  unfold roundDiv
  split <;> omega

theorem roundDiv_le_succ (num den : Nat) : roundDiv num den ≤ num / den + 1 := by
  unfold roundDiv
  split <;> omega

theorem roundDiv_mul (n : Nat) {den : Nat} (h : 0 < den) : roundDiv (n * den) den = n := by
  simp [roundDiv, Nat.mul_mod_left, Nat.mul_div_cancel _ h, h]

end Binary

/-! ## Formats -/

inductive Precision where
  | single
  | double
deriving DecidableEq

namespace Precision

def fractionBits : Precision → Nat
  | single => 23
  | double => 52

def exponentBits : Precision → Nat
  | single => 8
  | double => 11

/-- The magnitude of infinity: the exponent bits are set and the fraction bits are not. -/
def infinity (p : Precision) : Nat := (Nat.pow 2 p.exponentBits - 1) * Nat.pow 2 p.fractionBits

/-- One more than the greatest magnitude. -/
def limit (p : Precision) : Nat := Nat.pow 2 p.exponentBits * Nat.pow 2 p.fractionBits

/-- The smallest positive number is two to this power. -/
def unitExponent (p : Precision) : Int := 2 - Nat.pow 2 (p.exponentBits - 1) - p.fractionBits

def quietNaN (p : Precision) : Nat := p.infinity + Nat.pow 2 (p.fractionBits - 1)

theorem infinity_lt_limit (p : Precision) : p.infinity < p.limit := by cases p <;> decide

theorem quietNaN_lt_limit (p : Precision) : p.quietNaN < p.limit := by cases p <;> decide

end Precision

/-- A floating-point number: its sign, and its other bits as a natural number. -/
structure Binary (p : Precision) where
  negative : Bool
  magnitude : Nat
  bounded : magnitude < p.limit
deriving DecidableEq

namespace Binary

open Precision

variable {p : Precision}

def ofBits (p : Precision) (n : Nat) : Binary p where
  negative := n / p.limit % 2 == 1
  magnitude := n % p.limit
  bounded := Nat.mod_lt _ (by cases p <;> decide)

def toBits (x : Binary p) : Nat := (if x.negative then p.limit else 0) + x.magnitude

def isNaN (x : Binary p) : Bool := p.infinity < x.magnitude

def isInfinite (x : Binary p) : Bool := x.magnitude == p.infinity

def isZero (x : Binary p) : Bool := x.magnitude == 0

/-! ## Order -/

/-- An integer that orders the numbers; the two zeros share it. -/
def key (x : Binary p) : Int := if x.negative then -(x.magnitude : Int) else x.magnitude

/-- The order of two numbers. Nothing compares with an undefined number. -/
def compare (x y : Binary p) : Option Ordering :=
  if x.isNaN || y.isNaN then none else some (Ord.compare x.key y.key)

/-- An integer that orders all data: the zeros differ, and undefined numbers are outermost. -/
def totalKey (x : Binary p) : Int :=
  if x.negative then -(x.magnitude : Int) - 1 else x.magnitude

/-! ## Value -/

/-- The integer that a finite number is, in steps of `2 ^ exponent`. -/
def significand (x : Binary p) : Nat :=
  if x.magnitude / Nat.pow 2 p.fractionBits = 0 then x.magnitude
  else x.magnitude % Nat.pow 2 p.fractionBits + Nat.pow 2 p.fractionBits

def exponent (x : Binary p) : Int :=
  p.unitExponent + ((x.magnitude / Nat.pow 2 p.fractionBits - 1 : Nat) : Int)

/-- The absolute value of a finite number, as numerator and denominator. -/
def ratio (x : Binary p) : Nat × Nat := scale x.significand 1 (-x.exponent)

/-! ## Rounding -/

/-- The magnitude of the number nearest to `num / den`, a half going to the even neighbour. A ratio
that no finite number is near becomes infinity. -/
def roundRatio (p : Precision) (num den : Nat) : Nat :=
  if num = 0 then 0
  else
    let q := max (floorLog2 num den - p.fractionBits) p.unitExponent
    let (a, b) := scale num den q
    min (roundDiv a b + (q - p.unitExponent).toNat * Nat.pow 2 p.fractionBits) p.infinity

theorem roundRatio_le (p : Precision) (num den : Nat) : roundRatio p num den ≤ p.infinity := by
  unfold roundRatio
  split
  · omega
  · exact Nat.min_le_right _ _

def ofRatio (p : Precision) (negative : Bool) (num den : Nat) : Binary p where
  negative
  magnitude := roundRatio p num den
  bounded := Nat.lt_of_le_of_lt (roundRatio_le p num den) p.infinity_lt_limit

def ofInt (p : Precision) (n : Int) : Binary p := ofRatio p (n < 0) n.natAbs 1

def infinite (p : Precision) (negative : Bool) : Binary p :=
  ⟨negative, p.infinity, p.infinity_lt_limit⟩

def undefined (p : Precision) : Binary p := ⟨false, p.quietNaN, p.quietNaN_lt_limit⟩

def convert (r : Precision) (x : Binary p) : Binary r :=
  if x.isNaN then undefined r
  else if x.isInfinite then infinite r x.negative
  else ofRatio r x.negative x.ratio.1 x.ratio.2

theorem compare_swap (x y : Binary p) : (x.compare y).map Ordering.swap = y.compare x := by
  unfold compare
  rw [Bool.or_comm]
  split
  · rfl
  · exact congrArg some Std.OrientedOrd.eq_swap.symm

end Binary

end RecordQuery
