import RecordQuery.Binary.Basic

/-!
# Number literals

Reading digits, signed integers and decimal numbers from text. Digits are the ten ASCII ones. An
integer is digits after at most one sign; a decimal number may have a point and an exponent, needs
a digit before the exponent and is rounded to the nearest floating-point number once.
-/

namespace RecordQuery.Literal

def digitsFrom (n : Nat) (cs : List Char) : Nat :=
  cs.foldl (fun n c => 10 * n + (c.toNat - 48)) n

def digitsValue (cs : List Char) : Nat := digitsFrom 0 cs

def readDigits (cs : List Char) : Option Nat :=
  if !cs.isEmpty && cs.all Char.isDigit then some (digitsValue cs) else none

/-- Reads an integer. A plus sign is always allowed, a minus sign only in a signed integer. -/
def readInteger (signed : Bool) : List Char → Option Int
  | '+' :: cs => (readDigits cs).map fun n => (n : Int)
  | '-' :: cs => if signed then (readDigits cs).map fun n => -(n : Int) else none
  | cs => (readDigits cs).map fun n => (n : Int)

def takeSign : List Char → Bool × List Char
  | '-' :: cs => (true, cs)
  | '+' :: cs => (false, cs)
  | cs => (false, cs)

/-- Reads an exponent, or nothing when the text has ended. -/
def readExponent : List Char → Option Int
  | [] => some 0
  | c :: cs => if c = 'e' ∨ c = 'E' then readInteger true cs else none

/-- Reads an unsigned decimal number `d * 10 ^ g` as `(d, g)`. -/
def readDecimal (cs : List Char) : Option (Nat × Int) :=
  let whole := cs.takeWhile Char.isDigit
  let rest := cs.dropWhile Char.isDigit
  let (fraction, rest) := match rest with
    | '.' :: cs => (cs.takeWhile Char.isDigit, cs.dropWhile Char.isDigit)
    | cs => ([], cs)
  if whole.isEmpty && fraction.isEmpty then none
  else (readExponent rest).map fun e => (digitsValue (whole ++ fraction), e - fraction.length)

/-- The greatest power of ten that matters: beyond it every number is infinite, and below its
inverse every number is zero. -/
def decimalRange : Int := 400

def ofDecimal (p : Precision) (negative : Bool) (d : Nat) (g : Int) : Binary p :=
  let size := (Nat.toDigits 10 d).length + g
  if d = 0 ∨ size < -decimalRange then .ofRatio p negative 0 1
  else if decimalRange < size then .infinite p negative
  else if 0 ≤ g then .ofRatio p negative (d * Nat.pow 10 g.toNat) 1
  else .ofRatio p negative d (Nat.pow 10 (-g).toNat)

/-- Reads a floating-point number: a decimal, or a name of infinity or of the undefined number in
any letter case. -/
def readFloat (p : Precision) (cs : List Char) : Option (Binary p) :=
  let (negative, rest) := takeSign cs
  let name := String.ofList (rest.map Char.toLower)
  if name = "inf" ∨ name = "infinity" then some (.infinite p negative)
  else if name = "nan" then some { Binary.undefined p with negative }
  else (readDecimal rest).map fun (d, g) => ofDecimal p negative d g

end RecordQuery.Literal
